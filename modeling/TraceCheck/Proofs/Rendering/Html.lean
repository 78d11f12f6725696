import TraceCheck.Escape
import TraceCheck.Proofs.Rendering.Decoding
import TraceCheck.Proofs.Text.Hex

/-!
# Texts in HTML

A text that is escaped for HTML is read back from its entities and character
references, and holds no character that could end an attribute value, open an
element or begin anything else.
-/

namespace TraceCheck.Rendering

open TraceCheck.Text

/-! ## Reading entities -/

/-- Read an entity of a table. -/
def entity? (table : List (String × Char)) : UnitReader := fun cs =>
  table.findSome? fun (name, c) =>
    if name.toList.isPrefixOf cs then some (c, cs.drop name.length) else none

/-- The entities that texts in HTML have. -/
def htmlEntities : List (String × Char) :=
  [("&amp;", '&'), ("&lt;", '<'), ("&gt;", '>'), ("&quot;", '"')]

/-- Read a hexadecimal character reference. -/
def reference? : UnitReader
  | '&' :: '#' :: 'x' :: cs =>
    match cs.dropWhile isHexDigit with
    | ';' :: rest => (charOfHex? (cs.takeWhile isHexDigit)).map (·, rest)
    | _ => none
  | _ => none

/-- Read an entity, a character reference or a character other than the ampersand. -/
def htmlUnit : UnitReader
  | [] => none
  | c :: rest =>
    if c = '&' then (entity? htmlEntities (c :: rest)).or (reference? (c :: rest))
    else some (c, rest)

/-- A text is encoded in HTML: reading it gives the text back, no character of markup
stands as it is, and every ampersand begins an entity or a reference. -/
structure EncodesHtml (text out : List Char) : Prop where
  decoded : decodeUnits htmlUnit out = some text
  inert : ∀ c ∈ out, c ∉ ['<', '>', '"', '\'', '/']
  entities : EntitiesComplete htmlUnit out

/-! ## Escaping -/

/-- The reference to a character. -/
def referenceTo (c : Char) : List Char :=
  ['&', '#', 'x'] ++ hex .upper 1 c.toNat ++ [';']

/-- A character stands as it is, as an entity or as a reference. -/
theorem htmlChar_cases (c : Char) :
    (Escape.htmlChar c = [c] ∧ c ∉ ['&', '<', '>', '"', '\'', '/']) ∨
      (∃ entity ∈ htmlEntities, entity.2 = c ∧ Escape.htmlChar c = entity.1.toList) ∨
      Escape.htmlChar c = referenceTo c := by
  unfold Escape.htmlChar
  split
  · exact .inr (.inl ⟨("&amp;", '&'), by decide, rfl, rfl⟩)
  · exact .inr (.inl ⟨("&lt;", '<'), by decide, rfl, rfl⟩)
  · exact .inr (.inl ⟨("&gt;", '>'), by decide, rfl, rfl⟩)
  · exact .inr (.inl ⟨("&quot;", '"'), by decide, rfl, rfl⟩)
  · exact .inr (.inr (by decide))
  · exact .inr (.inr (by decide))
  · split
    · exact .inr (.inr rfl)
    · exact .inl ⟨rfl, by simp_all⟩

theorem spells_referenceTo (c : Char) : Spells htmlUnit (referenceTo c) c := by
  refine ⟨List.cons_ne_nil _ _, fun rest => ?_⟩
  have hdigits : ∀ d ∈ hex .upper 1 c.toNat, isHexDigit d = true := fun d hd =>
    isHexDigit_of_mem_hex .upper hd
  have hstop : ¬ isHexDigit ';' = true := by decide
  have htake : (hex .upper 1 c.toNat ++ ';' :: rest).takeWhile isHexDigit =
      hex .upper 1 c.toNat := by
    rw [List.takeWhile_append_of_pos hdigits, List.takeWhile_cons_of_neg hstop, List.append_nil]
  have hdrop : (hex .upper 1 c.toNat ++ ';' :: rest).dropWhile isHexDigit = ';' :: rest := by
    rw [List.dropWhile_append_of_pos hdigits, List.dropWhile_cons_of_neg hstop]
  have hread : reference? ('&' :: '#' :: 'x' :: (hex .upper 1 c.toNat ++ ';' :: rest)) =
      some (c, rest) := by
    simp only [reference?, htake, hdrop, charOfHex?_hex, Option.map_some]
  have hnone (tail : List Char) : entity? htmlEntities ('&' :: '#' :: tail) = none := rfl
  have htext : referenceTo c ++ rest =
      '&' :: '#' :: 'x' :: (hex .upper 1 c.toNat ++ ';' :: rest) := by
    simp [referenceTo]
  rw [htext, htmlUnit, if_pos rfl, hnone, Option.none_or, hread]

theorem spells_htmlEntity {entity : String × Char} (h : entity ∈ htmlEntities) :
    Spells htmlUnit entity.1.toList entity.2 := by
  have hne : entity.1.toList ≠ [] := by
    revert entity
    decide
  refine ⟨hne, fun rest => ?_⟩
  simp only [htmlEntities, List.mem_cons, List.not_mem_nil, or_false] at h
  rcases h with rfl | rfl | rfl | rfl <;> rfl

theorem spells_htmlChar (c : Char) : Spells htmlUnit (Escape.htmlChar c) c := by
  rcases htmlChar_cases c with ⟨hplain, hc⟩ | ⟨entity, hentity, rfl, heq⟩ | heq
  · rw [hplain]
    refine ⟨List.cons_ne_nil _ _, fun rest => ?_⟩
    have hne : c ≠ '&' := fun h => hc (h ▸ List.mem_cons_self)
    exact if_neg hne
  · rw [heq]
    exact spells_htmlEntity hentity
  · rw [heq]
    exact spells_referenceTo c

/-- A reference holds no markup behind its ampersand. -/
theorem referenceTo_tail_inert (c : Char) :
    ∀ x ∈ (referenceTo c).tail, x ∉ ['&', '<', '>', '"', '\'', '/'] := by
  have hstart : ∀ x ∈ ['#', 'x'], x ∉ ['&', '<', '>', '"', '\'', '/'] :=
    List.all_iff_forall_prop.mp (by decide)
  have hend : ∀ x ∈ [';'], x ∉ ['&', '<', '>', '"', '\'', '/'] :=
    List.all_iff_forall_prop.mp (by decide)
  have hdigits : ∀ x ∈ hex .upper 1 c.toNat, x ∉ ['&', '<', '>', '"', '\'', '/'] := fun x hx =>
    not_mem_of_isHexDigit (by decide) (isHexDigit_of_mem_hex .upper hx)
  have htail : (referenceTo c).tail = ['#', 'x'] ++ hex .upper 1 c.toNat ++ [';'] := rfl
  rw [htail]
  exact List.forall_mem_append.mpr ⟨List.forall_mem_append.mpr ⟨hstart, hdigits⟩, hend⟩

/-- What a character is escaped to holds no markup but an ampersand in front. -/
theorem htmlChar_inert (c : Char) :
    (∀ x ∈ Escape.htmlChar c, x ∉ ['<', '>', '"', '\'', '/']) ∧
      '&' ∉ (Escape.htmlChar c).tail := by
  rcases htmlChar_cases c with ⟨hplain, hc⟩ | ⟨entity, hentity, rfl, heq⟩ | heq
  · rw [hplain]
    refine ⟨List.forall_mem_singleton.mpr fun hmem => hc ?_, List.not_mem_nil⟩
    exact List.mem_cons_of_mem _ hmem
  · rw [heq]
    have hall : ∀ e ∈ htmlEntities,
        (e.1.toList.all fun x => x ∉ ['<', '>', '"', '\'', '/']) = true ∧
          '&' ∉ e.1.toList.tail := by
      decide
    obtain ⟨hinert, htail⟩ := hall entity hentity
    exact ⟨List.all_iff_forall_prop.mp hinert, htail⟩
  · rw [heq]
    have htail := referenceTo_tail_inert c
    refine ⟨?_, fun hx => htail '&' hx List.mem_cons_self⟩
    refine List.forall_mem_cons.mpr ⟨by decide, fun x hx hmem => ?_⟩
    exact htail x hx (List.mem_cons_of_mem _ hmem)

/-- A text that is escaped character by character is encoded in HTML. -/
theorem encodesHtml (text : List Char) : EncodesHtml text (text.flatMap Escape.htmlChar) where
  decoded := decodeUnits_flatMap fun c _ => spells_htmlChar c
  inert := List.forall_mem_flatMap.mpr fun c _ => (htmlChar_inert c).1
  entities := EntitiesComplete.flatMap fun c _ _ hbehind =>
    hbehind.append (spells_htmlChar c) (htmlChar_inert c).2

end TraceCheck.Rendering
