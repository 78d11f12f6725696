import TraceCheck.Escape
import TraceCheck.Proofs.Rendering.Decoding
import TraceCheck.Proofs.Text.Hex

/-!
# Texts in JavaScript strings

A text that is escaped for JavaScript is the body of a string in either quotes that
stands for the text.  No quote in it is bare, and it holds neither the end of a line
nor a character of markup.
-/

namespace TraceCheck.Rendering

open TraceCheck.Text

/-! ## Reading escapes -/

/-- The ends of lines in JavaScript. -/
def lineTerminators : List Char :=
  ['\n', '\r', '\u2028', '\u2029']

/-- The character that a backslash and a character stand for. -/
def scriptEscape? (c : Char) : Option Char :=
  match c with
  | 'n' => some '\n'
  | 'r' => some '\r'
  | 't' => some '\t'
  | 'b' => some '\x08'
  | 'f' => some '\x0c'
  | 'v' => some '\x0b'
  | c => if c = 'x' || c.isDigit || lineTerminators.contains c then none else some c

/-- Read the rest of an escape behind its backslash. -/
def afterBackslash? : UnitReader
  | [] => none
  | c :: rest =>
    if c = 'u' then
      if (rest.take 4).length = 4 then (charOfHex? (rest.take 4)).map (·, rest.drop 4) else none
    else (scriptEscape? c).map (·, rest)

/-- Read an escape or a character that may stand between some quotes. -/
def scriptUnit (quote : Char) : UnitReader
  | [] => none
  | c :: rest =>
    if c = '\\' then afterBackslash? rest
    else if c = quote || lineTerminators.contains c then none
    else some (c, rest)

/-- A text is encoded in a JavaScript string: between quotes of either kind it is read
as the text, no quote is bare, and no end of a line and no markup stands as it is. -/
structure EncodesScript (text out : List Char) : Prop where
  decoded : ∀ quote ∈ ['\'', '"'], decodeUnits (scriptUnit quote) out = some text
  closed : ∀ c ∈ unescapedChars out, c ∉ ['\'', '"', '\x60']
  inert : ∀ c ∈ out, c ∉ ['\n', '\r', '\u2028', '\u2029', '<', '>', '&']

/-! ## Escaping -/

/-- The characters that never stand bare. -/
def scriptMarks : List Char :=
  ['\\', '\'', '"', '\x60', '\n', '\r', '\u2028', '\u2029', '<', '>', '&']

theorem toNat_lt_of_isUnsafe {c : Char} (hc : isUnsafe c = true) : c.toNat < 16 ^ 4 := by
  simp only [isUnsafe, isControl, isBidiControl, Bool.or_eq_true, Bool.and_eq_true,
    decide_eq_true_eq] at hc
  omega

/-- A character stands as it is, behind a backslash or by its code. -/
theorem scriptChar_cases (c : Char) :
    (Escape.scriptChar c = [c] ∧ c ∉ scriptMarks) ∨
      (∃ x ∈ ['\\', '\'', '"', '\x60', 'n', 'r', 't', '/'],
        scriptEscape? x = some c ∧ Escape.scriptChar c = ['\\', x]) ∨
      (Escape.scriptChar c = Escape.scriptCode c ∧ c.toNat < 16 ^ 4) := by
  unfold Escape.scriptChar
  split
  · exact .inr (.inl ⟨'\\', by decide, rfl, rfl⟩)
  · exact .inr (.inl ⟨'\'', by decide, rfl, rfl⟩)
  · exact .inr (.inl ⟨'"', by decide, rfl, rfl⟩)
  · exact .inr (.inl ⟨'\x60', by decide, rfl, rfl⟩)
  · exact .inr (.inl ⟨'n', by decide, rfl, rfl⟩)
  · exact .inr (.inl ⟨'r', by decide, rfl, rfl⟩)
  · exact .inr (.inl ⟨'t', by decide, rfl, rfl⟩)
  · exact .inr (.inl ⟨'/', by decide, rfl, rfl⟩)
  · exact .inr (.inr ⟨rfl, by decide⟩)
  · exact .inr (.inr ⟨rfl, by decide⟩)
  · exact .inr (.inr ⟨rfl, by decide⟩)
  · exact .inr (.inr ⟨rfl, by decide⟩)
  · exact .inr (.inr ⟨rfl, by decide⟩)
  · split
    · next hunsafe => exact .inr (.inr ⟨rfl, toNat_lt_of_isUnsafe hunsafe⟩)
    · exact .inl ⟨rfl, by simp_all [scriptMarks]⟩

theorem spells_scriptCode {quote c : Char} (hc : c.toNat < 16 ^ 4) :
    Spells (scriptUnit quote) (Escape.scriptCode c) c := by
  refine ⟨List.cons_ne_nil _ _, fun rest => ?_⟩
  have hlength := length_hex .upper (by decide) hc
  have htake : (hex .upper 4 c.toNat ++ rest).take 4 = hex .upper 4 c.toNat :=
    List.take_left' hlength
  have hdrop : (hex .upper 4 c.toNat ++ rest).drop 4 = rest := List.drop_left' hlength
  have hread : afterBackslash? ('u' :: (hex .upper 4 c.toNat ++ rest)) = some (c, rest) := by
    rw [afterBackslash?, if_pos rfl, htake, hdrop, if_pos hlength, charOfHex?_hex]
    rfl
  exact hread

theorem spells_scriptChar {quote : Char} (hquote : quote ∈ ['\'', '"']) (c : Char) :
    Spells (scriptUnit quote) (Escape.scriptChar c) c := by
  rcases scriptChar_cases c with ⟨hplain, hc⟩ | ⟨x, hx, hescape, heq⟩ | ⟨heq, hc⟩
  · rw [hplain]
    refine ⟨List.cons_ne_nil _ _, fun rest => ?_⟩
    have hmark : ['\'', '"'] ⊆ scriptMarks := by decide
    have hline : lineTerminators ⊆ scriptMarks := by decide
    have hbackslash : c ≠ '\\' := fun h => hc (h ▸ by decide)
    have hother : ¬ (c = quote || lineTerminators.contains c) = true := by
      rw [Bool.or_eq_true, decide_eq_true_eq, List.contains_iff_mem]
      rintro (rfl | hmem)
      · exact hc (hmark hquote)
      · exact hc (hline hmem)
    rw [List.singleton_append, scriptUnit, if_neg hbackslash, if_neg hother]
  · rw [heq]
    refine ⟨List.cons_ne_nil _ _, fun rest => ?_⟩
    have hne : x ≠ 'u' := by
      rintro rfl
      exact absurd hx (by decide)
    change afterBackslash? (x :: rest) = some (c, rest)
    rw [afterBackslash?, if_neg hne, hescape]
    rfl
  · rw [heq]
    exact spells_scriptCode hc

/-- What a character is escaped to has no bare quote and nothing that is not inert. -/
theorem scriptChar_inert (c : Char) :
    AddsOnly (· ∉ ['\'', '"', '\x60']) ((Escape.scriptChar c).map .plain) ∧
      ∀ x ∈ Escape.scriptChar c, x ∉ ['\n', '\r', '\u2028', '\u2029', '<', '>', '&'] := by
  have hquotes : ['\'', '"', '\x60'] ⊆ scriptMarks := by decide
  have hothers : ['\n', '\r', '\u2028', '\u2029', '<', '>', '&'] ⊆ scriptMarks := by decide
  have hbare {x : Char} (hx : x ∉ scriptMarks) : x ∉ ['\'', '"', '\x60'] ∧ x ≠ '\\' :=
    ⟨fun h => hx (hquotes h), fun h => hx (h ▸ by decide)⟩
  rcases scriptChar_cases c with ⟨hplain, hc⟩ | ⟨x, hx, -, heq⟩ | ⟨heq, -⟩
  · rw [hplain]
    exact ⟨AddsOnly.plain (hbare hc).1 (hbare hc).2,
      List.forall_mem_singleton.mpr fun h => hc (hothers h)⟩
  · rw [heq]
    refine ⟨AddsOnly.pair, List.forall_mem_cons.mpr ⟨by decide, List.forall_mem_singleton.mpr ?_⟩⟩
    have hall : ∀ y ∈ ['\\', '\'', '"', '\x60', 'n', 'r', 't', '/'],
        y ∉ ['\n', '\r', '\u2028', '\u2029', '<', '>', '&'] :=
      List.all_iff_forall_prop.mp (by decide)
    exact hall x hx
  · rw [heq]
    have hdigits : ∀ x ∈ hex .upper 4 c.toNat, x ∉ scriptMarks := fun x hx =>
      not_mem_of_isHexDigit (by decide) (isHexDigit_of_mem_hex .upper hx)
    refine ⟨AddsOnly.pair.append (AddsOnly.map_plain fun x hx => hbare (hdigits x hx)), ?_⟩
    refine List.forall_mem_append.mpr ⟨?_, fun x hx h => hdigits x hx (hothers h)⟩
    exact List.all_iff_forall_prop.mp (by decide)

/-- A text that is escaped character by character is encoded in JavaScript. -/
theorem encodesScript (text : List Char) :
    EncodesScript text (text.flatMap Escape.scriptChar) where
  decoded _ hquote := decodeUnits_flatMap fun c _ => spells_scriptChar hquote c
  closed := forall_unescapedChars_flatMap fun c _ => (scriptChar_inert c).1
  inert := List.forall_mem_flatMap.mpr fun c _ => (scriptChar_inert c).2

end TraceCheck.Rendering
