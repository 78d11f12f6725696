import Mathlib.Data.List.Infix
import TraceCheck.Proofs.Redaction.Replacement

/-!
# Covered texts

Redaction keeps a text or covers parts of it with placeholders.  A word that no
placeholder touches stands in a covered text only where it stood in the text itself,
so covering one secret cannot give rise to another one.
-/

namespace TraceCheck.Redaction

/-- A text and a form of it in which some parts are covered by blocks. -/
inductive Masks (IsBlock : List Char → Prop) : List Char → List Char → Prop
  | nil : Masks IsBlock [] []
  | keep (c : Char) {old new : List Char} :
      Masks IsBlock old new → Masks IsBlock (c :: old) (c :: new)
  | cover (hidden : List Char) {block old new : List Char} (hblock : IsBlock block) :
      Masks IsBlock old new → Masks IsBlock (hidden ++ old) (block ++ new)

/-- A word does not overlap a block: both ends of the block are foreign to the word, and
the word does not stand inside. -/
def Apart (w block : List Char) : Prop :=
  ∃ a inner z, block = a :: (inner ++ [z]) ∧ a ∉ w ∧ z ∉ w ∧ ¬ w <:+: inner

/-! ## Words in a covered text -/

/-- A word lies on one side of a text that ends in a foreign character. -/
theorem infix_of_infix_concat_append
    {w u v : List Char} {z : Char} (hz : z ∉ w) (h : w <:+: (u ++ [z]) ++ v) :
    w <:+: u ∨ w <:+: v := by
  rcases List.infix_append_iff.mp h with hleft | hright | ⟨l₁, l₂, rfl, hsuffix, hstarts⟩
  · rcases List.infix_append_iff.mp hleft with hu | hsingle | ⟨l₁, l₂, rfl, hsuffix, hstarts⟩
    · exact .inl hu
    · have hnil : w = [] := by
        refine List.eq_nil_iff_forall_not_mem.mpr fun c hc => hz ?_
        rwa [← List.mem_singleton.mp (hsingle.subset hc)]
      rw [hnil]
      exact .inl List.nil_infix
    · have hnil : l₂ = [] := by
        refine List.eq_nil_iff_forall_not_mem.mpr fun c hc => hz ?_
        rw [← List.mem_singleton.mp (hstarts.subset hc)]
        exact List.mem_append_right l₁ hc
      rw [hnil, List.append_nil]
      exact .inl hsuffix.isInfix
  · exact .inr hright
  · rcases List.eq_nil_or_concat l₁ with rfl | ⟨t, c, rfl⟩
    · exact .inr hstarts.isInfix
    · have hc : c = z := by
        obtain ⟨x, hx⟩ := hsuffix
        rw [List.concat_eq_append, ← List.append_assoc] at hx
        exact (List.append_inj' hx rfl).2 |> List.singleton_inj.mp
      refine absurd ?_ hz
      rw [← hc, List.concat_eq_append]
      exact List.mem_append_left _ (List.mem_append_right t List.mem_cons_self)

/-- A word lies behind a foreign character. -/
theorem infix_of_infix_cons
    {w t : List Char} {a : Char} (ha : a ∉ w) (h : w <:+: a :: t) : w <:+: t := by
  rcases infix_of_infix_concat_append (u := []) ha h with hnil | ht
  · rw [List.infix_nil.mp hnil]
    exact List.nil_infix
  · exact ht

/-- A word that does not overlap a block lies behind it. -/
theorem Apart.infix_of_infix_append
    {w block t : List Char} (h : Apart w block) (hw : w <:+: block ++ t) : w <:+: t := by
  obtain ⟨a, inner, z, rfl, ha, hz, hinner⟩ := h
  rw [← List.cons_append] at hw
  rcases infix_of_infix_concat_append hz hw with hblock | ht
  · exact absurd (infix_of_infix_cons ha hblock) hinner
  · exact ht

theorem Apart.exists_foreign_head {w block : List Char} (h : Apart w block) :
    ∃ a t, block = a :: t ∧ a ∉ w := by
  obtain ⟨a, inner, z, heq, ha, -, -⟩ := h
  exact ⟨a, inner ++ [z], heq, ha⟩

variable {IsBlock : List Char → Prop} {old new w : List Char}

namespace Masks

theorem refl (cs : List Char) : Masks IsBlock cs cs := by
  induction cs with
  | nil => exact .nil
  | cons c cs ih => exact .keep c ih

theorem append {old' new' : List Char} (h : Masks IsBlock old new)
    (h' : Masks IsBlock old' new') : Masks IsBlock (old ++ old') (new ++ new') := by
  induction h with
  | nil => exact h'
  | keep c _ ih => exact .keep c ih
  | cover hidden hblock _ ih =>
      rw [List.append_assoc, List.append_assoc]
      exact .cover hidden hblock ih

/-- A part that is covered whole. -/
theorem whole (hidden : List Char) {block : List Char} (hblock : IsBlock block) :
    Masks IsBlock hidden block := by
  have hcover := Masks.cover hidden hblock .nil
  rwa [List.append_nil, List.append_nil] at hcover

theorem flatMap {α : Type} {g h : α → List Char} {xs : List α}
    (hmasks : ∀ x ∈ xs, Masks IsBlock (g x) (h x)) :
    Masks IsBlock (xs.flatMap g) (xs.flatMap h) := by
  induction xs with
  | nil => exact .nil
  | cons x xs ih =>
      rw [List.flatMap_cons, List.flatMap_cons]
      exact (hmasks x List.mem_cons_self).append
        (ih fun y hy => hmasks y (List.mem_cons_of_mem x hy))

/-- The characters of a covered text are those of the text and of the blocks. -/
theorem mem (h : Masks IsBlock old new) {c : Char} (hc : c ∈ new) :
    c ∈ old ∨ ∃ block, IsBlock block ∧ c ∈ block := by
  induction h with
  | nil => exact absurd hc List.not_mem_nil
  | keep d _ ih =>
      rcases List.mem_cons.mp hc with rfl | hc
      · exact .inl List.mem_cons_self
      · exact (ih hc).imp_left (List.mem_cons_of_mem d)
  | @cover hidden block old new hblock _ ih =>
      rcases List.mem_append.mp hc with hc | hc
      · exact .inr ⟨block, hblock, hc⟩
      · exact (ih hc).imp_left (List.mem_append_right hidden)

/-- A word at the start stands in the text itself when every block begins with a
character that is foreign to the word. -/
theorem isPrefix (hforeign : ∀ block, IsBlock block → ∃ a t, block = a :: t ∧ a ∉ w)
    (h : Masks IsBlock old new) (hw : w <+: new) : w <+: old := by
  induction h generalizing w with
  | nil => exact hw
  | keep c _ ih =>
      cases w with
      | nil => exact List.nil_prefix
      | cons d w =>
          obtain ⟨rfl, hrest⟩ := List.cons_prefix_cons.mp hw
          refine List.cons_prefix_cons.mpr ⟨rfl, ih (fun block hblock => ?_) hrest⟩
          obtain ⟨a, t, heq, ha⟩ := hforeign block hblock
          exact ⟨a, t, heq, fun hmem => ha (List.mem_cons_of_mem d hmem)⟩
  | cover hidden hblock _ _ =>
      cases w with
      | nil => exact List.nil_prefix
      | cons d w =>
          obtain ⟨a, t, rfl, ha⟩ := hforeign _ hblock
          obtain ⟨rfl, -⟩ := List.cons_prefix_cons.mp hw
          exact absurd List.mem_cons_self ha

/-- A word that does not overlap blocks stands in the text itself. -/
theorem isInfix (hapart : ∀ block, IsBlock block → Apart w block) (h : Masks IsBlock old new)
    (hw : w <:+: new) : w <:+: old := by
  induction h with
  | nil => exact hw
  | keep c h ih =>
      rcases List.infix_cons_iff.mp hw with hstarts | hinside
      · exact (isPrefix (fun block hblock => (hapart block hblock).exists_foreign_head)
          (h.keep c) hstarts).isInfix
      · exact (ih hinside).trans (List.suffix_cons c _).isInfix
  | @cover hidden block old new hblock h ih =>
      have hnew := (hapart block hblock).infix_of_infix_append hw
      exact (ih hnew).trans (List.suffix_append hidden old).isInfix

end Masks

/-! ## Placeholders as blocks -/

/-- A word without stars that is no part of a name in capitals does not overlap
placeholders. -/
theorem IsPlaceholder.apart {p : List Char} (hp : IsPlaceholder p) (hstar : '*' ∉ w)
    (hother : ∃ c ∈ w, c ∉ placeholderChars) : Apart w p := by
  have hchars : ∀ c ∈ p, c ∈ placeholderChars := fun c hc => hp.mem_placeholderChars hc
  obtain ⟨kind, -, -, rfl⟩ := hp
  have hsplit : "***REDACTED_".toList ++ kind ++ "***".toList =
      '*' :: ("**REDACTED_".toList ++ kind ++ "**".toList ++ ['*']) := by
    simp
  refine ⟨'*', _, '*', hsplit, hstar, hstar, fun hinside => ?_⟩
  obtain ⟨c, hc, hforeign⟩ := hother
  refine hforeign (hchars c ?_)
  rw [hsplit]
  exact List.mem_cons_of_mem _ (List.mem_append_left _ (hinside.subset hc))

theorem isPlaceholder_placeholder {kind : String} (hne : kind.toList ≠ [])
    (hkind : kind.toList.all isKindChar = true) : IsPlaceholder (placeholder kind) := by
  refine ⟨kind.toList, hne, List.all_eq_true.mp hkind, ?_⟩
  rw [placeholder, String.toList_append, String.toList_append]

/-- A replacement covers parts of a piece with placeholders. -/
def Covers (f : List Char → List Char) : Prop :=
  ∀ piece, Masks IsPlaceholder piece (f piece)

/-- The name of an assigned credential is the start of the piece. -/
theorem credentialName_isPrefix (piece : List Char) : credentialName piece <+: piece := by
  unfold credentialName
  split
  · exact List.take_prefix _ _
  · exact List.nil_prefix

theorem covers_value : Covers fun piece => credentialName piece ++ placeholder "SECRET" := by
  intro piece
  obtain ⟨value, hsplit⟩ := credentialName_isPrefix piece
  have hsecret : IsPlaceholder (placeholder "SECRET") :=
    isPlaceholder_placeholder (by decide) (by decide)
  have hmasks : Masks IsPlaceholder (credentialName piece ++ value)
      (credentialName piece ++ placeholder "SECRET") :=
    (Masks.refl _).append (Masks.whole value hsecret)
  rwa [hsplit] at hmasks

theorem covers_card :
    Covers fun piece => if isCard piece then placeholder "CARD" else piece := by
  intro piece
  dsimp only
  split
  · exact Masks.whole piece (isPlaceholder_placeholder (by decide) (by decide))
  · exact Masks.refl piece

/-- Replacing the pieces of a shape covers parts of a text. -/
theorem masks_replaceAfter {shape : Shape} {f : List Char → List Char} (hf : Covers f)
    (before : Option Char) (cs : List Char) :
    Masks IsPlaceholder cs (shape.replaceAfter f before cs) := by
  have hchars : (shape.cut before .ask cs).flatMap Piece.chars = cs :=
    shape.flatMap_chars_cut before .ask cs
  have hmasks : Masks IsPlaceholder ((shape.cut before .ask cs).flatMap Piece.chars)
      ((shape.cut before .ask cs).flatMap (Piece.replaced f)) := by
    refine Masks.flatMap fun piece _ => ?_
    cases piece with
    | plain c => exact Masks.refl [c]
    | found cs => exact hf cs
  rwa [hchars] at hmasks

theorem covers_whole {kind : String} {shape : Shape} (hne : kind.toList ≠ [])
    (hkind : kind.toList.all isKindChar = true) : Covers (Rule.whole kind shape).replacement :=
  fun piece => Masks.whole piece (isPlaceholder_placeholder hne hkind)

/-- Every rule covers parts of a piece. -/
theorem covers_of_mem_rules : ∀ r ∈ rules, Covers r.replacement := by
  unfold rules
  simp only [List.forall_mem_cons, List.not_mem_nil, false_implies, implies_true, and_true]
  refine ⟨?_, ?_, ?_, ?_, ?_, ?_, covers_value, ?_, covers_card, ?_⟩
  all_goals exact covers_whole (by decide) (by decide)

/-- Every rule covers parts of a text. -/
theorem masks_apply {r : Rule} (hr : r ∈ rules) (cs : List Char) :
    Masks IsPlaceholder cs (r.apply cs) := by
  rw [Rule.apply_eq_replaceAfter]
  exact masks_replaceAfter (covers_of_mem_rules r hr) none cs

/-- What each of some rules keeps they keep one after the other. -/
theorem foldl_apply_induction {P : List Char → Prop} {rs : List Rule}
    (hP : ∀ r ∈ rs, ∀ cs, P cs → P (r.apply cs)) {cs : List Char} (hcs : P cs) :
    P (rs.foldl (fun cs r => r.apply cs) cs) := by
  induction rs generalizing cs with
  | nil => exact hcs
  | cons r rs ih =>
      exact ih (fun r' hr' => hP r' (List.mem_cons_of_mem r hr')) (hP r List.mem_cons_self cs hcs)

/-- What covering keeps, any rules one after the other keep. -/
theorem foldl_rules_induction {P : List Char → Prop}
    (hP : ∀ old new, Masks IsPlaceholder old new → P old → P new) {rs : List Rule}
    (hrs : rs ⊆ rules) {cs : List Char} (hcs : P cs) :
    P (rs.foldl (fun cs r => r.apply cs) cs) :=
  foldl_apply_induction (fun _ hr cs => hP cs _ (masks_apply (hrs hr) cs)) hcs

end TraceCheck.Redaction
