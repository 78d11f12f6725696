import TraceCheck.Proofs.Redaction.Masking
import TraceCheck.Proofs.Redaction.Places
import TraceCheck.Proofs.Unicode.Words

/-!
# Places of a covered text

What stands at a place that redaction keeps, and what it covers next to it, decide what
a shape says there afterwards.  Inside a placeholder no shape says anything.
-/

namespace TraceCheck.Redaction

open TraceCheck.Unicode

/-- A text behind `before` and a form of it behind `after` in which parts are covered by
placeholders.  `Keep` holds between what is left of both texts where a character is kept,
`Hide` of the character in front of a placeholder, of what it hides and of what follows. -/
inductive Covering (Keep : Option Char → List Char → List Char → Prop)
    (Hide : Option Char → List Char → List Char → Prop) :
    (before after : Option Char) → (old new : List Char) → Prop
  | nil (before after : Option Char) : Covering Keep Hide before after [] []
  | keep {before after : Option Char} {c : Char} {old new : List Char}
      (hkeep : Keep before (c :: old) (c :: new)) :
      Covering Keep Hide (some c) (some c) old new →
        Covering Keep Hide before after (c :: old) (c :: new)
  | cover {before after : Option Char} {hidden block old new : List Char}
      (hblock : IsPlaceholder block) (hhide : Hide after hidden old) :
      Covering Keep Hide (hidden.getLast?.or before) (some '*') old new →
        Covering Keep Hide before after (hidden ++ old) (block ++ new)

variable {Keep Keep' : Option Char → List Char → List Char → Prop}
  {Hide Hide' : Option Char → List Char → List Char → Prop} {before after : Option Char}
  {old new w : List Char}

theorem IsPlaceholder.exists_cons {p : List Char} (hp : IsPlaceholder p) : ∃ t, p = '*' :: t := by
  obtain ⟨kind, -, -, rfl⟩ := hp
  exact ⟨_, rfl⟩

theorem IsPlaceholder.getLast? {p : List Char} (hp : IsPlaceholder p) : p.getLast? = some '*' := by
  obtain ⟨kind, -, -, rfl⟩ := hp
  rw [List.getLast?_append]
  rfl

namespace Covering

theorem masks (h : Covering Keep Hide before after old new) : Masks IsPlaceholder old new := by
  induction h with
  | nil => exact .nil
  | keep _ _ ih => exact .keep _ ih
  | cover hblock _ _ ih => exact .cover _ hblock ih

theorem imp (hkeep : ∀ before old new, Keep before old new → Keep' before old new)
    (hhide : ∀ after hidden rest, Hide after hidden rest → Hide' after hidden rest)
    (h : Covering Keep Hide before after old new) : Covering Keep' Hide' before after old new := by
  induction h with
  | nil => exact .nil _ _
  | keep hhere _ ih => exact .keep (hkeep _ _ _ hhere) ih
  | cover hblock hhere _ ih => exact .cover hblock (hhide _ _ _ hhere) ih

/-- What holds everywhere in a text holds where a covering keeps it. -/
theorem keeping {P : Option Char → List Char → Prop} (hP : Everywhere P before old)
    (h : Covering Keep Hide before after old new) :
    Covering (fun before old _ => P before old) Hide before after old new := by
  induction h with
  | nil => exact .nil _ _
  | keep _ _ ih =>
      obtain ⟨hhere, hrest⟩ := everywhere_cons_iff.mp hP
      exact .keep hhere (ih hrest)
  | cover hblock hhide _ ih => exact .cover hblock hhide (ih (everywhere_append_iff.mp hP).2)

/-- A text in front of a covered one is kept. -/
theorem keep_append (hkeep : ∀ x y, x ++ y = w → y ≠ [] →
      Keep (x.getLast?.or before) (y ++ old) (y ++ new))
    (h : Covering Keep Hide (w.getLast?.or before) (w.getLast?.or after) old new) :
    Covering Keep Hide before after (w ++ old) (w ++ new) := by
  induction w generalizing before after with
  | nil => exact h
  | cons c w ih =>
      rw [getLast?_cons_or, getLast?_cons_or] at h
      refine .keep (hkeep [] (c :: w) rfl (List.cons_ne_nil c w))
        (ih (fun x y hsplit hne => ?_) h)
      rw [← getLast?_cons_or]
      exact hkeep (c :: x) y (congrArg (c :: ·) hsplit) hne

/-- A word without stars at the start of the covered text is kept. -/
theorem exists_of_isPrefix (h : Covering Keep Hide before after old new) (hw : w <+: new)
    (hstar : '*' ∉ w) : ∃ old' new', old = w ++ old' ∧ new = w ++ new' ∧
      Covering Keep Hide (w.getLast?.or before) (w.getLast?.or after) old' new' := by
  induction w generalizing before after old new with
  | nil => exact ⟨old, new, rfl, rfl, h⟩
  | cons d w ih =>
      cases h with
      | nil => exact absurd (List.prefix_nil.mp hw) (List.cons_ne_nil d w)
      | keep hkeep h =>
          obtain ⟨rfl, htail⟩ := List.cons_prefix_cons.mp hw
          obtain ⟨old', new', rfl, rfl, hrest⟩ := ih h htail fun hmem => hstar (.tail _ hmem)
          rw [getLast?_cons_or, getLast?_cons_or]
          exact ⟨old', new', rfl, rfl, hrest⟩
      | cover hblock _ _ =>
          obtain ⟨t, rfl⟩ := hblock.exists_cons
          obtain ⟨rfl, -⟩ := List.cons_prefix_cons.mp hw
          exact absurd List.mem_cons_self hstar

/-- A part of the text in which nothing that is covered begins is kept. -/
theorem exists_of_append {u rest : List Char}
    (hbegin : ∀ x y, x ++ y = u → y ≠ [] → ∀ after hidden tail, Hide after hidden tail →
      y ++ rest ≠ hidden ++ tail)
    (h : Covering Keep Hide before after (u ++ rest) new) : ∃ new', new = u ++ new' ∧
      Covering Keep Hide (u.getLast?.or before) (u.getLast?.or after) rest new' := by
  induction u generalizing before after new with
  | nil => exact ⟨new, rfl, h⟩
  | cons c u ih =>
      generalize htext : c :: u ++ rest = text at h
      cases h with
      | nil => cases htext
      | keep hkeep h =>
          injection htext with hc htext
          subst hc htext
          obtain ⟨new', rfl, hrest⟩ := ih (fun x y hsplit hne => hbegin (c :: x) y
            (congrArg (c :: ·) hsplit) hne) h
          rw [getLast?_cons_or, getLast?_cons_or]
          exact ⟨new', rfl, hrest⟩
      | cover hblock hhide _ =>
          exact absurd htext (hbegin [] (c :: u) rfl (List.cons_ne_nil c u) _ _ _ hhide)

/-- What holds at the kept places and inside placeholders holds everywhere in the covered
text.  A kept character has its neighbour in front, or it stands behind a placeholder and is
then of a class of characters. -/
theorem everywhere {P : Option Char → List Char → Prop} {p : Char → Bool}
    (hbehind : ∀ after hidden rest, Hide after hidden rest → ∀ c ∈ rest.head?, p c = false)
    (hkeep : ∀ before after c old new, Keep before (c :: old) (c :: new) →
      after = before ∨ p c = false → Covering Keep Hide (some c) (some c) old new →
        P after (c :: new))
    (hinside : ∀ x y rest after, IsPlaceholder (x ++ y) → y ≠ [] →
      P (x.getLast?.or after) (y ++ rest))
    (h : Covering Keep Hide before after old new)
    (hnext : after = before ∨ ∀ c ∈ old.head?, p c = false) : Everywhere P after new := by
  induction h with
  | nil => exact .nil _
  | keep hhere h ih =>
      exact .cons (hkeep _ _ _ _ _ hhere (hnext.imp_right fun hp => hp _ rfl) h) (ih (.inl rfl))
  | cover hblock hhide _ ih =>
      refine everywhere_append_iff.mpr ⟨fun x y hsplit hne => ?_, ?_⟩
      · subst hsplit
        exact hinside x y _ _ hblock hne
      · rw [hblock.getLast?]
        exact ih (.inr (hbehind _ _ _ hhide))

end Covering

theorem Masks.covering (h : Masks IsPlaceholder old new) (before after : Option Char) :
    Covering (fun _ _ _ => True) (fun _ _ _ => True) before after old new := by
  induction h generalizing before after with
  | nil => exact .nil _ _
  | keep c _ ih => exact .keep trivial (ih _ _)
  | cover hidden hblock _ ih => exact .cover hblock trivial (ih _ _)

/-! ## Foreign parts of a covered text -/

namespace Masks

theorem exists_of_prefix {v : List Char} (h : Masks IsPlaceholder old (w ++ v)) (hstar : '*' ∉ w) :
    ∃ v', old = w ++ v' ∧ Masks IsPlaceholder v' v := by
  obtain ⟨v', rest, hold, hsplit, hrest⟩ :=
    (h.covering none none).exists_of_isPrefix (List.prefix_append w v) hstar
  obtain rfl := List.append_cancel_left hsplit
  exact ⟨v', hold, hrest.masks⟩

theorem head? (h : Masks IsPlaceholder old new) (hnew : ∀ c ∈ new.head?, c ≠ '*') :
    old.head? = new.head? := by
  cases h with
  | nil => rfl
  | keep _ _ => rfl
  | cover _ hblock _ =>
      obtain ⟨t, rfl⟩ := hblock.exists_cons
      exact absurd rfl (hnew '*' rfl)

theorem eq_nil (h : Masks IsPlaceholder old []) : old = [] := by
  rw [← List.head?_eq_none_iff, h.head? nofun]
  rfl

/-- A part of characters that no placeholder has is kept, and what is around it is covered on
its own. -/
theorem exists_of_infix {u v : List Char} (h : Masks IsPlaceholder old (u ++ (w ++ v)))
    (hne : w ≠ []) (hforeign : ∀ c ∈ w, c ∉ placeholderChars) :
    ∃ u' v', old = u' ++ (w ++ v') ∧ Masks IsPlaceholder u' u ∧ Masks IsPlaceholder v' v := by
  have hstar : '*' ∉ w := fun hmem => hforeign '*' hmem (by decide)
  generalize hnew : u ++ (w ++ v) = new at h
  induction h generalizing u with
  | nil => exact absurd (List.append_eq_nil_iff.mp (List.append_eq_nil_iff.mp hnew).2).1 hne
  | keep c h ih =>
      cases u with
      | nil =>
          have hwhole := Masks.keep c h
          rw [← hnew, List.nil_append] at hwhole
          obtain ⟨v', hold, hrest⟩ := hwhole.exists_of_prefix hstar
          exact ⟨[], v', hold, .nil, hrest⟩
      | cons d u =>
          injection hnew with hd hnew
          subst hd
          obtain ⟨u', v', rfl, hfront, hbehind⟩ := ih hnew
          exact ⟨d :: u', v', rfl, .keep d hfront, hbehind⟩
  | cover hidden hblock h ih =>
      rcases List.append_eq_append_iff.mp hnew with ⟨x, rfl, hx⟩ | ⟨x, rfl, hx⟩
      · -- The placeholder ends where the part begins: its characters are foreign to it.
        obtain ⟨c, t, rfl⟩ := List.exists_cons_of_ne_nil hne
        cases x with
        | nil =>
            rw [List.nil_append] at hx
            rw [← hx] at h
            obtain ⟨v', rfl, hrest⟩ := h.exists_of_prefix hstar
            rw [List.append_nil] at hblock
            exact ⟨hidden, v', rfl, .whole hidden hblock, hrest⟩
        | cons d x =>
            injection hx with hd
            subst hd
            exact absurd (hblock.mem_placeholderChars (List.mem_append_right u List.mem_cons_self))
              (hforeign c List.mem_cons_self)
      · obtain ⟨u', v', rfl, hfront, hbehind⟩ := ih hx.symm
        exact ⟨hidden ++ u', v', (List.append_assoc _ _ _).symm, .cover hidden hblock hfront,
          hbehind⟩

theorem getLast? (h : Masks IsPlaceholder old new)
    (hnew : ∀ c ∈ new.getLast?, c ∉ placeholderChars) : old.getLast? = new.getLast? := by
  rcases List.eq_nil_or_concat new with rfl | ⟨u, c, rfl⟩
  · rw [h.eq_nil]
  · rw [List.concat_eq_append] at h hnew ⊢
    rw [List.getLast?_concat] at hnew ⊢
    obtain ⟨u', v', rfl, -, hbehind⟩ := h.exists_of_infix (v := []) (List.cons_ne_nil c [])
      (List.forall_mem_singleton.mpr (hnew c rfl))
    rw [hbehind.eq_nil, List.append_nil, List.getLast?_concat]

end Masks

end TraceCheck.Redaction
