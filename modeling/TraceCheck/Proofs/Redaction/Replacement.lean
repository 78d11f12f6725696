import Mathlib.Data.List.Infix
import TraceCheck.Proofs.Redaction.Placeholders

/-!
# Replacing the pieces of a text

A shape is asked at one place after the other, and every answer settles some places
at once.  Two parts of a text are replaced separately when no answer in the first part
looks at the second one.  A shape that recognises nothing leaves a text as it is.
-/

namespace TraceCheck.Redaction

/-! ## Answers of a shape -/

/-- How many places an answer settles. -/
def Probe.places : Probe → Nat
  | .hit n => n
  | .miss n => n

/-- What stands for a part of a text. -/
def Piece.replaced (f : List Char → List Char) : Piece → List Char
  | .plain c => [c]
  | .found cs => f cs

/-- A text behind the character `before`, with every piece of a shape replaced. -/
def Shape.replaceAfter (shape : Shape) (f : List Char → List Char) (before : Option Char)
    (cs : List Char) : List Char :=
  (shape.cut before .ask cs).flatMap (Piece.replaced f)

variable {shape : Shape} {f : List Char → List Char} {before : Option Char}

theorem Shape.replace_eq_replaceAfter (cs : List Char) :
    shape.replace f cs = shape.replaceAfter f none cs := by
  unfold Shape.replace Shape.replaceAfter Shape.pieces
  refine List.flatMap_congr fun piece _ => ?_
  cases piece <;> rfl

theorem Rule.apply_eq_replaceAfter (r : Rule) (cs : List Char) :
    r.apply cs = r.shape.replaceAfter r.replacement none cs :=
  Shape.replace_eq_replaceAfter cs

@[simp] theorem replaceAfter_nil : shape.replaceAfter f before [] = [] := by
  simp [Shape.replaceAfter, Shape.cut]

/-- The character in front of what follows a text. -/
theorem getLast?_cons_or (c : Char) (cs : List Char) (before : Option Char) :
    (c :: cs).getLast?.or before = cs.getLast?.or (some c) := by
  cases cs with
  | nil => rfl
  | cons d ds =>
      rw [List.getLast?_cons_cons]
      cases h : (d :: ds).getLast? with
      | none => exact absurd (List.getLast?_eq_none_iff.mp h) (List.cons_ne_nil d ds)
      | some e => rfl

theorem getLast?_append_or (u v : List Char) (before : Option Char) :
    (u ++ v).getLast?.or before = v.getLast?.or (u.getLast?.or before) := by
  rw [List.getLast?_append, Option.or_assoc]

theorem cut_copying (u rest : List Char) :
    (shape.cut before (.copying u.length) (u ++ rest)).flatMap (Piece.replaced f) =
      u ++ shape.replaceAfter f (u.getLast?.or before) rest := by
  induction u generalizing before with
  | nil => rfl
  | cons c u ih =>
      rw [getLast?_cons_or, List.cons_append, List.cons_append, ← ih]
      rfl

theorem cut_passing_append (u rest : List Char) :
    shape.cut before (.passing u.length) (u ++ rest) =
      shape.cut (u.getLast?.or before) .ask rest := by
  induction u generalizing before with
  | nil => rfl
  | cons c u ih =>
      rw [getLast?_cons_or]
      exact ih

/-- A text stays as far as a miss goes. -/
theorem replaceAfter_of_miss {u rest : List Char} {n : Nat}
    (h : shape before (u ++ rest) = .miss n) (hn : u.length = max 1 n) :
    shape.replaceAfter f before (u ++ rest) =
      u ++ shape.replaceAfter f (u.getLast?.or before) rest := by
  cases u with
  | nil => exact absurd hn (by simp; omega)
  | cons c u =>
      have hlength : n - 1 = u.length := by
        rw [List.length_cons] at hn
        omega
      rw [List.cons_append] at h ⊢
      rw [getLast?_cons_or, List.cons_append, ← cut_copying, ← hlength]
      unfold Shape.replaceAfter
      rw [Shape.cut, h]
      rfl

/-- A piece that a shape recognises is replaced. -/
theorem replaceAfter_of_hit {u rest : List Char} {n : Nat}
    (h : shape before (u ++ rest) = .hit n) (hn : u.length = max 1 n) :
    shape.replaceAfter f before (u ++ rest) =
      f u ++ shape.replaceAfter f (u.getLast?.or before) rest := by
  cases u with
  | nil => exact absurd hn (by simp; omega)
  | cons c u =>
      have hlength : n - 1 = u.length := by
        rw [List.length_cons] at hn
        omega
      have htake : (c :: (u ++ rest)).take (max 1 n) = c :: u := by
        rw [← hn, ← List.cons_append, List.take_left]
      rw [List.cons_append] at h ⊢
      unfold Shape.replaceAfter
      rw [getLast?_cons_or, Shape.cut, h]
      dsimp only
      rw [hlength, cut_passing_append, List.flatMap_cons, htake]
      rfl

/-- A place where nothing begins. -/
theorem replaceAfter_cons {c : Char} {rest : List Char}
    (h : shape before (c :: rest) = .miss 1) :
    shape.replaceAfter f before (c :: rest) = c :: shape.replaceAfter f (some c) rest := by
  have hcopy : shape.replaceAfter f before ([c] ++ rest) =
      [c] ++ shape.replaceAfter f ([c].getLast?.or before) rest :=
    replaceAfter_of_miss h rfl
  rwa [List.singleton_append] at hcopy

/-! ## Texts without pieces -/

/-- A shape recognises nothing in a text when it misses everywhere. -/
theorem replaceAfter_eq_self {cs : List Char}
    (h : ∀ before c t, c :: t <:+ cs → ∀ n, shape before (c :: t) ≠ .hit n) :
    shape.replaceAfter f before cs = cs := by
  have hcut : ∀ step, step.dropped = 0 →
      (shape.cut before step cs).flatMap (Piece.replaced f) = cs := by
    induction cs generalizing before with
    | nil =>
        intro step _
        simp [Shape.cut]
    | cons c rest ih =>
        have hrest := fun b =>
          @ih b fun before d t ht => h before d t (ht.trans (List.suffix_cons c rest))
        intro step hstep
        cases step with
        | copy n =>
            rw [Shape.cut, List.flatMap_cons, hrest _ _ (Step.dropped_copying _)]
            rfl
        | pass n =>
            change max 1 n = 0 at hstep
            omega
        | ask =>
            rw [Shape.cut]
            cases hprobe : shape before (c :: rest) with
            | miss n =>
                dsimp only
                rw [List.flatMap_cons, hrest _ _ (Step.dropped_copying _)]
                rfl
            | hit n => exact absurd hprobe (h before c rest List.suffix_rfl n)
  exact hcut .ask rfl

/-- A text stays when a shape misses everywhere in it and no miss goes beyond it. -/
theorem replaceAfter_append_of_miss {u z : List Char}
    (h : ∀ x y, x ++ y = u → y ≠ [] →
      ∃ n ≤ y.length, shape (x.getLast?.or before) (y ++ z) = .miss n) :
    shape.replaceAfter f before (u ++ z) =
      u ++ shape.replaceAfter f (u.getLast?.or before) z := by
  induction hn : u.length using Nat.strongRecOn generalizing u before with
  | ind n ih =>
      subst hn
      by_cases hu : u = []
      · subst hu
        rfl
      obtain ⟨m, hm, hmiss⟩ := h [] u rfl hu
      change shape before (u ++ z) = .miss m at hmiss
      have hpos := List.length_pos_iff.mpr hu
      obtain ⟨x, y, rfl, hx⟩ : ∃ x y, u = x ++ y ∧ x.length = max 1 m :=
        ⟨_, _, (List.take_append_drop (max 1 m) u).symm, List.length_take_of_le (by omega)⟩
      have hrest : shape.replaceAfter f (x.getLast?.or before) (y ++ z) =
          y ++ shape.replaceAfter f (y.getLast?.or (x.getLast?.or before)) z := by
        refine ih y.length (by rw [List.length_append]; omega) (fun x' y' hsplit hne => ?_) rfl
        have hpart := h (x ++ x') y' (by rw [List.append_assoc, hsplit]) hne
        rwa [getLast?_append_or] at hpart
      rw [List.append_assoc] at hmiss ⊢
      rw [getLast?_append_or, replaceAfter_of_miss hmiss hx, hrest, List.append_assoc]

/-- A text stays when nothing begins with one of its characters. -/
theorem replaceAfter_append_of_forall_miss {u : List Char}
    (hmiss : ∀ d ∈ u, ∀ before t, shape before (d :: t) = .miss 1) (z : List Char) :
    shape.replaceAfter f before (u ++ z) =
      u ++ shape.replaceAfter f (u.getLast?.or before) z := by
  refine replaceAfter_append_of_miss fun x y hsplit hne => ?_
  obtain ⟨d, y, rfl⟩ := List.exists_cons_of_ne_nil hne
  refine ⟨1, Nat.le_add_left 1 _, hmiss d ?_ _ (y ++ z)⟩
  exact hsplit ▸ List.mem_append_right x List.mem_cons_self

/-! ## Parts of a text -/

/-- Two parts of a text behind a character are separate for a shape: whatever it says in
the first part, it says without the second one. -/
def Shape.Separates (shape : Shape) (before : Option Char) (u z : List Char) : Prop :=
  ∀ x y, x ++ y = u → y ≠ [] →
    shape (x.getLast?.or before) (y ++ z) = shape (x.getLast?.or before) y ∧
      (shape (x.getLast?.or before) y).places ≤ y.length

theorem Shape.Separates.tail {x y z : List Char}
    (h : shape.Separates before (x ++ y) z) : shape.Separates (x.getLast?.or before) y z := by
  intro x' y' hsplit hne
  have hpart := h (x ++ x') y' (by rw [List.append_assoc, hsplit]) hne
  rwa [getLast?_append_or] at hpart

/-- Separate parts are replaced one by one. -/
theorem replaceAfter_append {u z : List Char} (h : shape.Separates before u z) :
    shape.replaceAfter f before (u ++ z) =
      shape.replaceAfter f before u ++ shape.replaceAfter f (u.getLast?.or before) z := by
  induction hn : u.length using Nat.strongRecOn generalizing u before with
  | ind n ih =>
      subst hn
      by_cases hu : u = []
      · subst hu
        rw [replaceAfter_nil]
        rfl
      obtain ⟨hsame, hplaces⟩ := h [] u rfl hu
      change shape before (u ++ z) = shape before u at hsame
      change (shape before u).places ≤ u.length at hplaces
      have hpos := List.length_pos_iff.mpr hu
      -- The answer at the start splits the first part; the rest of it is shorter.
      obtain ⟨x, y, rfl, hx⟩ : ∃ x y, u = x ++ y ∧ x.length = max 1 (shape before u).places :=
        ⟨_, _, (List.take_append_drop (max 1 (shape before u).places) u).symm,
          List.length_take_of_le (by omega)⟩
      have hrest := ih y.length (by rw [List.length_append]; omega) h.tail rfl
      rw [List.append_assoc] at hsame ⊢
      rw [getLast?_append_or]
      cases hprobe : shape before (x ++ y) with
      | miss m =>
          rw [hprobe] at hx hsame
          rw [replaceAfter_of_miss hsame hx, replaceAfter_of_miss hprobe hx, hrest,
            List.append_assoc]
      | hit m =>
          rw [hprobe] at hx hsame
          rw [replaceAfter_of_hit hsame hx, replaceAfter_of_hit hprobe hx, hrest,
            List.append_assoc]

end TraceCheck.Redaction
