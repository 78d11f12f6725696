import TraceCheck.Proofs.Redaction.Replacement

/-!
# Places of a text

A shape that misses may settle many places by one answer.  It is honest when none of
them would be a hit; then a text is replaced place by place, as if the shape was asked
everywhere.
-/

namespace TraceCheck.Redaction

variable {shape : Shape} {f : List Char → List Char} {before : Option Char}
  {P Q : Option Char → List Char → Prop} {u v cs : List Char}

/-- A shape recognises nothing at a place. -/
def Shape.Misses (shape : Shape) (before : Option Char) (cs : List Char) : Prop :=
  ∀ n, shape before cs ≠ .hit n

theorem Shape.misses_of_miss {n : Nat} (h : shape before cs = .miss n) :
    shape.Misses before cs := by
  intro m hhit
  rw [h] at hhit
  cases hhit

/-- A property holds at every place of a text behind the character `before`. -/
inductive Everywhere (P : Option Char → List Char → Prop) : (before : Option Char) → List Char → Prop
  | nil (before : Option Char) : Everywhere P before []
  | cons {before : Option Char} {c : Char} {cs : List Char} (hhere : P before (c :: cs)) :
      Everywhere P (some c) cs → Everywhere P before (c :: cs)

theorem everywhere_cons_iff {c : Char} :
    Everywhere P before (c :: cs) ↔ P before (c :: cs) ∧ Everywhere P (some c) cs := by
  constructor
  · rintro (_ | ⟨hhere, hrest⟩)
    exact ⟨hhere, hrest⟩
  · rintro ⟨hhere, hrest⟩
    exact .cons hhere hrest

theorem Everywhere.imp (h : ∀ before cs, P before cs → Q before cs)
    (hP : Everywhere P before cs) : Everywhere Q before cs := by
  induction hP with
  | nil => exact .nil _
  | cons hhere _ ih => exact .cons (h _ _ hhere) ih

/-- The places of two parts of a text. -/
theorem everywhere_append_iff : Everywhere P before (u ++ v) ↔
    (∀ x y, x ++ y = u → y ≠ [] → P (x.getLast?.or before) (y ++ v)) ∧
      Everywhere P (u.getLast?.or before) v := by
  induction u generalizing before with
  | nil =>
      refine ⟨fun h => ⟨fun x y hsplit hne => ?_, h⟩, fun h => h.2⟩
      exact absurd (List.append_eq_nil_iff.mp hsplit).2 hne
  | cons c u ih =>
      rw [List.cons_append, everywhere_cons_iff, ih, getLast?_cons_or]
      constructor
      · rintro ⟨hfirst, hrest, hv⟩
        refine ⟨fun x y hsplit hne => ?_, hv⟩
        cases x with
        | nil =>
            obtain rfl : y = c :: u := hsplit
            exact hfirst
        | cons d x =>
            injection hsplit with hd hsplit
            subst hd
            rw [getLast?_cons_or]
            exact hrest x y hsplit hne
      · rintro ⟨hu, hv⟩
        refine ⟨hu [] (c :: u) rfl (List.cons_ne_nil c u), fun x y hsplit hne => ?_, hv⟩
        rw [← getLast?_cons_or]
        exact hu (c :: x) y (congrArg (c :: ·) hsplit) hne

/-- What holds everywhere in a text holds at the start of each of its ends. -/
theorem Everywhere.of_append (h : Everywhere P before (u ++ v)) (hv : v ≠ []) :
    P (u.getLast?.or before) v := by
  obtain ⟨c, v, rfl⟩ := List.exists_cons_of_ne_nil hv
  exact (everywhere_cons_iff.mp (everywhere_append_iff.mp h).2).1

/-! ## Honest shapes -/

/-- A shape whose answers are true of every place that they settle. -/
structure Shape.IsHonest (shape : Shape) : Prop where
  /-- A piece that it recognises is a part of the text. -/
  fits : ∀ {before : Option Char} {cs : List Char} {n : Nat},
    shape before cs = .hit n → 0 < n ∧ n ≤ cs.length
  /-- A miss leaves out no piece. -/
  misses : ∀ {before : Option Char} {u v : List Char} {n : Nat},
    shape before (u ++ v) = .miss n → u.length < n → shape.Misses (u.getLast?.or before) v

/-- A shape that settles one place by every miss is honest. -/
theorem Shape.IsHonest.of_not_hit
    (hfits : ∀ {before cs n}, shape before cs = .hit n → 0 < n ∧ n ≤ cs.length)
    (hone : ∀ before cs, shape.Misses before cs → shape before cs = .miss 1) : shape.IsHonest where
  fits := hfits
  misses := by
    intro before u v n hmiss hu
    have hhere := Shape.misses_of_miss hmiss
    rw [hone before (u ++ v) hhere] at hmiss
    injection hmiss with hn
    have hnil : u = [] := List.length_eq_zero_iff.mp (by omega)
    subst hnil
    exact hhere

namespace Shape.IsHonest

/-- To copy places where a shape misses is to ask it there. -/
theorem cut_copying (h : shape.IsHonest) {n : Nat}
    (hmiss : ∀ x y, x ++ y = cs → x.length < n → y ≠ [] →
      shape.Misses (x.getLast?.or before) y) :
    shape.cut before (.copying n) cs = shape.cut before .ask cs := by
  induction cs generalizing before n with
  | nil => cases n <;> simp [Shape.cut]
  | cons c rest ih =>
      cases n with
      | zero => rfl
      | succ n =>
          have hhere : shape.Misses before (c :: rest) :=
            hmiss [] (c :: rest) rfl (Nat.succ_pos n) (List.cons_ne_nil c rest)
          have hcopy : shape.cut (some c) (.copying n) rest = shape.cut (some c) .ask rest := by
            refine ih fun x y hsplit hx hne => ?_
            have hthere := hmiss (c :: x) y (congrArg (c :: ·) hsplit) (Nat.succ_lt_succ hx) hne
            rwa [getLast?_cons_or] at hthere
          change .plain c :: shape.cut (some c) (.copying n) rest = _
          rw [hcopy, Shape.cut]
          cases hprobe : shape before (c :: rest) with
          | hit m => exact absurd hprobe (hhere m)
          | miss m =>
              -- The places that the answer settles may be asked as well.
              dsimp only
              congr 1
              refine (ih fun x y hsplit hx _ => ?_).symm
              rw [← hsplit, ← List.cons_append] at hprobe
              have hthere := h.misses hprobe (by rw [List.length_cons]; omega)
              rwa [getLast?_cons_or] at hthere

/-- The cut goes on behind a place where a shape misses. -/
theorem cut_cons (h : shape.IsHonest) {c : Char} (hmiss : shape.Misses before (c :: cs)) :
    shape.cut before .ask (c :: cs) = .plain c :: shape.cut (some c) .ask cs := by
  rw [Shape.cut]
  cases hprobe : shape before (c :: cs) with
  | hit n => exact absurd hprobe (hmiss n)
  | miss n =>
      dsimp only
      rw [h.cut_copying fun x y hsplit hx _ => ?_]
      rw [← hsplit, ← List.cons_append] at hprobe
      have hthere := h.misses hprobe (by rw [List.length_cons]; omega)
      rwa [getLast?_cons_or] at hthere

/-- A piece that a shape recognises is the start of the text. -/
theorem exists_append (h : shape.IsHonest) {n : Nat} (hhit : shape before cs = .hit n) :
    ∃ u v, cs = u ++ v ∧ shape before (u ++ v) = .hit u.length := by
  refine ⟨cs.take n, cs.drop n, (List.take_append_drop n cs).symm, ?_⟩
  rw [List.take_append_drop, List.length_take_of_le (h.fits hhit).2, hhit]

/-- The cut goes on behind a piece that a shape recognises. -/
theorem cut_append (h : shape.IsHonest) (hhit : shape before (u ++ v) = .hit u.length) :
    shape.cut before .ask (u ++ v) =
      .found u :: shape.cut (u.getLast?.or before) .ask v := by
  have hpos := (h.fits hhit).1
  cases u with
  | nil => exact absurd hpos (Nat.lt_irrefl 0)
  | cons c u =>
      have htake : (c :: (u ++ v)).take (max 1 (c :: u).length) = c :: u := by
        rw [Nat.max_eq_right hpos, ← List.cons_append, List.take_left]
      rw [List.cons_append] at hhit ⊢
      rw [Shape.cut, hhit]
      dsimp only
      rw [htake, List.length_cons, Nat.add_sub_cancel, cut_passing_append, getLast?_cons_or]

/-- A place where a shape misses is kept. -/
theorem replaceAfter_cons (h : shape.IsHonest) {c : Char}
    (hmiss : shape.Misses before (c :: cs)) :
    shape.replaceAfter f before (c :: cs) = c :: shape.replaceAfter f (some c) cs := by
  unfold Shape.replaceAfter
  rw [h.cut_cons hmiss]
  rfl

/-- A piece that a shape recognises is replaced. -/
theorem replaceAfter_append (h : shape.IsHonest) (hhit : shape before (u ++ v) = .hit u.length) :
    shape.replaceAfter f before (u ++ v) =
      f u ++ shape.replaceAfter f (u.getLast?.or before) v :=
  replaceAfter_of_hit hhit (by have := (h.fits hhit).1; omega)

/-- A text is gone through from one kept place or recognised piece to the next. -/
theorem induction (h : shape.IsHonest) {motive : Option Char → List Char → Prop}
    (nil : ∀ before, motive before [])
    (keep : ∀ before c cs, shape.Misses before (c :: cs) → motive (some c) cs →
      motive before (c :: cs))
    (hit : ∀ before u v, shape before (u ++ v) = .hit u.length →
      motive (u.getLast?.or before) v → motive before (u ++ v))
    (before : Option Char) (cs : List Char) : motive before cs := by
  induction hn : cs.length using Nat.strongRecOn generalizing before cs with
  | ind n ih =>
      subst hn
      cases cs with
      | nil => exact nil before
      | cons c rest =>
          by_cases hhit : ∃ n, shape before (c :: rest) = .hit n
          · obtain ⟨n, hhit⟩ := hhit
            obtain ⟨u, v, hsplit, hhit⟩ := h.exists_append hhit
            have hpos := (h.fits hhit).1
            rw [hsplit]
            refine hit before u v hhit (ih v.length ?_ _ v rfl)
            rw [hsplit, List.length_append]
            omega
          · exact keep before c rest (not_exists.mp hhit)
              (ih rest.length (Nat.lt_succ_self _) _ rest rfl)

/-- A shape that finds no piece misses everywhere. -/
theorem everywhere_of_not_found (h : shape.IsHonest)
    (hnone : ∀ piece, .found piece ∉ shape.cut before .ask cs) :
    Everywhere shape.Misses before cs := by
  induction before, cs using h.induction with
  | nil before => exact .nil before
  | keep before c cs hmiss ih =>
      rw [h.cut_cons hmiss] at hnone
      exact .cons hmiss (ih fun piece hfound => hnone piece (List.mem_cons_of_mem _ hfound))
  | hit before u v hhit _ =>
      obtain ⟨c, t, htext⟩ : ∃ c t, u ++ v = c :: t := by
        have hfits := h.fits hhit
        exact List.exists_cons_of_length_pos (Nat.lt_of_lt_of_le hfits.1 hfits.2)
      rw [htext] at hhit hnone
      rw [Shape.cut, hhit] at hnone
      exact absurd List.mem_cons_self (hnone _)

end Shape.IsHonest

/-! ## Texts that stay -/

/-- A piece that a shape finds begins at a place where the shape recognises it. -/
theorem exists_of_found {step : Step} {p : List Char} (h : .found p ∈ shape.cut before step cs) :
    ∃ x y n, cs = x ++ y ∧ y ≠ [] ∧ shape (x.getLast?.or before) y = .hit n ∧
      p = y.take (max 1 n) := by
  induction cs generalizing before step with
  | nil => simp [Shape.cut] at h
  | cons c rest ih =>
      have hbehind {step : Step} (h : .found p ∈ shape.cut (some c) step rest) :
          ∃ x y n, c :: rest = x ++ y ∧ y ≠ [] ∧ shape (x.getLast?.or before) y = .hit n ∧
            p = y.take (max 1 n) := by
        obtain ⟨x, y, n, hsplit, hne, hhit, hp⟩ := ih h
        refine ⟨c :: x, y, n, congrArg (c :: ·) hsplit, hne, ?_, hp⟩
        rwa [getLast?_cons_or]
      cases step with
      | copy n =>
          rw [Shape.cut] at h
          exact hbehind (List.mem_of_ne_of_mem Piece.noConfusion h)
      | pass n => exact hbehind h
      | ask =>
          rw [Shape.cut] at h
          cases hprobe : shape before (c :: rest) with
          | miss n =>
              rw [hprobe] at h
              exact hbehind (List.mem_of_ne_of_mem Piece.noConfusion h)
          | hit n =>
              rw [hprobe] at h
              rcases List.mem_cons.mp h with heq | h
              · injection heq with heq
                exact ⟨[], c :: rest, n, rfl, List.cons_ne_nil c rest, hprobe, heq⟩
              · exact hbehind h

/-- A text stays when every piece in it stays. -/
theorem replaceAfter_eq_self_of_found (h : ∀ p, .found p ∈ shape.cut before .ask cs → f p = p) :
    shape.replaceAfter f before cs = cs := by
  have hchars : (shape.cut before .ask cs).flatMap Piece.chars = cs :=
    shape.flatMap_chars_cut before .ask cs
  unfold Shape.replaceAfter
  rw [← hchars]
  conv_lhs => rw [hchars]
  refine List.flatMap_congr fun piece hpiece => ?_
  cases piece with
  | plain c => rfl
  | found p => exact h p hpiece

/-- A text stays when a shape recognises only what stays. -/
theorem replaceAfter_eq_self_of_everywhere
    (h : Everywhere (fun before cs => ∀ n, shape before cs = .hit n →
      f (cs.take (max 1 n)) = cs.take (max 1 n)) before cs) :
    shape.replaceAfter f before cs = cs := by
  refine replaceAfter_eq_self_of_found fun p hp => ?_
  obtain ⟨x, y, n, rfl, hne, hhit, rfl⟩ := exists_of_found hp
  exact h.of_append hne n hhit

end TraceCheck.Redaction
