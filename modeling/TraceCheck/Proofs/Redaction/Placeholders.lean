import TraceCheck.Proofs.Text.Ascii
import TraceCheck.Redaction.Basic

/-!
# Placeholders in a text

The pieces of a text, put together, are the text.  The pieces that are found as
placeholders are exactly the stars, the word and the kind that make one, at the
first place where one begins.
-/

namespace TraceCheck.Redaction

/-! ## Pieces -/

/-- The number of characters that a step passes over. -/
def Step.dropped : Step → Nat
  | .pass n => max 1 n
  | _ => 0

theorem Step.dropped_passing (n : Nat) : (Step.passing n).dropped = n := by
  cases n with
  | zero => rfl
  | succ n => exact Nat.max_eq_right (Nat.succ_le_succ (Nat.zero_le n))

theorem Step.dropped_copying (n : Nat) : (Step.copying n).dropped = 0 := by
  cases n <;> rfl

variable (shape : Shape) (before : Option Char) (step : Step) (cs : List Char)

/-- The pieces behind what a step passes over are the text there. -/
theorem Shape.flatMap_chars_cut :
    (shape.cut before step cs).flatMap Piece.chars = cs.drop step.dropped := by
  induction cs generalizing before step with
  | nil => simp [Shape.cut]
  | cons c rest ih =>
      cases step with
      | copy n =>
          rw [Shape.cut, List.flatMap_cons, ih, Step.dropped_copying]
          rfl
      | pass n =>
          have hdrop : max 1 n = n - 1 + 1 := by omega
          rw [Shape.cut, ih, Step.dropped_passing, Step.dropped, hdrop, List.drop_succ_cons]
      | ask =>
          rw [Shape.cut]
          cases shape before (c :: rest) with
          | miss n =>
              dsimp only
              rw [List.flatMap_cons, ih, Step.dropped_copying]
              rfl
          | hit n =>
              have hdrop : max 1 n = n - 1 + 1 := by omega
              dsimp only
              rw [List.flatMap_cons, ih, Step.dropped_passing, Piece.chars, hdrop,
                List.take_succ_cons, List.cons_append, List.take_append_drop]
              rfl

theorem Shape.flatMap_chars_pieces : (shape.pieces cs).flatMap Piece.chars = cs :=
  shape.flatMap_chars_cut none .ask cs

/-! ## Passing parts of a text -/

theorem Remainder.after?_eq_some_iff {beginning : List Char} {r r' : Remainder} :
    r.after? beginning = some r' ↔
      r.rest = beginning ++ r'.rest ∧ r'.passed = r.passed + beginning.length := by
  obtain ⟨passed, cs⟩ := r
  induction beginning generalizing passed cs with
  | nil =>
      constructor
      · intro h
        injection h with h
        subst h
        exact ⟨rfl, rfl⟩
      · rintro ⟨rfl, hpassed⟩
        obtain ⟨passed', rest⟩ := r'
        obtain rfl : passed' = passed := hpassed
        rfl
  | cons b bs ih =>
      cases cs with
      | nil => exact ⟨nofun, nofun⟩
      | cons c cs =>
          rw [after?]
          by_cases hc : b = c
          · subst hc
            rw [if_pos rfl, ih, List.cons_append, List.cons.injEq, List.length_cons,
              Nat.add_assoc, Nat.add_comm 1]
            simp only [true_and]
          · rw [if_neg hc]
            refine ⟨nofun, fun h => ?_⟩
            injection h.1 with hhead
            exact absurd hhead.symm hc

theorem Remainder.passWhile_eq (p : Char → Bool) (n : Nat) (cs : List Char) :
    Remainder.passWhile p n cs = ⟨n + (cs.takeWhile p).length, cs.dropWhile p⟩ := by
  induction cs generalizing n with
  | nil => rfl
  | cons c cs ih =>
      rw [passWhile]
      cases hc : p c with
      | true =>
          rw [if_pos rfl, ih, List.takeWhile_cons_of_pos hc, List.dropWhile_cons_of_pos hc,
            List.length_cons]
          congr 1
          omega
      | false =>
          rw [if_neg Bool.false_ne_true, List.takeWhile_cons_of_neg (by simp [hc]),
            List.dropWhile_cons_of_neg (by simp [hc])]
          rfl

theorem Remainder.afterRun?_eq_some_iff {p : Char → Bool} {least : Nat} {r r' : Remainder} :
    r.afterRun? p least = some r' ↔
      least ≤ (r.rest.takeWhile p).length ∧
        r' = ⟨r.passed + (r.rest.takeWhile p).length, r.rest.dropWhile p⟩ := by
  unfold afterRun? afterWhile
  rw [passWhile_eq, Option.ite_none_right_eq_some, Option.some_inj, eq_comm (b := r')]
  simp

/-! ## Placeholders -/

/-- A placeholder of some kind. -/
def IsPlaceholder (cs : List Char) : Prop :=
  ∃ kind : List Char, kind ≠ [] ∧ (∀ c ∈ kind, isKindChar c = true) ∧
    cs = "***REDACTED_".toList ++ kind ++ "***".toList

/-- The characters that placeholders have. -/
def placeholderChars : List Char :=
  "*_ABCDEFGHIJKLMNOPQRSTUVWXYZ".toList

theorem mem_placeholderChars_of_isKindChar {c : Char} (hc : isKindChar c = true) :
    c ∈ placeholderChars := by
  rcases (Bool.or_eq_true _ _).mp hc with hupper | hunderscore
  · have hall : ∀ n < 91, 65 ≤ n → Char.ofNat n ∈ placeholderChars := by decide
    have hrange : 65 ≤ c.toNat ∧ c.toNat ≤ 90 := by
      obtain ⟨hlow, hhigh⟩ := of_decide_eq_true hupper
      exact ⟨UInt32.le_iff_toNat_le.mp hlow, UInt32.le_iff_toNat_le.mp hhigh⟩
    have hmem := hall c.toNat (by omega) hrange.1
    rwa [Char.ofNat_toNat] at hmem
  · rw [beq_iff_eq.mp hunderscore]
    decide

theorem IsPlaceholder.mem_placeholderChars
    {p : List Char} (hp : IsPlaceholder p) {c : Char} (hc : c ∈ p) : c ∈ placeholderChars := by
  obtain ⟨kind, -, hkind, rfl⟩ := hp
  have hstart : "***REDACTED_".toList ⊆ placeholderChars := by decide
  have hend : "***".toList ⊆ placeholderChars := by decide
  rcases List.mem_append.mp hc with hc | hc
  · rcases List.mem_append.mp hc with hc | hc
    · exact hstart hc
    · exact mem_placeholderChars_of_isKindChar (hkind c hc)
  · exact hend hc

theorem span_kind
    {kind : List Char} (hkind : ∀ c ∈ kind, isKindChar c = true) (rest : List Char) :
    (kind ++ ("***".toList ++ rest)).takeWhile isKindChar = kind ∧
      (kind ++ ("***".toList ++ rest)).dropWhile isKindChar = "***".toList ++ rest := by
  have hstar : isKindChar '*' = false := by decide
  have hcons : "***".toList ++ rest = '*' :: ("**".toList ++ rest) := rfl
  constructor
  · rw [List.takeWhile_append_of_pos hkind, hcons, List.takeWhile_cons_of_neg (by simp [hstar]),
      List.append_nil]
  · rw [List.dropWhile_append_of_pos hkind, hcons, List.dropWhile_cons_of_neg (by simp [hstar])]

/-- A placeholder is found where one begins. -/
theorem anyPlaceholder_append
    {p : List Char} (hp : IsPlaceholder p) (before : Option Char) (rest : List Char) :
    anyPlaceholder before (p ++ rest) = .hit p.length := by
  obtain ⟨kind, hne, hkind, rfl⟩ := hp
  obtain ⟨htake, hdrop⟩ := span_kind hkind rest
  generalize hstart : "***REDACTED_".toList = start
  generalize hstars : "***".toList = stars at htake hdrop ⊢
  have hbegin : (Remainder.whole (start ++ kind ++ stars ++ rest)).after? start =
      some ⟨start.length, kind ++ (stars ++ rest)⟩ :=
    Remainder.after?_eq_some_iff.mpr ⟨by simp [Remainder.whole], (Nat.zero_add _).symm⟩
  have hrun : (Remainder.mk start.length (kind ++ (stars ++ rest))).afterRun? isKindChar 1 =
      some ⟨start.length + kind.length, stars ++ rest⟩ := by
    refine Remainder.afterRun?_eq_some_iff.mpr ⟨?_, ?_⟩
    · rw [htake]
      exact List.length_pos_iff.mpr hne
    · rw [htake, hdrop]
  have hend : (Remainder.mk (start.length + kind.length) (stars ++ rest)).after? stars =
      some ⟨start.length + kind.length + stars.length, rest⟩ :=
    Remainder.after?_eq_some_iff.mpr ⟨rfl, rfl⟩
  unfold anyPlaceholder
  rw [hstart, hstars, hbegin]
  dsimp only [Option.bind_eq_bind, Option.bind_some]
  rw [hrun]
  dsimp only [Option.bind_some]
  rw [hend, List.length_append, List.length_append]
  rfl

theorem exists_of_anyPlaceholder
    {before : Option Char} {cs : List Char} {n : Nat} (h : anyPlaceholder before cs = .hit n) :
    ∃ p rest, cs = p ++ rest ∧ IsPlaceholder p ∧ n = p.length := by
  unfold anyPlaceholder Remainder.probe at h
  split at h
  · next r hr =>
      injection h with hpassed
      obtain ⟨r₁, hr₁, hr⟩ := Option.bind_eq_some_iff.mp hr
      obtain ⟨r₂, hr₂, hr₃⟩ := Option.bind_eq_some_iff.mp hr
      obtain ⟨hbegin, hcount₁⟩ := Remainder.after?_eq_some_iff.mp hr₁
      obtain ⟨hsome, rfl⟩ := Remainder.afterRun?_eq_some_iff.mp hr₂
      obtain ⟨hend, hcount₃⟩ := Remainder.after?_eq_some_iff.mp hr₃
      let kind := r₁.rest.takeWhile isKindChar
      have hne : kind ≠ [] := List.length_pos_iff.mp hsome
      have hkind : ∀ c ∈ kind, isKindChar c = true := fun c hc =>
        List.all_eq_true.mp List.all_takeWhile c hc
      have hsplit : r₁.rest = kind ++ ("***".toList ++ r.rest) := by
        rw [← hend]
        exact List.takeWhile_append_dropWhile.symm
      refine ⟨_, r.rest, ?_, ⟨kind, hne, hkind, rfl⟩, ?_⟩
      · change cs = _ at hbegin
        rw [hbegin, hsplit]
        simp only [List.append_assoc]
      · change r₁.passed = 0 + _ at hcount₁
        rw [← hpassed, hcount₃, hcount₁, List.length_append, List.length_append, Nat.zero_add]
  · cases h

/-- A place where no placeholder begins is passed by one character. -/
theorem anyPlaceholder_of_not_hit
    {before : Option Char} {cs : List Char} (h : ∀ n, anyPlaceholder before cs ≠ .hit n) :
    anyPlaceholder before cs = .miss 1 := by
  unfold anyPlaceholder Remainder.probe at h ⊢
  split
  · next r hr =>
      rw [hr] at h
      exact absurd rfl (h r.passed)
  · rfl

/-! ## Pieces of a text with placeholders -/

/-- What stands in front of a text does not matter. -/
theorem cut_anyPlaceholder (before : Option Char) (step : Step) (cs : List Char) :
    anyPlaceholder.cut before step cs = anyPlaceholder.cut none step cs := by
  cases cs with
  | nil => simp [Shape.cut]
  | cons c rest =>
      cases step with
      | copy n => rfl
      | pass n => rfl
      | ask => rfl

theorem cut_passing (before : Option Char) (n : Nat) (cs : List Char) :
    anyPlaceholder.cut before (.passing n) cs = anyPlaceholder.pieces (cs.drop n) := by
  induction n generalizing before cs with
  | zero => exact cut_anyPlaceholder before .ask cs
  | succ n ih =>
      cases cs with
      | nil => simp [Shape.cut, Shape.pieces]
      | cons c rest => exact ih (some c) rest

theorem pieces_empty : anyPlaceholder.pieces [] = [] := by
  simp [Shape.pieces, Shape.cut]

/-- A placeholder at the start is one piece. -/
theorem pieces_placeholder_append {p rest : List Char} (hp : IsPlaceholder p) :
    anyPlaceholder.pieces (p ++ rest) = .found p :: anyPlaceholder.pieces rest := by
  have hhit := anyPlaceholder_append hp none rest
  obtain ⟨c, tail, rfl⟩ : ∃ c tail, p = c :: tail := by
    obtain ⟨kind, -, -, rfl⟩ := hp
    exact ⟨'*', _, rfl⟩
  rw [List.cons_append] at hhit ⊢
  rw [Shape.pieces, Shape.cut, hhit]
  have htake : (c :: (tail ++ rest)).take (max 1 (c :: tail).length) = c :: tail := by
    simp
  have hdrop : (tail ++ rest).drop ((c :: tail).length - 1) = rest := by
    simp
  dsimp only
  rw [htake, cut_passing, hdrop]

/-- A character at which no placeholder begins is a piece. -/
theorem pieces_plain_cons
    {c : Char} {rest : List Char} (h : ∀ n, anyPlaceholder none (c :: rest) ≠ .hit n) :
    anyPlaceholder.pieces (c :: rest) = .plain c :: anyPlaceholder.pieces rest := by
  rw [Shape.pieces, Shape.cut, anyPlaceholder_of_not_hit h]
  dsimp only
  congr 1
  exact cut_anyPlaceholder (some c) .ask rest

/-- Only placeholders are found. -/
theorem isPlaceholder_of_found
    {before : Option Char} {step : Step} {cs p : List Char}
    (h : Piece.found p ∈ anyPlaceholder.cut before step cs) :
    IsPlaceholder p := by
  induction cs generalizing before step with
  | nil => simp [Shape.cut] at h
  | cons c rest ih =>
      cases step with
      | copy n =>
          rw [Shape.cut] at h
          exact ih ((List.mem_cons.mp h).resolve_left nofun)
      | pass n => exact ih h
      | ask =>
          rw [Shape.cut] at h
          cases hprobe : anyPlaceholder before (c :: rest) with
          | miss n =>
              rw [hprobe] at h
              exact ih ((List.mem_cons.mp h).resolve_left nofun)
          | hit n =>
              rw [hprobe] at h
              rcases List.mem_cons.mp h with heq | h
              · obtain ⟨q, tail, hsplit, hq, rfl⟩ := exists_of_anyPlaceholder hprobe
                injection heq with heq
                have hpos : 1 ≤ q.length := by
                  obtain ⟨kind, -, -, rfl⟩ := hq
                  simp
                rw [heq, hsplit, Nat.max_eq_right hpos, List.take_left]
                exact hq
              · exact ih h

end TraceCheck.Redaction
