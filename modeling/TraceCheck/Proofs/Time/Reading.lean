import TraceCheck.Proofs.Decimal.RoundTrip
import TraceCheck.Time.Reader

/-!
# The steps that read an instant

Each part of the text of an instant is read as what was written, and what every
step gives is within bounds, whatever the text is.
-/

namespace TraceCheck.Time

open TraceCheck.Decimal TraceCheck.Text

/-! ## Digits -/

namespace Instant

variable {width n : Nat}

theorem isDigit_of_mem_digits {c : Char} (hc : c ∈ digits width n) : isDigit c = true := by
  rcases List.mem_append.mp hc with hzero | hdigit
  · exact isDigit_of_mem_zeros c hzero
  · exact Nat.isDigit_of_mem_toDigits (by decide) (by decide) hdigit

theorem digitsValue_digits (width n : Nat) : digitsValue (digits width n) = n := by
  unfold digits
  dsimp only
  rw [digitsValue_zeros_append, digitsValue_eq]
  exact Nat.ofDigitChars_ten_toDigits

theorem digits_ne_nil (width n : Nat) : digits width n ≠ [] := by
  intro hnil
  exact Nat.toDigits_ne_nil (List.append_eq_nil_iff.mp hnil).2

theorem length_digits (hpos : 0 < width) (hn : n < 10 ^ width) :
    (digits width n).length = width := by
  have hlength : (Nat.toDigits 10 n).length ≤ width :=
    (Nat.length_toDigits_le_iff (by decide) hpos).mpr hn
  unfold digits
  dsimp only
  rw [List.length_append, List.length_replicate]
  omega

end Instant

theorem isBlank_of_isDigit {c : Char} (hc : isDigit c = true) : isBlank c = false := by
  simp only [isDigit, Bool.and_eq_true, decide_eq_true_eq] at hc
  obtain ⟨hlow, hhigh⟩ := hc
  have hlow : 48 ≤ c.toNat := UInt32.le_iff_toNat_le.mp hlow
  have hhigh : c.toNat ≤ 57 := UInt32.le_iff_toNat_le.mp hhigh
  unfold isBlank
  simp only [Bool.or_eq_false_iff, Bool.and_eq_false_iff, decide_eq_false_iff_not,
    beq_eq_false_iff_ne]
  omega

theorem digitsValue_append_singleton (ds : List Char) (c : Char) :
    digitsValue (ds ++ [c]) = digitsValue ds * 10 + (c.toNat - 48) := by
  unfold digitsValue
  rw [List.foldl_append]
  rfl

theorem digitsValue_lt {ds : List Char} (hds : ∀ c ∈ ds, isDigit c = true) :
    digitsValue ds < 10 ^ ds.length := by
  induction ds using List.reverseRecOn with
  | nil => decide
  | append_singleton ds c ih =>
      have hprefix := ih fun d hd => hds d (List.mem_append_left _ hd)
      have hc : c.toNat ≤ 57 := by
        have hdigit := hds c (by simp)
        simp only [isDigit, Bool.and_eq_true, decide_eq_true_eq] at hdigit
        exact UInt32.le_iff_toNat_le.mp hdigit.2
      rw [digitsValue_append_singleton, List.length_append, List.length_singleton, Nat.pow_succ]
      omega

namespace Reader

variable {α β : Type}

/-! ## Numbers -/

/-- The digits that a number is read from. -/
def digitRun (most : Option Nat) (cs : List Char) : List Char :=
  match most with
  | some n => (cs.take n).takeWhile isDigit
  | none => cs.takeWhile isDigit

theorem number_eq (most : Option Nat) {cs : List Char} (hcs : cs ≠ []) :
    number most cs =
      if (digitRun most cs).isEmpty then .error .invalid
      else if numberBound ≤ digitsValue (digitRun most cs) then .error .outOfRange
      else .ok (digitsValue (digitRun most cs), cs.drop (digitRun most cs).length) := by
  cases cs with
  | nil => contradiction
  | cons c cs => cases most <;> rfl

theorem digitRun_append
    {most : Option Nat} {ds rest : List Char} (hds : ∀ c ∈ ds, isDigit c = true)
    (hmost : ∀ n ∈ most, ds.length ≤ n)
    (hstop : most = some ds.length ∨ ∀ c ∈ rest.head?, isDigit c = false) :
    digitRun most (ds ++ rest) = ds := by
  cases most with
  | none =>
      have hrest := hstop.resolve_left (Option.some_ne_none _).symm
      exact (takeWhile_append_of_stop rest hds hrest).1
  | some n =>
      have hle : ds.length ≤ n := hmost n rfl
      simp only [digitRun, List.take_append, List.take_of_length_le hle]
      refine (takeWhile_append_of_stop _ hds ?_).1
      intro c hc
      rcases hstop with hn | hrest
      · injection hn with hn
        rw [hn, Nat.sub_self, List.take_zero] at hc
        cases hc
      · cases rest with
        | nil =>
            rw [List.take_nil] at hc
            cases hc
        | cons d rest =>
            cases hm : n - ds.length with
            | zero =>
                rw [hm, List.take_zero] at hc
                cases hc
            | succ m =>
                rw [hm, List.take_succ_cons] at hc
                exact hrest c hc

/-- Digits are read as their number, up to the bound or to the first other character. -/
theorem number_append
    {most : Option Nat} {ds rest : List Char} (hne : ds ≠ [])
    (hds : ∀ c ∈ ds, isDigit c = true) (hvalue : digitsValue ds < numberBound)
    (hmost : ∀ n ∈ most, ds.length ≤ n)
    (hstop : most = some ds.length ∨ ∀ c ∈ rest.head?, isDigit c = false) :
    number most (ds ++ rest) = .ok (digitsValue ds, rest) := by
  have hempty : ¬ds.isEmpty = true := by rwa [List.isEmpty_iff]
  rw [number_eq most (List.append_ne_nil_of_left_ne_nil hne rest),
    digitRun_append hds hmost hstop, if_neg hempty, if_neg (Nat.not_le.mpr hvalue),
    List.drop_left]

/-- A number is the value of at most so many digits. -/
theorem eq_of_number {most : Nat} {cs rest : List Char} {n : Nat}
    (h : number (some most) cs = .ok (n, rest)) :
    ∃ ds, cs = ds ++ rest ∧ ds.length ≤ most ∧ n < 10 ^ ds.length := by
  have hcs : cs ≠ [] := by
    rintro rfl
    cases h
  rw [number_eq _ hcs] at h
  split at h
  · cases h
  split at h
  · cases h
  · cases h
    have hsome : digitRun (some most) cs <+: cs :=
      (List.takeWhile_prefix _).trans (List.take_prefix _ _)
    refine ⟨digitRun (some most) cs, (List.prefix_iff_eq_append.mp hsome).symm, ?_,
      digitsValue_lt fun c hc => List.mem_takeWhile_imp hc⟩
    exact (List.takeWhile_prefix _).length_le.trans (List.length_take_le _ _)

/-! ## Reading what was written -/

theorem bind_of_ok {r : Reader α} {f : α → Reader β} {cs rest : List Char} {a : α}
    (h : r cs = .ok (a, rest)) : (r >>= f) cs = f a rest := by
  change (r cs).bind (fun p => f p.1 p.2) = f a rest
  rw [h]
  rfl

theorem bind_get (f : List Char → Reader β) (cs : List Char) :
    ((get : Reader (List Char)) >>= f) cs = f cs cs :=
  rfl

theorem bind_set (rest : List Char) (f : PUnit → Reader β) (cs : List Char) :
    ((set rest : Reader PUnit) >>= f) cs = f ⟨⟩ rest :=
  rfl

theorem bind_modify (g : List Char → List Char) (f : PUnit → Reader β) (cs : List Char) :
    ((modify g : Reader PUnit) >>= f) cs = f ⟨⟩ (g cs) :=
  rfl

theorem bind_pure (a : α) (f : α → Reader β) (cs : List Char) :
    ((pure a : Reader α) >>= f) cs = f a cs :=
  rfl

theorem blanks_of_head {cs : List Char} (hcs : ∀ c ∈ cs.head?, isBlank c = false) :
    blanks cs = .ok ((), cs) := by
  cases cs with
  | nil => rfl
  | cons c cs =>
      unfold blanks
      rw [List.dropWhile_cons, hcs c rfl]
      rfl

theorem blanks_cons {c : Char} (hc : isBlank c = false) (rest : List Char) :
    blanks (c :: rest) = .ok ((), c :: rest) :=
  blanks_of_head fun _ hd => Option.some.inj hd ▸ hc

theorem mark_cons (c : Char) (rest : List Char) : mark c (c :: rest) = .ok ((), rest) := by
  simp only [mark, if_pos]

theorem head_digits {width n : Nat} {rest : List Char} :
    ∀ c ∈ (Instant.digits width n ++ rest).head?, isDigit c = true := by
  intro c hc
  obtain ⟨d, ds, hds⟩ := List.exists_cons_of_ne_nil (Instant.digits_ne_nil width n)
  rw [hds, List.cons_append, List.head?_cons] at hc
  cases hc
  exact Instant.isDigit_of_mem_digits (hds ▸ List.mem_cons_self)

theorem field_digits {least most n : Nat} (rest : List Char) (hlow : least ≤ n) (hhigh : n ≤ most)
    (hn : n < 100) : field least most (Instant.digits 2 n ++ rest) = .ok (n, rest) := by
  have hlength : (Instant.digits 2 n).length = 2 := Instant.length_digits (by decide) hn
  have hvalue := Instant.digitsValue_digits 2 n
  have hnumber : number (some 2) (Instant.digits 2 n ++ rest) = .ok (n, rest) := by
    rw [number_append (Instant.digits_ne_nil 2 n) (fun _ => Instant.isDigit_of_mem_digits),
      hvalue]
    · rw [hvalue]
      exact Nat.lt_trans hn (by decide)
    · intro m hm
      cases hm
      exact Nat.le_of_eq hlength
    · exact Or.inl (by rw [hlength])
  unfold field
  rw [bind_of_ok (blanks_of_head fun c hc => isBlank_of_isDigit (head_digits c hc)),
    bind_of_ok hnumber, if_pos ⟨hlow, hhigh⟩]
  rfl

theorem year_of_digit
    {ds rest : List Char} (hlength : ds.length = 4) (hds : ∀ c ∈ ds, isDigit c = true) :
    year (ds ++ rest) = .ok ((digitsValue ds : Int), rest) := by
  obtain ⟨d, tail, hcons⟩ := List.exists_cons_of_length_pos (by omega : 0 < ds.length)
  have hhead : (ds ++ rest).head? = some d := by rw [hcons]; rfl
  have hdigit : isDigit d = true := hds d (hcons ▸ List.mem_cons_self)
  have hvalue : digitsValue ds < 10000 := by
    have hlt := digitsValue_lt hds
    rw [hlength] at hlt
    exact hlt
  have hnumber : number (some 4) (ds ++ rest) = .ok (digitsValue ds, rest) := by
    refine number_append (by simp [hcons]) hds (Nat.lt_trans hvalue (by decide)) ?_ ?_
    · intro n hn
      cases hn
      exact Nat.le_of_eq hlength
    · exact Or.inl (by rw [hlength])
  have hminus : d ≠ '-' := by
    rintro rfl
    cases hdigit
  have hplus : d ≠ '+' := by
    rintro rfl
    cases hdigit
  unfold year
  rw [bind_of_ok (blanks_of_head fun c hc => isBlank_of_isDigit (by
    rw [hhead] at hc
    cases hc
    exact hdigit)), bind_get, hhead]
  simp only [Option.some.injEq, hminus, hplus, imp_self]
  rw [bind_of_ok hnumber, bind_pure, if_pos (by omega)]
  rfl

theorem year_yearText {y : Int} {rest : List Char} (hlow : -1000000 < y) (hhigh : y < 1000000)
    (hrest : ∀ c ∈ rest.head?, isDigit c = false) :
    year (Instant.yearText y ++ rest) = .ok (y, rest) := by
  have hvalue := Instant.digitsValue_digits 4
  have hnumber : number none (Instant.digits 4 y.natAbs ++ rest) = .ok (y.natAbs, rest) := by
    rw [number_append (Instant.digits_ne_nil 4 _) (fun _ => Instant.isDigit_of_mem_digits),
      hvalue]
    · rw [hvalue, numberBound, Nat.shiftLeft_eq]
      omega
    · intro n hn
      cases hn
    · exact Or.inr hrest
  unfold Instant.yearText
  split
  · rename_i hy
    have hlength : (Instant.digits 4 y.toNat).length = 4 :=
      Instant.length_digits (by decide) (by omega)
    rw [year_of_digit hlength (fun _ => Instant.isDigit_of_mem_digits), hvalue,
      Int.toNat_of_nonneg hy.1]
  · unfold year
    rw [List.cons_append]
    split
    · have hsign : -(y.natAbs : Int) = y := by omega
      rw [bind_of_ok (blanks_cons (by decide) _), bind_get,
        List.head?_cons]
      simp only
      rw [bind_modify, List.tail_cons,
        bind_of_ok hnumber, bind_pure, hsign,
        if_pos (by omega)]
      rfl
    · have hsign : (y.natAbs : Int) = y := by omega
      rw [bind_of_ok (blanks_cons (by decide) _), bind_get,
        List.head?_cons]
      simp only
      rw [bind_modify, List.tail_cons,
        bind_of_ok hnumber, bind_pure, hsign,
        if_pos (by omega)]
      rfl

theorem fraction_cons (cs : List Char) :
    fraction ('.' :: cs) = ((number (some 9) : Reader Nat) >>= fun n => do
      let rest ← get
      modify fun cs => cs.dropWhile isDigit
      return n * powerOfTen (9 - (cs.length - rest.length))) cs :=
  rfl

/-- Up to nine digits of a fraction are read as nanoseconds. -/
theorem fraction_point
    {width n : Nat} {rest : List Char} (hpos : 0 < width) (hwidth : width ≤ 9)
    (hn : n < 10 ^ width) (hrest : ∀ c ∈ rest.head?, isDigit c = false) :
    fraction ('.' :: Instant.digits width n ++ rest) =
      .ok (n * powerOfTen (9 - width), rest) := by
  have hlength := Instant.length_digits hpos hn
  have hvalue := Instant.digitsValue_digits width n
  have hnumber : number (some 9) (Instant.digits width n ++ rest) = .ok (n, rest) := by
    rw [number_append (Instant.digits_ne_nil _ _) (fun _ => Instant.isDigit_of_mem_digits),
      hvalue]
    · rw [hvalue]
      calc
        n < 10 ^ width := hn
        _ ≤ 10 ^ 9 := Nat.pow_le_pow_right (by decide) hwidth
        _ < numberBound := by decide
    · intro m hm
      cases hm
      omega
    · exact Or.inr hrest
  have hused : (Instant.digits width n ++ rest).length - rest.length = width := by
    rw [List.length_append]
    omega
  have hdrop : rest.dropWhile isDigit = rest :=
    (takeWhile_append_of_stop rest (List.forall_mem_nil _) hrest).2
  rw [List.cons_append, fraction_cons, bind_of_ok hnumber,
    bind_get, hused,
    bind_modify, hdrop]
  rfl

theorem fraction_of_head (cs : List Char) (hcs : cs.head? ≠ some '.') :
    fraction cs = .ok (0, cs) := by
  unfold fraction
  rw [bind_get]
  cases cs with
  | nil => rfl
  | cons c cs =>
      have hc : c ≠ '.' := by simpa using hcs
      simp only [List.cons.injEq, hc, false_and, imp_self, implies_true]
      rfl

theorem fraction_fractionText {n : Nat} {rest : List Char} (hn : n < Instant.nanosPerSecond)
    (hrest : ∀ c ∈ rest.head?, isDigit c = false) (hpoint : rest.head? ≠ some '.') :
    fraction (Instant.fractionText n ++ rest) = .ok (n, rest) := by
  unfold Instant.nanosPerSecond at hn
  unfold Instant.fractionText
  split
  · rename_i hzero
    subst hzero
    exact fraction_of_head rest hpoint
  split
  · have hunit : n / 1000000 * powerOfTen (9 - 3) = n := by
      rw [show powerOfTen (9 - 3) = 1000000 from rfl]
      omega
    rw [fraction_point (by decide) (by decide) (by omega) hrest, hunit]
  split
  · have hunit : n / 1000 * powerOfTen (9 - 6) = n := by
      rw [show powerOfTen (9 - 6) = 1000 from rfl]
      omega
    rw [fraction_point (by decide) (by decide) (by omega) hrest, hunit]
  · rw [fraction_point (by decide) (by decide) hn hrest,
      show n * powerOfTen (9 - 9) = n from Nat.mul_one n]

theorem zone_z : zone ['Z'] = .ok (0, []) := by
  rfl

/-! ## What can be read -/

/-- What holds of every value that a reader gives. -/
def Ensures (r : Reader α) (p : α → Prop) : Prop :=
  ∀ cs a rest, r cs = .ok (a, rest) → p a

theorem Ensures.bind {r : Reader α} {f : α → Reader β} {p : α → Prop} {q : β → Prop}
    (hr : r.Ensures p) (hf : ∀ a, p a → (f a).Ensures q) : (r >>= f).Ensures q := by
  intro cs b rest hb
  change (r cs).bind (fun p => f p.1 p.2) = .ok (b, rest) at hb
  cases hread : r cs with
  | error e =>
      rw [hread] at hb
      cases hb
  | ok result =>
      obtain ⟨a, next⟩ := result
      rw [hread] at hb
      exact hf a (hr cs a next hread) next b rest hb

theorem Ensures.of_forall {r : Reader α} {f : α → Reader β} {q : β → Prop}
    (hf : ∀ a, (f a).Ensures q) : (r >>= f).Ensures q :=
  Ensures.bind (fun _ _ _ _ => True.intro) fun a (_ : True) => hf a

theorem ensures_throw (e : ReadError) (p : α → Prop) : (throw e : Reader α).Ensures p := by
  intro cs a rest h
  cases h

theorem ensures_throw_bind (e : ReadError) (f : α → Reader β) (q : β → Prop) :
    ((throw e : Reader α) >>= f).Ensures q := by
  intro cs b rest h
  cases h

theorem ensures_pure {p : α → Prop} {a : α} (ha : p a) : (pure a : Reader α).Ensures p := by
  intro cs b rest h
  cases h
  exact ha

theorem ensures_field (least most : Nat) :
    (field least most).Ensures fun n => least ≤ n ∧ n ≤ most := by
  unfold field
  refine .of_forall fun _ => .of_forall fun n => ?_
  split
  · rename_i hn
    exact ensures_pure hn
  · exact ensures_throw _ _

/-- Distances from universal time are whole minutes. -/
theorem ensures_zone : zone.Ensures (· % 60 = 0) := by
  unfold zone offset
  refine .of_forall fun cs => ?_
  split
  · exact .of_forall fun _ => ensures_pure rfl
  refine .of_forall fun cs => ?_
  split
  · exact ensures_throw _ _
  split
  · exact .of_forall fun _ => ensures_pure rfl
  split
  · refine .of_forall fun _ => .of_forall fun hours => .of_forall fun _ =>
      .of_forall fun minutes => ensures_pure ?_
    split <;> omega
  · exact ensures_throw _ _

/-- A fraction is less than a second. -/
theorem ensures_fraction : fraction.Ensures (· < Instant.nanosPerSecond) := by
  intro cs nanos final h
  unfold fraction at h
  rw [bind_get] at h
  split at h
  · rename_i text
    rw [bind_set] at h
    cases hread : number (some 9) text with
    | error e =>
        change (number (some 9) text).bind _ = _ at h
        rw [hread] at h
        cases h
    | ok result =>
        obtain ⟨n, rest⟩ := result
        rw [bind_of_ok hread] at h
        cases h
        obtain ⟨ds, rfl, hlength, hn⟩ := eq_of_number hread
        have hused : (ds ++ rest).length - rest.length = ds.length := by
          rw [List.length_append]
          omega
        have hpow : 10 ^ ds.length * powerOfTen (9 - ds.length) = Instant.nanosPerSecond := by
          rw [show powerOfTen (9 - ds.length) = 10 ^ (9 - ds.length) from rfl, ← Nat.pow_add,
            Nat.add_sub_cancel' hlength]
          rfl
        rw [hused, ← hpow]
        exact Nat.mul_lt_mul_of_pos_right hn (Nat.pow_pos (by decide))
  · cases h
    decide

end Reader

end TraceCheck.Time
