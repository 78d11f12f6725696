import TraceCheck.Proofs.Time.Calendar
import TraceCheck.Proofs.Time.Reading

/-!
# Instants are read as they are written

The instants that a text can describe are those whose leap seconds close a minute
and whose years are within bounds.  Each of them is read again from its text.
-/

namespace TraceCheck.Time

open TraceCheck.Decimal

namespace Instant

/-- The instants that a text can describe: a leap second closes a minute, and the year is
within bounds. -/
structure IsReadable (t : Instant) : Prop where
  nanos : t.nanos < 2 * nanosPerSecond
  leap : nanosPerSecond ≤ t.nanos → t.seconds % 60 = 59
  year : isYear (Date.ofDays (t.seconds / secondsPerDay)).year = true

theorem ensures_instant : Reader.instant.Ensures IsReadable := by
  unfold Reader.instant
  -- the date and the mark behind it
  refine .of_forall fun year => .of_forall fun _ => .of_forall fun _ => .of_forall fun month =>
    .of_forall fun _ => .of_forall fun _ => .of_forall fun day => .of_forall fun _ => ?_
  dsimp only
  split
  · exact Reader.ensures_throw_bind _ _ _
  split
  case isFalse => exact Reader.ensures_throw_bind _ _ _
  -- the time and the distance from universal time
  refine .of_forall fun _ => .of_forall fun hour => .of_forall fun _ => .of_forall fun _ =>
    .of_forall fun minute => .of_forall fun _ => .of_forall fun _ =>
    (Reader.ensures_field 0 60).bind fun second hsecond =>
    Reader.ensures_fraction.bind fun nanos hnanos => .of_forall fun _ =>
    Reader.ensures_zone.bind fun offset hoffset => .of_forall fun _ => ?_
  split
  · exact Reader.ensures_throw_bind _ _ _
  split
  · exact Reader.ensures_throw_bind _ _ _
  split
  · exact Reader.ensures_throw_bind _ _ _
  split
  · exact Reader.ensures_throw_bind _ _ _
  rename_i hyear
  refine Reader.ensures_pure ⟨?_, ?_, ?_⟩
  · dsimp only
    split <;> omega
  · dsimp only
    split
    · rename_i hleap
      intro _
      rw [hleap, secondsPerDay]
      omega
    · omega
  · simpa using hyear

theorem head_ne_digit {c : Char} {cs : List Char} (hc : isDigit c = false) :
    ∀ d ∈ (c :: cs).head?, isDigit d = false :=
  fun _ hd => Option.some.inj hd ▸ hc

/-- A date and a time in universal time as text. -/
def civilText (date : Date) (hour minute second nanos : Nat) : List Char :=
  yearText date.year ++ '-' :: (digits 2 date.month ++ '-' :: (digits 2 date.day ++ 'T' ::
    (digits 2 hour ++ ':' :: (digits 2 minute ++ ':' :: (digits 2 second ++
      (fractionText nanos ++ ['Z']))))))

/-- The moment of a date and a time in universal time. -/
def ofCivil (date : Date) (hour minute second nanos : Nat) : Instant :=
  ⟨date.toDays * secondsPerDay + hour * 3600 + minute * 60 + (min second 59 : Nat),
    if second = 60 then nanos + nanosPerSecond else nanos⟩

theorem exists_iff {date : Date} :
    date.exists = true ↔ (1 ≤ date.month ∧ date.month ≤ 12) ∧
      1 ≤ date.day ∧ date.day ≤ daysInMonth date.year date.month := by
  simp only [Date.exists, Bool.and_eq_true, decide_eq_true_eq, and_assoc]

theorem isYear_iff {y : Int} : isYear y = true ↔ -262143 ≤ y ∧ y ≤ 262142 := by
  simp only [isYear, Bool.and_eq_true, decide_eq_true_eq]
  rfl

theorem daysInMonth_le (year : Int) (month : Nat) : daysInMonth year month ≤ 31 := by
  unfold daysInMonth
  split <;> first | decide | (split <;> decide)

theorem instant_civilText
    {date : Date} {hour minute second nanos : Nat} (hdate : date.exists = true)
    (hyear : isYear date.year = true) (hhour : hour ≤ 23) (hminute : minute ≤ 59)
    (hsecond : second ≤ 60) (hnanos : nanos < nanosPerSecond)
    (hmoment : isYear (Date.ofDays
      ((ofCivil date hour minute second nanos).seconds / secondsPerDay)).year = true) :
    Reader.instant (civilText date hour minute second nanos) =
      .ok (ofCivil date hour minute second nanos, []) := by
  obtain ⟨⟨hmonthLow, hmonthHigh⟩, hdayLow, hdayHigh⟩ := exists_iff.mp hdate
  have hmonth := daysInMonth_le date.year date.month
  have hbounds := isYear_iff.mp hyear
  unfold Reader.instant civilText
  rw [Reader.bind_of_ok (Reader.year_yearText (by omega) (by omega) (head_ne_digit rfl)),
    Reader.bind_of_ok (Reader.blanks_cons rfl _), Reader.bind_of_ok (Reader.mark_cons _ _),
    Reader.bind_of_ok (Reader.field_digits _ hmonthLow hmonthHigh (by omega)),
    Reader.bind_of_ok (Reader.blanks_cons rfl _), Reader.bind_of_ok (Reader.mark_cons _ _),
    Reader.bind_of_ok (Reader.field_digits _ hdayLow (by omega) (by omega)), Reader.bind_get]
  dsimp only
  rw [if_pos (Or.inl rfl), Reader.bind_set,
    Reader.bind_of_ok (Reader.field_digits _ (Nat.zero_le _) hhour (by omega)),
    Reader.bind_of_ok (Reader.blanks_cons rfl _), Reader.bind_of_ok (Reader.mark_cons _ _),
    Reader.bind_of_ok (Reader.field_digits _ (Nat.zero_le _) hminute (by omega)),
    Reader.bind_of_ok (Reader.blanks_cons rfl _), Reader.bind_of_ok (Reader.mark_cons _ _),
    Reader.bind_of_ok (Reader.field_digits _ (Nat.zero_le _) hsecond (by omega)),
    Reader.bind_of_ok (Reader.fraction_fractionText hnanos (head_ne_digit rfl) (by decide)),
    Reader.bind_of_ok (Reader.blanks_cons rfl _), Reader.bind_of_ok Reader.zone_z,
    Reader.bind_get]
  unfold ofCivil at hmoment ⊢
  simp only [hdate, hyear, hmoment, Int.sub_zero]
  rfl

theorem isReadable_of_ofText {s : String} {t : Instant} (h : ofText s = .ok t) :
    t.IsReadable := by
  unfold ofText at h
  cases hread : Reader.instant.run s.toList with
  | error e =>
      rw [hread] at h
      cases h
  | ok result =>
      rw [hread] at h
      cases h
      exact ensures_instant _ _ _ hread

/-- An instant that a text can describe is read from its own text. -/
theorem ofText_text {t : Instant} (ht : t.IsReadable) : ofText t.text = .ok t := by
  obtain ⟨hnanos, hleap, hyear⟩ := ht
  let date := Date.ofDays (t.seconds / secondsPerDay)
  let time := (t.seconds % secondsPerDay).toNat
  let leap := if nanosPerSecond ≤ t.nanos then 1 else 0
  let nanos := if nanosPerSecond ≤ t.nanos then t.nanos - nanosPerSecond else t.nanos
  have htext : t.text =
      String.ofList (civilText date (time / 3600) (time / 60 % 60) (time % 60 + leap) nanos) := by
    simp only [text, civilText, List.append_assoc, List.cons_append]
    rfl
  have htime : (time : Int) = t.seconds % 86400 :=
    Int.toNat_of_nonneg (Int.emod_nonneg _ (by decide))
  have hunit : nanosPerSecond = 1000000000 := rfl
  have hcases :
      (leap = 1 ∧ time % 60 = 59 ∧ nanos + nanosPerSecond = t.nanos ∧ nanos < nanosPerSecond) ∨
      (leap = 0 ∧ nanos = t.nanos ∧ nanos < nanosPerSecond) := by
    by_cases hbig : nanosPerSecond ≤ t.nanos
    · have hlast := hleap hbig
      have hrest : nanos = t.nanos - nanosPerSecond := if_pos hbig
      exact Or.inl ⟨if_pos hbig, by omega, by omega, by omega⟩
    · have hrest : nanos = t.nanos := if_neg hbig
      exact Or.inr ⟨if_neg hbig, hrest, by omega⟩
  have hnumber : date.toDays = t.seconds / 86400 := toDays_ofDays _
  have hexists : date.exists = true := exists_ofDays _
  have hyearDate : isYear date.year = true := hyear
  clear_value date time leap nanos
  have hcivil : ofCivil date (time / 3600) (time / 60 % 60) (time % 60 + leap) nanos = t := by
    have hsecond : (if time % 60 + leap = 60 then nanos + nanosPerSecond else nanos) = t.nanos := by
      split <;> omega
    have hmin : min (time % 60 + leap) 59 = time % 60 := by omega
    have hseconds : t.seconds / 86400 * 86400 + (time / 3600 : Nat) * 3600 +
        (time / 60 % 60 : Nat) * 60 + (time % 60 : Nat) = t.seconds := by
      omega
    unfold ofCivil secondsPerDay
    rw [hsecond, hmin, hnumber, hseconds]
  have hmoment : isYear (Date.ofDays ((ofCivil date (time / 3600) (time / 60 % 60)
      (time % 60 + leap) nanos).seconds / secondsPerDay)).year = true := by
    rw [hcivil]
    exact hyear
  have hrun := instant_civilText hexists hyearDate (by omega) (by omega) (by omega) (by omega)
    hmoment
  change (Reader.instant t.text.toList).map _ = _
  rw [htext, String.toList_ofList, hrun, hcivil]
  rfl

end Instant

end TraceCheck.Time
