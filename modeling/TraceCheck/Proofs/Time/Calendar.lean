import TraceCheck.Time.Calendar

/-!
# The calendar numbers its days

The day with a number exists, and its number is that one.  The days of an era are
taken apart into centuries, cycles of four years, years and days for this.
-/

namespace TraceCheck.Time

/-! ## Years -/

/-- The year of an era that one of its days lies in. -/
def yearOfEra (day : Int) : Int :=
  (day - day / 1460 + day / 36524 - day / 146096) / 365

/-- The days of an era before one of its years. -/
def daysBefore (year : Int) : Int :=
  365 * year + year / 4 - year / 100

/-- A day of an era: whole centuries, cycles of four years, years and days.  Only a year
that closes a cycle has a day 365, and one that closes a century only if it closes the era. -/
structure EraDay where
  century : Int
  cycle : Int
  year : Int
  day : Int
  century_mem : 0 ≤ century ∧ century ≤ 3
  cycle_mem : 0 ≤ cycle ∧ cycle ≤ 24
  year_mem : 0 ≤ year ∧ year ≤ 3
  day_mem : 0 ≤ day ∧ day ≤ 365
  leap : day = 365 → year = 3 ∧ (cycle = 24 → century = 3)

namespace EraDay

/-- The number of the day in the era. -/
def number (e : EraDay) : Int :=
  36524 * e.century + 1461 * e.cycle + 365 * e.year + e.day

/-- The number of the year in the era. -/
def yearNumber (e : EraDay) : Int :=
  100 * e.century + 4 * e.cycle + e.year

theorem daysBefore_yearNumber (e : EraDay) : daysBefore e.yearNumber = e.number - e.day := by
  obtain ⟨century, cycle, year, day, hcentury, hcycle, hyear, -, -⟩ := e
  simp only [daysBefore, yearNumber, number]
  omega

theorem yearNumber_mem (e : EraDay) : 0 ≤ e.yearNumber ∧ e.yearNumber < 400 := by
  obtain ⟨century, cycle, year, day, hcentury, hcycle, hyear, -, -⟩ := e
  simp only [yearNumber]
  omega

theorem yearOfEra_number (e : EraDay) : yearOfEra e.number = e.yearNumber := by
  obtain ⟨century, cycle, year, day, hcentury, hcycle, hyear, hday, hleap⟩ := e
  simp only [yearOfEra, yearNumber, number]
  generalize hn : 36524 * century + 1461 * cycle + 365 * year + day = n
  -- the last day of the era is the only one that the quotients below count twice
  by_cases hlast : n = 146096
  · obtain ⟨rfl, rfl, rfl⟩ : century = 3 ∧ cycle = 24 ∧ year = 3 := by omega
    rw [hlast]
    rfl
  · have hcenturies : n / 36524 = century ∧ n / 146096 = 0 := by omega
    have hcycles : n / 1460 = 25 * century + cycle +
        (24 * century + cycle + 365 * year + day) / 1460 := by omega
    rw [hcenturies.1, hcenturies.2, hcycles]
    omega

theorem number_mem (e : EraDay) : 0 ≤ e.number ∧ e.number < daysInEra := by
  obtain ⟨century, cycle, year, day, hcentury, hcycle, hyear, hday, hleap⟩ := e
  simp only [number, daysInEra]
  omega

end EraDay

theorem exists_number_eq {day : Int} (hlow : 0 ≤ day) (hhigh : day < daysInEra) :
    ∃ e : EraDay, e.number = day := by
  unfold daysInEra at hhigh
  rcases Int.lt_or_eq_of_le (Int.le_sub_one_of_lt hhigh) with hday | hday
  · let inCycle := day % 36524 % 1461
    let year := min (inCycle / 365) 3
    refine ⟨⟨day / 36524, day % 36524 / 1461, year, inCycle - 365 * year,
      ?_, ?_, ?_, ?_, ?_⟩, ?_⟩
    case refine_6 =>
      simp only [EraDay.number]
      omega
    all_goals omega
  · exact ⟨⟨3, 24, 3, 365, by decide, by decide, by decide, by decide, by decide⟩, hday.symm⟩

/-! ## Months -/

/-- The month of a year that one of its days lies in, from March. -/
def monthOfYear (day : Int) : Int :=
  (5 * day + 2) / 153

/-- The days of a year before one of its months. -/
def daysBeforeMonth (month : Int) : Int :=
  (153 * month + 2) / 5

/-- A day of an era as a day of the calendar. -/
def EraDay.date (e : EraDay) (era : Int) : Date :=
  let month := monthOfYear e.day
  let day := e.day - daysBeforeMonth month + 1
  let year := e.yearNumber + era * 400
  if month < 10 then ⟨year, (month + 3).toNat, day.toNat⟩
  else ⟨year + 1, (month - 9).toNat, day.toNat⟩

/-- The months have their lengths. -/
theorem monthOfYear_spec {day month : Int} (hlow : 0 ≤ day) (hhigh : day ≤ 365)
    (hmonth : monthOfYear day = month) :
    (0 ≤ month ∧ month ≤ 11) ∧
      (daysBeforeMonth month ≤ day ∧ day ≤ daysBeforeMonth month + 30) ∧
      (month = 1 ∨ month = 3 ∨ month = 6 ∨ month = 8 → day ≤ daysBeforeMonth month + 29) ∧
      (month = 11 → day ≤ daysBeforeMonth month + 27 ∨
        day = 365 ∧ day ≤ daysBeforeMonth month + 28) := by
  subst hmonth
  unfold monthOfYear daysBeforeMonth
  omega

/-- The number of a day, from its year and month counted from March. -/
theorem toDays_eq
    {era yearFrom day : Int} (hlow : 0 ≤ yearFrom) (hhigh : yearFrom < 400) (monthFrom : Int)
    {year : Int} {month dayOfMonth : Nat}
    (hyear : (if month ≤ 2 then year - 1 else year) = yearFrom + era * 400)
    (hmonth : ((month : Int) + 9) % 12 = monthFrom)
    (hday : (dayOfMonth : Int) = day - daysBeforeMonth monthFrom + 1) :
    Date.toDays ⟨year, month, dayOfMonth⟩ =
      era * daysInEra + (daysBefore yearFrom + day) - epochDay := by
  have hera : (yearFrom + era * 400) / 400 = era := by omega
  have hrest : (yearFrom + era * 400) % 400 = yearFrom := by omega
  unfold Date.toDays
  simp only [hyear, hmonth, hera, hrest]
  unfold daysBeforeMonth at hday
  unfold daysBefore
  omega

theorem EraDay.toDays_date (e : EraDay) (era : Int) :
    (e.date era).toDays = era * daysInEra + e.number - epochDay := by
  obtain ⟨hmonth, hday, -, -⟩ := monthOfYear_spec e.day_mem.1 e.day_mem.2 rfl
  obtain ⟨hlow, hhigh⟩ := e.yearNumber_mem
  have hnumber : e.number = daysBefore e.yearNumber + e.day := by
    rw [e.daysBefore_yearNumber]
    omega
  rw [hnumber]
  unfold EraDay.date
  dsimp only
  split
  · refine toDays_eq hlow hhigh (monthOfYear e.day) ?_ ?_ ?_
    · rw [if_neg (by omega)]
    · omega
    · omega
  · refine toDays_eq hlow hhigh (monthOfYear e.day) ?_ ?_ ?_
    · rw [if_pos (by omega)]
      omega
    · omega
    · omega

theorem EraDay.ofDays_number (e : EraDay) (era : Int) :
    Date.ofDays (era * daysInEra + e.number - epochDay) = e.date era := by
  obtain ⟨hlow, hhigh⟩ := e.number_mem
  have hshift : era * daysInEra + e.number - epochDay + epochDay =
      e.number + era * daysInEra := by
    omega
  have hera : (e.number + era * daysInEra) / daysInEra = era := by
    rw [Int.add_mul_ediv_right _ _ (by decide), Int.ediv_eq_zero_of_lt hlow hhigh, Int.zero_add]
  have hrest : (e.number + era * daysInEra) % daysInEra = e.number := by
    rw [Int.add_mul_emod_self_right, Int.emod_eq_of_lt hlow hhigh]
  have hyear := e.yearOfEra_number
  have hday : e.number - daysBefore e.yearNumber = e.day := by
    rw [e.daysBefore_yearNumber]
    omega
  unfold yearOfEra at hyear
  unfold daysBefore at hday
  unfold Date.ofDays
  simp only [hshift, hera, hrest, hyear, hday]
  rfl

theorem le_daysInMonth
    {year : Int} {month day : Nat} (hlong : day ≤ 31)
    (hshort : month = 4 ∨ month = 6 ∨ month = 9 ∨ month = 11 → day ≤ 30)
    (hfebruary : month = 2 → day ≤ 28 ∨ day ≤ 29 ∧ isLeapYear year = true) :
    day ≤ daysInMonth year month := by
  unfold daysInMonth
  split
  case h_5 =>
    rcases hfebruary rfl with hday | ⟨hday, hleap⟩
    · split <;> omega
    · rw [if_pos hleap]
      exact hday
  all_goals omega

theorem EraDay.isLeapYear_of_day_eq (e : EraDay) (era : Int) (hday : e.day = 365) :
    isLeapYear (e.yearNumber + era * 400 + 1) = true := by
  obtain ⟨hyear, hclose⟩ := e.leap hday
  obtain ⟨hlow, hhigh⟩ := e.century_mem
  obtain ⟨hfirst, hlast⟩ := e.cycle_mem
  simp only [isLeapYear, yearNumber, hyear, Bool.and_eq_true, Bool.or_eq_true, bne_iff_ne, beq_iff_eq]
  omega

theorem EraDay.exists_date (e : EraDay) (era : Int) : (e.date era).exists = true := by
  have hleap := e.isLeapYear_of_day_eq era
  unfold EraDay.date
  generalize hmonth : monthOfYear e.day = month
  obtain ⟨hbound, hday, hshort, hfebruary⟩ := monthOfYear_spec e.day_mem.1 e.day_mem.2 hmonth
  dsimp only
  split
  · simp only [Date.exists, Bool.and_eq_true, decide_eq_true_eq]
    refine ⟨⟨⟨?_, ?_⟩, ?_⟩, le_daysInMonth ?_ ?_ ?_⟩ <;> omega
  · simp only [Date.exists, Bool.and_eq_true, decide_eq_true_eq]
    refine ⟨⟨⟨?_, ?_⟩, ?_⟩, le_daysInMonth ?_ ?_ ?_⟩
    case refine_6 =>
      intro heq
      rcases hfebruary (by omega) with hlt | ⟨hlast, hlt⟩
      · exact Or.inl (by omega)
      · exact Or.inr ⟨by omega, hleap hlast⟩
    all_goals omega

/-! ## Days -/

theorem exists_eraDay (n : Int) :
    ∃ (era : Int) (e : EraDay), n = era * daysInEra + e.number - epochDay := by
  obtain ⟨e, he⟩ := exists_number_eq
    (Int.emod_nonneg (n + epochDay) (by decide)) (Int.emod_lt_of_pos _ (by decide))
  refine ⟨(n + epochDay) / daysInEra, e, ?_⟩
  rw [he, Int.mul_comm, Int.mul_ediv_add_emod]
  omega

/-- The day with a number has that number. -/
theorem toDays_ofDays (n : Int) : (Date.ofDays n).toDays = n := by
  obtain ⟨era, e, rfl⟩ := exists_eraDay n
  rw [e.ofDays_number, e.toDays_date]

/-- The day with a number exists. -/
theorem exists_ofDays (n : Int) : (Date.ofDays n).exists = true := by
  obtain ⟨era, e, rfl⟩ := exists_eraDay n
  rw [e.ofDays_number, e.exists_date]

end TraceCheck.Time
