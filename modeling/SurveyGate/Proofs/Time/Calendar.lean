import Mathlib.Tactic.IntervalCases
import SurveyGate.Time.Calendar

/-!
# `SurveyGate.Proofs.Time.Calendar`: days and their dates

`Date.ofDays` finds the year of a day by taking out the leap days before it, and the month from the
days since March. `yearOfEra_spec` and `monthFromMarch_spec` say that both land in the year and the
month that hold the day. So the date of a day is one the calendar has (`isValid_ofDays`), it counts
back to the day (`toDays_ofDays`), and later days have later years (`le_year_ofDays_iff`).
-/

set_option autoImplicit false

namespace SurveyGate.Date

/-! ### The year in the era -/

/-- The year of the era that holds a day. -/
def yearOfEra (day : Nat) : Nat := (day - day / 1460 + day / 36524 - day / 146096) / 365

/-- A year of the era that ends with a leap day. -/
def EndsInLeapDay (year : Nat) : Prop := year % 4 = 3 ∧ (year % 100 ≠ 99 ∨ year = 399)

section
variable {century day : Nat}

/-- A day of the era lies in one of four centuries. The fourth one has a day more. -/
theorem exists_century (h : day < 146097) :
    ∃ century rest, day = 36524 * century + rest ∧ century ≤ 3 ∧
      (rest < 36524 ∨ century = 3 ∧ rest = 36524) := by
  -- The last day of the era would fall into a fifth century.
  refine ⟨day / 36524 - day / 146096, day - 36524 * (day / 36524 - day / 146096), ?_⟩
  omega

/-- The leap days of whole centuries add up to the years before a day of a century. -/
theorem yearOfEra_century (hcentury : century ≤ 3) (h : day < 36524 ∨ century = 3 ∧ day = 36524) :
    yearOfEra (36524 * century + day) =
      100 * century + (day - (24 * century + day) / 1460) / 365 := by
  unfold yearOfEra
  omega

/-- In a century every fourth year has a leap day, but the last one only in the fourth century. -/
theorem yearOfCentury_spec (hcentury : century ≤ 3)
    (h : day < 36524 ∨ century = 3 ∧ day = 36524) :
    let year := (day - (24 * century + day) / 1460) / 365
    year < 100 ∧ 365 * year + year / 4 ≤ day ∧
      (day < 365 * year + year / 4 + 365 ∨
        day = 365 * year + year / 4 + 365 ∧ year % 4 = 3 ∧ (year ≠ 99 ∨ century = 3)) := by
  intro year
  omega

/-- The year found for a day begins no later than the day, and ends no earlier. -/
theorem yearOfEra_spec (h : day < 146097) :
    yearOfEra day < 400 ∧ daysBeforeYear (yearOfEra day) ≤ day ∧
      (day < daysBeforeYear (yearOfEra day) + 365 ∨
        day = daysBeforeYear (yearOfEra day) + 365 ∧ EndsInLeapDay (yearOfEra day)) := by
  obtain ⟨century, day, rfl, hcentury, hday⟩ := exists_century h
  have hspec := yearOfCentury_spec hcentury hday
  rw [yearOfEra_century hcentury hday]
  generalize (day - (24 * century + day) / 1460) / 365 = year at hspec ⊢
  obtain ⟨hyear, hstart, hstop⟩ := hspec
  have hbefore : daysBeforeYear (100 * century + year) =
      36524 * century + (365 * year + year / 4) := by
    unfold daysBeforeYear
    omega
  unfold EndsInLeapDay
  omega

end

/-! ### The month in the year -/

section
variable {dayOfYear month : Nat}

/-- The month that holds a day of the year, counted from March. -/
def monthFromMarch (dayOfYear : Nat) : Nat := (5 * dayOfYear + 2) / 153

/-- The month of the calendar for a month counted from March. -/
def monthOf (monthFromMarch : Nat) : Nat :=
  if monthFromMarch < 10 then monthFromMarch + 3 else monthFromMarch - 9

/-- The month found for a day begins no later than the day, and the next one begins after it. -/
theorem monthFromMarch_spec (h : dayOfYear ≤ 365) :
    monthFromMarch dayOfYear < 12 ∧ daysBeforeMonth (monthFromMarch dayOfYear) ≤ dayOfYear ∧
      dayOfYear < daysBeforeMonth (monthFromMarch dayOfYear + 1) := by
  unfold monthFromMarch daysBeforeMonth
  omega

/-- A month counted from March, counted back from January. -/
theorem monthOf_add_nine (h : month < 12) : (monthOf month + 9) % 12 = month := by
  unfold monthOf
  split <;> omega

/-- A month counted from March is one of the twelve. -/
theorem monthOf_range (h : month < 12) : 1 ≤ monthOf month ∧ monthOf month ≤ 12 := by
  unfold monthOf
  split <;> omega

/-- The months from January on belong to the year after the one counted from March. -/
theorem monthOf_le_two_iff (h : month < 12) : monthOf month ≤ 2 ↔ 10 ≤ month := by
  unfold monthOf
  split <;> omega

/-- A month lasts up to the next one, but for February. -/
theorem daysInMonth_monthOf (h : month < 11) (year : Int) :
    daysInMonth year (monthOf month) = daysBeforeMonth (month + 1) - daysBeforeMonth month := by
  interval_cases month <;> rfl

end

/-! ### Dates in an era -/

/-- The date in an era whose year and month are counted from March, and whose day is counted from
zero. -/
def ofEra (era : Int) (year month day : Nat) : Date where
  year := if monthOf month ≤ 2 then era * 400 + year + 1 else era * 400 + year
  month := monthOf month
  day := day + 1

/-- The parts of a date in an era fit together. -/
structure InEra (year month day : Nat) : Prop where
  year_lt : year < 400
  month_lt : month < 12
  day_lt : daysBeforeMonth month + day < daysBeforeMonth (month + 1)
  day_le : daysBeforeMonth month + day ≤ 365
  endsInLeapDay : daysBeforeMonth month + day = 365 → EndsInLeapDay year

/-- A year is a leap year when the year from March before it ends in a leap day. -/
theorem isLeapYear_iff (era : Int) {year : Nat} (h : year < 400) :
    isLeapYear (era * 400 + year + 1) = true ↔ EndsInLeapDay year := by
  simp only [isLeapYear, EndsInLeapDay, Bool.and_eq_true, Bool.or_eq_true, beq_iff_eq, bne_iff_ne]
  omega

/-- The date of a day is the one in its era with that day of the era. -/
theorem exists_ofEra (days : Int) :
    ∃ era year month day, InEra year month day ∧ ofDays days = ofEra era year month day ∧
      days + 719468 =
        era * 146097 + ↑(daysBeforeYear year + (daysBeforeMonth month + day)) := by
  obtain ⟨day, hday⟩ : ∃ day, day = ((days + 719468) % 146097).toNat := ⟨_, rfl⟩
  obtain ⟨dayOfYear, hdayOfYear⟩ : ∃ d, d = day - daysBeforeYear (yearOfEra day) := ⟨_, rfl⟩
  have hinEra : day < 146097 := by omega
  obtain ⟨hyear, hyearStart, hyearStop⟩ := yearOfEra_spec hinEra
  have hinYear : dayOfYear ≤ 365 := by omega
  obtain ⟨hmonth, hmonthStart, hmonthStop⟩ := monthFromMarch_spec hinYear
  have hparts : daysBeforeMonth (monthFromMarch dayOfYear) +
      (dayOfYear - daysBeforeMonth (monthFromMarch dayOfYear)) = dayOfYear := by omega
  refine ⟨(days + 719468) / 146097, yearOfEra day, monthFromMarch dayOfYear,
    dayOfYear - daysBeforeMonth (monthFromMarch dayOfYear), ?_, ?_, ?_⟩
  · refine ⟨hyear, hmonth, ?_, ?_, fun hlast => ?_⟩ <;> rw [hparts] at *
    · exact hmonthStop
    · omega
    · exact (hyearStop.resolve_left (by omega)).2
  · subst hdayOfYear hday
    rfl
  · rw [hparts]
    omega

variable {era : Int} {year month day : Nat}

/-- The year of a date, counted from March. -/
def yearFromMarch (d : Date) : Int := if d.month ≤ 2 then d.year - 1 else d.year

/-- The days of a date are those of its era, its place in the era and the start of 1970. -/
theorem toDays_eq (d : Date) :
    d.toDays = d.yearFromMarch / 400 * 146097
      + dayOfEra (d.yearFromMarch % 400).toNat ((d.month + 9) % 12) d.day - 719468 :=
  rfl

/-- The year from March that a date was made of. -/
theorem yearFromMarch_ofEra (era : Int) (year month day : Nat) :
    (ofEra era year month day).yearFromMarch = era * 400 + year := by
  unfold yearFromMarch ofEra
  dsimp only
  split <;> omega

/-- A date in an era counts back to its day. -/
theorem toDays_ofEra (h : InEra year month day) :
    (ofEra era year month day).toDays =
      era * 146097 + ↑(daysBeforeYear year + (daysBeforeMonth month + day)) - 719468 := by
  have hyear := h.year_lt
  have hera : (era * 400 + (year : Int)) / 400 = era := by omega
  have hrest : ((era * 400 + (year : Int)) % 400).toNat = year := by omega
  have hmonth : ((ofEra era year month day).month + 9) % 12 = month := monthOf_add_nine h.month_lt
  have hday : (ofEra era year month day).day - 1 = day := Nat.add_sub_cancel ..
  rw [toDays_eq, yearFromMarch_ofEra, hera, hrest, hmonth, dayOfEra, hday, Nat.add_assoc]

/-- No month has more than 31 days. -/
theorem daysInMonth_le (year : Int) (month : Nat) : daysInMonth year month ≤ 31 := by
  unfold daysInMonth
  split
  · split <;> decide
  all_goals decide

/-- A date is valid when its month and its day are in range. -/
theorem isValid_iff (d : Date) :
    d.isValid = true ↔
      ((1 ≤ d.month ∧ d.month ≤ 12) ∧ 1 ≤ d.day) ∧ d.day ≤ daysInMonth d.year d.month := by
  simp [isValid]

/-- The calendar has the date in an era whose parts fit together. -/
theorem isValid_ofEra (h : InEra year month day) : (ofEra era year month day).isValid = true := by
  obtain ⟨hfirst, hlast⟩ := monthOf_range h.month_lt
  have hday : day + 1 ≤ daysInMonth (ofEra era year month day).year (monthOf month) := by
    by_cases hmonth : month < 11
    · rw [daysInMonth_monthOf hmonth]
      have hlt := h.day_lt
      omega
    · -- February ends the year counted from March, with its leap day if there is one.
      obtain rfl : month = 11 := by
        have := h.month_lt
        omega
      have hle := h.day_le
      have hfebruary : daysBeforeMonth 11 = 337 := rfl
      show day + 1 ≤ if isLeapYear (era * 400 + year + 1) then 29 else 28
      split
      · omega
      · rename_i hcommon
        have hshort : day ≠ 28 := fun hleap =>
          hcommon ((isLeapYear_iff era h.year_lt).2 (h.endsInLeapDay (by omega)))
        omega
  exact (isValid_iff _).2 ⟨⟨⟨hfirst, hlast⟩, Nat.le_add_left 1 day⟩, hday⟩

/-! ### Days and dates -/

/-- The date of a day counts back to the day. -/
theorem toDays_ofDays (days : Int) : (ofDays days).toDays = days := by
  obtain ⟨era, year, month, day, hfit, hdate, hdays⟩ := exists_ofEra days
  rw [hdate, toDays_ofEra hfit]
  omega

/-- The date of a day is one the calendar has. -/
theorem isValid_ofDays (days : Int) : (ofDays days).isValid = true := by
  obtain ⟨era, year, month, day, hfit, hdate, -⟩ := exists_ofEra days
  rw [hdate]
  exact isValid_ofEra hfit

/-- A year of the era has at least 365 days. -/
theorem daysBeforeYear_add_le {a b : Nat} (h : a < b) :
    daysBeforeYear a + 365 ≤ daysBeforeYear b := by
  unfold daysBeforeYear
  -- The next year has these days and perhaps one more; behind it there are days to spare.
  rcases Nat.eq_or_lt_of_le (Nat.succ_le_of_lt h) with rfl | hspare
  · omega
  · omega

/-- Every year of an era ends within the era. -/
theorem daysBeforeYear_lt {a : Nat} (h : a < 400) : daysBeforeYear a + 365 < 146097 := by
  unfold daysBeforeYear
  omega

/-- The first day of a year, in the year counted from March before it. -/
theorem toDays_first (year : Int) :
    toDays ⟨year, 1, 1⟩ =
      (year - 1) / 400 * 146097 + ↑(daysBeforeYear ((year - 1) % 400).toNat + 306) - 719468 := by
  have hmarch : yearFromMarch ⟨year, 1, 1⟩ = year - 1 := rfl
  have hjanuary (y : Nat) : dayOfEra y ((1 + 9) % 12) 1 = daysBeforeYear y + 306 := rfl
  rw [toDays_eq, hmarch, hjanuary]

/-- From the first day of a year on, days lie in that year or a later one. -/
theorem le_year_ofDays_iff (year days : Int) :
    year ≤ (ofDays days).year ↔ toDays ⟨year, 1, 1⟩ ≤ days := by
  obtain ⟨era, y, month, day, hfit, hdate, hdays⟩ := exists_ofEra days
  have hyear : (ofDays days).year = era * 400 + y + if 10 ≤ month then 1 else 0 := by
    rw [hdate]
    simp only [ofEra, monthOf_le_two_iff hfit.month_lt]
    split <;> omega
  have hmonth : 10 ≤ month ↔ 306 ≤ daysBeforeMonth month + day := by
    have hlt := hfit.day_lt
    unfold daysBeforeMonth at hlt ⊢
    omega
  have hle := hfit.day_le
  have hlt := hfit.year_lt
  rw [hyear, toDays_first]
  simp only [hmonth]
  -- Both days are compared by their eras, then by the years in the era.
  obtain ⟨r, hr⟩ : ∃ r, r = ((year - 1) % 400).toNat := ⟨_, rfl⟩
  have hr400 : r < 400 := by omega
  have hylast := daysBeforeYear_lt hlt
  have hrlast := daysBeforeYear_lt hr400
  rw [← hr]
  rcases Nat.lt_trichotomy r y with hearlier | rfl | hlater
  · have hyears := daysBeforeYear_add_le hearlier
    split <;> omega
  · split <;> omega
  · have hyears := daysBeforeYear_add_le hlater
    split <;> omega

end SurveyGate.Date
