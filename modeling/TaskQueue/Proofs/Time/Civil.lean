import TaskQueue.Time.Civil
import Mathlib.Tactic.IntervalCases

/-!
# Civil dates read back

`civilFromDays` takes a day number to a date of the proleptic Gregorian calendar, and
`daysFromCivil` takes it back: every day number names a valid date, and that date's day
number is the one it came from (`civilFromDays_spec`).

Both count 400-year eras of 146097 days, years starting on the first of March.  The one
fact they rest on is `dayOfEra_bounds`: the year of the era and the day of that year that
`civilFromDays` finds for a day of the era are in range, and the day of the year is the
366th only at the end of a leap year.  Its proof splits the era into centuries of 36524
days and four-year blocks of 1461 days, after which each division of the algorithm is a
plain sum.
-/

namespace TaskQueue.Time

/-- The year of an era (from March) and the day of that year that the algorithm finds for
the day `doe` of the era. -/
theorem dayOfEra_bounds {doe : Nat} (h : doe < 146097) :
  let yoe := (doe - doe / 1460 + doe / 36524 - doe / 146096) / 365
  let doy := doe - (365 * yoe + yoe / 4 - yoe / 100)
  yoe < 400 ∧ 365 * yoe + yoe / 4 - yoe / 100 ≤ doe ∧ doy ≤ 365 ∧
    (doy = 365 → ((yoe + 1) % 4 = 0 ∧ (yoe + 1) % 100 ≠ 0) ∨ (yoe + 1) % 400 = 0)
  := by
  intro yoe doy
  by_cases hlast : doe = 146096
  · -- the last day of an era is the leap day of its 400th year
    subst hlast
    decide
  -- a century of the era, a four-year block of it, and a day of that block
  obtain ⟨c, hc, hc3⟩ : ∃ c, c = doe / 36524 ∧ c ≤ 3 := ⟨_, rfl, by omega⟩
  obtain ⟨q, hq, hq24⟩ : ∃ q, q = (doe - 36524 * c) / 1461 ∧ q ≤ 24 := ⟨_, rfl, by omega⟩
  obtain ⟨s, hs, hs1460⟩ : ∃ s, s = doe - 36524 * c - 1461 * q ∧ s ≤ 1460 := ⟨_, rfl, by omega⟩
  have hA : doe / 1460 = 25 * c + q + (24 * c + q + s) / 1460 := by omega
  have hC : doe / 146096 = 0 := by omega
  have hy : yoe = 100 * c + 4 * q + min (s / 365) 3 := by
    show (doe - doe / 1460 + doe / 36524 - doe / 146096) / 365 = _
    rw [hC, ← hc, hA]
    omega
  have h4 : yoe / 4 = 25 * c + q := by omega
  have h100 : yoe / 100 = c := by omega
  have hd : doy = doe - (365 * yoe + yoe / 4 - yoe / 100) := rfl
  rw [h4, h100] at hd
  clear_value yoe doy
  subst hy
  omega

/-- The day of its 400-year era that `civilFromDays` finds for a day number. -/
theorem dayOfEra_lt (z : Int) :
  (z + 719468 - (z + 719468) / 146097 * 146097).toNat < 146097
  := by
  omega

/-- Every day number names a valid date whose day number it is. -/
theorem civilFromDays_spec (z : Int) :
  isValidDate (civilFromDays z).1 (civilFromDays z).2.1 (civilFromDays z).2.2 = true ∧
    daysFromCivil (civilFromDays z).1 (civilFromDays z).2.1 (civilFromDays z).2.2 = z
  := by
  have hera : 0 ≤ z + 719468 - (z + 719468) / 146097 * 146097 ∧
      z + 719468 - (z + 719468) / 146097 * 146097 < 146097 := by omega
  obtain ⟨hy, hle, hdoy, hleap⟩ := dayOfEra_bounds (dayOfEra_lt z)
  have hdz : ((z + 719468 - (z + 719468) / 146097 * 146097).toNat : Int) =
      z + 719468 - (z + 719468) / 146097 * 146097 := by omega
  simp only [civilFromDays]
  generalize (z + 719468 - (z + 719468) / 146097 * 146097).toNat = doe at *
  generalize (z + 719468) / 146097 = era at *
  generalize (doe - doe / 1460 + doe / 36524 - doe / 146096) / 365 = yoe at *
  have hdoe : doe - (365 * yoe + yoe / 4 - yoe / 100) + (365 * yoe + yoe / 4 - yoe / 100) = doe := by
    omega
  generalize doe - (365 * yoe + yoe / 4 - yoe / 100) = doy at *
  -- the month from March: its first day is at most the day of the year, the next one's is past it
  have hmp : (5 * doy + 2) / 153 ≤ 11 := by omega
  have hstart : (153 * ((5 * doy + 2) / 153) + 2) / 5 ≤ doy := by omega
  have hmonth : doy < (153 * ((5 * doy + 2) / 153 + 1) + 2) / 5 := by omega
  generalize (5 * doy + 2) / 153 = mp at *
  have hfirst : (((153 * mp + 2) / 5 : Nat) : Int) = (153 * (mp : Int) + 2) / 5 := by omega
  constructor
  · -- the day is within its month; only February depends on the year
    interval_cases mp <;> simp [daysInMonth, isLeapYear, isValidDate] <;> (try split_ifs) <;> omega
  · simp only [daysFromCivil]
    have hera4 : ((yoe : Int) + era * 400) / 400 = era := by omega
    generalize hm : (if mp < 10 then mp + 3 else mp - 9) = m
    have hmod : ((m : Int) + 9) % 12 = mp := by split at hm <;> omega
    split_ifs <;> simp only [Int.add_sub_cancel, hera4, hmod] <;> omega

/-- The year of a day lies in the 400-year era that the day falls in. -/
theorem civilFromDays_year_bounds (z : Int) :
  (z + 719468) / 146097 * 400 ≤ (civilFromDays z).1 ∧
    (civilFromDays z).1 ≤ (z + 719468) / 146097 * 400 + 400
  := by
  obtain ⟨hy, -⟩ := dayOfEra_bounds (dayOfEra_lt z)
  simp only [civilFromDays]
  split_ifs <;> omega

/-- A valid date has a month from 1 to 12 and a day from 1 to 31. -/
theorem isValidDate_bounds {y : Int} {m d : Nat} (h : isValidDate y m d = true) :
  1 ≤ m ∧ m ≤ 12 ∧ 1 ≤ d ∧ d ≤ 31
  := by
  have hmonth : daysInMonth y m ≤ 31 := by
    unfold daysInMonth
    split <;> (try split) <;> omega
  simp only [isValidDate, Bool.and_eq_true, decide_eq_true_eq] at h
  omega

end TaskQueue.Time
