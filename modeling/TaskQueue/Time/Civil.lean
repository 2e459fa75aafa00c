/-!
# Civil dates

Dates of the proleptic Gregorian calendar, counted in days from 1970-01-01.
`daysFromCivil` and `civilFromDays` convert between a date `(year, month, day)` and its day
number; they count whole 400-year eras of 146097 days, and inside an era they start each
year on the first of March so that the leap day comes last.
-/

namespace TaskQueue.Time

/-- A year is a leap year when 4 divides it, except for centuries not divisible by 400. -/
def isLeapYear (y : Int) : Bool :=
  (y % 4 == 0 && y % 100 != 0) || y % 400 == 0

/-- The number of days of a month (1 to 12) in a year. -/
def daysInMonth (y : Int) (m : Nat) : Nat :=
  match m with
  | 2 => if isLeapYear y then 29 else 28
  | 4 | 6 | 9 | 11 => 30
  | _ => 31

/-- Whether `(y, m, d)` names a day of the calendar. -/
def isValidDate (y : Int) (m d : Nat) : Bool :=
  1 ≤ m && m ≤ 12 && 1 ≤ d && d ≤ daysInMonth y m

/-- The day number of a date, 0 being 1970-01-01. -/
def daysFromCivil (y : Int) (m d : Nat) : Int :=
  let y := if m ≤ 2 then y - 1 else y
  let era := y / 400
  let yoe := y - era * 400
  let mp : Int := (m + 9) % 12
  let doy := (153 * mp + 2) / 5 + d - 1
  let doe := yoe * 365 + yoe / 4 - yoe / 100 + doy
  era * 146097 + doe - 719468

/-- The date of a day number, 0 being 1970-01-01. -/
def civilFromDays (z : Int) : Int × Nat × Nat :=
  let z := z + 719468
  let era := z / 146097
  let doe := (z - era * 146097).toNat
  let yoe := (doe - doe / 1460 + doe / 36524 - doe / 146096) / 365
  let doy := doe - (365 * yoe + yoe / 4 - yoe / 100)
  let mp := (5 * doy + 2) / 153
  let d := doy - (153 * mp + 2) / 5 + 1
  let m := if mp < 10 then mp + 3 else mp - 9
  let y : Int := yoe + era * 400
  (if m ≤ 2 then y + 1 else y, m, d)

end TaskQueue.Time
