import TaskQueue.Time.Instant
import TaskQueue.Text.Blank

/-!
# RFC 3339 text of instants

`Instant.toText` writes an instant as `2024-03-01T12:00:00Z`: the fraction of a second has
0, 3, 6 or 9 digits, the fewest that are exact, and a leap second is written `:60`.  A year
outside 0 to 9999 has its sign and at least four digits.  `Instant.toOffsetText` writes the
same with the offset `+00:00` in place of `Z`.

Two readers take a date, a time and an offset, and give the UTC instant:

* `parseStrict` reads RFC 3339 itself: four-digit year, two-digit fields, `T`, `t` or a
  space between date and time, any number of fraction digits (the first nine count), and
  `Z`, `z` or an offset `±hh:mm` of less than a day.
* `parseLenient` also takes blanks between the parts, fields of one digit, a signed year
  of any length, `UTC` for the offset, and an offset with any run of colons and blanks
  between hours and minutes.
-/

namespace TaskQueue.Time

/-- The value of a list of decimal digits. -/
def digitsValue (ds : List Char) : Nat :=
  ds.foldl (fun acc c => acc * 10 + (c.toNat - 48)) 0

/-- Reads at least `lo` and at most `hi` decimal digits from the front. -/
def readNumber (cs : List Char) (lo hi : Nat) : Option (Nat × List Char) :=
  let ds := (cs.take hi).takeWhile Char.isDigit
  if ds.length < lo then none else some (digitsValue ds, cs.drop ds.length)

/-- Reads one given character from the front. -/
def expectChar (c : Char) : List Char → Option (List Char)
  | d :: rest => if d = c then some rest else none
  | [] => none

/-- Reads the digits of a fraction of a second: one to nine count, more are skipped. -/
def readFraction (cs : List Char) : Option (Nat × List Char) := do
  let ds := (cs.take 9).takeWhile Char.isDigit
  if ds.length = 0 then none
  else
    some (digitsValue ds * Nat.pow 10 (9 - ds.length),
      (cs.drop ds.length).dropWhile Char.isDigit)

/-- The parts of a date and time with an offset, as read. -/
structure Stamp where
  year : Int
  month : Nat
  day : Nat
  hour : Nat
  minute : Nat
  second : Nat
  nano : Nat
  offset : Int

/-- The UTC instant of a stamp, when every part is in range: a second of 60 is a leap
second, and the offset is less than a day. -/
def Stamp.toInstant? (p : Stamp) : Option Instant :=
  if p.hour ≤ 23 ∧ p.minute ≤ 59 ∧ p.second ≤ 60 ∧
      isValidDate p.year p.month p.day = true ∧ -86400 < p.offset ∧ p.offset < 86400 then
    let localDay := daysFromCivil p.year p.month p.day
    let leap := p.second = 60
    let secs : Int := p.hour * 3600 + p.minute * 60 + (if leap then 59 else p.second) - p.offset
    let nano := p.nano + (if leap then nanosPerSecond else 0)
    let t : Instant := ⟨localDay + secs / 86400, (secs % 86400).toNat, nano⟩
    if Instant.minDay ≤ localDay ∧ localDay ≤ Instant.maxDay ∧ t.inCalendar then some t
    else none
  else none

/-- The sign of an offset: `+`, `-` or the minus sign U+2212. -/
def offsetSign? : Char → Option Int
  | '+' => some 1
  | '-' => some (-1)
  | '−' => some (-1)
  | _ => none

/-- Reads the minutes of an offset: two digits, the first below 6. -/
def readOffsetMinutes : List Char → Option (Nat × List Char)
  | a :: b :: rest =>
    if '0' ≤ a ∧ a ≤ '5' ∧ b.isDigit then some (digitsValue [a, b], rest) else none
  | _ => none

/-- Reads an offset in seconds: `Z`, `z`, or a sign, two hour digits, a separator that
`sep` strips, and two minute digits. -/
def readOffset (sep : List Char → Option (List Char)) : List Char → Option (Int × List Char)
  | 'Z' :: rest => some (0, rest)
  | 'z' :: rest => some (0, rest)
  | c :: rest => do
    let sign ← offsetSign? c
    match rest with
    | h1 :: h2 :: rest =>
      if h1.isDigit ∧ h2.isDigit then
        let rest ← sep rest
        let (m, rest) ← readOffsetMinutes rest
        some (sign * (digitsValue [h1, h2] * 3600 + m * 60), rest)
      else none
    | _ => none
  | [] => none

/-- Reads the separator between the date and the time. -/
def readDateTimeSeparator : List Char → Option (List Char)
  | c :: rest => if c = 'T' ∨ c = 't' ∨ c = ' ' then some rest else none
  | [] => none

/-- Reads RFC 3339 text. -/
def parseStrict (s : String) : Option Instant := do
  let cs := s.toList
  let (year, cs) ← readNumber cs 4 4
  let cs ← expectChar '-' cs
  let (month, cs) ← readNumber cs 2 2
  let cs ← expectChar '-' cs
  let (day, cs) ← readNumber cs 2 2
  let cs ← readDateTimeSeparator cs
  let (hour, cs) ← readNumber cs 2 2
  let cs ← expectChar ':' cs
  let (minute, cs) ← readNumber cs 2 2
  let cs ← expectChar ':' cs
  let (second, cs) ← readNumber cs 2 2
  let (nano, cs) ← match cs with
    | '.' :: rest => readFraction rest
    | _ => some (0, cs)
  let (offset, cs) ← readOffset (expectChar ':') cs
  if cs.isEmpty ∧ -86340 ≤ offset ∧ offset ≤ 86340 then
    Stamp.toInstant? ⟨year, month, day, hour, minute, second, nano, offset⟩
  else none

/-- Blank characters dropped from the front. -/
def dropBlank (cs : List Char) : List Char :=
  cs.dropWhile Text.isBlank

/-- Reads a number after blanks. -/
def readLenientNumber (cs : List Char) (hi : Nat) : Option (Nat × List Char) :=
  readNumber (dropBlank cs) 1 hi

/-- Reads a year after blanks: a signed year of any length, or up to four digits. -/
def readLenientYear (cs : List Char) : Option (Int × List Char) :=
  match dropBlank cs with
  | '-' :: rest => (readNumber rest 1 rest.length).map fun (v, r) => (-(v : Int), r)
  | '+' :: rest => (readNumber rest 1 rest.length).map fun (v, r) => ((v : Int), r)
  | cs => (readNumber cs 1 4).map fun (v, r) => ((v : Int), r)

/-- Reads a literal character after blanks. -/
def expectLenient (c : Char) (cs : List Char) : Option (List Char) :=
  expectChar c (dropBlank cs)

/-- Whether text starts with `UTC` in any case. -/
def startsWithUtc : List Char → Bool
  | a :: b :: c :: _ => a.toLower = 'u' && b.toLower = 't' && c.toLower = 'c'
  | _ => false

/-- Reads RFC 3339 text with the liberties described above. -/
def parseLenient (s : String) : Option Instant := do
  let (year, cs) ← readLenientYear s.toList
  let cs ← expectLenient '-' cs
  let (month, cs) ← readLenientNumber cs 2
  let cs ← expectLenient '-' cs
  let (day, cs) ← readLenientNumber cs 2
  let cs ← readDateTimeSeparator cs
  let (hour, cs) ← readLenientNumber cs 2
  let cs ← expectLenient ':' cs
  let (minute, cs) ← readLenientNumber cs 2
  let cs ← expectLenient ':' cs
  let (second, cs) ← readLenientNumber cs 2
  let (nano, cs) ← match cs with
    | '.' :: rest => readFraction rest
    | _ => some (0, cs)
  let cs := dropBlank cs
  let (offset, cs) ← if startsWithUtc cs then some (0, cs.drop 3)
    else readOffset (fun r => some (r.dropWhile fun c => c = ':' ∨ Text.isBlank c)) cs
  if (dropBlank cs).isEmpty ∧ -2147483648 ≤ year ∧ year ≤ 2147483647 then
    Stamp.toInstant? ⟨year, month, day, hour, minute, second, nano, offset⟩
  else none

/-- A number with at least `width` digits, zeros in front. -/
def padded (width n : Nat) : String :=
  let ds := toString n
  String.ofList (List.replicate (width - ds.length) '0') ++ ds

/-- A year: four digits in 0 to 9999, else its sign and at least four digits. -/
def yearText (y : Int) : String :=
  if 0 ≤ y ∧ y ≤ 9999 then padded 4 y.toNat
  else (if y < 0 then "-" else "+") ++ padded 4 y.natAbs

/-- The fraction of a second: nothing, or 3, 6 or 9 digits, the fewest that are exact. -/
def fractionText (nano : Nat) : String :=
  if nano = 0 then ""
  else if nano % 1000000 = 0 then "." ++ padded 3 (nano / 1000000)
  else if nano % 1000 = 0 then "." ++ padded 6 (nano / 1000)
  else "." ++ padded 9 nano

namespace Instant

/-- The date and time of an instant, without an offset, `sep` between them. -/
def dateTimeText (sep : String) (t : Instant) : String :=
  let (y, m, d) := t.date
  let leap := t.nano ≥ nanosPerSecond
  let sec := t.second % 60 + (if leap then 1 else 0)
  let nano := if leap then t.nano - nanosPerSecond else t.nano
  yearText y ++ "-" ++ padded 2 m ++ "-" ++ padded 2 d ++ sep ++ padded 2 (t.second / 3600) ++
    ":" ++ padded 2 (t.second / 60 % 60) ++ ":" ++ padded 2 sec ++ fractionText nano

/-- The date and time of an instant, without an offset, in RFC 3339 form. -/
def localText (t : Instant) : String := t.dateTimeText "T"

/-- An instant as a reader sees it: date, a space, time and `UTC`. -/
def displayText (t : Instant) : String := t.dateTimeText " " ++ " UTC"

/-- An instant with `Z` for its offset. -/
def toText (t : Instant) : String := t.localText ++ "Z"

/-- An instant with `+00:00` for its offset. -/
def toOffsetText (t : Instant) : String := t.localText ++ "+00:00"

end Instant

end TaskQueue.Time
