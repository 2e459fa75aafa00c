import TaskQueue.Time.Civil

/-!
# Instants and spans

An `Instant` is a UTC time: a day number, the second of that day and the nanoseconds into
that second.  A leap second is the second 59 of a minute held for a second time: its
nanosecond count is at least 10⁹, and it prints as `:60`.  Days run from the first of
January of year −262143 to the last of December of year 262142.

A `Span` is a signed length of time in nanoseconds, at most `2⁶³ − 1` milliseconds either
way.  `Instant.add?` moves an instant by a span, and fails past the ends of the calendar;
`Instant.since` is the span from one instant to another.  Both count a leap second as a
second of its own when a move or a difference crosses it, and a move that stays inside a
leap second keeps it.
-/

namespace TaskQueue.Time

/-- Nanoseconds in a second. -/
def nanosPerSecond : Nat := 1000000000

/-- A UTC instant: `second < 86400`, and `nano < 2·10⁹`, at least `10⁹` only on a leap
second. -/
structure Instant where
  day : Int
  second : Nat
  nano : Nat
  deriving DecidableEq, Repr

/-- A signed length of time in nanoseconds. -/
structure Span where
  nanos : Int
  deriving DecidableEq, Repr

namespace Span

/-- The milliseconds of the longest span: `2⁶³ − 1`. -/
def maxMillis : Int := 9223372036854775807

/-- The longest span: `2⁶³ − 1` milliseconds. -/
def maxNanos : Int := maxMillis * 1000000

def ofNanos (n : Int) : Span := ⟨n⟩

def ofMillis (ms : Int) : Span := ⟨ms * 1000000⟩

def ofSeconds (s : Int) : Span := ⟨s * nanosPerSecond⟩

def ofMinutes (m : Int) : Span := ofSeconds (m * 60)

def ofHours (h : Int) : Span := ofSeconds (h * 3600)

def ofDays (d : Int) : Span := ofSeconds (d * 86400)

def zero : Span := ⟨0⟩

instance : Neg Span := ⟨fun d => ⟨-d.nanos⟩⟩

/-- Whether a span is within the bounds of spans. -/
def InRange (d : Span) : Prop := -maxNanos ≤ d.nanos ∧ d.nanos ≤ maxNanos

instance (d : Span) : Decidable d.InRange := by
  unfold InRange; exact inferInstance

/-- Whole seconds, rounded toward zero. -/
def wholeSeconds (d : Span) : Int := d.nanos.tdiv nanosPerSecond

/-- The nanoseconds beyond `wholeSeconds`, with the sign of the span. -/
def subsecNanos (d : Span) : Int := d.nanos.tmod nanosPerSecond

/-- Whole milliseconds, rounded toward zero. -/
def toMillis (d : Span) : Int := d.nanos.tdiv 1000000

instance : LT Span := ⟨fun a b => a.nanos < b.nanos⟩
instance : LE Span := ⟨fun a b => a.nanos ≤ b.nanos⟩
instance (a b : Span) : Decidable (a < b) := inferInstanceAs (Decidable (a.nanos < b.nanos))
instance (a b : Span) : Decidable (a ≤ b) := inferInstanceAs (Decidable (a.nanos ≤ b.nanos))

end Span

/-- A length of time that cannot be negative, in nanoseconds: the duration of the
standard library, whose whole seconds fit 64 bits. -/
structure Duration where
  nanos : Nat
  deriving DecidableEq, Repr

namespace Duration

def ofSeconds (s : Nat) : Duration := ⟨s * nanosPerSecond⟩

def ofMillis (ms : Nat) : Duration := ⟨ms * 1000000⟩

/-- Whole seconds of a duration. -/
def seconds (d : Duration) : Nat := d.nanos / nanosPerSecond

/-- Whole milliseconds of a duration. -/
def millis (d : Duration) : Nat := d.nanos / 1000000

def isZero (d : Duration) : Bool := d.nanos == 0

/-- The span of a duration, when its whole seconds are at most those of the longest span
and the whole of it is within the longest span. -/
def toSpan? (d : Duration) : Option Span :=
  if d.seconds ≤ 9223372036854775 ∧ (d.nanos : Int) ≤ Span.maxNanos then some ⟨d.nanos⟩
  else none

end Duration

namespace Instant

/-- The first day of the calendar, −262143-01-01. -/
def minDay : Int := daysFromCivil (-262143) 1 1

/-- The last day of the calendar, 262142-12-31. -/
def maxDay : Int := daysFromCivil 262142 12 31

/-- The Unix epoch, 1970-01-01T00:00:00Z. -/
def epoch : Instant := ⟨0, 0, 0⟩

/-- The instant `n` nanoseconds after the Unix epoch. -/
def ofUnixNanos (n : Int) : Instant :=
  let secs := n / nanosPerSecond
  let nano := (n % nanosPerSecond).toNat
  ⟨secs / 86400, (secs % 86400).toNat, nano⟩

/-- Seconds since the Unix epoch, a leap second counted as the second before it. -/
def unixSeconds (t : Instant) : Int := t.day * 86400 + t.second

/-- Milliseconds since the Unix epoch; a leap second adds its thousand milliseconds to the
second before it. -/
def unixMillis (t : Instant) : Int := t.unixSeconds * 1000 + (t.nano / 1000000 : Nat)

/-- Whether the instant falls on a day of the calendar. -/
def inCalendar (t : Instant) : Bool := minDay ≤ t.day && t.day ≤ maxDay

/-- Strict order: by day, then second, then nanosecond. -/
def before (a b : Instant) : Bool :=
  a.day < b.day || (a.day == b.day && (a.second < b.second ||
    (a.second == b.second && a.nano < b.nano)))

instance : LT Instant := ⟨fun a b => a.before b = true⟩
instance : LE Instant := ⟨fun a b => b.before a = false⟩
instance (a b : Instant) : Decidable (a < b) := inferInstanceAs (Decidable (_ = true))
instance (a b : Instant) : Decidable (a ≤ b) := inferInstanceAs (Decidable (_ = false))

/-- Moves the time of day by a span.  The result is the new second of the day, its
nanoseconds, and the whole days moved.  Leaving a leap second drops its extra second
first; a move by less than a second that stays inside it keeps it. -/
def shiftTime (second nano : Nat) (d : Span) : Nat × Nat × Int :=
  let secsToAdd := d.wholeSeconds
  let fracToAdd := d.subsecNanos
  if nano ≥ nanosPerSecond ∧ secsToAdd = 0 ∧
      ¬(fracToAdd > 0 ∧ (nano : Int) ≥ 2 * nanosPerSecond - fracToAdd) then
    (second, (nano + fracToAdd).toNat, 0)
  else
    let (secs, frac) : Int × Int :=
      if nano ≥ nanosPerSecond then
        if secsToAdd > 0 ∨
            (fracToAdd > 0 ∧ (nano : Int) ≥ 2 * nanosPerSecond - fracToAdd) then
          (second, nano - nanosPerSecond)
        else (second + 1, nano - nanosPerSecond)
      else (second, nano)
    let secs := secs + secsToAdd
    let frac := frac + fracToAdd
    let (secs, frac) :=
      if frac < 0 then (secs - 1, frac + nanosPerSecond)
      else if frac ≥ nanosPerSecond then (secs + 1, frac - nanosPerSecond)
      else (secs, frac)
    ((secs % 86400).toNat, frac.toNat, secs / 86400)

/-- The instant a span later, or `none` past the ends of the calendar. -/
def add? (t : Instant) (d : Span) : Option Instant :=
  let (second, nano, days) := shiftTime t.second t.nano d
  let r : Instant := ⟨t.day + days, second, nano⟩
  if r.inCalendar then some r else none

/-- The instant a span earlier, or `none` past the ends of the calendar. -/
def sub? (t : Instant) (d : Span) : Option Instant :=
  t.add? (-d)

/-- The span from `b` to `a`.  A leap second between them counts as a second. -/
def since (a b : Instant) : Span :=
  let secs : Int := (a.second : Int) - b.second
  let secs :=
    if a.second > b.second ∧ b.nano ≥ nanosPerSecond then secs + 1
    else if a.second < b.second ∧ a.nano ≥ nanosPerSecond then secs - 1
    else secs
  ⟨(a.day - b.day) * 86400 * nanosPerSecond + secs * nanosPerSecond + ((a.nano : Int) - b.nano)⟩

/-- The civil date of an instant. -/
def date (t : Instant) : Int × Nat × Nat := civilFromDays t.day

end Instant

end TaskQueue.Time
