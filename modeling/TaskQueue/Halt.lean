import TaskQueue.Time.Instant

/-!
# Halts

A `Halt` ends a whole computation: an instant moved past the ends of the calendar, a span
shorter than the shortest, a 64-bit sum past its range, or a virtual clock moved while it
runs freely.  `Instant.plus` and `Instant.minus` are the
moves of an instant that halt instead of failing.
-/

namespace TaskQueue

/-- The end of a computation, with its message. -/
structure Halt where
  message : String
  deriving DecidableEq, Repr

namespace Halt

def addOverflow : Halt := ⟨"`DateTime + TimeDelta` overflowed"⟩

def subOverflow : Halt := ⟨"`DateTime - TimeDelta` overflowed"⟩

/-- A count of milliseconds below the shortest span. -/
def spanOutOfBounds : Halt := ⟨"TimeDelta::milliseconds out of bounds"⟩

/-- An unsigned 64-bit sum past `2⁶⁴ − 1`: a build that checks its arithmetic stops
there. -/
def addWithOverflow : Halt := ⟨"attempt to add with overflow"⟩

end Halt

/-- The span of a signed 64-bit count of milliseconds; the one count below `−(2⁶³ − 1)`
halts, since no span is that short. -/
def Time.Span.ofMillisHalting (ms : Int) : Except Halt Time.Span :=
  if ms < -Time.Span.maxMillis then .error Halt.spanOutOfBounds else .ok (Time.Span.ofMillis ms)

namespace Time.Instant

/-- The instant a span later; halts past the ends of the calendar. -/
def plus (t : Instant) (d : Span) : Except Halt Instant :=
  match t.add? d with
  | some r => .ok r
  | none => .error Halt.addOverflow

/-- The instant a span earlier; halts past the ends of the calendar. -/
def minus (t : Instant) (d : Span) : Except Halt Instant :=
  match t.sub? d with
  | some r => .ok r
  | none => .error Halt.subOverflow

end Time.Instant

end TaskQueue
