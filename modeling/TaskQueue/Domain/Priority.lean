import TaskQueue.Error

/-!
# Priorities and resolutions

Seven priorities, from `highest` to `lowest`.  Each has a name, a one-character tag that
ends the names of its queues (`1` for highest to `7` for lowest), and an index in
`Priority.all`, the order in which queues are polled.  A resolution says how a task
ended: completed, failed or exception.
-/

namespace TaskQueue

/-- The seven priorities, highest first. -/
inductive Priority where
  | highest
  | veryHigh
  | high
  | medium
  | low
  | veryLow
  | lowest
  deriving DecidableEq, Repr

namespace Priority

/-- All priorities, highest first: the polling order. -/
def all : List Priority := [highest, veryHigh, high, medium, low, veryLow, lowest]

/-- The position in `all`, 0 for highest. -/
def index : Priority → Nat
  | highest => 0
  | veryHigh => 1
  | high => 2
  | medium => 3
  | low => 4
  | veryLow => 5
  | lowest => 6

/-- The tag that ends the names of the priority's queues. -/
def tag (p : Priority) : Char :=
  Char.ofNat (49 + p.index)

/-- The name of a priority. -/
def name : Priority → String
  | highest => "highest"
  | veryHigh => "very-high"
  | high => "high"
  | medium => "medium"
  | low => "low"
  | veryLow => "very-low"
  | lowest => "lowest"

/-- The name of the constructor, in upper camel case. -/
def label : Priority → String
  | highest => "Highest"
  | veryHigh => "VeryHigh"
  | high => "High"
  | medium => "Medium"
  | low => "Low"
  | veryLow => "VeryLow"
  | lowest => "Lowest"

/-- The priority of a name. -/
def ofName? (s : String) : Option Priority :=
  all.find? (·.name == s)

/-- Reads a priority by its name. -/
def parse (s : String) : Except QueueError Priority :=
  match ofName? s with
  | some p => .ok p
  | none => .error ((QueueError.invalidIdentifier "unknown priority").withContext "priority" s)

theorem index_lt (p : Priority) : p.index < 7 := by
  cases p <;> decide

theorem ofName?_name (p : Priority) : ofName? p.name = some p := by
  cases p <;> rfl

end Priority

/-- How a task ended. -/
inductive Resolution where
  | completed
  | failed
  | exception
  deriving DecidableEq, Repr

namespace Resolution

def name : Resolution → String
  | completed => "completed"
  | failed => "failed"
  | exception => "exception"

/-- The name of the constructor, in upper camel case. -/
def label : Resolution → String
  | completed => "Completed"
  | failed => "Failed"
  | exception => "Exception"

def ofName? (s : String) : Option Resolution :=
  [completed, failed, exception].find? (·.name == s)

/-- Reads a resolution by its name. -/
def parse (s : String) : Except QueueError Resolution :=
  match ofName? s with
  | some r => .ok r
  | none => .error ((QueueError.validation
      "resolution must be one of completed, failed or exception").withContext "resolution" s)

end Resolution

end TaskQueue
