import TaskQueue.Text.Quote

/-!
# Log events

An event has a level, a target (the part of the program it comes from), a message and
named fields, each field already written as text: a displayed value as it is, a string
field between double quotes.  A line of the log reads `LEVEL target: message k=v …`.
-/

namespace TaskQueue

/-- How severe an event is, from the most severe down. -/
inductive Level where
  | error
  | warn
  | info
  | debug
  | trace
  deriving DecidableEq, Repr

namespace Level

/-- The rank of a level: 1 for errors up to 5 for traces. -/
def rank : Level → Nat
  | error => 1
  | warn => 2
  | info => 3
  | debug => 4
  | trace => 5

/-- The name of a level in capitals. -/
def name : Level → String
  | error => "ERROR"
  | warn => "WARN"
  | info => "INFO"
  | debug => "DEBUG"
  | trace => "TRACE"

end Level

/-- One event of the log. -/
structure LogEvent where
  level : Level
  target : String
  message : String
  fields : List (String × String)
  deriving DecidableEq, Repr

namespace LogEvent

/-- A string field: the value between double quotes. -/
def quotedField (key value : String) : String × String :=
  (key, Text.quoted value)

/-- The event as a line of the log. -/
def line (e : LogEvent) : String :=
  e.fields.foldl (fun acc (k, v) => acc ++ " " ++ k ++ "=" ++ v)
    (e.level.name ++ " " ++ e.target ++ ": " ++ e.message)

end LogEvent

end TaskQueue
