import TaskQueue.Fault

/-!
# Queue errors

A `QueueError` has a kind, a message, an ordered context of key–value pairs, and, when it
comes from the queue service, the `Fault` behind it.  `withContext` sets a key: an existing
key keeps its place and takes the new value, a new key goes last.  `QueueError.render` is
`message (kind: k)` followed by ` key=value` for each entry.  `QueueError.ofFault` classifies
a fault: missing queues (a bare 404 included), existing queues, stale receipts and bad
endpoints have kinds of their own, all else is transient.
-/

namespace TaskQueue

/-- The kinds of queue errors. -/
inductive ErrorKind where
  | invalidIdentifier
  | validation
  | queueNotFound
  | queueAlreadyExists
  | transient
  | assertionViolation
  | codec
  | cancelled
  deriving DecidableEq, Repr

/-- The name of a kind. -/
def ErrorKind.name : ErrorKind → String
  | .invalidIdentifier => "invalid_identifier"
  | .validation => "validation"
  | .queueNotFound => "queue_not_found"
  | .queueAlreadyExists => "queue_already_exists"
  | .transient => "transient"
  | .assertionViolation => "assertion_violation"
  | .codec => "codec"
  | .cancelled => "cancelled"

/-- All kinds, in the order of their declaration. -/
def ErrorKind.all : List ErrorKind :=
  [.invalidIdentifier, .validation, .queueNotFound, .queueAlreadyExists, .transient,
   .assertionViolation, .codec, .cancelled]

/-- The kind of a name. -/
def ErrorKind.ofName? (s : String) : Option ErrorKind :=
  ErrorKind.all.find? (·.name == s)

/-- An ordered list of context entries with distinct keys. -/
abbrev Context := List (String × String)

/-- Sets a key: in place when present, else at the end. -/
def Context.set : Context → String → String → Context
  | [], k, v => [(k, v)]
  | (k', v') :: rest, k, v => if k' = k then (k, v) :: rest else (k', v') :: Context.set rest k v

/-- The value of a key. -/
def Context.get? (c : Context) (k : String) : Option String :=
  (c.find? (·.1 == k)).map (·.2)

/-- An error of the queue layer. -/
structure QueueError where
  kind : ErrorKind
  message : String
  context : Context := []
  cause : Option Fault := none
  deriving DecidableEq, Repr

namespace QueueError

def make (kind : ErrorKind) (message : String) : QueueError :=
  { kind, message }

def invalidIdentifier (message : String) : QueueError := make .invalidIdentifier message

def validation (message : String) : QueueError := make .validation message

def codec (message : String) : QueueError := make .codec message

def cancelled (message : String) : QueueError := make .cancelled message

/-- The error with a context key set. -/
def withContext (e : QueueError) (key value : String) : QueueError :=
  { e with context := e.context.set key value }

/-- The value of a context key. -/
def contextValue? (e : QueueError) (key : String) : Option String :=
  e.context.get? key

/-- Whether the caller may try again. -/
def isRetryable (e : QueueError) : Bool :=
  e.kind == .transient || e.kind == .cancelled

/-- `message (kind: k)` and ` key=value` for each context entry. -/
def render (e : QueueError) : String :=
  e.context.foldl (fun acc (k, v) => acc ++ " " ++ k ++ "=" ++ v)
    (e.message ++ " (kind: " ++ e.kind.name ++ ")")

/-- The kind that a fault is classified as. -/
def kindOfFault (f : Fault) : ErrorKind :=
  if f.isNotFound then .queueNotFound
  else match f with
    | .queueAlreadyExists _ => .queueAlreadyExists
    | .popReceiptMismatch _ _ => .assertionViolation
    | .invalidEndpoint _ => .validation
    | _ => .transient

/-- The error of a fault: its kind, its text, and the queue it names. -/
def ofFault (f : Fault) : QueueError :=
  let e : QueueError := { kind := kindOfFault f, message := f.message, cause := some f }
  match f.queue? with
  | some q => e.withContext "queue" q
  | none => e

/-- The error and the texts of its causes, outermost first. -/
def chain (e : QueueError) : List String :=
  e.render :: (e.cause.map (·.message)).toList

end QueueError

end TaskQueue
