import TaskQueue.Domain.Identifier
import TaskQueue.Domain.Priority
import TaskQueue.Time.Rfc3339
import TaskQueue.Ulid
import TaskQueue.Json.Read
import TaskQueue.Text.Quote

/-!
# Messages

The messages that travel through the queues, each a record with a JSON form whose fields
are in camel case and in the order given here; instants are written by `Instant.toText`.

* `PendingHint`: a task run became ready (task id, run id, hint id).
* `ClaimNotice`: a claim may have expired (task id, run id, taken until).
* `DeadlineNotice`: a task may have passed its deadline.
* `ResolvedNotice`: a task was resolved.
* `TaskRef`: what routes a task to a queue: its id, provisioner id, worker type, deadline
  and priority.

Each `ofJson?` reads what the matching `toJson` writes, and also the other forms that a
record reader takes (`Json.fields?`); instants are read by `parseLenient`.
-/

namespace TaskQueue

open Time

/-- A task run became ready. -/
structure PendingHint where
  taskId : TaskId
  runId : UInt32
  hintId : Ulid
  deriving DecidableEq, Repr

/-- A claim may have expired: visible once `takenUntil` has passed. -/
structure ClaimNotice where
  taskId : TaskId
  runId : UInt32
  takenUntil : Instant
  deriving DecidableEq, Repr

/-- A task may have passed its deadline. -/
structure DeadlineNotice where
  taskId : TaskId
  taskGroupId : String
  schedulerId : String
  deadline : Instant
  deriving DecidableEq, Repr

/-- A task was resolved. -/
structure ResolvedNotice where
  taskId : TaskId
  taskGroupId : String
  schedulerId : String
  resolution : Resolution
  deriving DecidableEq, Repr

/-- What routes a task to its pending queue. -/
structure TaskRef where
  taskId : TaskId
  provisionerId : ProvisionerId
  workerType : WorkerType
  deadline : Instant
  priority : Priority

/-- The check a task must pass before it is published: its id is a token. -/
def TaskRef.validate (t : TaskRef) : Except QueueError Unit :=
  if t.taskId.isToken then .ok ()
  else .error ((QueueError.validation "taskId must be a non-empty token").withContext "task_id"
    t.taskId.val)

namespace Json

/-- An instant in its JSON form. -/
def instant? (j : Json) : Option Instant :=
  (string? j).bind parseLenient

end Json

namespace PendingHint

def toJson (m : PendingHint) : Json :=
  .obj [("taskId", .str m.taskId.val), ("runId", .nat m.runId.toNat),
    ("hintId", .str m.hintId.toText)]

def ofJson? (j : Json) : Option PendingHint := do
  match ← Json.fields? ["taskId", "runId", "hintId"] j with
  | [t, r, h] =>
    some ⟨⟨← Json.string? t⟩, ← Json.u32? r, ← (Json.string? h).bind Ulid.ofText?⟩
  | _ => none

end PendingHint

namespace ClaimNotice

def toJson (m : ClaimNotice) : Json :=
  .obj [("taskId", .str m.taskId.val), ("runId", .nat m.runId.toNat),
    ("takenUntil", .str m.takenUntil.toText)]

def ofJson? (j : Json) : Option ClaimNotice := do
  match ← Json.fields? ["taskId", "runId", "takenUntil"] j with
  | [t, r, u] => some ⟨⟨← Json.string? t⟩, ← Json.u32? r, ← Json.instant? u⟩
  | _ => none

/-- The notice as a diagnostic record. -/
def describe (m : ClaimNotice) : String :=
  "ClaimMessage \x7b task_id: TaskId(" ++ Text.quoted m.taskId.val ++ "), run_id: " ++
    toString m.runId.toNat ++ ", taken_until: " ++ m.takenUntil.toText ++ " \x7d"

end ClaimNotice

namespace DeadlineNotice

def toJson (m : DeadlineNotice) : Json :=
  .obj [("taskId", .str m.taskId.val), ("taskGroupId", .str m.taskGroupId),
    ("schedulerId", .str m.schedulerId), ("deadline", .str m.deadline.toText)]

def ofJson? (j : Json) : Option DeadlineNotice := do
  match ← Json.fields? ["taskId", "taskGroupId", "schedulerId", "deadline"] j with
  | [t, g, s, d] =>
    some ⟨⟨← Json.string? t⟩, ← Json.string? g, ← Json.string? s, ← Json.instant? d⟩
  | _ => none

def describe (m : DeadlineNotice) : String :=
  "DeadlineMessage \x7b task_id: TaskId(" ++ Text.quoted m.taskId.val ++ "), task_group_id: " ++
    Text.quoted m.taskGroupId ++ ", scheduler_id: " ++ Text.quoted m.schedulerId ++
    ", deadline: " ++ m.deadline.toText ++ " \x7d"

end DeadlineNotice

namespace ResolvedNotice

def toJson (m : ResolvedNotice) : Json :=
  .obj [("taskId", .str m.taskId.val), ("taskGroupId", .str m.taskGroupId),
    ("schedulerId", .str m.schedulerId), ("resolution", .str m.resolution.name)]

def ofJson? (j : Json) : Option ResolvedNotice := do
  match ← Json.fields? ["taskId", "taskGroupId", "schedulerId", "resolution"] j with
  | [t, g, s, r] =>
    some ⟨⟨← Json.string? t⟩, ← Json.string? g, ← Json.string? s,
      ← (Json.caseName? r).bind Resolution.ofName?⟩
  | _ => none

def describe (m : ResolvedNotice) : String :=
  "ResolvedMessage \x7b task_id: TaskId(" ++ Text.quoted m.taskId.val ++ "), task_group_id: " ++
    Text.quoted m.taskGroupId ++ ", scheduler_id: " ++ Text.quoted m.schedulerId ++
    ", resolution: " ++ m.resolution.label ++ " \x7d"

end ResolvedNotice

namespace TaskRef

def toJson (m : TaskRef) : Json :=
  .obj [("taskId", .str m.taskId.val), ("provisionerId", .str m.provisionerId.val),
    ("workerType", .str m.workerType.val), ("deadline", .str m.deadline.toText),
    ("priority", .str m.priority.name)]

def ofJson? (j : Json) : Option TaskRef := do
  match ← Json.fields? ["taskId", "provisionerId", "workerType", "deadline", "priority"] j with
  | [t, p, w, d, r] =>
    let p ← (Json.string? p).bind fun s => (ProvisionerId.parse s).toOption
    let w ← (Json.string? w).bind fun s => (WorkerType.parse s).toOption
    let r ← (Json.caseName? r).bind Priority.ofName?
    some ⟨⟨← Json.string? t⟩, p, w, ← Json.instant? d, r⟩
  | _ => none

end TaskRef

end TaskQueue
