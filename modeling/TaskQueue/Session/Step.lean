import TaskQueue.Service.Background
import TaskQueue.Service.Expiration

/-!
# Session steps

A session drives one queue service step by step, on a clock that only moves when told.
A `Step` is one thing to do: move the clock, call the service, use or inspect a polled
message through its handle, manage the service's lifetime and loops, or act on the
in-memory store directly.  A step answers with a `Reply`, with the service's error, or is
refused.

Every polled message gets a handle, numbered from 1 in the order the messages are
answered; a handle is used up by removing or releasing its message.
-/

namespace TaskQueue

open Time

/-- Which live handle a step means: one by number, or the first or last live one, of any
kind or of pending hints only. -/
inductive HandleRef where
  | number (n : Nat)
  | first
  | last
  | firstPending
  | lastPending
  deriving DecidableEq, Repr

/-- Which stored message a direct step means: by id and receipt, or by its place in the
last direct get, with the id or the receipt replaced when given. -/
inductive MessageRef where
  | exact (id receipt : String)
  | fromLastGet (index : Nat) (id receipt : Option String)
  deriving DecidableEq, Repr

/-- One step of a session. -/
inductive Step where
  | advance (ms : Int)
  | setTime (t : Instant)
  | now
  | ensureFamily (k : FamilyKey)
  | ensureQueue (queue : String) (p : ProvisionerId) (w : WorkerType)
  | putPending (task : TaskRef) (runId : UInt32)
  | pendingQueues (k : FamilyKey)
  | pollPending (k : FamilyKey) (priority : Priority) (count : Nat)
  | count (k : FamilyKey)
  | resetCache
  | sweep (at_ : Option Instant)
  | putClaim (taskId : TaskId) (runId : UInt32) (takenUntil : Instant)
  | putDeadline (taskId : TaskId) (groupId schedulerId : String) (deadline : Instant)
  | putResolved (taskId : TaskId) (groupId schedulerId : String) (resolution : Resolution)
  | pollNotices (kind : ExpirationKind)
  | remove (h : HandleRef)
  | release (h : HandleRef)
  | describeHandle (h : HandleRef)
  | requestShutdown
  | startLoops
  | stop
  | tick (ms : Nat)
  | dropService
  | sweepOnce
  | loopsWithStopSignal
  | failNext (op : Operation) (queue : Option String) (times : Nat)
  | opCounts
  | queueNames
  | queueExists (queue : String)
  | rawCreate (queue : String) (metadata : Option Metadata)
  | rawDeleteQueue (queue : String)
  | rawPut (queue text : String) (visibility ttl : Duration)
  | rawGet (queue : String) (visibility : Duration) (maxCount : Nat)
  | rawDeleteMessage (queue : String) (m : MessageRef)
  | rawUpdate (queue : String) (m : MessageRef) (text : String) (visibility : Duration)
  | rawGetMetadata (queue : String)
  | rawSetMetadata (queue : String) (metadata : Metadata)
  | rawList (stem : String) (marker : Option String) (withMetadata : Bool)

/-- A message a handle holds: a pending hint or a notice. -/
inductive Held where
  | hint (h : PolledHint)
  | notice (n : PolledNotice)
  deriving Repr

namespace Held

/-- The lease of the held message. -/
def lease : Held → Lease
  | hint h => h.lease
  | notice n => n.lease

/-- Whether the held message is a pending hint. -/
def isHint : Held → Bool
  | hint _ => true
  | notice _ => false

/-- The held message as a diagnostic record. -/
def describe : Held → String
  | hint h =>
    "PendingTaskHint \x7b task_id: TaskId(" ++ Text.quoted h.hint.taskId.val ++ "), run_id: " ++
      toString h.hint.runId.toNat ++ ", hint_id: HintId(Ulid(" ++ toString h.hint.hintId.val ++
      ")), priority: " ++ h.priority.label ++ ", queue: " ++ Text.quoted h.lease.queue ++ " \x7d"
  | notice n =>
    "ExpirationMessage \x7b payload: " ++ n.notice.describe ++ ", queue: " ++
      Text.quoted n.lease.queue ++ " \x7d"

end Held

/-- What a step answers. -/
inductive Reply where
  | unit
  | instant (t : Instant)
  | names (ns : List String)
  | shards (qs : List (Priority × String))
  | hints (hs : List (Nat × PolledHint))
  | notices (ns : List (Nat × PolledNotice))
  | number (n : Nat)
  | text (s : String)
  | flag (b : Bool)
  | callCounts (cs : List (Operation × Nat))
  | raws (ms : List RawMessage)
  | properties (p : QueueProperties)
  | page (p : ListPage)

/-- How a step ended: with a reply, with the service's error, or refused with a reason. -/
inductive Outcome where
  | reply (r : Reply)
  | failed (e : QueueError)
  | refused (reason : String)

end TaskQueue
