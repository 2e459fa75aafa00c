import TaskQueue.Halt
import TaskQueue.Fault
import TaskQueue.Queue.Metadata

/-!
# The in-memory queue store

A store holds named queues in increasing order of name, each with its metadata and its
messages in the order they were put.  A message has an id and a pop receipt, both drawn
from counters shared by all queues (`msg-N`, `receipt-N`), its text, the instant it
becomes visible and the instant it expires.  The store also counts the calls of each
operation, and holds failure rules: a rule makes the next calls of an operation on a
queue (or on any queue) fail with status 503.

Durations longer than the longest span are taken as 3650 days.
-/

namespace TaskQueue

open Time

/-- The operations of a queue store. -/
inductive Operation where
  | createQueue
  | deleteQueue
  | putMessage
  | getMessages
  | deleteMessage
  | updateMessage
  | getMetadata
  | setMetadata
  | listQueues
  deriving DecidableEq, Repr

namespace Operation

/-- All operations, in the order their counts are listed. -/
def all : List Operation :=
  [createQueue, deleteQueue, putMessage, getMessages, deleteMessage, updateMessage,
    getMetadata, setMetadata, listQueues]

/-- The name of an operation, in snake case. -/
def name : Operation → String
  | createQueue => "create_queue"
  | deleteQueue => "delete_queue"
  | putMessage => "put_message"
  | getMessages => "get_messages"
  | deleteMessage => "delete_message"
  | updateMessage => "update_message"
  | getMetadata => "get_metadata"
  | setMetadata => "set_metadata"
  | listQueues => "list_queues"

/-- The name of an operation, in camel case with a capital first letter. -/
def label : Operation → String
  | createQueue => "CreateQueue"
  | deleteQueue => "DeleteQueue"
  | putMessage => "PutMessage"
  | getMessages => "GetMessages"
  | deleteMessage => "DeleteMessage"
  | updateMessage => "UpdateMessage"
  | getMetadata => "GetMetadata"
  | setMetadata => "SetMetadata"
  | listQueues => "ListQueues"

/-- The operation of a snake-case name. -/
def ofName? (s : String) : Option Operation :=
  all.find? (·.name == s)

end Operation

/-- The most messages one get returns. -/
def maxMessagesPerGet : Nat := 32

/-- The span a store adds for a duration: the duration itself, or 3650 days when it is
longer than any span. -/
def Time.Duration.storeSpan (d : Duration) : Span :=
  d.toSpan?.getD (Span.ofDays 3650)

/-- A message as a get returns it. -/
structure RawMessage where
  id : String
  receipt : String
  text : String
  deriving DecidableEq, Repr

/-- What a queue's properties say: its metadata and how many messages it holds. -/
structure QueueProperties where
  metadata : Metadata
  count : Nat
  deriving DecidableEq, Repr

/-- A queue in a listing, with its metadata when that was asked for. -/
structure Listing where
  name : String
  metadata : Option Metadata
  deriving DecidableEq, Repr

/-- One page of a listing; `nextMarker` is where the next page starts, if there is one. -/
structure ListPage where
  queues : List Listing
  nextMarker : Option String
  deriving DecidableEq, Repr

/-- A message in the store. -/
structure StoredMessage where
  id : String
  receipt : String
  text : String
  visibleAt : Instant
  expiresAt : Instant
  deriving DecidableEq, Repr

namespace StoredMessage

/-- Whether the message is still held at an instant: it expires after it. -/
def isLive (now : Instant) (m : StoredMessage) : Bool :=
  decide (now < m.expiresAt)

/-- Whether the message is visible at an instant. -/
def isVisible (now : Instant) (m : StoredMessage) : Bool :=
  decide (m.visibleAt ≤ now)

/-- The message as a get returns it. -/
def raw (m : StoredMessage) : RawMessage :=
  ⟨m.id, m.receipt, m.text⟩

end StoredMessage

/-- A queue in the store. -/
structure StoredQueue where
  metadata : Metadata
  messages : List StoredMessage
  deriving DecidableEq, Repr

/-- The queue without its expired messages. -/
def StoredQueue.purge (now : Instant) (q : StoredQueue) : StoredQueue :=
  { q with messages := q.messages.filter (·.isLive now) }

/-- A rule that makes the next `remaining` calls of `op` fail, on `queue` or on any. -/
structure FailureRule where
  op : Operation
  queue : Option String
  remaining : Nat
  deriving DecidableEq, Repr

namespace FailureRule

/-- Whether the rule applies to a call. -/
def appliesTo (r : FailureRule) (op : Operation) (queue : String) : Bool :=
  r.op == op && 0 < r.remaining && (r.queue.all (· == queue))

end FailureRule

/-- Uses up one call of the first rule that applies, if one does. -/
def FailureRule.consume (op : Operation) (queue : String) :
    List FailureRule → Option (List FailureRule)
  | [] => none
  | r :: rs =>
    if r.appliesTo op queue then some ({ r with remaining := r.remaining - 1 } :: rs)
    else (consume op queue rs).map (r :: ·)

/-- The in-memory queue store. -/
structure Store where
  queues : List (String × StoredQueue)
  issuedIds : Nat
  issuedReceipts : Nat
  calls : Operation → Nat
  rules : List FailureRule
  pageSize : Nat

namespace Store

/-- The empty store listing `pageSize` queues per page (at least one). -/
def empty (pageSize : Nat) : Store :=
  ⟨[], 0, 0, fun _ => 0, [], max pageSize 1⟩

/-- The queue of a name. -/
def find? (s : Store) (name : String) : Option StoredQueue :=
  (s.queues.lookup name)

/-- Whether a queue exists. -/
def exists? (s : Store) (name : String) : Bool :=
  (s.find? name).isSome

/-- The names of the queues, in increasing order. -/
def names (s : Store) : List String :=
  s.queues.map (·.1)

/-- Sets a queue, keeping names in increasing order. -/
def insertQueue :
    List (String × StoredQueue) → String → StoredQueue → List (String × StoredQueue)
  | [], k, v => [(k, v)]
  | (k', v') :: rest, k, v =>
    if k < k' then (k, v) :: (k', v') :: rest
    else if k = k' then (k, v) :: rest
    else (k', v') :: insertQueue rest k v

/-- The store with a queue set. -/
def put (s : Store) (name : String) (q : StoredQueue) : Store :=
  { s with queues := insertQueue s.queues name q }

/-- The store without a queue. -/
def erase (s : Store) (name : String) : Store :=
  { s with queues := s.queues.filter (·.1 != name) }

/-- The next message id. -/
def nextId (s : Store) : String × Store :=
  ("msg-" ++ toString (s.issuedIds + 1), { s with issuedIds := s.issuedIds + 1 })

/-- The next pop receipt. -/
def nextReceipt (s : Store) : String × Store :=
  ("receipt-" ++ toString (s.issuedReceipts + 1), { s with issuedReceipts := s.issuedReceipts + 1 })

/-- The fault of an injected failure. -/
def injected (op : Operation) (queue : String) : Fault :=
  .status 503 (some "ServerBusy") ("injected failure for " ++ op.label ++ " on " ++ queue)

/-- Counts a call, then lets a failure rule that applies fail it. -/
def enter (s : Store) (op : Operation) (queue : String) : Except Fault Unit × Store :=
  let s := { s with calls := fun o => if o = op then s.calls o + 1 else s.calls o }
  match FailureRule.consume op queue s.rules with
  | some rules => (.error (injected op queue), { s with rules })
  | none => (.ok (), s)

/-- Adds a failure rule. -/
def addRule (s : Store) (r : FailureRule) : Store :=
  { s with rules := s.rules ++ [r] }

end Store

end TaskQueue
