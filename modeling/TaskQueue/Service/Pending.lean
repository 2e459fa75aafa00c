import TaskQueue.Service.Lease
import TaskQueue.Queue.Codec

/-!
# Pending queues

Each family — a provisioner id and a worker type — has seven pending queues, one per
priority, highest first.  Ensuring a family makes sure each of its queues exists and
carries metadata naming the family with a `last_used` at most 23 hours old; a queue is
created with that metadata when missing, and its metadata rewritten when stale or
foreign.  The first queue that fails stops the ensure.  A family that was ensured is
remembered until the cache is reset or a queue of it turns out to be missing; a failed
ensure is not remembered, and once the stop signal is given an ensure that is not
remembered fails as cancelled.

Publishing a task puts a hint (task id, run id, a fresh hint id) on the queue of its
priority, visible at once and living until the task's deadline, rounded up to whole
seconds; a task past its deadline is dropped.  Polling leases up to 32 hints of one
queue for five minutes.  Counting sums the message counts of the seven queues as unsigned
64-bit numbers, halting past their range.  The first count of a family is awaited; a count
older than 20 seconds is answered at once and a refresh of it spawned, which runs on its
own and remembers the count it takes with the instant it ends (`finishRefresh`).
-/

namespace TaskQueue

open Time

/-- The target of the pending manager's log events. -/
def pendingTarget : String := "taskq_core::queue::pending"

/-- Metadata older than this is rewritten by an ensure. -/
def metadataRefreshAge : Span := Span.ofHours 23

/-- A count older than this is taken again. -/
def countMaxAge : Span := Span.ofSeconds 20

/-- How long a polled hint is leased. -/
def pendingLease : Duration := .ofSeconds 300

/-- The whole seconds until `target`, rounded up and at least one; none once it has
passed, to the millisecond. -/
def remainingSecs (target now : Instant) : Option Nat :=
  let ms := (target.since now).toMillis
  if ms ≤ 0 then none else some (max 1 ((ms.toNat + 999) / 1000))

/-- The seconds until `target`, or one second once it has passed. -/
def delaySecs (target now : Instant) : Nat :=
  (remainingSecs target now).getD 1

/-- A polled hint: what it says, its priority, and its lease. -/
structure PolledHint where
  hint : PendingHint
  priority : Priority
  lease : Lease
  deriving Repr

namespace Run

/-- Adds an event of the pending manager to the log. -/
def logPending (level : Level) (message : String) (fields : List (String × String)) : Run Unit :=
  log ⟨level, pendingTarget, message, fields⟩

/-- Reports an error about a queue with a note, and gives it back. -/
def reportNoted (e : QueueError) (queue note : String) : Run QueueError := do
  let e := (e.withContext "queue" queue).withContext "note" note
  report e
  pure e

/-- The next hint id: the clock's milliseconds (none before the epoch) and the number of
ids issued so far. -/
def nextHintId : Run Ulid := do
  let w ← get
  set { w with issued := w.issued + 1 }
  pure (Ulid.ofParts (max 0 w.now.unixMillis).toNat (w.issued + 1))

/-- Forgets an ensured family. -/
def evictFamily (k : FamilyKey) : Run Unit :=
  modify fun w => { w with families := w.families.filter (·.1 != k) }

/-- Forgets every ensured family. -/
def resetFamilies : Run Unit := do
  modify fun w => { w with families := [] }
  logPending .debug "pending queue cache reset" []

end Run

namespace Pending

/-- Creates a pending queue with its metadata; one that exists already will do. -/
def createQueue (queue : String) (desired : Metadata) : Attempt Unit := do
  match ← Attempt.lift (Run.createQueue queue (some desired)) with
  | .ok () => Run.logPending .debug "created pending queue" [LogEvent.quotedField "queue" queue]
  | .error e =>
    if e.kind = .queueAlreadyExists then pure ()
    else throw (← Run.reportNoted e queue "failed to create queue")

/-- Whether a queue's metadata names the family and was written less than 23 hours
before `now`. -/
def isFresh (metadata : Metadata) (p : ProvisionerId) (w : WorkerType) (now : Instant) : Bool :=
  match QueueMetadata.ofMetadata? metadata with
  | some m => m.describes p w && decide (now.since m.lastUsed < metadataRefreshAge)
  | none => false

/-- Makes sure a queue exists with fresh metadata of the family. -/
def ensureQueue (queue : String) (p : ProvisionerId) (w : WorkerType) : Attempt Unit := do
  let now ← Run.now
  let desired := (QueueMetadata.mk p.val w.val now).toMetadata
  match ← Attempt.lift (Run.getMetadata queue) with
  | .ok props =>
    if isFresh props.metadata p w now then return ()
    match ← Attempt.lift (Run.setMetadata queue desired) with
    | .ok () =>
      Run.logPending .debug "refreshed queue metadata" [LogEvent.quotedField "queue" queue]
    | .error e =>
      if e.kind = .queueNotFound then createQueue queue desired
      else throw (← Run.reportNoted e queue "failed to set queue metadata")
  | .error e =>
    if e.kind = .queueNotFound then createQueue queue desired
    else throw (← Run.reportNoted e queue "failed to read queue metadata")

/-- Ensures the queues in order, stopping at the first that fails. -/
def ensureQueues (p : ProvisionerId) (w : WorkerType) : List String → Attempt Unit
  | [] => pure ()
  | q :: qs => do
    ensureQueue q p w
    ensureQueues p w qs

/-- The error of a cancelled ensure. -/
def shuttingDown : QueueError :=
  QueueError.cancelled "queue service is shutting down"

/-- The seven queue names of a family, highest priority first, after making sure they
exist. -/
def ensureFamily (k : FamilyKey) : Attempt (List String) := do
  let w ← get
  match w.families.lookup k with
  | some names => pure names
  | none =>
    if w.signal = .raised then throw shuttingDown
    let names := familyNames w.settings.stem k.provisionerId k.workerType
    match ← Attempt.lift (ensureQueues k.provisionerId k.workerType names).run with
    | .error e =>
      throw ((e.withContext "provisioner_id" k.provisionerId.val).withContext "worker_type"
        k.workerType.val)
    | .ok () =>
      Run.logPending .debug "pending queue family ready"
        [("provisioner_id", k.provisionerId.val), ("worker_type", k.workerType.val)]
      modify fun w => { w with families := w.families ++ [(k, names)] }
      pure names

/-- The queue of each priority of a family, highest first. -/
def queues (k : FamilyKey) : Attempt (List (Priority × String)) := do
  let names ← ensureFamily k
  pure (Priority.all.zip names)

/-- Publishes a task's hint on the queue of its priority; drops a task past its
deadline. -/
def publish (task : TaskRef) (runId : UInt32) : Attempt Unit := do
  Attempt.ofExcept task.validate
  let k : FamilyKey := ⟨task.provisionerId, task.workerType⟩
  let names ← ensureFamily k
  let now ← Run.now
  match remainingSecs task.deadline now with
  | none =>
    Run.logPending .info "deadline already passed, dropping pending message"
      [("task_id", task.taskId.val), ("run_id", toString runId.toNat),
        ("deadline", task.deadline.displayText)]
  | some ttl =>
    let queue := (names[task.priority.index]?).getD ""
    let hintId ← Run.nextHintId
    let text := Codec.encode (PendingHint.toJson ⟨task.taskId, runId, hintId⟩)
    match ← Attempt.lift (Run.putMessage queue text (.ofSeconds 0) (.ofSeconds ttl)) with
    | .ok () => pure ()
    | .error e =>
      let e := (e.withContext "queue" queue).withContext "task_id" task.taskId.val
      if e.kind = .queueNotFound then Run.evictFamily k else Run.report e
      throw e

/-- Reads polled messages as hints; one that does not read is reported and skipped. -/
def readHints (priority : Priority) (queue : String) : List RawMessage → Run (List PolledHint)
  | [] => pure []
  | m :: ms => do
    match Codec.decode PendingHint.ofJson? m.text with
    | .ok hint =>
      let rest ← readHints priority queue ms
      pure (⟨hint, priority, ⟨queue, m⟩⟩ :: rest)
    | .error e =>
      Run.logPending .warn "skipping undecodable pending message"
        [("queue", queue), ("message_id", m.id)]
      Run.report ((e.withContext "queue" queue).withContext "message_id" m.id)
      readHints priority queue ms

/-- Leases up to `count` hints (at most 32) of one queue of a family.  A missing queue
makes the family be ensured again and gives no hints. -/
def poll (k : FamilyKey) (priority : Priority) (queue : String) (count : Nat) :
    Attempt (List PolledHint) := do
  let maxCount := min count maxMessagesPerGet
  if maxCount = 0 then return []
  match ← Attempt.lift (Run.getMessages queue pendingLease maxCount) with
  | .ok messages => readHints priority queue messages
  | .error e =>
    if e.kind = .queueNotFound then
      Run.logPending .debug "pending queue disappeared, recreating" [("queue", queue)]
      Run.evictFamily k
      let _ ← ensureFamily k
      return []
    else
      let e := e.withContext "queue" queue
      Run.report e
      throw e

/-- The largest count: message counts and their sums are unsigned 64-bit numbers. -/
def countLimit : Nat := Nat.pow 2 64 - 1

/-- Adds the counts answered to `acc` in order: the first failure ends the sum, and a sum
past `countLimit` halts. -/
def addCounts (acc : Nat) :
    List (Except QueueError QueueProperties) → Except Halt (Except QueueError Nat)
  | [] => .ok (.ok acc)
  | .error e :: _ => .ok (.error e)
  | .ok p :: rest =>
    if acc + p.count ≤ countLimit then addCounts (acc + p.count) rest
    else .error Halt.addWithOverflow

/-- The total of the counts answered, or the first failure, in order; a total past
`countLimit` halts. -/
def total (results : List (Except QueueError QueueProperties)) :
    Except Halt (Except QueueError Nat) :=
  addCounts 0 results

/-- Takes the count of a family's messages and remembers it with the instant it ends. -/
def refreshCount (k : FamilyKey) : Attempt Nat := do
  let names ← ensureFamily k
  let results ← Attempt.lift (names.mapM Run.getMetadata)
  let n ← Attempt.ofRun (Run.ofHalting (total results))
  let now ← Run.now
  modify fun w => { w with counts := (k, ⟨n, now⟩) :: w.counts.filter (·.1 != k) }
  pure n

/-- The remembered counts with the instant of the count of `k` moved to `now`. -/
def touchCount (k : FamilyKey) (now : Instant) (counts : List (FamilyKey × CountEntry)) :
    List (FamilyKey × CountEntry) :=
  counts.map fun p => if p.1 = k then (p.1, { p.2 with updated := now }) else p

/-- The number of messages in a family's queues.  The first count is awaited; a count
older than 20 seconds is answered as it is, its time moved to now, and a refresh of it
spawned; a newer one is answered as it is. -/
def count (k : FamilyKey) : Attempt Nat := do
  let w ← get
  match w.counts.lookup k with
  | none => refreshCount k
  | some entry =>
    if w.now.since entry.updated > countMaxAge then
      modify fun w => { w with
        counts := touchCount k w.now w.counts
        spawned := w.spawned ++ [k] }
      pure entry.count
    else pure entry.count

/-- The warning that a spawned refresh of the count of `k` failed with `e`. -/
def refreshFailedEvent (k : FamilyKey) (e : QueueError) : LogEvent :=
  ⟨.warn, pendingTarget, "failed to refresh pending count",
    [("provisioner_id", k.provisionerId.val), ("worker_type", k.workerType.val),
      ("error", e.render)]⟩

/-- A spawned refresh of the count of `k`, run to its end in a task of its own: a failure
is logged as a warning, and a refresh that halts ends its task and leaves the world as it
was. -/
def runRefresh (k : FamilyKey) : StateT World Id Unit := do
  let w ← get
  match ((refreshCount k).run).run w with
  | .ok (.ok _, w') => set w'
  | .ok (.error e, w') => set { w' with logs := w'.logs ++ [refreshFailedEvent k e] }
  | .error _ => pure ()

/-- Ends a spawned refresh of the count of `k`, when one runs: it is no longer spawned,
and it takes the count at the world's instant. -/
def finishRefresh (k : FamilyKey) : StateT World Id Unit := do
  let w ← get
  if k ∈ w.spawned then
    set { w with spawned := w.spawned.erase k }
    runRefresh k

/-- Ends every spawned refresh, in the order they were spawned. -/
def finishSpawned : StateT World Id Unit := do
  (← get).spawned.forM finishRefresh

end Pending

end TaskQueue
