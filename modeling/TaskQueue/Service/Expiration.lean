import TaskQueue.Service.Lease
import TaskQueue.Service.Pending

/-!
# Expiration queues

Three queues are shared by the whole service: claim notices, deadline notices and
resolved notices.  Each is created on first use and then remembered; a failed creation
is not remembered, and once the stop signal is given a queue that is not remembered
fails as cancelled.  Notices live seven days.

A claim notice becomes visible once its `takenUntil` has passed (rounded up to whole
seconds, at least one second); a deadline notice once its deadline and the configured
delay have passed; a resolved notice at once.  Polling leases up to 32 notices for ten
minutes.  A queue found missing is forgotten, so the next use creates it again.
-/

namespace TaskQueue

open Time

/-- The target of the expiration queues' log events. -/
def expirationTarget : String := "taskq_core::queue::expiration"

/-- How long notices live. -/
def noticeTtl : Duration := .ofSeconds (7 * 24 * 3600)

/-- How long a polled notice is leased. -/
def noticeLease : Duration := .ofSeconds 600

/-- A notice of one of the expiration queues. -/
inductive Notice where
  | claim (n : ClaimNotice)
  | deadline (n : DeadlineNotice)
  | resolved (n : ResolvedNotice)
  deriving Repr

namespace Notice

/-- The JSON form of a notice. -/
def toJson : Notice → Json
  | claim n => n.toJson
  | deadline n => n.toJson
  | resolved n => n.toJson

/-- The notice as a diagnostic record. -/
def describe : Notice → String
  | claim n => n.describe
  | deadline n => n.describe
  | resolved n => n.describe

/-- Reads the notice of a kind from its JSON form. -/
def ofJson? : ExpirationKind → Json → Option Notice
  | .claim, j => (ClaimNotice.ofJson? j).map claim
  | .deadline, j => (DeadlineNotice.ofJson? j).map deadline
  | .resolved, j => (ResolvedNotice.ofJson? j).map resolved

end Notice

/-- A polled notice and its lease. -/
structure PolledNotice where
  notice : Notice
  lease : Lease
  deriving Repr

/-- The name of an expiration queue under the settings. -/
def Settings.expirationQueue (s : Settings) : ExpirationKind → String
  | .claim => s.claimQueue
  | .deadline => s.deadlineQueue
  | .resolved => s.resolvedQueue

namespace Expiration

/-- Makes sure an expiration queue exists; one that exists already will do. -/
def ensureReady (kind : ExpirationKind) : Attempt Unit := do
  let w ← get
  if kind ∈ w.ready then return ()
  if w.signal = .raised then throw Pending.shuttingDown
  let name := w.settings.expirationQueue kind
  match ← Attempt.lift (Run.createQueue name none) with
  | .ok () =>
    Run.log ⟨.debug, expirationTarget, "created expiration queue",
      [LogEvent.quotedField "queue" name, LogEvent.quotedField "kind" kind.name]⟩
    modify fun w => { w with ready := w.ready ++ [kind] }
  | .error e =>
    if e.kind = .queueAlreadyExists then modify fun w => { w with ready := w.ready ++ [kind] }
    else throw (← Run.reportNoted e name "failed to create expiration queue")

/-- Forgets that an expiration queue exists. -/
def evict (kind : ExpirationKind) : Run Unit :=
  modify fun w => { w with ready := w.ready.filter (· != kind) }

/-- Puts a notice on its queue, visible after `visibility` seconds. -/
def put (kind : ExpirationKind) (notice : Json) (visibility : Nat) : Attempt Unit := do
  ensureReady kind
  let name := (← get).settings.expirationQueue kind
  let put := Run.putMessage name (Codec.encode notice) (.ofSeconds visibility) noticeTtl
  match ← Attempt.lift put with
  | .ok () => pure ()
  | .error e =>
    let e := e.withContext "queue" name
    if e.kind = .queueNotFound then evict kind else Run.report e
    throw e

/-- Publishes a claim notice, visible once `takenUntil` has passed. -/
def putClaim (taskId : TaskId) (runId : UInt32) (takenUntil : Instant) : Attempt Unit := do
  let now ← Run.now
  put .claim (ClaimNotice.toJson ⟨taskId, runId, takenUntil⟩) (delaySecs takenUntil now)

/-- The largest unsigned 64-bit number, where delays stop growing. -/
def delayCap : Nat := Nat.pow 2 64 - 1

/-- Publishes a deadline notice, visible once the deadline and the configured delay (in
whole seconds, rounded up) have passed. -/
def putDeadline (taskId : TaskId) (groupId schedulerId : String) (deadline : Instant) :
    Attempt Unit := do
  let w ← get
  let extra := min delayCap ((w.settings.deadlineDelay.millis + 999) / 1000)
  let visibility := min delayCap (delaySecs deadline w.now + extra)
  put .deadline (DeadlineNotice.toJson ⟨taskId, groupId, schedulerId, deadline⟩) visibility

/-- Publishes a resolved notice, visible at once. -/
def putResolved (taskId : TaskId) (groupId schedulerId : String) (resolution : Resolution) :
    Attempt Unit :=
  put .resolved (ResolvedNotice.toJson ⟨taskId, groupId, schedulerId, resolution⟩) 0

/-- Reads polled messages as notices; one that does not read is reported and skipped. -/
def readNotices (kind : ExpirationKind) (queue : String) :
    List RawMessage → Run (List PolledNotice)
  | [] => pure []
  | m :: ms => do
    match Codec.decode (Notice.ofJson? kind) m.text with
    | .ok n =>
      let rest ← readNotices kind queue ms
      pure (⟨n, ⟨queue, m⟩⟩ :: rest)
    | .error e =>
      Run.log ⟨.warn, expirationTarget, "skipping undecodable message",
        [LogEvent.quotedField "queue" queue, ("message_id", m.id)]⟩
      Run.report ((e.withContext "queue" queue).withContext "message_id" m.id)
      readNotices kind queue ms

/-- Leases up to 32 notices of a queue for ten minutes. -/
def poll (kind : ExpirationKind) : Attempt (List PolledNotice) := do
  ensureReady kind
  let name := (← get).settings.expirationQueue kind
  match ← Attempt.lift (Run.getMessages name noticeLease maxMessagesPerGet) with
  | .ok messages => readNotices kind name messages
  | .error e =>
    let e := e.withContext "queue" name
    if e.kind = .queueNotFound then
      evict kind
      throw e
    else
      Run.report e
      throw e

end Expiration

end TaskQueue
