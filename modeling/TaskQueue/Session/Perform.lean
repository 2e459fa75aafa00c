import TaskQueue.Session.Basic

/-!
# Performing session steps

`Session.perform` gives each step its meaning: clock steps move the fixed clock (halting
past the calendar), service steps call the pending manager, the expiration queues or the
sweep (a count refresh that a step spawns ends within the step, after its answer), handle
steps use a live handle (removing and releasing use it up, even when the call fails),
lifetime steps act on the stop signal and the loops while the service is running, and
direct steps act on the in-memory store.
-/

namespace TaskQueue

open Time

namespace Session

/-- The refusal of a lifetime step once the service is gone. -/
def stoppedReason : String := "service stopped"

/-- Uses the live handle a reference means. -/
def withHandle (s : Session) (h : HandleRef)
    (use : Session → Nat → Held → Except Halt (Outcome × Session)) :
    Except Halt (Outcome × Session) :=
  match s.select h with
  | .error reason => pure (.refused reason, s)
  | .ok n =>
    match s.held? n with
    | some held => use s n held
    | none => pure (.refused ("unknown or used handle " ++ toString n), s)

/-- Performs one step. -/
def perform (s : Session) : Step → Except Halt (Outcome × Session)
  | .advance ms => do
    let t ← s.world.now.plus (Span.ofMillis ms)
    pure (.reply (.instant t), { s with world := { s.world with now := t } })
  | .setTime t => pure (.reply (.instant t), { s with world := { s.world with now := t } })
  | .now => pure (.reply (.instant s.world.now), s)
  | .ensureFamily k => s.attempt (Pending.ensureFamily k) .names
  | .ensureQueue q p w => s.attempt (Pending.ensureQueue q p w) fun _ => .unit
  | .putPending task runId => s.attempt (Pending.publish task runId) fun _ => .unit
  | .pendingQueues k => s.attempt (Pending.queues k) .shards
  | .pollPending k priority count => do
    let polled : Attempt (List PolledHint) := do
      let qs ← Pending.queues k
      Pending.poll k priority ((qs.lookup priority).getD "") count
    let (r, s) ← s.exec polled.run
    match r with
    | .ok hints =>
      let (numbered, s) := s.give hints Held.hint
      pure (.reply (.hints numbered), s)
    | .error e => pure (.failed e, s)
  | .count k => do
    -- a refresh the count spawned ends before the next step
    let (o, s) ← s.attempt (Pending.count k) .number
    let ((), world) := Pending.finishSpawned.run s.world
    pure (o, { s with world })
  | .resetCache => do
    let ((), s) ← s.exec Run.resetFamilies
    pure (.reply .unit, s)
  | .sweep at_ => s.attempt (Sweep.run (at_.getD s.world.now)) .number
  | .putClaim taskId runId takenUntil =>
    s.attempt (Expiration.putClaim taskId runId takenUntil) fun _ => .unit
  | .putDeadline taskId groupId schedulerId deadline =>
    s.attempt (Expiration.putDeadline taskId groupId schedulerId deadline) fun _ => .unit
  | .putResolved taskId groupId schedulerId resolution =>
    s.attempt (Expiration.putResolved taskId groupId schedulerId resolution) fun _ => .unit
  | .pollNotices kind => do
    let (r, s) ← s.exec (Expiration.poll kind).run
    match r with
    | .ok notices =>
      let (numbered, s) := s.give notices Held.notice
      pure (.reply (.notices numbered), s)
    | .error e => pure (.failed e, s)
  | .remove h => s.withHandle h fun s n held =>
    (s.consume n).attempt held.lease.remove fun _ => .unit
  | .release h => s.withHandle h fun s n held =>
    match held with
    | .hint hint => (s.consume n).attempt hint.lease.release fun _ => .unit
    | .notice _ => pure (.refused "only pending hints can be released", s.consume n)
  | .describeHandle h => s.withHandle h fun s _ held => pure (.reply (.text held.describe), s)
  | .requestShutdown =>
    if s.life != .running then pure (.refused stoppedReason, s)
    else pure (.reply .unit, { s with world := { s.world with signal := .raised } })
  | .startLoops =>
    if s.life != .running then pure (.refused stoppedReason, s)
    else do
      let (loops, s) ← s.exec (s.loops.start)
      pure (.reply .unit, { s with loops })
  | .stop =>
    if s.life != .running then pure (.refused stoppedReason, s)
    else do
      let s := { s with world := { s.world with signal := .raised }, life := .stopped }
      let (loops, s) ← s.exec do
        let loops ← s.loops.stop
        Run.log ⟨.info, Background.serviceTarget, "queue service stopped", []⟩
        pure loops
      pure (.reply .unit, { s with loops })
  | .tick ms =>
    if !s.virtualTime then .error ⟨"time is not frozen"⟩
    else do
      let (loops, s) ← s.exec (s.loops.advance ms)
      pure (.reply .unit, { s with loops })
  | .dropService =>
    if s.life != .running then pure (.refused stoppedReason, s)
    else
      let signal := if s.world.signal = .raised then Signal.raised else .closed
      pure (.reply .unit, { s with world := { s.world with signal }, life := .dropped })
  | .sweepOnce => s.attempt (Sweep.run s.world.now) .number
  | .loopsWithStopSignal => do
    let ((), s) ← s.exec Background.runStopped
    pure (.reply .unit, s)
  | .failNext op queue times =>
    let store := s.world.store.addRule ⟨op, queue, times⟩
    pure (.reply .unit, { s with world := { s.world with store } })
  | .opCounts =>
    pure (.reply (.callCounts (Operation.all.map fun op => (op, s.world.store.calls op))), s)
  | .queueNames => pure (.reply (.names s.world.store.names), s)
  | .queueExists q => pure (.reply (.flag (s.world.store.exists? q)), s)
  | .rawCreate q metadata => s.direct (fun st _ => st.createQueue q metadata) fun _ => .unit
  | .rawDeleteQueue q => s.direct (fun st _ => st.deleteQueue q) fun _ => .unit
  | .rawPut q text visibility ttl =>
    s.direct (fun st now => st.putMessage now q text visibility ttl) fun _ => .unit
  | .rawGet q visibility maxCount => do
    let (o, s) ← s.direct (fun st now => st.getMessages now q visibility maxCount) .raws
    match o with
    | .reply (.raws ms) => pure (o, { s with lastGet := ms })
    | _ => pure (o, s)
  | .rawDeleteMessage q m =>
    match s.resolve m with
    | .error reason => pure (.refused reason, s)
    | .ok (id, receipt) => s.direct (fun st now => st.deleteMessage now q id receipt) fun _ => .unit
  | .rawUpdate q m text visibility =>
    match s.resolve m with
    | .error reason => pure (.refused reason, s)
    | .ok (id, receipt) =>
      s.direct (fun st now => st.updateMessage now q text id receipt visibility) .text
  | .rawGetMetadata q => s.direct (fun st now => st.getMetadata now q) .properties
  | .rawSetMetadata q metadata => s.direct (fun st _ => st.setMetadata q metadata) fun _ => .unit
  | .rawList stem marker withMetadata =>
    s.direct (fun st _ => st.listQueues stem marker withMetadata) .page

/-- Performs one step with a fresh report list, then lets running loops end when the stop
signal was given or the service is gone.  Answers the outcome and the errors reported. -/
def step (s : Session) (st : Step) : Except Halt (Outcome × List QueueError × Session) := do
  let s := { s with world := { s.world with reports := [] } }
  let (o, s) ← s.perform st
  let reports := s.world.reports
  let s ←
    if s.loops.running && (s.world.signal != .quiet || s.life != .running) then do
      let (loops, s) ← s.exec s.loops.stop
      pure { s with loops }
    else pure s
  pure (o, reports, s)

end Session

end TaskQueue
