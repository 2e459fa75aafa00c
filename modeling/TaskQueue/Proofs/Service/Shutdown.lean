import TaskQueue.Proofs.Pending.Ensure
import TaskQueue.Proofs.Service.Healing

/-!
# The stop signal

Once the stop signal is given, the service refuses to start any ensure of a family or of an
expiration queue it does not remember, and nothing else changes.

* Every operation that would have to ensure a family or an expiration queue not remembered
  fails as cancelled, and leaves the world as it was: no call of the store, nothing
  reported or logged, no cache changed (`Attempt.Cancels`, `CancelsNewEnsures`).
* Every operation that needs no such ensure does not look at the signal at all: run from
  the same world with any other signal it answers the same and ends in the same world, with
  that signal (`Attempt.BlindAt`, `BlindWithoutEnsures`).  A poll of a pending queue needs
  no ensure when its queue is there; publishing, counting and the expiration queues need
  none when their family or queue is remembered.

Whether a computation looks at the signal composes along `>>=` as a Hoare triple does
(`Run.BlindAt.bind`, `Attempt.BlindAt.bind`): the calls of the store, logging, reporting
and the caches' updates never look at it, and the only reads of the signal are the two
ensures', behind a lookup in their caches.
-/

namespace TaskQueue

open Time

/-- The world with its stop signal set to `s`. -/
def World.withSignal (w : World) (s : Signal) : World := { w with signal := s }

namespace Run

variable {α β : Type} {w : World}

/-- Run from `w`, `x` does not look at the stop signal: run from `w` with any signal `s`
it answers as from `w`, and ends where it ends from `w`, with the signal `s`. -/
def BlindAt (x : Run α) (w : World) : Prop :=
  ∀ s, x.run (w.withSignal s) = (x.run w).map fun p => (p.1, p.2.withSignal s)

/-- `x` never looks at the stop signal. -/
def Blind (x : Run α) : Prop := ∀ w, BlindAt x w

theorem BlindAt.bind {x : Run α} {f : α → Run β} (hx : BlindAt x w)
    (hf : ∀ a w', x.run w = .ok (a, w') → BlindAt (f a) w') :
  BlindAt (x >>= f) w
  := by
  intro s
  rw [StateT.run_bind, StateT.run_bind, hx s]
  cases h : x.run w with
  | error e => rfl
  | ok p => exact hf p.1 p.2 h s

theorem Blind.bind {x : Run α} {f : α → Run β} (hx : Blind x) (hf : ∀ a, Blind (f a)) :
  Blind (x >>= f)
  := fun w => (hx w).bind fun a w' _ => hf a w'

theorem blind_pure (a : α) : Blind (pure a : Run α)
  := fun _ _ => rfl

theorem blind_modify {f : World → World} (hf : ∀ w s, f (w.withSignal s) = (f w).withSignal s) :
  Blind (modify f)
  := fun w s => by
  show Except.ok ((), f (w.withSignal s)) = .ok ((), (f w).withSignal s)
  rw [hf]

theorem blind_now : Blind now
  := fun _ _ => rfl

theorem blind_ofHalting (r : Except Halt α) : Blind (ofHalting r)
  := fun _ _ => by cases r <;> rfl

theorem blind_log (e : LogEvent) : Blind (log e)
  := blind_modify fun _ _ => rfl

theorem blind_report (e : QueueError) : Blind (report e)
  := blind_modify fun _ _ => rfl

/-- A call of the store reads the clock, the store and the link, never the signal. -/
theorem blind_perform (inMemory : Store → Instant → Except Halt (Except Fault α × Store))
    (request : Gateway.Request) (read : String → Except Fault α) :
  Blind (perform inMemory request read)
  := fun w s => by
  obtain ⟨now, store, link, settings, issued, families, counts, spawned, ready, signal, reports,
    logs, logReports⟩ := w
  cases link with
  | gateway g exchange => rfl
  | store =>
    cases hm : inMemory store now with
    | error h =>
      simp only [perform, World.withSignal, StateT.run_bind, StateT.run_get, pure_bind, ofHalting, hm]
      rfl
    | ok p =>
      simp only [perform, World.withSignal, StateT.run_bind, StateT.run_get, pure_bind, ofHalting, hm]
      rfl

theorem Blind.map {x : Run α} (f : α → β) (hx : Blind x) : Blind (f <$> x)
  := by
  rw [map_eq_bind_pure_comp]
  exact hx.bind fun a => blind_pure _

theorem blind_logPending (level : Level) (message : String) (fields : List (String × String)) :
  Blind (logPending level message fields)
  := blind_log _

theorem blind_nextHintId : Blind nextHintId
  := fun _ _ => rfl

theorem blind_evictFamily (k : FamilyKey) : Blind (evictFamily k)
  := blind_modify fun _ _ => rfl

theorem blind_mapM {f : α → Run β} (hf : ∀ a, Blind (f a)) :
  ∀ l : List α, Blind (l.mapM f)
  | [] => blind_pure _
  | a :: l => by
    rw [List.mapM_cons]
    exact (hf a).bind fun _ => (blind_mapM hf l).bind fun _ => blind_pure _

end Run

namespace Attempt

variable {α β : Type} {w : World}

/-- Run from `w`, the attempt `x` does not look at the stop signal. -/
def BlindAt (x : Attempt α) (w : World) : Prop := Run.BlindAt x.run w

/-- The attempt `x` never looks at the stop signal. -/
def Blind (x : Attempt α) : Prop := ∀ w, BlindAt x w

theorem BlindAt.bind {x : Attempt α} {f : α → Attempt β} (hx : BlindAt x w)
    (hf : ∀ a w', x.run.run w = .ok (.ok a, w') → BlindAt (f a) w') :
  BlindAt (x >>= f) w
  := by
  unfold BlindAt
  rw [ExceptT.run_bind]
  refine Run.BlindAt.bind hx fun r w' hr => ?_
  cases r with
  | ok a => exact hf a w' hr
  | error e => exact Run.blind_pure _ w'

theorem BlindAt.bind_blind {x : Attempt α} {f : α → Attempt β} (hx : BlindAt x w)
    (hf : ∀ a, Blind (f a)) :
  BlindAt (x >>= f) w
  := hx.bind fun a w' _ => hf a w'

theorem Blind.bind {x : Attempt α} {f : α → Attempt β} (hx : Blind x) (hf : ∀ a, Blind (f a)) :
  Blind (x >>= f)
  := fun w => BlindAt.bind_blind (hx w) hf

theorem blind_pure (a : α) : Blind (pure a : Attempt α)
  := Run.blind_pure _

theorem blind_throw (e : QueueError) : Blind (throw e : Attempt α)
  := Run.blind_pure _

theorem blind_ofExcept (r : Except QueueError α) : Blind (ofExcept r)
  := Run.blind_pure _

theorem blind_ofRun {r : Run (Except QueueError α)} (h : Run.Blind r) : Blind (ofRun r)
  := h

theorem blind_lift {r : Run α} (h : Run.Blind r) : Blind (lift r)
  := Run.Blind.map _ h

theorem blindAt_lift {r : Run α} (h : Run.BlindAt r w) : BlindAt (lift r) w
  := by
  unfold BlindAt lift
  rw [ExceptT.run_lift, map_eq_bind_pure_comp]
  exact h.bind fun a w' _ => Run.blind_pure _ w'

/-- Reading the world is blind when what follows reads nothing of it but what the signal
leaves alone. -/
theorem blindAt_get_bind {f : World → Attempt β} (hf : ∀ s, f (w.withSignal s) = f w)
    (h : BlindAt (f w) w) :
  BlindAt (get >>= f) w
  := fun s => by
  show (f (w.withSignal s)).run.run (w.withSignal s) = _
  rw [hf]
  exact h s

theorem blind_get_bind {f : World → Attempt β} (hf : ∀ w s, f (w.withSignal s) = f w)
    (h : ∀ w, Blind (f w)) :
  Blind (get >>= f)
  := fun w => blindAt_get_bind (hf w) (h w w)

theorem blind_modify {f : World → World} (hf : ∀ w s, f (w.withSignal s) = (f w).withSignal s) :
  Blind (modify f : Attempt PUnit)
  := fun w s => by
  show Except.ok (Except.ok PUnit.unit, f (w.withSignal s)) = .ok (.ok PUnit.unit, (f w).withSignal s)
  rw [hf]

theorem lift_run_eq_ok {r : Run α} {a : α} {w' : World} (h : (lift r).run.run w = .ok (.ok a, w')) :
  r.run w = .ok (a, w')
  := by
  unfold lift at h
  rw [ExceptT.run_lift] at h
  cases hr : r.run w with
  | error e => simp [hr] at h
  | ok p =>
    simp only [StateT.run_map, hr] at h
    cases h
    rfl

/-- `x` run from `w` fails as cancelled by the stop signal and leaves the world as it was. -/
def Cancels (x : Attempt α) (w : World) : Prop :=
  x.run.run w = .ok (.error Pending.shuttingDown, w)

theorem Cancels.bind {x : Attempt α} (hx : Cancels x w) (f : α → Attempt β) :
  Cancels (x >>= f) w
  := by
  unfold Cancels at *
  rw [ExceptT.run_bind, StateT.run_bind, hx]
  rfl

end Attempt

/-- The queue `q` is there for a get: in the store, when the world's calls go there, and
through a gateway when no get of `q` is answered as a missing queue. -/
def World.Finds (w : World) (q : String) : Prop :=
  match w.link with
  | .store => w.store.find? q ≠ none
  | .gateway g exchange => ∀ v n f,
    g.call (.getMessages q v n) (exchange (.getMessages q v n))
        (Gateway.readBody Gateway.messages?) = .error f →
      (QueueError.ofFault f).kind ≠ .queueNotFound

namespace Pending

variable {w : World} {k : FamilyKey} {names : List String}

/-! ### Pending queues -/

/-- A remembered family is answered from memory, whatever the signal. -/
theorem blindAt_ensureFamily (h : w.families.lookup k = some names) :
  Attempt.BlindAt (ensureFamily k) w
  := fun s => by
  rw [ensureFamily_cached h, ensureFamily_cached (w := w.withSignal s) h]
  rfl

theorem blindAt_queues (h : w.families.lookup k = some names) :
  Attempt.BlindAt (queues k) w
  := (blindAt_ensureFamily h).bind_blind fun _ => Attempt.blind_pure _

theorem blindAt_publish (task : TaskRef) (runId : UInt32)
    (h : w.families.lookup ⟨task.provisionerId, task.workerType⟩ = some names) :
  Attempt.BlindAt (publish task runId) w
  := by
  unfold publish
  refine (Attempt.blind_ofExcept _ w).bind fun _ w' hw' => ?_
  obtain rfl : w' = w := (Prod.mk.inj (Except.ok.inj hw')).2.symm
  refine (blindAt_ensureFamily h).bind_blind fun names => ?_
  refine (Attempt.blind_lift Run.blind_now).bind fun now => ?_
  split
  · exact Attempt.blind_lift (Run.blind_logPending _ _ _)
  · refine (Attempt.blind_lift Run.blind_nextHintId).bind fun hintId => ?_
    refine (Attempt.blind_lift (Run.blind_perform _ _ _)).bind fun r => ?_
    split
    · exact Attempt.blind_pure _
    · dsimp only
      split
      · exact (Attempt.blind_lift (Run.blind_evictFamily _)).bind fun _ => Attempt.blind_throw _
      · exact (Attempt.blind_lift (Run.blind_report _)).bind fun _ => Attempt.blind_throw _

theorem blind_readHints (priority : Priority) (queue : String) :
  ∀ ms, Run.Blind (readHints priority queue ms)
  | [] => Run.blind_pure _
  | m :: ms => by
    unfold readHints
    split
    · exact (blind_readHints priority queue ms).bind fun _ => Run.blind_pure _
    · exact (Run.blind_logPending _ _ _).bind fun _ =>
        (Run.blind_report _).bind fun _ => blind_readHints priority queue ms

theorem blindAt_refreshCount (h : w.families.lookup k = some names) :
  Attempt.BlindAt (refreshCount k) w
  := by
  unfold refreshCount
  refine (blindAt_ensureFamily h).bind_blind fun names => ?_
  refine (Attempt.blind_lift (Run.blind_mapM (fun _ => Run.blind_perform _ _ _) _)).bind fun _ => ?_
  refine (Attempt.blind_ofRun (Run.blind_ofHalting _)).bind fun _ => ?_
  refine (Attempt.blind_lift Run.blind_now).bind fun _ => ?_
  exact (Attempt.blind_modify fun _ _ => rfl).bind fun _ => Attempt.blind_pure _

theorem blindAt_count (h : w.families.lookup k = some names) :
  Attempt.BlindAt (count k) w
  := by
  unfold count
  refine Attempt.blindAt_get_bind (fun _ => rfl) ?_
  split
  · exact blindAt_refreshCount h
  · split
    · -- moving the count's instant and spawning its refresh leave the signal alone
      exact (Attempt.blind_modify (fun _ _ => rfl) w).bind fun _ _ _ => Attempt.blind_pure _ _
    · exact Attempt.blind_pure _ w

/-- A count taken less than 20 seconds ago is answered from memory. -/
theorem blindAt_count_of_fresh {e : CountEntry} (h : w.counts.lookup k = some e)
    (hf : ¬ w.now.since e.updated > countMaxAge) :
  Attempt.BlindAt (count k) w
  := by
  unfold count
  refine Attempt.blindAt_get_bind (fun _ => rfl) ?_
  simp only [h, hf, if_false]
  exact Attempt.blind_pure _ w

variable (k) in
/-- Once the signal is given, a family not remembered is not ensured. -/
theorem cancels_ensureFamily (hs : w.signal = .raised) (hk : w.families.lookup k = none) :
  Attempt.Cancels (ensureFamily k) w
  := by
  simp [Attempt.Cancels, ensureFamily, hk, hs, ExceptT.run_bind]
  rfl

theorem cancels_queues (hs : w.signal = .raised) (hk : w.families.lookup k = none) :
  Attempt.Cancels (queues k) w
  := (cancels_ensureFamily k hs hk).bind _

theorem cancels_publish {task : TaskRef} (runId : UInt32) (hs : w.signal = .raised)
    (hk : w.families.lookup ⟨task.provisionerId, task.workerType⟩ = none)
    (hv : task.validate = .ok ()) :
  Attempt.Cancels (publish task runId) w
  := by
  unfold Attempt.Cancels publish
  rw [Attempt.run_bind_of_ok (by rw [hv]; rfl)]
  exact (cancels_ensureFamily _ hs hk).bind _

theorem cancels_count (hs : w.signal = .raised) (hk : w.families.lookup k = none)
    (hc : w.counts.lookup k = none) :
  Attempt.Cancels (count k) w
  := by
  unfold Attempt.Cancels count
  rw [Attempt.run_bind_of_ok Run.get_run]
  simp only [hc]
  exact (cancels_ensureFamily k hs hk).bind _

/-- A poll of a queue that is there never finds it missing, so it ensures nothing. -/
theorem getMessages_kind_ne {q : String} {visibility : Duration} {maxCount : Nat}
    {e : QueueError} {w' : World} (hq : w.Finds q)
    (h : (Run.getMessages q visibility maxCount).run w = .ok (.error e, w')) :
  e.kind ≠ .queueNotFound
  := by
  cases hl : w.link with
  | gateway g exchange =>
    -- the gateway's answer is the fault, which the hypothesis classifies
    unfold Run.getMessages Run.perform at h
    simp only [StateT.run_bind, StateT.run_get, pure_bind, hl] at h
    rw [World.Finds, hl] at hq
    cases hc : g.call (.getMessages q visibility.seconds maxCount)
        (exchange (.getMessages q visibility.seconds maxCount)) (Gateway.readBody Gateway.messages?)
      with
    | ok _ =>
      simp only [hc, Except.mapError] at h
      cases h
    | error f =>
      simp only [hc, Except.mapError] at h
      cases h
      exact hq _ _ f hc
  | store =>
    rcases hm : w.store.getMessages w.now q visibility maxCount with hh | ⟨r, s⟩
    · unfold Run.getMessages at h
      rw [Run.perform_halts _ _ _ hl hm] at h
      cases h
    rw [Run.getMessages_of_store hl hm] at h
    have he := (Prod.mk.inj (Except.ok.inj h)).1
    rcases Store.getMessages_eq_ok_iff.1 hm with ⟨rfl, -, -⟩ | ⟨-, ⟨hq', -, -⟩ | ⟨_, _, _, rfl, -⟩ |
      ⟨_, _, _, _, _, rfl, -⟩⟩
    · -- an injected failure is transient
      cases he
      rw [Store.injected_kind]
      decide
    · rw [World.Finds, hl] at hq
      exact absurd hq' hq
    · cases he
    · cases he

/-- A poll of a pending queue that is there never ensures its family again, so it does not
look at the signal; the family need not be remembered. -/
theorem blindAt_poll (priority : Priority) {q : String} (n : Nat) (hq : w.Finds q) :
  Attempt.BlindAt (poll k priority q n) w
  := by
  unfold poll
  dsimp only
  split
  · exact Attempt.blind_pure _ w
  · refine (Attempt.blindAt_lift (Run.blind_perform _ _ _ w)).bind fun r w' hr => ?_
    split
    · exact Attempt.blind_lift (blind_readHints _ _ _) w'
    · rw [if_neg (getMessages_kind_ne hq (Attempt.lift_run_eq_ok hr))]
      exact (Attempt.blind_lift (Run.blind_report _)).bind (fun _ => Attempt.blind_throw _) w'

end Pending

namespace Expiration

variable {w : World} {kind : ExpirationKind}

/-- A remembered expiration queue is answered from memory, whatever the signal. -/
theorem blindAt_ensureReady (h : kind ∈ w.ready) :
  Attempt.BlindAt (ensureReady kind) w
  := fun s => by
  rw [ensureReady_of_ready h, ensureReady_of_ready (w := w.withSignal s) h]
  rfl

theorem blind_evict (kind : ExpirationKind) : Run.Blind (evict kind)
  := Run.blind_modify fun _ _ => rfl

theorem blindAt_put (notice : Json) (visibility : Nat) (h : kind ∈ w.ready) :
  Attempt.BlindAt (put kind notice visibility) w
  := by
  unfold put
  refine (blindAt_ensureReady h).bind_blind fun _ => ?_
  refine Attempt.blind_get_bind (fun _ _ => rfl) fun _ => ?_
  refine (Attempt.blind_lift (Run.blind_perform _ _ _)).bind fun r => ?_
  split
  · exact Attempt.blind_pure _
  · dsimp only
    split
    · exact (Attempt.blind_lift (blind_evict _)).bind fun _ => Attempt.blind_throw _
    · exact (Attempt.blind_lift (Run.blind_report _)).bind fun _ => Attempt.blind_throw _

theorem blindAt_putClaim (taskId : TaskId) (runId : UInt32) (takenUntil : Instant)
    (h : .claim ∈ w.ready) :
  Attempt.BlindAt (putClaim taskId runId takenUntil) w
  := by
  unfold putClaim
  refine (Attempt.blindAt_lift (Run.blind_now w)).bind fun _ w' hw' => ?_
  obtain rfl : w' = w := (Prod.mk.inj (Except.ok.inj hw')).2.symm
  exact blindAt_put _ _ h

theorem blindAt_putDeadline (taskId : TaskId) (groupId schedulerId : String) (deadline : Instant)
    (h : .deadline ∈ w.ready) :
  Attempt.BlindAt (putDeadline taskId groupId schedulerId deadline) w
  := by
  unfold putDeadline
  exact Attempt.blindAt_get_bind (fun _ => rfl) (blindAt_put _ _ h)

theorem blindAt_putResolved (taskId : TaskId) (groupId schedulerId : String)
    (resolution : Resolution) (h : .resolved ∈ w.ready) :
  Attempt.BlindAt (putResolved taskId groupId schedulerId resolution) w
  := blindAt_put _ _ h

theorem blind_readNotices (kind : ExpirationKind) (queue : String) :
  ∀ ms, Run.Blind (readNotices kind queue ms)
  | [] => Run.blind_pure _
  | m :: ms => by
    unfold readNotices
    split
    · exact (blind_readNotices kind queue ms).bind fun _ => Run.blind_pure _
    · exact (Run.blind_log _).bind fun _ =>
        (Run.blind_report _).bind fun _ => blind_readNotices kind queue ms

theorem blindAt_poll (h : kind ∈ w.ready) :
  Attempt.BlindAt (poll kind) w
  := by
  unfold poll
  refine (blindAt_ensureReady h).bind_blind fun _ => ?_
  refine Attempt.blind_get_bind (fun _ _ => rfl) fun _ => ?_
  refine (Attempt.blind_lift (Run.blind_perform _ _ _)).bind fun r => ?_
  split
  · exact Attempt.blind_lift (blind_readNotices _ _ _)
  · dsimp only
    split
    · exact (Attempt.blind_lift (blind_evict _)).bind fun _ => Attempt.blind_throw _
    · exact (Attempt.blind_lift (Run.blind_report _)).bind fun _ => Attempt.blind_throw _

variable (kind) in
/-- Once the signal is given, an expiration queue not remembered is not made sure of. -/
theorem cancels_ensureReady (hs : w.signal = .raised) (hk : kind ∉ w.ready) :
  Attempt.Cancels (ensureReady kind) w
  := by
  simp [Attempt.Cancels, ensureReady, hk, hs, ExceptT.run_bind]
  rfl

theorem cancels_put (notice : Json) (visibility : Nat) (hs : w.signal = .raised)
    (hk : kind ∉ w.ready) :
  Attempt.Cancels (put kind notice visibility) w
  := (cancels_ensureReady kind hs hk).bind _

theorem cancels_putClaim (taskId : TaskId) (runId : UInt32) (takenUntil : Instant)
    (hs : w.signal = .raised) (hk : .claim ∉ w.ready) :
  Attempt.Cancels (putClaim taskId runId takenUntil) w
  := by
  unfold Attempt.Cancels putClaim
  rw [Attempt.run_bind_of_ok rfl]
  exact cancels_put _ _ hs hk

theorem cancels_putDeadline (taskId : TaskId) (groupId schedulerId : String) (deadline : Instant)
    (hs : w.signal = .raised) (hk : .deadline ∉ w.ready) :
  Attempt.Cancels (putDeadline taskId groupId schedulerId deadline) w
  := by
  unfold Attempt.Cancels putDeadline
  rw [Attempt.run_bind_of_ok Run.get_run]
  exact cancels_put _ _ hs hk

theorem cancels_putResolved (taskId : TaskId) (groupId schedulerId : String)
    (resolution : Resolution) (hs : w.signal = .raised) (hk : .resolved ∉ w.ready) :
  Attempt.Cancels (putResolved taskId groupId schedulerId resolution) w
  := cancels_put _ _ hs hk

theorem cancels_poll (hs : w.signal = .raised) (hk : kind ∉ w.ready) :
  Attempt.Cancels (poll kind) w
  := (cancels_ensureReady kind hs hk).bind _

end Expiration

/-! ### Once the signal is given -/

/-- Run from `w`, each operation that would start an ensure of a family or an expiration
queue not remembered fails as cancelled and leaves `w` as it was. -/
structure CancelsNewEnsures (w : World) : Prop where
  family : ∀ k, w.families.lookup k = none →
    Attempt.Cancels (Pending.ensureFamily k) w ∧ Attempt.Cancels (Pending.queues k) w ∧
      (w.counts.lookup k = none → Attempt.Cancels (Pending.count k) w)
  publish : ∀ (task : TaskRef) runId,
    w.families.lookup ⟨task.provisionerId, task.workerType⟩ = none →
    task.validate = .ok () → Attempt.Cancels (Pending.publish task runId) w
  expiration : ∀ kind, kind ∉ w.ready →
    (∀ notice visibility, Attempt.Cancels (Expiration.put kind notice visibility) w) ∧
      Attempt.Cancels (Expiration.poll kind) w
  claim : .claim ∉ w.ready → ∀ taskId runId takenUntil,
    Attempt.Cancels (Expiration.putClaim taskId runId takenUntil) w
  deadline : .deadline ∉ w.ready → ∀ taskId groupId schedulerId deadline,
    Attempt.Cancels (Expiration.putDeadline taskId groupId schedulerId deadline) w
  resolved : .resolved ∉ w.ready → ∀ taskId groupId schedulerId resolution,
    Attempt.Cancels (Expiration.putResolved taskId groupId schedulerId resolution) w

/-- Run from `w`, each operation that needs no new ensure does not look at the signal: the
family or expiration queue it uses is remembered, its count is recent, or the pending
queue it polls is there. -/
structure BlindWithoutEnsures (w : World) : Prop where
  family : ∀ k names, w.families.lookup k = some names →
    Attempt.BlindAt (Pending.ensureFamily k) w ∧ Attempt.BlindAt (Pending.queues k) w ∧
      Attempt.BlindAt (Pending.count k) w
  publish : ∀ (task : TaskRef) runId names,
    w.families.lookup ⟨task.provisionerId, task.workerType⟩ = some names →
    Attempt.BlindAt (Pending.publish task runId) w
  count : ∀ k (e : CountEntry), w.counts.lookup k = some e →
    ¬ w.now.since e.updated > countMaxAge → Attempt.BlindAt (Pending.count k) w
  poll : ∀ k priority q n, w.Finds q →
    Attempt.BlindAt (Pending.poll k priority q n) w
  expiration : ∀ kind, kind ∈ w.ready →
    (∀ notice visibility, Attempt.BlindAt (Expiration.put kind notice visibility) w) ∧
      Attempt.BlindAt (Expiration.poll kind) w
  claim : .claim ∈ w.ready → ∀ taskId runId takenUntil,
    Attempt.BlindAt (Expiration.putClaim taskId runId takenUntil) w
  deadline : .deadline ∈ w.ready → ∀ taskId groupId schedulerId deadline,
    Attempt.BlindAt (Expiration.putDeadline taskId groupId schedulerId deadline) w
  resolved : .resolved ∈ w.ready → ∀ taskId groupId schedulerId resolution,
    Attempt.BlindAt (Expiration.putResolved taskId groupId schedulerId resolution) w

theorem cancelsNewEnsures {w : World} (hs : w.signal = .raised) :
  CancelsNewEnsures w
  where
  family k hk := ⟨Pending.cancels_ensureFamily k hs hk, Pending.cancels_queues hs hk,
    Pending.cancels_count hs hk⟩
  publish _ runId hk hv := Pending.cancels_publish runId hs hk hv
  expiration _ hk := ⟨fun _ _ => Expiration.cancels_put _ _ hs hk, Expiration.cancels_poll hs hk⟩
  claim hk _ _ _ := Expiration.cancels_putClaim _ _ _ hs hk
  deadline hk _ _ _ _ := Expiration.cancels_putDeadline _ _ _ _ hs hk
  resolved hk _ _ _ _ := Expiration.cancels_putResolved _ _ _ _ hs hk

theorem blindWithoutEnsures (w : World) :
  BlindWithoutEnsures w
  where
  family _ _ h := ⟨Pending.blindAt_ensureFamily h, Pending.blindAt_queues h,
    Pending.blindAt_count h⟩
  publish task runId _ h := Pending.blindAt_publish task runId h
  count _ _ h hf := Pending.blindAt_count_of_fresh h hf
  poll _ priority _ n hq := Pending.blindAt_poll priority n hq
  expiration _ h := ⟨fun _ _ => Expiration.blindAt_put _ _ h, Expiration.blindAt_poll h⟩
  claim h _ _ _ := Expiration.blindAt_putClaim _ _ _ h
  deadline h _ _ _ _ := Expiration.blindAt_putDeadline _ _ _ _ h
  resolved h _ _ _ _ := Expiration.blindAt_putResolved _ _ _ _ h

/-- Once the stop signal is given, only new ensures are cancelled: an operation that would
ensure a family or expiration queue not remembered fails as cancelled with the world left as
it was, and every operation that needs no new ensure does what it does with no signal. -/
theorem shutdown_cancels_only_new_ensures {w : World} (hs : w.signal = .raised) :
  CancelsNewEnsures w ∧ BlindWithoutEnsures w
  := ⟨cancelsNewEnsures hs, blindWithoutEnsures w⟩

/-- A fresh world whose stop signal was given. -/
theorem shutdown_of_fresh_world :
  ((World.init Settings.default .epoch (Store.empty 1) .store).withSignal .raised).signal =
      .raised ∧
    CancelsNewEnsures ((World.init Settings.default .epoch (Store.empty 1) .store).withSignal
      .raised) ∧
    BlindWithoutEnsures ((World.init Settings.default .epoch (Store.empty 1) .store).withSignal
      .raised)
  := ⟨rfl, shutdown_cancels_only_new_ensures rfl⟩

end TaskQueue
