import TaskQueue.Proofs.Service.Shutdown
import TaskQueue.Proofs.Gateway.Replies
import Mathlib

/-!
# What the queue layer reports

Besides returning its errors, the queue layer hands some of them to the service's error
reporter (`World.reports`).  Over the in-memory store, whatever failures are armed, every
call of the layer keeps one discipline (`queue_layer_reporting_discipline`):

* a transient error that a call returns was reported once during the call, as the injected
  failure of one store call with a `queue` context naming the queue of that call; the error
  returned is that report, with context added since (`FailureReported`);
* a call that is cancelled or finds a queue missing reports nothing, and a task that is not
  valid is refused before any store call;
* a poll reports each leased message that does not read, once and in order, as a codec
  error naming the queue and the message, and answers what the others read as (`Polled`);
* removing or releasing a leased message reports exactly its stale receipts;

and the calls report nothing else.  Each operation is taken apart at its store calls
(`Attempt.perform_bind_eq_ok`), the faults a call can answer are listed once per call, and
the discipline of a composite operation follows from its parts (`ReportsFailures.bind`).
-/

namespace TaskQueue

open Time

variable {α β : Type} {w w' : World}

/-! ### Error contexts -/

namespace Context

theorem get?_cons (k' v' k : String) (c : Context) :
  Context.get? ((k', v') :: c) k = if k' = k then some v' else c.get? k
  := by
  by_cases h : k' = k <;> simp [Context.get?, h]

@[simp]
theorem get?_set (c : Context) (k v k' : String) :
  (c.set k v).get? k' = if k = k' then some v else c.get? k'
  := by
  induction c with
  | nil => by_cases h : k = k' <;> simp [Context.set, Context.get?, h]
  | cons kv c ih =>
    obtain ⟨k₁, v₁⟩ := kv
    by_cases h₁ : k₁ = k
    · subst h₁
      by_cases h : k₁ = k' <;> simp [Context.set, get?_cons, h]
    · simp only [Context.set, h₁, if_false, get?_cons, ih]
      by_cases h : k₁ = k' <;> by_cases h' : k = k' <;> simp_all

/-- Setting a key a context does not hold adds it last, after the entries it had. -/
theorem prefix_set {c : Context} {k : String} (h : c.get? k = none) (v : String) :
  c <+: c.set k v
  := by
  induction c with
  | nil => exact List.nil_prefix
  | cons kv c ih =>
    obtain ⟨k', v'⟩ := kv
    have hk : k' ≠ k := fun hk => by simp [get?_cons, hk] at h
    rw [get?_cons, if_neg hk] at h
    simpa [Context.set, hk] using ih h

end Context

namespace QueueError

@[simp]
theorem withContext_kind (e : QueueError) (k v : String) :
  (e.withContext k v).kind = e.kind
  := rfl

@[simp]
theorem withContext_cause (e : QueueError) (k v : String) :
  (e.withContext k v).cause = e.cause
  := rfl

@[simp]
theorem contextValue?_withContext (e : QueueError) (k v k' : String) :
  (e.withContext k v).contextValue? k' = if k = k' then some v else e.contextValue? k'
  := Context.get?_set e.context k v k'

@[simp]
theorem kind_ofFault_queueNotFound (q : String) :
  (QueueError.ofFault (.queueNotFound q)).kind = .queueNotFound
  := rfl

@[simp]
theorem kind_ofFault_queueAlreadyExists (q : String) :
  (QueueError.ofFault (.queueAlreadyExists q)).kind = .queueAlreadyExists
  := rfl

/-- An injected failure comes with no context of its own. -/
@[simp]
theorem contextValue?_ofFault_injected (op : Operation) (q k : String) :
  (QueueError.ofFault (Store.injected op q)).contextValue? k = none
  := rfl

/-- `e` is the error `e₀` with context set after it: the same kind, message and cause, and
the entries of `e₀` first. -/
structure Extends (e e₀ : QueueError) : Prop where
  kind : e.kind = e₀.kind
  message : e.message = e₀.message
  cause : e.cause = e₀.cause
  context : e₀.context <+: e.context

theorem Extends.refl (e : QueueError) :
  e.Extends e
  := ⟨rfl, rfl, rfl, List.prefix_refl _⟩

/-- Setting a key that an extension of `e₀` does not hold extends `e₀` further. -/
theorem Extends.withContext {e e₀ : QueueError} (h : e.Extends e₀) {k : String}
    (hk : e.contextValue? k = none) (v : String) :
  (e.withContext k v).Extends e₀
  := ⟨h.kind, h.message, h.cause, h.context.trans (Context.prefix_set hk v)⟩

end QueueError

/-! ### The discipline -/

/-- How the reports a failed call made, `new`, go with the error `e` it returned.  A
transient error was reported once, as the injected failure of a call on the queue `q` that
the report's `queue` context names, and `e` is that report with context set since; a
cancelled call or a missing queue is not reported. -/
inductive FailureReported : QueueError → List QueueError → Prop
  | transient {e e₀ : QueueError} (op : Operation) (q : String)
      (hkind : e₀.kind = .transient) (hext : e.Extends e₀)
      (hcause : e₀.cause = some (Store.injected op q))
      (hqueue : e₀.contextValue? "queue" = some q) :
    FailureReported e [e₀]
  | quiet {e : QueueError} (hkind : e.kind = .cancelled ∨ e.kind = .queueNotFound) :
    FailureReported e []

/-- An injected failure of a call on `q` whose `queue` context names `q` is reported as it
is returned. -/
theorem FailureReported.self {e : QueueError} {op : Operation} {q : String}
    (hkind : e.kind = .transient) (hcause : e.cause = some (Store.injected op q))
    (hqueue : e.contextValue? "queue" = some q) :
  FailureReported e [e]
  := .transient op q hkind (.refl e) hcause hqueue

/-- How the reports a call made, `new`, go with how it ended: an answer makes none, and a
failure makes what `FailureReported` says. -/
def Reported : Except QueueError α → List QueueError → Prop
  | .ok _, new => new = []
  | .error e, new => FailureReported e new

/-- From every world `w` whose calls go to the in-memory store, whatever failures are
armed, the attempt, when it ends with `r`, has added to the reports some `new` with
`P w r new`, and its calls still go to the store. -/
def Attempt.Reports (x : Attempt α)
    (P : World → Except QueueError α → List QueueError → Prop) : Prop :=
  ∀ w r w', w.link = .store → x.run.run w = .ok (r, w') →
    w'.link = .store ∧ ∃ new, w'.reports = w.reports ++ new ∧ P w r new

/-- The attempt reports what `Reported` says of its end. -/
def Attempt.ReportsFailures (x : Attempt α) : Prop :=
  x.Reports fun _ => Reported

/-! ### Taking attempts apart -/

/-- An attempt that only reads the world keeps the discipline. -/
theorem Attempt.ReportsFailures.of_reads {x : Attempt α}
    (hx : ∀ w, ∃ a, x.run.run w = .ok (.ok a, w)) :
  x.ReportsFailures
  := by
  intro w r w' hlink h
  obtain ⟨a, ha⟩ := hx w
  rw [ha] at h
  cases h
  exact ⟨hlink, [], by simp, rfl⟩

theorem Attempt.run_bind_of_halt {f : α → Attempt β} {x : Attempt α} {h : Halt}
    (hx : x.run.run w = .error h) :
  (x >>= f).run.run w = .error h
  := by
  rw [ExceptT.run_bind, StateT.run_bind, hx]
  rfl

theorem Attempt.run_bind_of_error {f : α → Attempt β} {x : Attempt α} {e : QueueError}
    {w₁ : World} (hx : x.run.run w = .ok (.error e, w₁)) :
  (x >>= f).run.run w = .ok (.error e, w₁)
  := by
  rw [ExceptT.run_bind, StateT.run_bind, hx]
  rfl

/-- An attempt that starts with a call of the in-memory store goes on, from the world the
call leaves, with the call's answer; a call that halts leaves no answer. -/
theorem Attempt.perform_bind_eq_ok
    {inMemory : Store → Instant → Except Halt (Except Fault α × Store)}
    {request : Gateway.Request} {read : String → Except Fault α} {f : Except QueueError α → Attempt β}
    {r : Except QueueError β} (hlink : w.link = .store)
    (h : (Attempt.lift (Run.perform inMemory request read) >>= f).run.run w = .ok (r, w')) :
  ∃ a s, inMemory w.store w.now = .ok (a, s) ∧
    (f (a.mapError QueueError.ofFault)).run.run { w with store := s } = .ok (r, w')
  := by
  rw [ExceptT.run_bind, StateT.run_bind, Attempt.lift, ExceptT.run_lift, StateT.run_map] at h
  rcases hm : inMemory w.store w.now with e | ⟨a, s⟩
  · rw [Run.perform_halts inMemory request read hlink hm] at h
    cases h
  · refine ⟨a, s, rfl, ?_⟩
    rw [Run.perform_of_store inMemory request read hlink hm] at h
    exact h

/-- A computation in the world, lifted into an attempt, answers what it answers. -/
theorem Attempt.liftM_eq_ok {x : Run α} {r : Except QueueError α}
    (h : (liftM x : Attempt α).run.run w = .ok (r, w')) :
  ∃ a, r = .ok a ∧ x.run w = .ok (a, w')
  := by
  rcases hx : x.run w with e | ⟨a, w₁⟩
  · simp [liftM, monadLift, MonadLift.monadLift, ExceptT.lift, hx] at h
  · simp [liftM, monadLift, MonadLift.monadLift, ExceptT.lift, hx] at h
    obtain ⟨rfl, rfl⟩ := h
    exact ⟨a, rfl, rfl⟩

/-- An attempt that starts with a computation in the world goes on from the world it
leaves. -/
theorem Attempt.liftM_bind_eq_ok {x : Run α} {f : α → Attempt β} {r : Except QueueError β}
    (h : (liftM x >>= f).run.run w = .ok (r, w')) :
  ∃ a w₁, x.run w = .ok (a, w₁) ∧ (f a).run.run w₁ = .ok (r, w')
  := by
  rcases hx : (liftM x : Attempt α).run.run w with e | ⟨r₁, w₁⟩
  · rw [Attempt.run_bind_of_halt hx] at h
    cases h
  · obtain ⟨a, rfl, hx'⟩ := Attempt.liftM_eq_ok hx
    exact ⟨a, w₁, hx', by rwa [Attempt.run_bind_of_ok hx] at h⟩

/-- The discipline is kept by an attempt made of two that keep it: the first reports
nothing when it answers, so the second's reports are all the reports of the whole. -/
theorem Attempt.ReportsFailures.bind {x : Attempt α} {f : α → Attempt β}
    (hx : x.ReportsFailures) (hf : ∀ a, (f a).ReportsFailures) :
  (x >>= f).ReportsFailures
  := by
  intro w r w' hlink h
  rcases hrun : x.run.run w with e | ⟨(e | a), w₁⟩
  · rw [Attempt.run_bind_of_halt hrun] at h
    cases h
  · rw [Attempt.run_bind_of_error hrun] at h
    cases h
    exact hx w _ _ hlink hrun
  · obtain ⟨hlink₁, new, hnew, rfl⟩ := hx w _ _ hlink hrun
    rw [Attempt.run_bind_of_ok hrun] at h
    obtain ⟨hlink', new', hnew', hrep⟩ := hf a w₁ r w' hlink₁ h
    exact ⟨hlink', new', by rw [hnew', hnew, List.append_nil], hrep⟩

/-! ### What a failed store call answers -/

namespace Store

variable {s s' : Store} {now : Instant} {n : String}

/-- A create fails only by an injected failure, or because the queue exists. -/
theorem createQueue_fault {m : Option Metadata} {f : Fault}
    (h : s.createQueue n m = .ok (.error f, s')) :
  f = injected .createQueue n ∨ f = .queueAlreadyExists n
  := by
  rcases createQueue_eq_ok_iff.1 h with ⟨hr, -⟩ | ⟨-, ⟨-, hr, -⟩ | ⟨-, hr, -⟩⟩
  · exact .inl (Except.error.inj hr)
  · exact .inr (Except.error.inj hr)
  · cases hr

/-- A put fails only by an injected failure, or because the queue is missing. -/
theorem putMessage_fault {text : String} {visibility ttl : Duration} {f : Fault}
    (h : s.putMessage now n text visibility ttl = .ok (.error f, s')) :
  f = injected .putMessage n ∨ f = .queueNotFound n
  := by
  rcases putMessage_eq_ok_iff.1 h with ⟨hr, -⟩ | ⟨-, ⟨-, hr, -⟩ | ⟨-, -, -, -, -, -, hr, -⟩⟩
  · exact .inl (Except.error.inj hr)
  · exact .inr (Except.error.inj hr)
  · cases hr

/-- A get fails only by an injected failure, or because the queue is missing. -/
theorem getMessages_fault {visibility : Duration} {maxCount : Nat} {f : Fault}
    (h : s.getMessages now n visibility maxCount = .ok (.error f, s')) :
  f = injected .getMessages n ∨ f = .queueNotFound n
  := by
  rcases getMessages_eq_ok_iff.1 h with
    ⟨hr, -⟩ | ⟨-, ⟨-, hr, -⟩ | ⟨q, -, -, hr, -⟩ | ⟨q, -, -, le, -, hr, -⟩⟩
  · exact .inl (Except.error.inj hr)
  · exact .inr (Except.error.inj hr)
  · cases hr
  · cases hr

/-- Finding a message fails because it is missing or its receipt is stale. -/
theorem locate_fault {id receipt : String} {ms : List StoredMessage} {f : Fault}
    (h : locate n id receipt ms = .error f) :
  f = .messageNotFound n id ∨ f = .popReceiptMismatch n id
  := by
  unfold locate at h
  split at h
  · exact .inl (Except.error.inj h).symm
  · split at h
    · cases h
    · exact .inr (Except.error.inj h).symm

/-- Of the faults of a call on a message, only a stale receipt violates an assertion. -/
theorem eq_popReceiptMismatch {op : Operation} {id : String} {f : Fault}
    (hf : f = injected op n ∨ f = .queueNotFound n ∨ f = .messageNotFound n id ∨
      f = .popReceiptMismatch n id)
    (hk : QueueError.kindOfFault f = .assertionViolation) :
  f = .popReceiptMismatch n id
  := by
  rcases hf with rfl | rfl | rfl | rfl
  · simp [QueueError.kindOfFault, injected, Fault.isNotFound] at hk
  · simp [QueueError.kindOfFault, Fault.isNotFound] at hk
  · simp [QueueError.kindOfFault, Fault.isNotFound] at hk
  · rfl

/-- A delete fails by an injected failure, a missing queue, a missing message or a stale
receipt. -/
theorem deleteMessage_fault {id receipt : String} {f : Fault}
    (h : s.deleteMessage now n id receipt = .ok (.error f, s')) :
  f = injected .deleteMessage n ∨ f = .queueNotFound n ∨ f = .messageNotFound n id ∨
    f = .popReceiptMismatch n id
  := by
  rcases deleteMessage_eq_ok_iff.1 h with
    ⟨hr, -⟩ | ⟨-, ⟨-, hr, -⟩ | ⟨q, -, ⟨f', hl, hr, -⟩ | ⟨i, -, hr, -⟩⟩⟩
  · exact .inl (Except.error.inj hr)
  · exact .inr (.inl (Except.error.inj hr))
  · obtain rfl := Except.error.inj hr
    exact .inr (.inr (locate_fault hl))
  · cases hr

/-- An update fails by an injected failure, a missing queue, a missing message or a stale
receipt. -/
theorem updateMessage_fault {text id receipt : String} {visibility : Duration} {f : Fault}
    (h : s.updateMessage now n text id receipt visibility = .ok (.error f, s')) :
  f = injected .updateMessage n ∨ f = .queueNotFound n ∨ f = .messageNotFound n id ∨
    f = .popReceiptMismatch n id
  := by
  rcases updateMessage_eq_ok_iff.1 h with
    ⟨hr, -⟩ | ⟨-, ⟨-, hr, -⟩ | ⟨q, -, ⟨f', hl, hr, -⟩ | ⟨i, -, va, -, hr, -⟩⟩⟩
  · exact .inl (Except.error.inj hr)
  · exact .inr (.inl (Except.error.inj hr))
  · obtain rfl := Except.error.inj hr
    exact .inr (.inr (locate_fault hl))
  · cases hr

end Store

/-! ### Ensuring pending queues -/

namespace Pending

/-- The failure an ensure of a queue reports is reported as it is returned. -/
theorem ensureFailure_reported (q : String) (c : Store.Call) :
  FailureReported (ensureFailure q c) [ensureFailure q c]
  := .self (by simp [ensureFailure]) rfl (by simp [ensureFailure])

/-- Ensures of queues in turn that fail were stopped by the ensure of one queue, which
reported its failure once. -/
theorem ensureQueues_eq_error {p : ProvisionerId} {wt : WorkerType} {names : List String}
    {e : QueueError} (hlink : w.link = .store)
    (h : (ensureQueues p wt names).run.run w = .ok (.error e, w')) :
  ∃ q c, e = ensureFailure q c ∧ w'.link = w.link ∧ w'.reports = w.reports ++ [e]
  := by
  induction names generalizing w with
  | nil => cases h
  | cons q qs ih =>
    rcases h₁ : (ensureQueue q p wt).run.run w with e₁ | ⟨(e₁ | ⟨⟩), w₁⟩
    · rw [ensureQueues, Attempt.run_bind_of_halt h₁] at h
      cases h
    · -- this queue's ensure failed, and stopped the others
      rw [ensureQueues, Attempt.run_bind_of_error h₁] at h
      cases h
      obtain ⟨-, ev, -, -, rfl, hrep, hw'⟩ := ensureQueue_eq_error hlink h₁
      exact ⟨q, ev.call, rfl, by rw [hw'], hrep⟩
    · -- this queue's ensure answered, reporting nothing
      rw [ensureQueues, Attempt.run_bind_of_ok h₁] at h
      obtain ⟨logs, rfl⟩ := ensureQueue_eq_ok hlink h₁
      obtain ⟨q', c, rfl, hl, hr⟩ := ih (by exact hlink) h
      exact ⟨q', c, rfl, hl, hr⟩

/-- An ensure of a family not remembered, before the stop signal, that fails failed on one
of its queues, and names the family in that queue's error. -/
theorem ensureFamily_eq_error {k : FamilyKey} {e : QueueError}
    (hk : w.families.lookup k = none) (hs : w.signal ≠ .raised)
    (h : (ensureFamily k).run.run w = .ok (.error e, w')) :
  ∃ e₀, (ensureQueues k.provisionerId k.workerType
      (familyNames w.settings.stem k.provisionerId k.workerType)).run.run w =
      .ok (.error e₀, w') ∧
    e = (e₀.withContext "provisioner_id" k.provisionerId.val).withContext "worker_type"
      k.workerType.val
  := by
  rcases hq : (ensureQueues k.provisionerId k.workerType
      (familyNames w.settings.stem k.provisionerId k.workerType)).run.run w with
    e₀ | ⟨(e₀ | ⟨⟩), w₁⟩
  · simp [ensureFamily, hk, hs, hq, Attempt.lift, ExceptT.run_bind] at h
    cases h
  · simp [ensureFamily, hk, hs, hq, Attempt.lift, ExceptT.run_bind] at h
    cases h
    exact ⟨e₀, rfl, rfl⟩
  · simp [ensureFamily, hk, hs, hq, Attempt.lift, ExceptT.run_bind, Run.logPending] at h
    cases h

/-- Ensuring a family keeps the discipline: a remembered family answers at once, a
cancelled ensure reports nothing, and a failed one reported the failure of the queue it
failed on, which it returns with the family named. -/
theorem ensureFamily_reportsFailures (k : FamilyKey) :
  (ensureFamily k).ReportsFailures
  := by
  intro w r w' hlink h
  cases hk : w.families.lookup k with
  | some names =>
    rw [ensureFamily_cached hk] at h
    cases h
    exact ⟨hlink, [], by simp, rfl⟩
  | none =>
    by_cases hs : w.signal = .raised
    · rw [cancels_ensureFamily k hs hk] at h
      cases h
      exact ⟨hlink, [], by simp, .quiet (.inl rfl)⟩
    cases r with
    | ok names =>
      obtain ⟨-, logs, rfl⟩ := ensureFamily_eq_ok hlink hk h
      exact ⟨hlink, [], by simp, rfl⟩
    | error e =>
      obtain ⟨e₀, hq, rfl⟩ := ensureFamily_eq_error hk hs h
      obtain ⟨q, c, rfl, hl, hr⟩ := ensureQueues_eq_error hlink hq
      -- the family's names are keys the queue's error does not hold
      have hext := ((QueueError.Extends.refl (ensureFailure q c)).withContext
        (k := "provisioner_id") (by simp [ensureFailure]) k.provisionerId.val).withContext
        (k := "worker_type") (by simp [ensureFailure]) k.workerType.val
      exact ⟨hl.trans hlink, _, hr, .transient c.operation q (by simp [ensureFailure]) hext rfl
        (by simp [ensureFailure])⟩

/-- A task is refused only as invalid. -/
theorem validate_kind {task : TaskRef} {e : QueueError} (h : task.validate = .error e) :
  e.kind = .validation
  := by
  unfold TaskRef.validate at h
  split at h
  · cases h
  · cases h
    rfl

/-- A task that is not valid is refused before any call, and the world is left as it
was. -/
theorem publish_of_invalid {task : TaskRef} {e : QueueError} (runId : UInt32)
    (h : task.validate = .error e) (w : World) :
  (publish task runId).run.run w = .ok (.error e, w)
  := by
  unfold publish
  rw [h]
  rfl

/-- Publishing a valid task keeps the discipline: a task past its deadline is only logged,
an injected failure of the put is reported with the queue and the task, and a missing queue
makes the family be forgotten, with nothing reported. -/
theorem publish_reportsFailures {task : TaskRef} (runId : UInt32)
    (hv : task.validate = .ok ()) :
  (publish task runId).ReportsFailures
  := by
  unfold publish
  rw [hv]
  refine Attempt.ReportsFailures.bind (.of_reads fun w => ⟨(), rfl⟩) fun _ => ?_
  refine Attempt.ReportsFailures.bind (ensureFamily_reportsFailures _) fun names => ?_
  intro w r w' hlink h
  obtain ⟨now, w₁, hnow, h⟩ := Attempt.liftM_bind_eq_ok h
  rw [Run.now_run] at hnow
  cases hnow
  cases hr : remainingSecs task.deadline w.now with
  | none =>
    -- a task past its deadline is only logged
    simp only [hr] at h
    obtain ⟨u, rfl, hlog⟩ := Attempt.liftM_eq_ok h
    cases hlog
    exact ⟨hlink, [], by simp, rfl⟩
  | some ttl =>
    simp only [hr] at h
    obtain ⟨hintId, w₂, hid, h⟩ := Attempt.liftM_bind_eq_ok h
    rw [Run.nextHintId_run] at hid
    cases hid
    obtain ⟨a, s, hput, h⟩ := Attempt.perform_bind_eq_ok (by exact hlink) h
    cases a with
    | ok u =>
      cases h
      exact ⟨hlink, [], by simp, rfl⟩
    | error f =>
      rcases Store.putMessage_fault hput with rfl | rfl
      · -- an injected failure is reported and returned
        simp [Except.mapError] at h
        cases h
        exact ⟨hlink, _, rfl, .self (by simp) rfl (by simp)⟩
      · -- a missing queue forgets the family and is not reported
        simp [Except.mapError, Run.evictFamily] at h
        cases h
        exact ⟨hlink, [], by simp, .quiet (.inr (by simp))⟩

end Pending

/-! ### Expiration queues -/

namespace Expiration

/-- Making sure of an expiration queue keeps the discipline: a failed create reports its
injected failure with the queue and a note. -/
theorem ensureReady_reportsFailures (kind : ExpirationKind) :
  (ensureReady kind).ReportsFailures
  := by
  intro w r w' hlink h
  by_cases hk : kind ∈ w.ready
  · rw [ensureReady_of_ready hk] at h
    cases h
    exact ⟨hlink, [], by simp, rfl⟩
  by_cases hs : w.signal = .raised
  · rw [cancels_ensureReady kind hs hk] at h
    cases h
    exact ⟨hlink, [], by simp, .quiet (.inl rfl)⟩
  unfold ensureReady at h
  rw [Attempt.run_bind_of_ok Run.get_run] at h
  simp only [hk, hs, if_false] at h
  obtain ⟨a, s, hcreate, h⟩ := Attempt.perform_bind_eq_ok hlink h
  cases a with
  | ok u =>
    simp [Except.mapError] at h
    cases h
    exact ⟨hlink, [], by simp, rfl⟩
  | error f =>
    rcases Store.createQueue_fault hcreate with rfl | rfl
    · -- an injected failure is reported, noted, and returned
      simp [Except.mapError, Run.reportNoted] at h
      cases h
      exact ⟨hlink, _, rfl, .self (by simp) rfl (by simp)⟩
    · -- a queue that exists will do
      simp [Except.mapError] at h
      cases h
      exact ⟨hlink, [], by simp, rfl⟩

/-- A put of a notice keeps the discipline: an injected failure of the put is reported
with the queue, and a missing queue is forgotten and not reported. -/
theorem put_reportsFailures (kind : ExpirationKind) (notice : Json) (visibility : Nat) :
  (put kind notice visibility).ReportsFailures
  := by
  unfold put
  refine Attempt.ReportsFailures.bind (ensureReady_reportsFailures kind) fun _ => ?_
  intro w r w' hlink h
  rw [Attempt.run_bind_of_ok Run.get_run] at h
  obtain ⟨a, s, hput, h⟩ := Attempt.perform_bind_eq_ok hlink h
  cases a with
  | ok u =>
    cases h
    exact ⟨hlink, [], by simp, rfl⟩
  | error f =>
    rcases Store.putMessage_fault hput with rfl | rfl
    · simp [Except.mapError] at h
      cases h
      exact ⟨hlink, _, rfl, .self (by simp) rfl (by simp)⟩
    · simp [Except.mapError, evict] at h
      cases h
      exact ⟨hlink, [], by simp, .quiet (.inr (by simp))⟩

theorem putClaim_reportsFailures (taskId : TaskId) (runId : UInt32) (takenUntil : Instant) :
  (putClaim taskId runId takenUntil).ReportsFailures
  := .bind (.of_reads fun w => ⟨w.now, rfl⟩) fun _ => put_reportsFailures _ _ _

theorem putDeadline_reportsFailures (taskId : TaskId) (groupId schedulerId : String)
    (deadline : Instant) :
  (putDeadline taskId groupId schedulerId deadline).ReportsFailures
  := .bind (.of_reads fun w => ⟨w, rfl⟩) fun _ => put_reportsFailures _ _ _

theorem putResolved_reportsFailures (taskId : TaskId) (groupId schedulerId : String)
    (resolution : Resolution) :
  (putResolved taskId groupId schedulerId resolution).ReportsFailures
  := put_reportsFailures _ _ _

end Expiration

/-! ### Polls -/

/-- A text that does not read fails with one of the codec's two errors. -/
theorem Codec.decode_error {read : Json → Option β} {text : String} {e : QueueError}
    (h : Codec.decode read text = .error e) :
  e = Codec.notBase64 ∨ e = Codec.notPayload
  := by
  unfold Codec.decode Codec.decodeJson at h
  split at h
  · exact .inl (Except.error.inj h).symm
  · dsimp only [bind, Except.bind] at h
    split at h
    · split at h
      · cases h
      · exact .inr (Except.error.inj h).symm
    · exact .inr (Except.error.inj h).symm

/-- What a poll made of the messages `ms` it leased from `queue`: the items it answers,
`items`, are, in order, those of the messages that read as `read`, each made by `item`
from what it reads as and the message; the reports it made, `new`, are, in order, one for
each message that does not read: its codec error, with the queue and the message named. -/
structure Polled {γ : Type} (read : Json → Option β) (item : β → RawMessage → γ)
    (queue : String) (ms : List RawMessage) (items : List γ) (new : List QueueError) :
    Prop where
  items : items = ms.filterMap fun m => (Codec.decode read m.text).toOption.map (item · m)
  reports : List.Forall₂ (fun e m => ∃ e₀, Codec.decode read m.text = .error e₀ ∧
      e.Extends e₀ ∧ e.kind = .codec ∧ e.contextValue? "queue" = some queue ∧
      e.contextValue? "message_id" = some m.id)
    new (ms.filter fun m => !(Codec.decode read m.text).isOk)

namespace Polled

variable {γ : Type} {read : Json → Option β} {item : β → RawMessage → γ} {queue : String}
  {ms : List RawMessage} {items : List γ} {new : List QueueError} {m : RawMessage}

theorem nil :
  Polled read item queue [] ([] : List γ) []
  := ⟨rfl, .nil⟩

/-- A message that reads comes first among the items, and is not reported. -/
theorem cons_read (h : Polled read item queue ms items new) {b : β}
    (hm : Codec.decode read m.text = .ok b) :
  Polled read item queue (m :: ms) (item b m :: items) new
  := ⟨by simp [h.items, hm, Except.toOption], by simpa [hm, Except.isOk, Except.toBool] using h.reports⟩

/-- A message that does not read is reported first, its error naming the queue and the
message. -/
theorem cons_unread (h : Polled read item queue ms items new) {e : QueueError}
    (hm : Codec.decode read m.text = .error e) :
  Polled read item queue (m :: ms) items
    (((e.withContext "queue" queue).withContext "message_id" m.id) :: new)
  := by
  -- the codec's errors have kind codec and no context
  have he : e.kind = .codec ∧ e.context = [] := by
    rcases Codec.decode_error hm with rfl | rfl <;> exact ⟨rfl, rfl⟩
  refine ⟨by simp [h.items, hm, Except.toOption], ?_⟩
  simp only [hm, Except.isOk, Except.toBool, Bool.not_false, List.filter_cons_of_pos]
  exact .cons ⟨e, hm, ⟨rfl, rfl, rfl, by simp [he.2]⟩, by simp [he.1], by simp, by simp⟩
    h.reports

end Polled

namespace Pending

/-- Reading leased messages as hints reports each that does not read, and changes nothing
else the discipline speaks of. -/
theorem readHints_polled (priority : Priority) (queue : String) (ms : List RawMessage)
    {hints : List PolledHint} (h : (readHints priority queue ms).run w = .ok (hints, w')) :
  w'.link = w.link ∧ ∃ new, w'.reports = w.reports ++ new ∧
    Polled PendingHint.ofJson? (fun hint m => ⟨hint, priority, ⟨queue, m⟩⟩) queue ms hints new
  := by
  induction ms generalizing w hints with
  | nil =>
    cases h
    exact ⟨rfl, [], by simp, .nil⟩
  | cons m ms ih =>
    cases hd : Codec.decode PendingHint.ofJson? m.text with
    | ok hint =>
      rcases hr : (readHints priority queue ms).run w with e | ⟨rest, w₁⟩
      · simp [readHints, hd, hr] at h
      · -- the message reads, and its hint comes first
        simp [readHints, hd, hr] at h
        obtain ⟨rfl, rfl⟩ := h
        obtain ⟨hl, new, hnew, hp⟩ := ih hr
        exact ⟨hl, new, hnew, hp.cons_read hd⟩
    | error e =>
      -- the message does not read: it is logged, reported and skipped
      simp [readHints, hd, Run.logPending] at h
      obtain ⟨hl, new, hnew, hp⟩ := ih h
      exact ⟨hl, _ :: new, by simp [hnew], hp.cons_unread hd⟩

/-- What a poll of up to `count` hints of the pending queue `queue`, run from the world
`w`, answered and reported, `new`: for a failure, what `FailureReported` says.  An answer
is no hints and no reports when no hint was asked for or the store's get failed;
otherwise the get leased messages, and the hints and the reports are what `Polled` makes
of them. -/
def PendingPolled (priority : Priority) (queue : String) (count : Nat) (w : World) :
    Except QueueError (List PolledHint) → List QueueError → Prop
  | .error e, new => FailureReported e new
  | .ok hints, new =>
    (min count maxMessagesPerGet = 0 ∧ hints = [] ∧ new = []) ∨
    ∃ a s, w.store.getMessages w.now queue pendingLease (min count maxMessagesPerGet) =
      .ok (a, s) ∧
      match a with
      | .ok ms =>
        Polled PendingHint.ofJson? (fun hint m => ⟨hint, priority, ⟨queue, m⟩⟩) queue ms hints new
      | .error _ => hints = [] ∧ new = []

/-- A poll of a pending queue reports as `PendingPolled` says; a missing queue makes the
family be ensured again, and a failure of that ensure is the poll's failure. -/
theorem poll_reports (k : FamilyKey) (priority : Priority) (queue : String) (count : Nat) :
  (poll k priority queue count).Reports (PendingPolled priority queue count)
  := by
  intro w r w' hlink h
  unfold poll at h
  by_cases hc : min count maxMessagesPerGet = 0
  · rw [if_pos hc] at h
    cases h
    exact ⟨hlink, [], by simp, .inl ⟨hc, rfl, rfl⟩⟩
  rw [if_neg hc] at h
  obtain ⟨a, s, hget, h⟩ := Attempt.perform_bind_eq_ok hlink h
  cases a with
  | ok ms =>
    -- the leased messages are read as hints
    obtain ⟨hints, rfl, hread⟩ := Attempt.liftM_eq_ok h
    obtain ⟨hl, new, hnew, hp⟩ := readHints_polled priority queue ms hread
    exact ⟨hl.trans hlink, new, hnew, .inr ⟨_, s, hget, hp⟩⟩
  | error f =>
    rcases Store.getMessages_fault hget with rfl | rfl
    · -- an injected failure is reported and returned
      simp [Except.mapError] at h
      cases h
      exact ⟨hlink, _, rfl, .self (by simp) rfl (by simp)⟩
    · -- a missing queue: the family is forgotten and ensured again
      simp only [Except.mapError, QueueError.kind_ofFault_queueNotFound, if_true] at h
      obtain ⟨_, w₁, hlog, h⟩ := Attempt.liftM_bind_eq_ok h
      obtain ⟨_, w₂, hevict, h⟩ := Attempt.liftM_bind_eq_ok h
      have hw₂ : w₂.link = .store ∧ w₂.reports = w.reports := by
        rw [Run.logPending, Run.log_run] at hlog
        cases hlog
        cases hevict
        exact ⟨hlink, rfl⟩
      rcases he : (ensureFamily k).run.run w₂ with e₁ | ⟨(e₁ | names), w₃⟩
      · rw [Attempt.run_bind_of_halt he] at h
        cases h
      · -- the ensure failed, and the poll returns its failure
        rw [Attempt.run_bind_of_error he] at h
        cases h
        obtain ⟨hl, new, hnew, hrep⟩ := ensureFamily_reportsFailures k w₂ _ _ hw₂.1 he
        exact ⟨hl, new, by rw [hnew, hw₂.2], hrep⟩
      · -- the family is ensured again, and the poll answers no hints
        rw [Attempt.run_bind_of_ok he] at h
        cases h
        obtain ⟨hl, new, hnew, rfl⟩ := ensureFamily_reportsFailures k w₂ _ _ hw₂.1 he
        exact ⟨hl, [], by rw [hnew, hw₂.2], .inr ⟨_, s, hget, rfl, rfl⟩⟩

end Pending

namespace Expiration

/-- Reading leased messages as notices reports each that does not read, and changes
nothing else the discipline speaks of. -/
theorem readNotices_polled (kind : ExpirationKind) (queue : String) (ms : List RawMessage)
    {notices : List PolledNotice} (h : (readNotices kind queue ms).run w = .ok (notices, w')) :
  w'.link = w.link ∧ ∃ new, w'.reports = w.reports ++ new ∧
    Polled (Notice.ofJson? kind) (fun n m => ⟨n, ⟨queue, m⟩⟩) queue ms notices new
  := by
  induction ms generalizing w notices with
  | nil =>
    cases h
    exact ⟨rfl, [], by simp, .nil⟩
  | cons m ms ih =>
    cases hd : Codec.decode (Notice.ofJson? kind) m.text with
    | ok n =>
      rcases hr : (readNotices kind queue ms).run w with e | ⟨rest, w₁⟩
      · simp [readNotices, hd, hr] at h
      · -- the message reads, and its notice comes first
        simp [readNotices, hd, hr] at h
        obtain ⟨rfl, rfl⟩ := h
        obtain ⟨hl, new, hnew, hp⟩ := ih hr
        exact ⟨hl, new, hnew, hp.cons_read hd⟩
    | error e =>
      -- the message does not read: it is logged, reported and skipped
      simp [readNotices, hd] at h
      obtain ⟨hl, new, hnew, hp⟩ := ih h
      exact ⟨hl, _ :: new, by simp [hnew], hp.cons_unread hd⟩

/-- What a poll of the expiration queue of `kind`, run from the world `w`, answered and
reported, `new`: for a failure, what `FailureReported` says; for an answer, the queue was
made sure of, leaving the world `w₁`, the store's get in `w₁` leased messages, and the
notices and the reports are what `Polled` makes of them. -/
def ExpirationPolled (kind : ExpirationKind) (w : World) :
    Except QueueError (List PolledNotice) → List QueueError → Prop
  | .error e, new => FailureReported e new
  | .ok notices, new =>
    ∃ w₁ ms s, (ensureReady kind).run.run w = .ok (.ok (), w₁) ∧
      w₁.store.getMessages w₁.now (w₁.settings.expirationQueue kind) noticeLease
        maxMessagesPerGet = .ok (.ok ms, s) ∧
      Polled (Notice.ofJson? kind) (fun n m => ⟨n, ⟨w₁.settings.expirationQueue kind, m⟩⟩)
        (w₁.settings.expirationQueue kind) ms notices new

/-- A poll of an expiration queue reports as `ExpirationPolled` says. -/
theorem poll_reports (kind : ExpirationKind) :
  (poll kind).Reports (ExpirationPolled kind)
  := by
  intro w r w' hlink h
  unfold poll at h
  rcases hready : (ensureReady kind).run.run w with e₁ | ⟨(e₁ | ⟨⟩), w₁⟩
  · rw [Attempt.run_bind_of_halt hready] at h
    cases h
  · -- the queue could not be made sure of
    rw [Attempt.run_bind_of_error hready] at h
    cases h
    exact ensureReady_reportsFailures kind w _ _ hlink hready
  rw [Attempt.run_bind_of_ok hready, Attempt.run_bind_of_ok Run.get_run] at h
  obtain ⟨hlink₁, new₁, hnew₁, rfl⟩ := ensureReady_reportsFailures kind w _ _ hlink hready
  obtain ⟨a, s, hget, h⟩ := Attempt.perform_bind_eq_ok hlink₁ h
  cases a with
  | ok ms =>
    -- the leased messages are read as notices
    obtain ⟨notices, rfl, hread⟩ := Attempt.liftM_eq_ok h
    obtain ⟨hl, new, hnew, hp⟩ := readNotices_polled kind _ ms hread
    exact ⟨hl.trans hlink₁, new, by rw [hnew, hnew₁, List.append_nil], w₁, ms, s, hready, hget, hp⟩
  | error f =>
    rcases Store.getMessages_fault hget with rfl | rfl
    · -- an injected failure is reported and returned
      simp [Except.mapError] at h
      cases h
      exact ⟨hlink₁, _, by rw [hnew₁, List.append_nil], .self (by simp) rfl (by simp)⟩
    · -- a missing queue is forgotten and not reported
      simp [Except.mapError, evict] at h
      cases h
      exact ⟨hlink₁, [], by simp [hnew₁], .quiet (.inr (by simp))⟩

end Expiration

/-! ### Leased messages -/

/-- How the reports of an operation on the leased message `l`, `new`, go with how it
ended: a stale receipt of the message is reported once, as the error returned, and nothing
else is reported. -/
def LeaseReported (l : Lease) : Except QueueError Unit → List QueueError → Prop
  | .ok _, new => new = []
  | .error e, new =>
    (e.kind = .assertionViolation ∧ new = [e] ∧
      e.cause = some (.popReceiptMismatch l.queue l.message.id)) ∨
    (e.kind ≠ .assertionViolation ∧ new = [])

namespace Lease

/-- Finishing an operation whose call failed with a fault of a call on the message reports
the error exactly when it is a stale receipt. -/
theorem finish_reports (l : Lease) (operation : String) {op : Operation} {f : Fault}
    (hf : f = Store.injected op l.queue ∨ f = .queueNotFound l.queue ∨
      f = .messageNotFound l.queue l.message.id ∨ f = .popReceiptMismatch l.queue l.message.id)
    {r : Except QueueError Unit}
    (h : (finish l operation (.error (QueueError.ofFault f))).run.run w = .ok (r, w')) :
  w'.link = w.link ∧ ∃ new, w'.reports = w.reports ++ new ∧ LeaseReported l r new
  := by
  by_cases hk : QueueError.kindOfFault f = .assertionViolation
  · -- a stale receipt is logged and reported
    obtain rfl := Store.eq_popReceiptMismatch hf hk
    simp [finish, QueueError.kind_ofFault, hk] at h
    cases h
    exact ⟨rfl, _, rfl, .inl ⟨by simpa [QueueError.kind_ofFault] using hk, rfl, rfl⟩⟩
  · -- any other failure is returned and not reported
    simp [finish, QueueError.kind_ofFault, hk] at h
    cases h
    exact ⟨rfl, [], by simp, .inr ⟨by simpa [QueueError.kind_ofFault] using hk, rfl⟩⟩

/-- Removing a leased message reports exactly its stale receipt. -/
theorem remove_reports (l : Lease) :
  l.remove.Reports fun _ => LeaseReported l
  := by
  intro w r w' hlink h
  unfold remove at h
  obtain ⟨a, s, hdelete, h⟩ := Attempt.perform_bind_eq_ok hlink h
  cases a with
  | ok u =>
    cases h
    exact ⟨hlink, [], by simp, rfl⟩
  | error f =>
    obtain ⟨hl, new, hnew, hrep⟩ := finish_reports l _ (Store.deleteMessage_fault hdelete) h
    exact ⟨hl.trans hlink, new, hnew, hrep⟩

/-- Releasing a leased message reports exactly its stale receipt. -/
theorem release_reports (l : Lease) :
  l.release.Reports fun _ => LeaseReported l
  := by
  intro w r w' hlink h
  unfold release at h
  obtain ⟨a, s, hupdate, h⟩ := Attempt.perform_bind_eq_ok hlink h
  cases a with
  | ok receipt =>
    cases h
    exact ⟨hlink, [], by simp, rfl⟩
  | error f =>
    obtain ⟨hl, new, hnew, hrep⟩ := finish_reports l _ (Store.updateMessage_fault hupdate) h
    exact ⟨hl.trans hlink, new, hnew, hrep⟩

end Lease

/-! ### The discipline, whole -/

/-- The reporting discipline of the queue layer over the in-memory store, whatever failures
are armed. -/
structure ReportingDiscipline : Prop where
  /-- Ensuring a family reports a transient failure once, as `FailureReported` says, and
  nothing else. -/
  ensureFamily : ∀ k, (Pending.ensureFamily k).ReportsFailures
  /-- So does publishing a valid task. -/
  publish : ∀ task runId, task.validate = .ok () → (Pending.publish task runId).ReportsFailures
  /-- A task that is not valid is refused as invalid before any store call, the world left
  as it was. -/
  refused : ∀ task runId e w, task.validate = .error e →
    e.kind = .validation ∧ (Pending.publish task runId).run.run w = .ok (.error e, w)
  /-- Each expiration notice is put as the others are, reporting as `FailureReported`
  says. -/
  putClaim : ∀ taskId runId takenUntil,
    (Expiration.putClaim taskId runId takenUntil).ReportsFailures
  putDeadline : ∀ taskId groupId schedulerId deadline,
    (Expiration.putDeadline taskId groupId schedulerId deadline).ReportsFailures
  putResolved : ∀ taskId groupId schedulerId resolution,
    (Expiration.putResolved taskId groupId schedulerId resolution).ReportsFailures
  /-- A poll of a pending queue reports a failure as `FailureReported` says, and otherwise
  each leased message that does not read, answering what the others read as. -/
  pendingPoll : ∀ k priority queue count,
    (Pending.poll k priority queue count).Reports (Pending.PendingPolled priority queue count)
  /-- So does a poll of an expiration queue. -/
  expirationPoll : ∀ kind, (Expiration.poll kind).Reports (Expiration.ExpirationPolled kind)
  /-- Removing or releasing a leased message reports exactly its stale receipt. -/
  remove : ∀ l : Lease, l.remove.Reports fun _ => LeaseReported l
  release : ∀ l : Lease, l.release.Reports fun _ => LeaseReported l

/-- The queue layer keeps its reporting discipline: over the in-memory store, whatever
failures are armed, a transient error returned by an ensure, a publish, an expiration put
or a poll was reported once during the call, as the injected failure of a store call with
its queue named; a cancelled call or a missing queue is returned and not reported; an
invalid task is refused before any call; a poll reports each leased message that does not
read, once and in order, as a codec error naming the queue and the message; removing or
releasing a leased message reports exactly its stale receipt; and nothing else is
reported. -/
theorem queue_layer_reporting_discipline :
  ReportingDiscipline
  where
  ensureFamily := Pending.ensureFamily_reportsFailures
  publish _ runId hv := Pending.publish_reportsFailures runId hv
  refused _ runId _ w hv := ⟨Pending.validate_kind hv, Pending.publish_of_invalid runId hv w⟩
  putClaim := Expiration.putClaim_reportsFailures
  putDeadline := Expiration.putDeadline_reportsFailures
  putResolved := Expiration.putResolved_reportsFailures
  pendingPoll := Pending.poll_reports
  expirationPoll := Expiration.poll_reports
  remove := Lease.remove_reports
  release := Lease.release_reports

/-- A world at noon of 2024-03-01 over the in-memory store, which fails the next put into
the resolved queue. -/
def failingPutWorld : World :=
  World.init Settings.default ⟨19783, 43200, 0⟩
    ((Store.empty 1).addRule ⟨.putMessage, some "tq-resolved", 1⟩) .store

/-- A resolution put while the store fails the put returns a transient error, and that
failure was reported once during the call, as the injected failure of a call on the queue
the report names. -/
theorem failed_put_reported_once :
  ∃ e w', (Expiration.putResolved ⟨"t1"⟩ "g1" "s1" .completed).run.run failingPutWorld =
      .ok (.error e, w') ∧ e.kind = .transient ∧
    ∃ e₀ op q, w'.reports = failingPutWorld.reports ++ [e₀] ∧ e.Extends e₀ ∧
      e₀.cause = some (Store.injected op q) ∧ e₀.contextValue? "queue" = some q
  := by
  -- the queue is created, and the put into it fails
  have hfails : ((Expiration.putResolved ⟨"t1"⟩ "g1" "s1" .completed).run.run failingPutWorld).map
      (fun p => p.1.mapError (·.kind)) = .ok (.error .transient) := by decide +kernel
  cases hrun : (Expiration.putResolved ⟨"t1"⟩ "g1" "s1" .completed).run.run failingPutWorld with
  | error h => rw [hrun] at hfails; cases hfails
  | ok p =>
    obtain ⟨r, w'⟩ := p
    rw [hrun] at hfails
    cases r with
    | ok u => cases hfails
    | error e =>
      have hkind : e.kind = .transient := by
        simpa [Except.map, Except.mapError] using hfails
      obtain ⟨-, new, hnew, hrep⟩ :=
        queue_layer_reporting_discipline.putResolved ⟨"t1"⟩ "g1" "s1" .completed _ _ _ rfl hrun
      refine ⟨e, w', rfl, hkind, ?_⟩
      -- a transient error is not returned quietly
      cases hrep with
      | transient op q _ hext hcause hqueue => exact ⟨_, op, q, hnew, hext, hcause, hqueue⟩
      | quiet hq => rcases hq with hq | hq <;> simp [hkind] at hq

end TaskQueue
