import TaskQueue.Proofs.Session.Steps
import TaskQueue.Proofs.Pending.Service

/-!
# Healing from queues lost behind the caches

The service remembers which families it ensured and which expiration queues it made sure
of, and does not ask the store again.  A queue may still go missing behind that memory: a
sweep of unused queues or a delete from outside removes it.  Over the in-memory store, with
no failure armed and no stop signal, the service heals from every such loss
(`lost_queues_heal`):

* a poll of a pending queue answers; when the queue is missing and hints are asked for, it
  answers none, forgets the family and ensures it again, so that all seven queues exist;
* a publish of a valid task answers, or fails once because its queue is missing, forgetting
  the family, and the same publish then answers;
* an expiration put or poll answers, or fails once because its queue is missing, forgetting
  the queue, and the same put or poll then answers.

Each of these holds where the clock leaves room for the lease, lifetime or delay involved
(`World.Fits`): past the end of the calendar the store halts instead, as a deadline notice
with a delay of nine quintillion milliseconds does (`deadline_put_halts_past_calendar`).
-/

namespace TaskQueue

open Time

/-- The clock of `w` leaves room for `d`: the instant `d` later is in the calendar. -/
def World.Fits (w : World) (d : Duration) : Prop :=
  (w.now.add? d.storeSpan).isSome

/-- Run at `w`, the attempt answers; or it fails because a queue is missing, leaving a
world in which `forgot` holds, and run again in that world it answers. -/
def Attempt.Heals {α : Type} (x : Attempt α) (forgot : World → Prop) (w : World) : Prop :=
  (∃ a w', x.run.run w = .ok (.ok a, w')) ∨
  ∃ e w', x.run.run w = .ok (.error e, w') ∧ e.kind = .queueNotFound ∧ forgot w' ∧
    ∃ a w'', x.run.run w' = .ok (.ok a, w'')

/-! ### Calls on a store with no failure armed -/

namespace Store

variable {s : Store} {now : Instant} {name : String}

theorem putMessage_of_found {q : StoredQueue} (text : String) {visibility ttl : Duration}
    (hr : s.rules = []) (hq : s.find? name = some q)
    (hv : (now.add? visibility.storeSpan).isSome) (he : (now.add? ttl.storeSpan).isSome) :
  ∃ s', s.putMessage now name text visibility ttl = .ok (.ok (), s') ∧ s'.rules = []
  := by
  obtain ⟨visibleAt, hv⟩ := Option.isSome_iff_exists.1 hv
  obtain ⟨expiresAt, he⟩ := Option.isSome_iff_exists.1 he
  refine ⟨_, putMessage_of_find? (by simp [hr]) hq hv he, ?_⟩
  simp [put_rules, enter_rules_nil hr]

theorem putMessage_of_missing (now : Instant) (text : String) (visibility ttl : Duration)
    (hr : s.rules = []) (hq : s.find? name = none) :
  s.putMessage now name text visibility ttl = .ok (.error (.queueNotFound name),
    { (s.enter .putMessage name).2 with
      issuedIds := s.issuedIds + 1, issuedReceipts := s.issuedReceipts + 1 })
  := putMessage_eq_ok_iff.2 (.inr ⟨by simp [hr], .inl ⟨hq, rfl, rfl⟩⟩)

theorem getMessages_of_found {q : StoredQueue} {visibility : Duration} (maxCount : Nat)
    (hr : s.rules = []) (hq : s.find? name = some q)
    (hl : (now.add? visibility.storeSpan).isSome) :
  ∃ ms s', s.getMessages now name visibility maxCount = .ok (.ok ms, s') ∧ s'.rules = []
  := by
  cases hv : (q.purge now).messages.any (·.isVisible now)
  · exact ⟨_, _, getMessages_of_invisible visibility maxCount (by simp [hr]) hq hv,
      by simp [put_rules, enter_rules_nil hr]⟩
  · obtain ⟨leaseEnd, hl⟩ := Option.isSome_iff_exists.1 hl
    exact ⟨_, _, getMessages_of_visible maxCount (by simp [hr]) hq hv hl,
      by simp [put_rules, enter_rules_nil hr]⟩

theorem getMessages_of_missing (now : Instant) (visibility : Duration) (maxCount : Nat)
    (hr : s.rules = []) (hq : s.find? name = none) :
  s.getMessages now name visibility maxCount =
    .ok (.error (.queueNotFound name), (s.enter .getMessages name).2)
  := getMessages_eq_ok_iff.2 (.inr ⟨by simp [hr], .inl ⟨hq, rfl, rfl⟩⟩)

end Store

/-! ### Expiration queues -/

namespace Expiration

variable {w : World} {kind : ExpirationKind}

theorem ensureReady_of_ready (h : kind ∈ w.ready) :
  (ensureReady kind).run.run w = pure (.ok (), w)
  := by
  simp [ensureReady, h, ExceptT.run_bind]

/-- An ensure of a kind not remembered creates the kind's queue, or finds it there, and
remembers the kind. -/
theorem ensureReady_of_absent (hlink : w.link = .store) (hrules : w.store.rules = [])
    (hsignal : w.signal ≠ .raised) (h : kind ∉ w.ready) :
  ∃ s logs, (ensureReady kind).run.run w =
    pure (.ok (), { w with store := s, ready := w.ready ++ [kind], logs := w.logs ++ logs }) ∧
    s.exists? (w.settings.expirationQueue kind) = true ∧ s.rules = []
  := by
  have hc : FailureRule.consume .createQueue (w.settings.expirationQueue kind) w.store.rules =
      none := by
    simp [hrules]
  cases hq : w.store.find? (w.settings.expirationQueue kind) with
  | none =>
    have hrun := Run.createQueue_of_store hlink (Store.createQueue_of_find?_none none hc hq)
    refine ⟨(w.store.enter .createQueue (w.settings.expirationQueue kind)).2.put
      (w.settings.expirationQueue kind) ⟨[], []⟩,
      [⟨.debug, expirationTarget, "created expiration queue",
        [LogEvent.quotedField "queue" (w.settings.expirationQueue kind),
          LogEvent.quotedField "kind" kind.name]⟩], ?_, by simp [Store.exists?],
      by rw [Store.put_rules, Store.enter_rules_nil hrules]⟩
    simp [ensureReady, h, hsignal, hrun, Attempt.lift, ExceptT.run_bind, Except.mapError]
  | some Q =>
    -- the queue is there already: the create answers that it exists, which will do
    have hex : w.store.exists? (w.settings.expirationQueue kind) = true := by
      simp [Store.exists?, hq]
    have hrun := Run.createQueue_of_store (m := none) hlink
      (Store.createQueue_eq_ok_iff.2 (.inr ⟨hc, .inl ⟨hex, rfl, rfl⟩⟩))
    have hkind : (QueueError.ofFault
        (.queueAlreadyExists (w.settings.expirationQueue kind))).kind = .queueAlreadyExists := rfl
    refine ⟨(w.store.enter .createQueue (w.settings.expirationQueue kind)).2, [], ?_,
      by simpa [Store.exists?] using hex, Store.enter_rules_nil hrules _ _⟩
    simp [ensureReady, h, hsignal, hrun, hkind, Attempt.lift, ExceptT.run_bind,
      Except.mapError]

/-- Reading polled messages as notices always answers. -/
theorem readNotices_answers (kind : ExpirationKind) (queue : String) (ms : List RawMessage)
    (w : World) :
  ∃ ns w', (readNotices kind queue ms).run w = .ok (ns, w')
  := by
  induction ms generalizing w with
  | nil => exact ⟨[], w, rfl⟩
  | cons m ms ih =>
    cases hd : Codec.decode (Notice.ofJson? kind) m.text with
    | ok n =>
      obtain ⟨ns, w', h⟩ := ih w
      exact ⟨⟨n, ⟨queue, m⟩⟩ :: ns, w', by simp [readNotices, hd, h]⟩
    | error e =>
      -- an undecodable message is reported and skipped
      simp only [readNotices, hd]
      exact ih _

section Ensured

variable {w₁ : World} (hready : (ensureReady kind).run.run w = .ok (.ok (), w₁))
  (hlink : w₁.link = .store) (hrules : w₁.store.rules = [])
include hready hlink hrules

theorem put_of_found {notice : Json} {visibility : Nat} {Q : StoredQueue}
    (hq : w₁.store.find? (w₁.settings.expirationQueue kind) = some Q)
    (hv : w₁.Fits (.ofSeconds visibility)) (he : w₁.Fits noticeTtl) :
  ∃ w', (put kind notice visibility).run.run w = .ok (.ok (), w')
  := by
  obtain ⟨s', hput, -⟩ := Store.putMessage_of_found (Codec.encode notice) hrules hq hv he
  have hrun := Run.putMessage_of_store hlink hput
  unfold put
  rw [Attempt.run_bind_of_ok hready]
  simp [hrun, Attempt.lift, ExceptT.run_bind, Except.mapError]
  exact ⟨_, rfl⟩

/-- A put whose queue went missing fails as such and forgets the kind. -/
theorem put_of_missing {notice : Json} {visibility : Nat}
    (hq : w₁.store.find? (w₁.settings.expirationQueue kind) = none) :
  ∃ e s', (put kind notice visibility).run.run w =
    .ok (.error e, { w₁ with store := s', ready := w₁.ready.filter (· != kind) }) ∧
    e.kind = .queueNotFound ∧ s'.rules = []
  := by
  have hrun := Run.putMessage_of_store hlink
    (Store.putMessage_of_missing w₁.now (Codec.encode notice) (.ofSeconds visibility) noticeTtl
      hrules hq)
  have hkind : ((QueueError.ofFault (.queueNotFound (w₁.settings.expirationQueue kind))).withContext
      "queue" (w₁.settings.expirationQueue kind)).kind = .queueNotFound := rfl
  unfold put
  rw [Attempt.run_bind_of_ok hready]
  simp [hrun, hkind, Attempt.lift, ExceptT.run_bind, Except.mapError, evict]
  exact ⟨_, _, rfl, hkind, Store.enter_rules_nil hrules _ _⟩

theorem poll_of_found {Q : StoredQueue}
    (hq : w₁.store.find? (w₁.settings.expirationQueue kind) = some Q)
    (hl : w₁.Fits noticeLease) :
  ∃ ns w', (poll kind).run.run w = .ok (.ok ns, w')
  := by
  obtain ⟨ms, s', hget, -⟩ := Store.getMessages_of_found maxMessagesPerGet hrules hq hl
  have hrun := Run.getMessages_of_store hlink hget
  obtain ⟨ns, w', hread⟩ := readNotices_answers kind (w₁.settings.expirationQueue kind) ms
    { w₁ with store := s' }
  unfold poll
  rw [Attempt.run_bind_of_ok hready]
  simp [hrun, hread, Attempt.lift, ExceptT.run_bind, Except.mapError]

/-- A poll whose queue went missing fails as such and forgets the kind. -/
theorem poll_of_missing (hq : w₁.store.find? (w₁.settings.expirationQueue kind) = none) :
  ∃ e s', (poll kind).run.run w =
    .ok (.error e, { w₁ with store := s', ready := w₁.ready.filter (· != kind) }) ∧
    e.kind = .queueNotFound ∧ s'.rules = []
  := by
  have hrun := Run.getMessages_of_store hlink
    (Store.getMessages_of_missing w₁.now noticeLease maxMessagesPerGet hrules hq)
  have hkind : ((QueueError.ofFault (.queueNotFound (w₁.settings.expirationQueue kind))).withContext
      "queue" (w₁.settings.expirationQueue kind)).kind = .queueNotFound := rfl
  unfold poll
  rw [Attempt.run_bind_of_ok hready]
  simp [hrun, hkind, Attempt.lift, ExceptT.run_bind, Except.mapError, evict]
  exact ⟨_, _, rfl, hkind, Store.enter_rules_nil hrules _ _⟩

end Ensured

section Absent

variable (hlink : w.link = .store) (hrules : w.store.rules = []) (hsignal : w.signal ≠ .raised)
  (hk : kind ∉ w.ready)
include hlink hrules hsignal hk

theorem put_of_absent {notice : Json} {visibility : Nat} (hv : w.Fits (.ofSeconds visibility))
    (he : w.Fits noticeTtl) :
  ∃ w', (put kind notice visibility).run.run w = .ok (.ok (), w')
  := by
  obtain ⟨s, logs, hready, hex, hrules₁⟩ := ensureReady_of_absent hlink hrules hsignal hk
  obtain ⟨Q, hq⟩ := (Store.exists?_iff _ _).1 hex
  exact put_of_found hready hlink hrules₁ hq hv he

/-- A put of a kind not remembered whose notice would become visible past the end of the
calendar halts. -/
theorem put_halts_of_late {notice : Json} {visibility : Nat}
    (hv : w.now.add? (Duration.ofSeconds visibility).storeSpan = none) :
  (put kind notice visibility).run.run w = .error Halt.addOverflow
  := by
  obtain ⟨s, logs, hready, hex, hrules₁⟩ := ensureReady_of_absent hlink hrules hsignal hk
  obtain ⟨Q, hq⟩ := (Store.exists?_iff _ _).1 hex
  have hrun : (Run.putMessage (w.settings.expirationQueue kind) (Codec.encode notice)
      (.ofSeconds visibility) noticeTtl).run
      { w with store := s, ready := w.ready ++ [kind], logs := w.logs ++ logs } =
      .error .addOverflow :=
    Run.perform_halts (fun s now => s.putMessage now (w.settings.expirationQueue kind)
      (Codec.encode notice) (.ofSeconds visibility) noticeTtl) _ _ hlink
      (Store.putMessage_of_late (by simp [hrules₁]) hq hv)
  unfold put
  rw [Attempt.run_bind_of_ok hready]
  simp [hrun, Attempt.lift, ExceptT.run_bind]
  rfl

theorem poll_of_absent (hl : w.Fits noticeLease) :
  ∃ ns w', (poll kind).run.run w = .ok (.ok ns, w')
  := by
  obtain ⟨s, logs, hready, hex, hrules₁⟩ := ensureReady_of_absent hlink hrules hsignal hk
  obtain ⟨Q, hq⟩ := (Store.exists?_iff _ _).1 hex
  exact poll_of_found hready hlink hrules₁ hq hl

end Absent

/-- A put answers, or fails once because its queue is missing and forgets the queue, and
then the same put answers. -/
theorem put_heals {notice : Json} {visibility : Nat} (hlink : w.link = .store)
    (hrules : w.store.rules = []) (hsignal : w.signal ≠ .raised)
    (hv : w.Fits (.ofSeconds visibility)) (he : w.Fits noticeTtl) :
  (put kind notice visibility).Heals (kind ∉ ·.ready) w
  := by
  by_cases hk : kind ∈ w.ready
  · have hready := ensureReady_of_ready hk
    cases hq : w.store.find? (w.settings.expirationQueue kind) with
    | some Q => exact .inl ⟨(), put_of_found hready hlink hrules hq hv he⟩
    | none =>
      -- the queue went missing behind the ready list: the put forgets it, and the next
      -- put creates it again
      obtain ⟨e, s', hrun, hkind, hrules'⟩ := put_of_missing hready hlink hrules hq
      exact .inr ⟨e, _, hrun, hkind, by simp, (),
        put_of_absent (w := { w with store := s', ready := w.ready.filter (· != kind) })
          hlink hrules' hsignal (by simp) hv he⟩
  · exact .inl ⟨(), put_of_absent hlink hrules hsignal hk hv he⟩

/-- A poll answers, or fails once because its queue is missing and forgets the queue, and
then the same poll answers. -/
theorem poll_heals (hlink : w.link = .store) (hrules : w.store.rules = [])
    (hsignal : w.signal ≠ .raised) (hl : w.Fits noticeLease) :
  (poll kind).Heals (kind ∉ ·.ready) w
  := by
  by_cases hk : kind ∈ w.ready
  · have hready := ensureReady_of_ready hk
    cases hq : w.store.find? (w.settings.expirationQueue kind) with
    | some Q => exact .inl (poll_of_found hready hlink hrules hq hl)
    | none =>
      obtain ⟨e, s', hrun, hkind, hrules'⟩ := poll_of_missing hready hlink hrules hq
      exact .inr ⟨e, _, hrun, hkind, by simp,
        poll_of_absent (w := { w with store := s', ready := w.ready.filter (· != kind) })
          hlink hrules' hsignal (by simp) hl⟩
  · exact .inl (poll_of_absent hlink hrules hsignal hk hl)

end Expiration

/-! ### Pending queues -/

theorem Run.nextHintId_run (w : World) :
  Run.nextHintId.run w = pure (Ulid.ofParts (max 0 w.now.unixMillis).toNat (w.issued + 1),
    { w with issued := w.issued + 1 })
  := rfl

namespace Pending

variable {w : World}

/-- Reading polled messages as hints always answers. -/
theorem readHints_answers (priority : Priority) (queue : String) (ms : List RawMessage)
    (w : World) :
  ∃ hs w', (readHints priority queue ms).run w = .ok (hs, w')
  := by
  induction ms generalizing w with
  | nil => exact ⟨[], w, rfl⟩
  | cons m ms ih =>
    cases hd : Codec.decode PendingHint.ofJson? m.text with
    | ok hint =>
      obtain ⟨hs, w', h⟩ := ih w
      exact ⟨⟨hint, priority, ⟨queue, m⟩⟩ :: hs, w', by simp [readHints, hd, h]⟩
    | error e =>
      -- an undecodable message is reported and skipped
      simp only [readHints, hd]
      exact ih _

theorem lookup_evicted {k : FamilyKey} (fs : List (FamilyKey × List String)) :
  (fs.filter (·.1 != k)).lookup k = none
  := by
  rw [List.lookup_eq_none_iff]
  intro p hp
  have := (List.mem_filter.1 hp).2
  simp only [bne_iff_ne, ne_eq] at this ⊢
  exact fun h => this h.symm

section Poll

variable {k : FamilyKey} {priority : Priority} {queue : String} {count : Nat}
  (hlink : w.link = .store) (hrules : w.store.rules = [])
include hlink hrules

theorem poll_of_found {Q : StoredQueue} (hq : w.store.find? queue = some Q)
    (hl : w.Fits pendingLease) :
  ∃ hs w', (poll k priority queue count).run.run w = .ok (.ok hs, w')
  := by
  by_cases hc : min count maxMessagesPerGet = 0
  · exact ⟨[], w, by simp [poll, hc]; rfl⟩
  · obtain ⟨ms, s', hget, -⟩ :=
      Store.getMessages_of_found (min count maxMessagesPerGet) hrules hq hl
    have hrun := Run.getMessages_of_store hlink hget
    obtain ⟨hs, w', hread⟩ := readHints_answers priority queue ms { w with store := s' }
    simp [poll, hc, hrun, hread, Attempt.lift, ExceptT.run_bind, Except.mapError]

/-- A poll of a queue gone missing forgets the family, ensures it again and answers no
hints. -/
theorem poll_of_missing (hsignal : w.signal ≠ .raised) (hq : w.store.find? queue = none)
    (hc : min count maxMessagesPerGet ≠ 0) :
  ∃ w', (poll k priority queue count).run.run w = .ok (.ok [], w') ∧
    w'.families.lookup k = some (familyNames w.settings.stem k.provisionerId k.workerType) ∧
    ∀ n ∈ familyNames w.settings.stem k.provisionerId k.workerType, w'.store.exists? n
  := by
  have hrun := Run.getMessages_of_store hlink
    (Store.getMessages_of_missing w.now pendingLease (min count maxMessagesPerGet) hrules hq)
  have hkind : (QueueError.ofFault (.queueNotFound queue)).kind = .queueNotFound := rfl
  -- the family is ensured again in the world the failed get and the eviction leave
  obtain ⟨logs, hens⟩ := ensureFamily_fresh (w := { w with
    store := (w.store.enter .getMessages queue).2
    families := w.families.filter (·.1 != k)
    logs := w.logs ++ [⟨.debug, pendingTarget, "pending queue disappeared, recreating",
      [("queue", queue)]⟩] }) k hlink (Store.enter_rules_nil hrules _ _) hsignal
      (lookup_evicted _)
  refine ⟨?w, ?_, ?_, ?_⟩
  case w => exact { w with
    store := ensureNames w.now k.provisionerId k.workerType (w.store.enter .getMessages queue).2
      (familyNames w.settings.stem k.provisionerId k.workerType)
    families := w.families.filter (·.1 != k) ++
      [(k, familyNames w.settings.stem k.provisionerId k.workerType)]
    logs := w.logs ++ [⟨.debug, pendingTarget, "pending queue disappeared, recreating",
      [("queue", queue)]⟩] ++ logs }
  · simp [poll, hc, hrun, hkind, Attempt.lift, ExceptT.run_bind, Except.mapError,
      Run.logPending, Run.evictFamily, hens]
    rfl
  · simp [List.lookup_append, lookup_evicted]
  · exact (ensureNames_refreshes w.now k.provisionerId k.workerType _
      (Store.enter_rules_nil hrules _ _)).exists_mem

/-- A poll of a queue of a family answers.  When the queue is missing and hints are asked
for, it answers none, and the family is remembered again with its seven queues, each of
which exists. -/
theorem poll_recovers (hsignal : w.signal ≠ .raised) (hl : w.Fits pendingLease) :
  ∃ hs w', (poll k priority queue count).run.run w = .ok (.ok hs, w') ∧
    (w.store.find? queue = none → 0 < count → hs = [] ∧
      w'.families.lookup k = some (familyNames w.settings.stem k.provisionerId k.workerType) ∧
      ∀ n ∈ familyNames w.settings.stem k.provisionerId k.workerType, w'.store.exists? n)
  := by
  cases hq : w.store.find? queue with
  | some Q =>
    obtain ⟨hs, w', h⟩ : ∃ hs w', (poll k priority queue count).run.run w = .ok (.ok hs, w') :=
      poll_of_found hlink hrules hq hl
    exact ⟨hs, w', h, fun h => absurd h (by simp)⟩
  | none =>
    by_cases hc : count = 0
    · exact ⟨[], w, by simp [poll, hc]; rfl, fun _ h => absurd hc (Nat.pos_iff_ne_zero.1 h)⟩
    · have hmin : min count maxMessagesPerGet ≠ 0 := by
        simp [maxMessagesPerGet]
        omega
      obtain ⟨w', h, hk, hex⟩ : ∃ w', (poll k priority queue count).run.run w = .ok (.ok [], w') ∧
          w'.families.lookup k =
            some (familyNames w.settings.stem k.provisionerId k.workerType) ∧
          ∀ n ∈ familyNames w.settings.stem k.provisionerId k.workerType, w'.store.exists? n :=
        poll_of_missing hlink hrules hsignal hq hmin
      exact ⟨[], w', h, fun _ _ => ⟨rfl, hk, hex⟩⟩

end Poll

section Publish

variable {task : TaskRef} {runId : UInt32} (hvalid : task.validate = .ok ())
include hvalid

section Ensured

variable {names : List String} {w₁ : World}
  (hens : (ensureFamily ⟨task.provisionerId, task.workerType⟩).run.run w = .ok (.ok names, w₁))
include hens

/-- A task past its deadline is dropped, and the publish answers. -/
theorem publish_of_passed (hr : remainingSecs task.deadline w₁.now = none) :
  ∃ w', (publish task runId).run.run w = .ok (.ok (), w')
  := by
  unfold publish
  rw [hvalid, Attempt.run_bind_of_ok (Attempt.ofExcept_run_ok ()), Attempt.run_bind_of_ok hens]
  simp [hr, Run.now, Run.logPending, ExceptT.run_bind]
  exact ⟨_, rfl⟩

theorem publish_of_found {Q : StoredQueue} (hlink : w₁.link = .store)
    (hrules : w₁.store.rules = [])
    (hq : w₁.store.find? ((names[task.priority.index]?).getD "") = some Q)
    (h0 : w₁.Fits (.ofSeconds 0))
    (httl : ∀ ttl, remainingSecs task.deadline w₁.now = some ttl → w₁.Fits (.ofSeconds ttl)) :
  ∃ w', (publish task runId).run.run w = .ok (.ok (), w')
  := by
  cases hr : remainingSecs task.deadline w₁.now with
  | none => exact publish_of_passed hvalid hens hr
  | some ttl =>
    obtain ⟨s', hput, -⟩ := Store.putMessage_of_found (Codec.encode (PendingHint.toJson
      ⟨task.taskId, runId, Ulid.ofParts (max 0 w₁.now.unixMillis).toNat (w₁.issued + 1)⟩))
      hrules hq h0 (httl ttl hr)
    have hrun := Run.putMessage_of_store (w := { w₁ with issued := w₁.issued + 1 }) hlink hput
    unfold publish
    rw [hvalid, Attempt.run_bind_of_ok (Attempt.ofExcept_run_ok ()),
      Attempt.run_bind_of_ok hens]
    simp [hr, Run.now, Run.nextHintId_run, hrun, Attempt.lift, ExceptT.run_bind,
      Except.mapError]
    exact ⟨_, rfl⟩

/-- A publish whose queue went missing fails as such and forgets the family. -/
theorem publish_of_missing {ttl : Nat} (hlink : w₁.link = .store)
    (hrules : w₁.store.rules = [])
    (hq : w₁.store.find? ((names[task.priority.index]?).getD "") = none)
    (hr : remainingSecs task.deadline w₁.now = some ttl) :
  ∃ e s', (publish task runId).run.run w = .ok (.error e, { w₁ with
      store := s'
      issued := w₁.issued + 1
      families := w₁.families.filter (·.1 != ⟨task.provisionerId, task.workerType⟩) }) ∧
    e.kind = .queueNotFound ∧ s'.rules = []
  := by
  have hrun := Run.putMessage_of_store (w := { w₁ with issued := w₁.issued + 1 }) hlink
    (Store.putMessage_of_missing w₁.now (Codec.encode (PendingHint.toJson
      ⟨task.taskId, runId, Ulid.ofParts (max 0 w₁.now.unixMillis).toNat (w₁.issued + 1)⟩))
      (.ofSeconds 0) (.ofSeconds ttl) hrules hq)
  have hkind : (((QueueError.ofFault (.queueNotFound ((names[task.priority.index]?).getD
      ""))).withContext "queue" ((names[task.priority.index]?).getD "")).withContext
      "task_id" task.taskId.val).kind = .queueNotFound := rfl
  unfold publish
  rw [hvalid, Attempt.run_bind_of_ok (Attempt.ofExcept_run_ok ()), Attempt.run_bind_of_ok hens]
  simp [hr, Run.now, Run.nextHintId_run, hrun, hkind, Attempt.lift, ExceptT.run_bind,
    Except.mapError, Run.evictFamily]
  exact ⟨_, _, rfl, hkind, Store.enter_rules_nil hrules _ _⟩

end Ensured

/-- A publish for a family not remembered ensures the family, and with it the task's
queue, and answers. -/
theorem publish_of_uncached (hlink : w.link = .store) (hrules : w.store.rules = [])
    (hsignal : w.signal ≠ .raised)
    (hk : w.families.lookup ⟨task.provisionerId, task.workerType⟩ = none)
    (h0 : w.Fits (.ofSeconds 0))
    (httl : ∀ ttl, remainingSecs task.deadline w.now = some ttl → w.Fits (.ofSeconds ttl)) :
  ∃ w', (publish task runId).run.run w = .ok (.ok (), w')
  := by
  obtain ⟨logs, hens⟩ := ensureFamily_fresh ⟨task.provisionerId, task.workerType⟩ hlink hrules
    hsignal hk
  have hrefresh := ensureNames_refreshes w.now task.provisionerId task.workerType
    (familyNames w.settings.stem task.provisionerId task.workerType) hrules
  -- the ensure made every queue of the family exist, the task's own among them
  have hex := hrefresh.exists_mem _
    (shardName_mem_familyNames w.settings.stem task.provisionerId task.workerType task.priority)
  obtain ⟨Q, hq⟩ := (Store.exists?_iff _ _).1 hex
  refine publish_of_found (Q := Q) hvalid hens hlink (hrefresh.rules.trans hrules) ?_ h0 httl
  rw [familyNames_getElem?]
  exact hq

/-- A publish of a valid task answers, or fails once because its queue is missing and
forgets the family, and then the same publish answers. -/
theorem publish_heals (hlink : w.link = .store) (hrules : w.store.rules = [])
    (hsignal : w.signal ≠ .raised) (h0 : w.Fits (.ofSeconds 0))
    (httl : ∀ ttl, remainingSecs task.deadline w.now = some ttl → w.Fits (.ofSeconds ttl)) :
  (publish task runId).Heals (·.families.lookup ⟨task.provisionerId, task.workerType⟩ = none) w
  := by
  cases hk : w.families.lookup ⟨task.provisionerId, task.workerType⟩ with
  | none => exact .inl ⟨(), publish_of_uncached hvalid hlink hrules hsignal hk h0 httl⟩
  | some names =>
    have hens := ensureFamily_cached hk
    cases hq : w.store.find? ((names[task.priority.index]?).getD "") with
    | some Q => exact .inl ⟨(), publish_of_found hvalid hens hlink hrules hq h0 httl⟩
    | none =>
      cases hr : remainingSecs task.deadline w.now with
      | none => exact .inl ⟨(), publish_of_passed hvalid hens hr⟩
      | some ttl =>
        -- the remembered queue went missing: the publish forgets the family, and the next
        -- publish ensures it again
        obtain ⟨e, s', hrun, hkind, hrules'⟩ :=
          publish_of_missing hvalid hens hlink hrules hq hr
        exact .inr ⟨e, _, hrun, hkind, lookup_evicted _, (),
          publish_of_uncached hvalid hlink hrules' hsignal (lookup_evicted _) h0 httl⟩

end Publish

end Pending

/-! ### The service heals -/

/-- The service heals from queues lost behind its caches in the world `w`, wherever the
clock leaves room for the lease, lifetime or delay involved. -/
structure World.HealsLostQueues (w : World) : Prop where
  /-- A pending poll answers; with its queue missing and hints asked for, it answers none
  and leaves the family remembered with all seven queues existing. -/
  pendingPoll : w.Fits pendingLease → ∀ (k : FamilyKey) (priority : Priority) (queue : String)
    (count : Nat), ∃ hs w', (Pending.poll k priority queue count).run.run w = .ok (.ok hs, w') ∧
      (w.store.find? queue = none → 0 < count → hs = [] ∧
        w'.families.lookup k = some (familyNames w.settings.stem k.provisionerId k.workerType) ∧
        ∀ n ∈ familyNames w.settings.stem k.provisionerId k.workerType, w'.store.exists? n)
  /-- A publish of a valid task heals, forgetting the family. -/
  publish : ∀ (task : TaskRef) (runId : UInt32), task.validate = .ok () →
    w.Fits (.ofSeconds 0) →
    (∀ ttl, remainingSecs task.deadline w.now = some ttl → w.Fits (.ofSeconds ttl)) →
    (Pending.publish task runId).Heals
      (·.families.lookup ⟨task.provisionerId, task.workerType⟩ = none) w
  /-- An expiration put heals, forgetting its queue. -/
  put : ∀ (kind : ExpirationKind) (notice : Json) (visibility : Nat),
    w.Fits (.ofSeconds visibility) → w.Fits noticeTtl →
    (Expiration.put kind notice visibility).Heals (kind ∉ ·.ready) w
  /-- An expiration poll heals, forgetting its queue. -/
  poll : w.Fits noticeLease → ∀ kind : ExpirationKind,
    (Expiration.poll kind).Heals (kind ∉ ·.ready) w

/-- Over the in-memory store with no failure armed and no stop signal, the service heals
from queues lost behind its caches. -/
theorem lost_queues_heal {w : World} (hlink : w.link = .store) (hrules : w.store.rules = [])
    (hsignal : w.signal ≠ .raised) :
  w.HealsLostQueues
  where
  pendingPoll hl _ _ _ _ := Pending.poll_recovers hlink hrules hsignal hl
  publish _ _ hvalid h0 httl := Pending.publish_heals hvalid hlink hrules hsignal h0 httl
  put _ _ _ hv he := Expiration.put_heals hlink hrules hsignal hv he
  poll hl _ := Expiration.poll_heals hlink hrules hsignal hl

/-- A fresh world that remembers the claim queue, which its store does not hold. -/
theorem lost_queues_heal_of_lost_claim_queue :
  World.HealsLostQueues
    { World.init Settings.default .epoch (Store.empty 1) .store with ready := [.claim] }
  := lost_queues_heal rfl rfl (by decide)

/-- With a deadline delay of nine quintillion milliseconds, a deadline notice put at the
epoch would become visible past the end of the calendar, and the put halts. -/
theorem deadline_put_halts_past_calendar :
  (Expiration.putDeadline ⟨"t1"⟩ "g1" "s1" .epoch).run.run
      (World.init { Settings.default with deadlineDelay := .ofMillis 9000000000000000000 }
        .epoch (Store.empty 1) .store) =
    .error Halt.addOverflow
  := by
  rw [Expiration.putDeadline_run]
  exact Expiration.put_halts_of_late rfl rfl (by decide) (by simp [World.init]) (by decide)

end TaskQueue
