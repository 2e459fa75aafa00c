import TaskQueue.Proofs.Traffic.Order
import TaskQueue.Proofs.Service.Healing
import TaskQueue.Proofs.ErrorContext
import Mathlib

/-!
# The service serving traffic

A world *serves* the settings `σ` (`World.Serving`) when its calls go to the in-memory
store, no failure is armed, the stop signal was not given, the store is sound and holds
its queues in put order, and the service's caches say only true things: every remembered
family has the family's own seven names, all of whose queues exist, and the queue of
every ready expiration kind exists.

In such a world every publish, pending poll, expiration put and poll answers, and what it
does is a function of the store: this module computes it, one lemma per operation, down
to the one store call that carries the message.  Where the clock leaves room for the
moves involved (`World.Fits`):

* a publish of a valid task ensures its family, which keeps every message but some
  expired ones (`Store.Refreshes`), then puts the hint on the queue of the task's
  priority, or nothing when the deadline has passed (`Pending.publish_of_ahead`,
  `Pending.publish_of_passed`);
* a poll of a queue that exists leases what the store's get leases, every message of the
  queue read as a hint (`Pending.poll_of_decoded`);
* an expiration put and poll do the same on the kind's queue (`Expiration.put_serving`,
  `Expiration.poll_of_decoded`);
* removing and releasing a lease make one store call each (`Lease.remove_run`,
  `Lease.release_run`).
-/

namespace TaskQueue

open Time

/-- A world that serves the settings `σ` over the in-memory store, its caches true. -/
structure World.Serving (σ : Settings) (w : World) : Prop where
  settings : w.settings = σ
  link : w.link = .store
  rules : w.store.rules = []
  signal : w.signal = .quiet
  sound : w.store.Sound
  ordered : w.store.InPutOrder
  families : ∀ e ∈ w.families, e.2 = familyNames σ.stem e.1.provisionerId e.1.workerType ∧
    ∀ n ∈ e.2, w.store.exists? n = true
  ready : ∀ k ∈ w.ready, w.store.exists? (σ.expirationQueue k) = true

/-! ### Calls on a queue that exists -/

namespace Store

variable {s s' : Store} {now : Instant} {name : String}

/-- A put on a queue that exists, with no failure armed, answers that it put the message. -/
theorem putMessage_answer {text : String} {visibility ttl : Duration} {r : Except Fault Unit}
    (hr : s.rules = []) (hq : s.exists? name = true)
    (h : s.putMessage now name text visibility ttl = .ok (r, s')) :
  r = .ok ()
  := by
  rcases putMessage_eq_ok_iff.1 h with ⟨-, -, hc⟩ | ⟨-, ⟨hn, -⟩ | ⟨_, _, _, -, -, -, rfl, -⟩⟩
  · simp [hr] at hc
  · simp [exists?, hn] at hq
  · rfl

/-- A get from a queue that exists, with no failure armed, answers messages. -/
theorem getMessages_answer {visibility : Duration} {maxCount : Nat}
    {r : Except Fault (List RawMessage)} (hr : s.rules = []) (hq : s.exists? name = true)
    (h : s.getMessages now name visibility maxCount = .ok (r, s')) :
  ∃ got, r = .ok got
  := by
  rcases getMessages_eq_ok_iff.1 h with ⟨-, -, hc⟩ | ⟨-, ⟨hn, -⟩ | ⟨_, -, -, rfl, -⟩ |
      ⟨_, -, -, _, -, rfl, -⟩⟩
  · simp [hr] at hc
  · simp [exists?, hn] at hq
  · exact ⟨_, rfl⟩
  · exact ⟨_, rfl⟩

/-- A create keeps every queue's messages. -/
theorem createQueue_messagesOf {metadata : Option Metadata} {r : Except Fault Unit}
    (h : s.createQueue name metadata = .ok (r, s')) (n : String) :
  s'.messagesOf n = s.messagesOf n
  := by
  rcases createQueue_eq_ok_iff.1 h with ⟨-, rfl, -⟩ | ⟨-, ⟨-, -, rfl⟩ | ⟨hex, -, rfl⟩⟩
  · simp
  · simp
  · -- the queue created was missing, so it held nothing
    by_cases hn : n = name
    · subst hn
      simp [messagesOf_of_find?_none (by simpa [exists?] using hex)]
    · simp [hn]

/-- A create with no failure armed makes the queue exist, keeps every queue that exists,
and draws nothing. -/
theorem createQueue_refreshes (now : Instant) {metadata : Option Metadata}
    {r : Except Fault Unit} (hr : s.rules = []) (h : s.createQueue name metadata = .ok (r, s')) :
  Refreshes now [name] s s'
  := by
  rcases createQueue_eq_ok_iff.1 h with ⟨-, -, hc⟩ | ⟨-, ⟨hex, -, rfl⟩ | ⟨-, -, rfl⟩⟩
  · simp [hr] at hc
  · exact ⟨fun n => .inl (by simp), by simpa [exists?] using hex,
      fun n hn => by simpa [exists?] using hn, (enter_rules_nil hr _ _).trans hr.symm,
      enter_issuedIds _ _ _, enter_issuedReceipts _ _ _⟩
  · refine ⟨fun n => .inl (createQueue_messagesOf h n), by simp [exists?], fun n hn => ?_,
      by rw [put_rules, enter_rules_nil hr, hr], by simp [enter_issuedIds],
      by simp [enter_issuedReceipts]⟩
    by_cases hn' : n = name <;> simp_all [exists?]

/-- A delete of a message never halts. -/
theorem deleteMessage_answers (s : Store) (now : Instant) (name id receipt : String) :
  ∃ p, s.deleteMessage now name id receipt = .ok p
  := by
  unfold deleteMessage
  split
  · exact ⟨_, rfl⟩
  · split
    · exact ⟨_, rfl⟩
    · dsimp only
      split <;> exact ⟨_, rfl⟩

end Store

namespace Run

variable {w : World} {n text : String} {visibility ttl : Duration} {e : Halt}

theorem putMessage_halts (hlink : w.link = .store)
    (h : w.store.putMessage w.now n text visibility ttl = .error e) :
  (putMessage n text visibility ttl).run w = .error e
  := perform_halts _ _ _ hlink h

theorem getMessages_halts {maxCount : Nat} (hlink : w.link = .store)
    (h : w.store.getMessages w.now n visibility maxCount = .error e) :
  (getMessages n visibility maxCount).run w = .error e
  := perform_halts _ _ _ hlink h

theorem updateMessage_halts {id receipt : String} (hlink : w.link = .store)
    (h : w.store.updateMessage w.now n text id receipt visibility = .error e) :
  (updateMessage n text id receipt visibility).run w = .error e
  := perform_halts _ _ _ hlink h

end Run

/-! ### Ensuring a family -/

/-- The family of a task. -/
def TaskRef.family (task : TaskRef) : FamilyKey :=
  ⟨task.provisionerId, task.workerType⟩

namespace Pending

variable {σ : Settings} {w : World}

/-- What ensuring the family `k`, named `names`, left of the world `w`: the store `st`
refreshes the family's queues, and the families remembered, `fs`, are those remembered
before and maybe the family. -/
structure Ensured (w : World) (k : FamilyKey) (names : List String) (st : Store)
    (fs : List (FamilyKey × List String)) : Prop where
  refreshes : Store.Refreshes w.now names w.store st
  families : ∀ e ∈ fs, e ∈ w.families ∨ e = (k, names)

/-- In a serving world, ensuring a family answers its seven names: a remembered family
at once, another after its queues are ensured, when it is remembered. -/
theorem ensureFamily_serving (hw : w.Serving σ) (k : FamilyKey) :
  ∃ st fs logs, (ensureFamily k).run.run w =
      .ok (.ok (familyNames σ.stem k.provisionerId k.workerType),
        { w with store := st, families := fs, logs := w.logs ++ logs }) ∧
    Ensured w k (familyNames σ.stem k.provisionerId k.workerType) st fs
  := by
  cases hk : w.families.lookup k with
  | some names =>
    -- a remembered family has its own names, whose queues exist
    obtain ⟨l₁, l₂, hsplit, -⟩ := List.lookup_eq_some_iff.1 hk
    have hmem : (k, names) ∈ w.families := by simp [hsplit]
    obtain ⟨hnames, hex⟩ := hw.families _ hmem
    refine ⟨w.store, w.families, [], ?_, .refl (hnames ▸ hex), fun e he => .inl he⟩
    rw [ensureFamily_cached hk, ← hnames]
    simp
    rfl
  | none =>
    obtain ⟨logs, h⟩ := ensureFamily_fresh k hw.link hw.rules (by simp [hw.signal]) hk
    obtain rfl := hw.settings
    refine ⟨_, _, logs, h, ensureNames_refreshes _ _ _ _ hw.rules, fun e he => ?_⟩
    simpa using he

/-- The queues of a family, highest priority first, each with its own shard name. -/
theorem queues_serving (hw : w.Serving σ) (k : FamilyKey) :
  ∃ st fs logs, (queues k).run.run w =
      .ok (.ok (Priority.all.map fun r => (r, shardName σ.stem k.provisionerId k.workerType r)),
        { w with store := st, families := fs, logs := w.logs ++ logs }) ∧
    Ensured w k (familyNames σ.stem k.provisionerId k.workerType) st fs
  := by
  obtain ⟨st, fs, logs, hens, he⟩ := ensureFamily_serving hw k
  refine ⟨st, fs, logs, ?_, he⟩
  unfold queues
  rw [Attempt.run_bind_of_ok hens]
  rfl

/-! ### Publishing -/

/-- The hint a publish of `task` with `runId` puts in the world `w`: its id is the ULID of
the clock's milliseconds and of the next number issued. -/
def publishedHint (task : TaskRef) (runId : UInt32) (w : World) : PendingHint :=
  ⟨task.taskId, runId, Ulid.ofParts (max 0 w.now.unixMillis).toNat (w.issued + 1)⟩

section Publish

variable {task : TaskRef} (runId : UInt32) (hw : w.Serving σ) (hvalid : task.validate = .ok ())
include hw hvalid

/-- A publish of a valid task past its deadline ensures the family and puts nothing. -/
theorem publish_serving_of_passed (hr : remainingSecs task.deadline w.now = none) :
  ∃ st fs logs, (publish task runId).run.run w =
      .ok (.ok (), { w with store := st, families := fs, logs := w.logs ++ logs }) ∧
    Ensured w task.family (familyNames σ.stem task.provisionerId task.workerType) st fs
  := by
  obtain ⟨st, fs, logs, hens, he⟩ := ensureFamily_serving hw ⟨task.provisionerId, task.workerType⟩
  refine ⟨st, fs, logs ++ [⟨.info, pendingTarget, "deadline already passed, dropping pending message",
    [("task_id", task.taskId.val), ("run_id", toString runId.toNat),
      ("deadline", task.deadline.displayText)]⟩], ?_, he⟩
  unfold publish
  rw [hvalid, Attempt.run_bind_of_ok (Attempt.ofExcept_run_ok ()), Attempt.run_bind_of_ok hens]
  simp [hr, Run.now, Run.logPending, ExceptT.run_bind]
  rfl

/-- A publish of a valid task before its deadline ensures the family, then makes one put,
of the task's hint on the queue of its priority, visible at once and living until the
deadline; the publish answers as the put does, or halts with it. -/
theorem publish_serving_of_ahead {ttl : Nat} (hr : remainingSecs task.deadline w.now = some ttl) :
  ∃ st fs logs, Ensured w task.family (familyNames σ.stem task.provisionerId task.workerType) st fs ∧
    ∀ p, st.putMessage w.now (shardName σ.stem task.provisionerId task.workerType task.priority)
        (Codec.encode (publishedHint task runId w).toJson) (.ofSeconds 0) (.ofSeconds ttl) = p →
      (publish task runId).run.run w =
        p.map fun a => (.ok (), { w with
          store := a.2, families := fs, issued := w.issued + 1, logs := w.logs ++ logs })
  := by
  obtain ⟨st, fs, logs, hens, he⟩ := ensureFamily_serving hw ⟨task.provisionerId, task.workerType⟩
  refine ⟨st, fs, logs, he, fun p hput => ?_⟩
  have hq : ((familyNames σ.stem task.provisionerId task.workerType)[task.priority.index]?).getD
      "" = shardName σ.stem task.provisionerId task.workerType task.priority := by
    rw [familyNames_getElem?]
    rfl
  have hex := he.refreshes.exists_mem _ (shardName_mem_familyNames σ.stem task.provisionerId
    task.workerType task.priority)
  have hrules : st.rules = [] := he.refreshes.rules.trans hw.rules
  unfold publish
  rw [hvalid, Attempt.run_bind_of_ok (Attempt.ofExcept_run_ok ()), Attempt.run_bind_of_ok hens]
  unfold publishedHint at hput
  rcases p with h | ⟨r, st'⟩
  · -- the put halts, and so does the publish
    have hrun := Run.putMessage_halts (w := { w with
        store := st, families := fs, issued := w.issued + 1, logs := w.logs ++ logs })
      hw.link hput
    simp [hq, hr, Run.now, Run.nextHintId_run, hrun, Attempt.lift, ExceptT.run_bind]
    rfl
  · obtain rfl := Store.putMessage_answer hrules hex hput
    have hrun := Run.putMessage_of_store (w := { w with
        store := st, families := fs, issued := w.issued + 1, logs := w.logs ++ logs })
      hw.link hput
    simp [hq, hr, Run.now, Run.nextHintId_run, hrun, Attempt.lift, ExceptT.run_bind,
      Except.mapError]
    rfl

end Publish

/-! ### Polling -/

/-- Messages that all read as hints are answered as they come, each as its hint with the
priority and a lease of the queue. -/
theorem readHints_of_decoded (priority : Priority) (queue : String) {ms : List RawMessage}
    (h : ∀ m ∈ ms, ∃ hint, Codec.decode PendingHint.ofJson? m.text = .ok hint) (w : World) :
  ∃ hs, (readHints priority queue ms).run w = .ok (hs, w) ∧
    hs.map (·.lease) = ms.map (⟨queue, ·⟩) ∧
    ∀ x ∈ hs, x.priority = priority ∧
      Codec.decode PendingHint.ofJson? x.lease.message.text = .ok x.hint
  := by
  induction ms with
  | nil => exact ⟨[], rfl, rfl, by simp⟩
  | cons m ms ih =>
    obtain ⟨hint, hd⟩ := h m (by simp)
    obtain ⟨hs, hrun, hmap, hall⟩ := ih fun m' hm' => h m' (by simp [hm'])
    refine ⟨⟨hint, priority, ⟨queue, m⟩⟩ :: hs, ?_, by simp [hmap], ?_⟩
    · simp [readHints, hd, hrun]
    · exact List.forall_mem_cons.2 ⟨⟨rfl, hd⟩, hall⟩

section Poll

variable (k : FamilyKey) (priority : Priority) {queue : String} {count : Nat}
  (hlink : w.link = .store) (hpos : 0 < count)
include hlink hpos

/-- A poll for some hints makes one get, of at most as many messages as asked and at most
32, leased for five minutes; when every message got reads as a hint, it answers them all,
in order, as hints of the priority leased from the queue. -/
theorem poll_of_get {got : List RawMessage} {st' : Store}
    (hget : w.store.getMessages w.now queue pendingLease (min count maxMessagesPerGet) =
      .ok (.ok got, st'))
    (hdec : ∀ m ∈ got, ∃ hint, Codec.decode PendingHint.ofJson? m.text = .ok hint) :
  ∃ hs, (poll k priority queue count).run.run w = .ok (.ok hs, { w with store := st' }) ∧
    hs.map (·.lease) = got.map (⟨queue, ·⟩) ∧
    ∀ x ∈ hs, x.priority = priority ∧
      Codec.decode PendingHint.ofJson? x.lease.message.text = .ok x.hint
  := by
  have hc : min count maxMessagesPerGet ≠ 0 := by
    simp [maxMessagesPerGet]
    omega
  obtain ⟨hs, hread, hmap, hall⟩ := readHints_of_decoded priority queue hdec { w with store := st' }
  have hrun := Run.getMessages_of_store hlink hget
  exact ⟨hs, by simp [poll, hc, hrun, hread, Attempt.lift, ExceptT.run_bind, Except.mapError],
    hmap, hall⟩

/-- A poll whose get halts halts. -/
theorem poll_halts {e : Halt}
    (hget : w.store.getMessages w.now queue pendingLease (min count maxMessagesPerGet) =
      .error e) :
  (poll k priority queue count).run.run w = .error e
  := by
  have hc : min count maxMessagesPerGet ≠ 0 := by
    simp [maxMessagesPerGet]
    omega
  simp [poll, hc, Run.getMessages_halts hlink hget, Attempt.lift, ExceptT.run_bind]
  rfl

end Poll

end Pending

/-! ### Expiration queues -/

namespace Expiration

variable {σ : Settings} {w : World}

/-- What making sure of the queue `q` of `kind` left of the world `w`: the store `st`
holds every queue's messages as before, the queue exists, and the ready kinds `rd` are
those ready before and maybe `kind`. -/
structure Readied (w : World) (q : String) (kind : ExpirationKind) (st : Store)
    (rd : List ExpirationKind) : Prop where
  refreshes : Store.Refreshes w.now [q] w.store st
  messagesOf : ∀ n, st.messagesOf n = w.store.messagesOf n
  ready : ∀ k ∈ rd, k ∈ w.ready ∨ k = kind

/-- In a serving world, making sure of an expiration queue answers: a ready kind at once,
another after a create of its queue, which answers that it created the queue or that the
queue existed. -/
theorem ensureReady_serving (hw : w.Serving σ) (kind : ExpirationKind) :
  ∃ st rd logs, (ensureReady kind).run.run w =
      .ok (.ok (), { w with store := st, ready := rd, logs := w.logs ++ logs }) ∧
    Readied w (σ.expirationQueue kind) kind st rd
  := by
  obtain rfl := hw.settings
  by_cases hk : kind ∈ w.ready
  · refine ⟨w.store, w.ready, [], ?_, ⟨.refl (by simpa using hw.ready kind hk), fun _ => rfl,
      fun k hk => .inl hk⟩⟩
    rw [ensureReady_of_ready hk]
    simp
    rfl
  · have hc : FailureRule.consume .createQueue (w.settings.expirationQueue kind) w.store.rules =
        none := by
      simp [hw.rules]
    cases hq : w.store.find? (w.settings.expirationQueue kind) with
    | none =>
      have hcreate := Store.createQueue_of_find?_none none hc hq
      refine ⟨_, w.ready ++ [kind], [⟨.debug, expirationTarget, "created expiration queue",
        [LogEvent.quotedField "queue" (w.settings.expirationQueue kind),
          LogEvent.quotedField "kind" kind.name]⟩], ?_,
        ⟨Store.createQueue_refreshes w.now hw.rules hcreate, Store.createQueue_messagesOf hcreate,
          fun k hk => by simpa using hk⟩⟩
      simp [ensureReady, hk, hw.signal, Run.createQueue_of_store hw.link hcreate, Attempt.lift,
        ExceptT.run_bind, Except.mapError]
      rfl
    | some Q =>
      -- the queue is there already: the create answers that it exists, which will do
      have hex : w.store.exists? (w.settings.expirationQueue kind) = true := by
        simp [Store.exists?, hq]
      have hcreate : w.store.createQueue (w.settings.expirationQueue kind) none =
          .ok (.error (.queueAlreadyExists (w.settings.expirationQueue kind)),
            (w.store.enter .createQueue (w.settings.expirationQueue kind)).2) :=
        Store.createQueue_eq_ok_iff.2 (.inr ⟨hc, .inl ⟨hex, rfl, rfl⟩⟩)
      have hkind : (QueueError.ofFault
          (.queueAlreadyExists (w.settings.expirationQueue kind))).kind = .queueAlreadyExists :=
        rfl
      refine ⟨_, w.ready ++ [kind], [], ?_,
        ⟨Store.createQueue_refreshes w.now hw.rules hcreate, Store.createQueue_messagesOf hcreate,
          fun k hk => by simpa using hk⟩⟩
      simp [ensureReady, hk, hw.signal, Run.createQueue_of_store hw.link hcreate, hkind,
        Attempt.lift, ExceptT.run_bind, Except.mapError]
      rfl

/-- An expiration put makes sure of the kind's queue, then makes one put of the notice on
it, living seven days; the put of the service answers as the store's put does, or halts
with it. -/
theorem put_serving (hw : w.Serving σ) (kind : ExpirationKind) (notice : Json)
    (visibility : Nat) :
  ∃ st rd logs, Readied w (σ.expirationQueue kind) kind st rd ∧
    ∀ p, st.putMessage w.now (σ.expirationQueue kind) (Codec.encode notice)
        (.ofSeconds visibility) noticeTtl = p →
      (put kind notice visibility).run.run w =
        p.map fun a => (.ok (), { w with store := a.2, ready := rd, logs := w.logs ++ logs })
  := by
  obtain ⟨st, rd, logs, hready, hr⟩ := ensureReady_serving hw kind
  refine ⟨st, rd, logs, hr, fun p hput => ?_⟩
  have hrules : st.rules = [] := hr.refreshes.rules.trans hw.rules
  have hex := hr.refreshes.exists_mem _ (List.mem_singleton_self _)
  obtain rfl := hw.settings
  unfold put
  rw [Attempt.run_bind_of_ok hready]
  rcases p with h | ⟨r, st'⟩
  · have hrun := Run.putMessage_halts (w := { w with
        store := st, ready := rd, logs := w.logs ++ logs }) hw.link hput
    simp [hrun, Attempt.lift, ExceptT.run_bind]
    rfl
  · obtain rfl := Store.putMessage_answer hrules hex hput
    have hrun := Run.putMessage_of_store (w := { w with
        store := st, ready := rd, logs := w.logs ++ logs }) hw.link hput
    simp [hrun, Attempt.lift, ExceptT.run_bind, Except.mapError]
    rfl

/-- Messages that all read as notices of a kind are answered as they come, each as its
notice with a lease of the queue. -/
theorem readNotices_of_decoded (kind : ExpirationKind) (queue : String) {ms : List RawMessage}
    (h : ∀ m ∈ ms, ∃ n, Codec.decode (Notice.ofJson? kind) m.text = .ok n) (w : World) :
  ∃ ns, (readNotices kind queue ms).run w = .ok (ns, w) ∧
    ns.map (·.lease) = ms.map (⟨queue, ·⟩) ∧
    ∀ x ∈ ns, Codec.decode (Notice.ofJson? kind) x.lease.message.text = .ok x.notice
  := by
  induction ms with
  | nil => exact ⟨[], rfl, rfl, by simp⟩
  | cons m ms ih =>
    obtain ⟨n, hd⟩ := h m (by simp)
    obtain ⟨ns, hrun, hmap, hall⟩ := ih fun m' hm' => h m' (by simp [hm'])
    refine ⟨⟨n, ⟨queue, m⟩⟩ :: ns, ?_, by simp [hmap], ?_⟩
    · simp [readNotices, hd, hrun]
    · exact List.forall_mem_cons.2 ⟨hd, hall⟩

/-- An expiration poll makes sure of the kind's queue, then makes one get of at most 32
messages leased for ten minutes; when every message got reads as a notice of the kind, it
answers them all, in order, leased from the queue. -/
theorem poll_serving (hw : w.Serving σ) (kind : ExpirationKind) :
  ∃ st rd logs, Readied w (σ.expirationQueue kind) kind st rd ∧
    (∀ got st', st.getMessages w.now (σ.expirationQueue kind) noticeLease maxMessagesPerGet =
        .ok (.ok got, st') →
      (∀ m ∈ got, ∃ n, Codec.decode (Notice.ofJson? kind) m.text = .ok n) →
      ∃ ns, (poll kind).run.run w =
          .ok (.ok ns, { w with store := st', ready := rd, logs := w.logs ++ logs }) ∧
        ns.map (·.lease) = got.map (⟨σ.expirationQueue kind, ·⟩) ∧
        ∀ x ∈ ns, Codec.decode (Notice.ofJson? kind) x.lease.message.text = .ok x.notice) ∧
    ∀ e, st.getMessages w.now (σ.expirationQueue kind) noticeLease maxMessagesPerGet =
        .error e →
      (poll kind).run.run w = .error e
  := by
  obtain ⟨st, rd, logs, hready, hr⟩ := ensureReady_serving hw kind
  refine ⟨st, rd, logs, hr, fun got st' hget hdec => ?_, fun e hget => ?_⟩
  · obtain ⟨ns, hread, hmap, hall⟩ := readNotices_of_decoded kind (σ.expirationQueue kind) hdec
      { w with store := st', ready := rd, logs := w.logs ++ logs }
    have hrun := Run.getMessages_of_store (w := { w with
        store := st, ready := rd, logs := w.logs ++ logs }) hw.link hget
    obtain rfl := hw.settings
    refine ⟨ns, ?_, hmap, hall⟩
    unfold poll
    rw [Attempt.run_bind_of_ok hready]
    simp [hrun, hread, Attempt.lift, ExceptT.run_bind, Except.mapError]
  · have hrun := Run.getMessages_halts (w := { w with
        store := st, ready := rd, logs := w.logs ++ logs }) hw.link hget
    obtain rfl := hw.settings
    unfold poll
    rw [Attempt.run_bind_of_ok hready]
    simp [hrun, Attempt.lift, ExceptT.run_bind]
    rfl

end Expiration

/-! ### Leases -/

namespace Lease

variable {w : World} {l : Lease}

/-- Finishing an operation on a lease changes only the reports and the log; an operation
that answered is answered. -/
theorem finish_run (l : Lease) (operation : String) (r : Except QueueError Unit) (w : World) :
  ∃ r' reports logs, (l.finish operation r).run.run w =
      .ok (r', { w with reports := reports, logs := logs }) ∧ (r = .ok () → r' = .ok ())
  := by
  rcases r with e | u
  · by_cases he : e.kind = .assertionViolation <;>
      simp [finish, he, ExceptT.run_bind] <;>
      exact ⟨_, _, _, rfl⟩
  · exact ⟨.ok (), w.reports, w.logs, rfl, fun _ => rfl⟩

/-- Removing a lease makes one delete, with the lease's receipt. -/
theorem remove_of_delete (hlink : w.link = .store) {r : Except Fault Unit} {st : Store}
    (h : w.store.deleteMessage w.now l.queue l.message.id l.message.receipt = .ok (r, st)) :
  l.remove.run.run w =
    (l.finish "delete_message" (r.mapError QueueError.ofFault)).run.run { w with store := st }
  := by
  simp [remove, Run.deleteMessage_of_store hlink h, Attempt.lift, ExceptT.run_bind]

/-- Releasing a lease makes one update, of the message's own text, visible at once, with
the lease's receipt. -/
theorem release_of_update (hlink : w.link = .store) {r : Except Fault String} {st : Store}
    (h : w.store.updateMessage w.now l.queue l.message.text l.message.id l.message.receipt
      (.ofSeconds 0) = .ok (r, st)) :
  l.release.run.run w = (l.finish "update_message"
    ((r.mapError QueueError.ofFault).map fun _ => ())).run.run { w with store := st }
  := by
  simp [release, Run.updateMessage_of_store hlink h, Attempt.lift, ExceptT.run_bind]

/-- A release whose update halts halts. -/
theorem release_halts (hlink : w.link = .store) {e : Halt}
    (h : w.store.updateMessage w.now l.queue l.message.text l.message.id l.message.receipt
      (.ofSeconds 0) = .error e) :
  l.release.run.run w = .error e
  := by
  simp [release, Run.updateMessage_halts hlink h, Attempt.lift, ExceptT.run_bind]
  rfl

end Lease

end TaskQueue
