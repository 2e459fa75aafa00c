import TaskQueue.Proofs.Traffic.Steps
import Mathlib

/-!
# Publishing and polling pending hints

Pending traffic (publishes, listings of a family's shards, polls, removes and releases
through handles, moves of the clock) run from a fresh session over an empty store keeps
an invariant (`PendingRun`): the session serves its settings, and every message the store
holds is the text of a hint that a publish of the run put on that queue
(`HintsPublished`).

From it, at every session such a run reaches, the next step does what the pending queues
promise (`PendingContract`, `pending_traffic_contract`):

* every queue holds its messages in the order they were put;
* listing a family answers its seven shards, highest priority first;
* a publish of a valid task past its deadline answers and puts nothing;
* a publish of a valid task before its deadline answers and appends one message to the
  shard of its priority, and to no other queue: its hint, visible at once, living until
  now plus the seconds left to the deadline, rounded up;
* a poll for `count > 0` hints answers the first `min count 32` unexpired messages of the
  shard visible now, in the order they were put, each with a fresh handle and a fresh
  receipt, each the hint a publish of the run put there, with the poll's priority; it
  leases them until five minutes later and changes no other message of the shard.

Every queue other than the one written keeps its messages, or drops its expired ones.
This holds where the moves of the clock involved stay in the calendar: five minutes after
a clock near its end, a poll of a shard holding a visible hint halts
(`pending_poll_halts_at_calendar_end`).
-/

namespace TaskQueue

open Time

/-! ### Hint ids -/

/-- A ULID made of a timestamp and a number has 128 bits. -/
theorem Ulid.ofParts_lt (millis random : Nat) :
  (Ulid.ofParts millis random).val < Nat.pow 2 128
  := by
  have h₁ := Nat.mod_lt millis (show 0 < Nat.pow 2 48 by decide)
  have h₂ := Nat.mod_lt random (show 0 < Nat.pow 2 80 by decide)
  have h128 : Nat.pow 2 128 = Nat.pow 2 48 * Nat.pow 2 80 := by decide
  show millis % Nat.pow 2 48 * Nat.pow 2 80 + random % Nat.pow 2 80 < Nat.pow 2 128
  rw [h128]
  nlinarith

/-- The text a publish puts reads back as its hint. -/
theorem Pending.decode_publishedHint (task : TaskRef) (runId : UInt32) (w : World) :
  Codec.decode PendingHint.ofJson? (Codec.encode (publishedHint task runId w).toJson) =
    .ok (publishedHint task runId w)
  := PendingHint.decode_encode _ (Ulid.ofParts_lt _ _)

/-! ### Queues a step does not write -/

namespace Store

/-- The queue `n` of `s'` holds what it held in `s`, or what of it is unexpired at
`now`. -/
def Drops (now : Instant) (s s' : Store) (n : String) : Prop :=
  s'.messagesOf n = s.messagesOf n ∨ s'.messagesOf n = s.live now n

theorem Refreshes.drops {now : Instant} {names : List String} {s s' : Store}
    (h : Refreshes now names s s') (n : String) :
  Drops now s s' n
  := h.messagesOf n

/-- A queue a refresh ensured exists after it, and purged at `now` holds the messages it
held unexpired at `now`. -/
theorem Refreshes.found {now : Instant} {names : List String} {s s' : Store}
    (h : Refreshes now names s s') {n : String} (hn : n ∈ names) :
  ∃ q, s'.find? n = some q ∧ (q.purge now).messages = s.live now n
  := by
  obtain ⟨q, hq⟩ := (exists?_iff s' n).1 (h.exists_mem n hn)
  refine ⟨q, hq, ?_⟩
  rw [StoredQueue.purge_messages, ← messagesOf_of_find? hq]
  exact h.live_eq n

end Store

namespace Session

/-! ### Handles given -/

/-- Handles are numbered after every handle issued. -/
theorem give_numbers {α : Type} (s : Session) (items : List α) (hold : α → Held) :
  (s.give items hold).1.map (·.1) = List.range' (s.issuedHandles + 1) items.length
  := by
  simp [give, List.map_map, Function.comp_def]

/-- What each item answered with a handle is, is what the item is. -/
theorem give_map_snd {α β : Type} {s : Session} {items : List α} {hold : α → Held}
    (f : α → β) :
  (s.give items hold).1.map (fun x => f x.2) = items.map f
  := by
  conv_rhs => rw [← give_items s items hold]
  rw [List.map_map]
  rfl

theorem mem_give {α : Type} {s : Session} {items : List α} {hold : α → Held}
    {x : Nat × α} (hx : x ∈ (s.give items hold).1) :
  x.2 ∈ items
  := by
  rw [← give_items s items hold]
  exact List.mem_map_of_mem hx

/-! ### Hints published in a run -/

variable {σ : Settings} {s₀ s s' : Session} {tr : List (Step × Outcome)}

/-- The run `tr` from `s₀` published the hint `hint` on the queue `q`: one of its steps
publishes a task whose shard is `q` and answers, and `hint` is the hint that step put. -/
def PublishedHint (σ : Settings) (s₀ : Session) (tr : List (Step × Outcome)) (q : String)
    (hint : PendingHint) : Prop :=
  ∃ tr₁ tr₂ s₁ s₂ task runId rs, tr = tr₁ ++ (.putPending task runId, .reply .unit) :: tr₂ ∧
    Reaches s₀ tr₁ s₁ ∧ s₁.step (.putPending task runId) = .ok (.reply .unit, rs, s₂) ∧
    q = shardName σ.stem task.provisionerId task.workerType task.priority ∧
    hint = Pending.publishedHint task runId s₁.world

theorem PublishedHint.snoc {q : String} {hint : PendingHint} (h : PublishedHint σ s₀ tr q hint)
    (x : Step × Outcome) :
  PublishedHint σ s₀ (tr ++ [x]) q hint
  := by
  obtain ⟨tr₁, tr₂, s₁, s₂, task, runId, rs, rfl, h₁, h₂, hq, hh⟩ := h
  exact ⟨tr₁, tr₂ ++ [x], s₁, s₂, task, runId, rs, by simp, h₁, h₂, hq, hh⟩

/-- A published hint is read back from its text. -/
theorem PublishedHint.decode {q : String} {hint : PendingHint}
    (h : PublishedHint σ s₀ tr q hint) :
  Codec.decode PendingHint.ofJson? (Codec.encode hint.toJson) = .ok hint
  := by
  obtain ⟨-, -, s₁, -, task, runId, -, -, -, -, -, rfl⟩ := h
  exact Pending.decode_publishedHint task runId s₁.world

/-- Every message of the store `st` is the text of a hint the run `tr` from `s₀` published
on its queue. -/
def HintsPublished (σ : Settings) (s₀ : Session) (tr : List (Step × Outcome)) (st : Store) :
    Prop :=
  ∀ n, ∀ m ∈ st.messagesOf n, ∃ hint, m.text = Codec.encode hint.toJson ∧
    PublishedHint σ s₀ tr n hint

/-- The hint a message of such a store reads as is one the run published on its queue. -/
theorem HintsPublished.read {st : Store} (h : HintsPublished σ s₀ tr st) {n : String}
    {m : StoredMessage} (hm : m ∈ st.messagesOf n) {hint : PendingHint}
    (hd : Codec.decode PendingHint.ofJson? m.text = .ok hint) :
  PublishedHint σ s₀ tr n hint
  := by
  obtain ⟨hint', htext, hpub⟩ := h n m hm
  rw [htext, hpub.decode] at hd
  cases hd
  exact hpub

/-- Every step of pending traffic reads what it polls from such a store. -/
theorem HintsPublished.readable {st : Store} (h : HintsPublished σ s₀ tr st) {x : Step}
    (hx : x.PendingTraffic) :
  x.Readable σ st
  := by
  cases x with
  | pollPending k priority count =>
    intro m hm
    obtain ⟨hint, htext, hpub⟩ := h _ m hm
    exact ⟨hint, htext ▸ hpub.decode⟩
  | pollNotices => cases hx
  | _ => trivial

/-! ### The invariant of pending traffic -/

/-- What a run `tr` of pending traffic from `s₀` to `s` keeps. -/
structure PendingRun (σ : Settings) (s₀ : Session) (tr : List (Step × Outcome)) (s : Session) :
    Prop where
  serving : s.Serving σ
  hints : HintsPublished σ s₀ tr s.world.store

/-- A step of pending traffic keeps the invariant: a message held after it was held before,
or is the hint the step published. -/
theorem PendingRun.step {st : Step} {o : Outcome} {rs : List QueueError}
    (hp : PendingRun σ s₀ tr s) (hr : Reaches s₀ tr s) (hx : st.PendingTraffic)
    (h : s.step st = .ok (o, rs, s')) :
  PendingRun σ s₀ (tr ++ [(st, o)]) s'
  := by
  have hm := Serving.step hp.serving (.inl hx) (hp.hints.readable hx) h
  refine ⟨hm.serving, fun n m' hm' => ?_⟩
  rcases hm.news hm' with ⟨m, hm, -, htext, -⟩ | ⟨hput, rfl⟩
  · obtain ⟨hint, ht, hpub⟩ := hp.hints n m hm
    exact ⟨hint, htext ▸ ht, hpub.snoc _⟩
  · -- the step put the message, so it is a publish, and the message its hint
    cases st with
    | putPending task runId =>
      obtain ⟨hn, ht⟩ := hput
      exact ⟨_, ht, tr, [], s, s', task, runId, rs, rfl, hr, h, hn, rfl⟩
    | putClaim | putDeadline | putResolved => cases hx
    | _ =>
      obtain ⟨_, _, hn, -⟩ := hput
      cases hn

/-- A fresh session at a valid instant starts the invariant. -/
theorem pendingRun_start (σ : Settings) {t₀ : Instant} (ht₀ : t₀.Valid) (pageSize : Nat)
    (virtualTime : Bool) :
  PendingRun σ (Session.start σ t₀ pageSize virtualTime none) []
    (Session.start σ t₀ pageSize virtualTime none)
  := ⟨.start σ ht₀ pageSize virtualTime, fun _ _ hm => by cases hm⟩

/-- Every run of pending traffic from a fresh session keeps the invariant. -/
theorem Reaches.pendingRun {t₀ : Instant} (ht₀ : t₀.Valid) {pageSize : Nat}
    {virtualTime : Bool}
    (h : Reaches (Session.start σ t₀ pageSize virtualTime none) tr s)
    (htr : ∀ x ∈ tr, x.1.PendingTraffic) :
  PendingRun σ (Session.start σ t₀ pageSize virtualTime none) tr s
  := by
  -- the invariant is carried along the run, step by step from its start
  revert htr
  refine Reaches.induction_snoc
    (P := fun tr s => (∀ x ∈ tr, x.1.PendingTraffic) → PendingRun σ _ tr s)
    (fun _ => pendingRun_start σ ht₀ pageSize virtualTime) ?_ h
  intro tr s₁ st o rs s₂ hr ih hs htr
  refine (ih fun x hx => htr x (List.mem_append_left _ hx)).step hr ?_ hs
  exact htr _ (List.mem_append_right _ (List.mem_singleton_self _))

/-! ### What the next step does -/

/-- Listing a family's queues answers its seven shards, highest priority first. -/
theorem Serving.lists (hs : s.Serving σ) (k : FamilyKey) :
  ∃ s', s.step (.pendingQueues k) = .ok (.reply (.shards (Priority.all.map
      fun r => (r, shardName σ.stem k.provisionerId k.workerType r))), [], s') ∧
    ∀ n, Store.Drops s.world.now s.world.store s'.world.store n
  := by
  obtain ⟨st, fs, logs, hstep, he⟩ := step_pendingQueues hs k
  exact ⟨_, hstep, he.refreshes.drops⟩

/-- A publish of a valid task past its deadline answers and puts nothing. -/
theorem Serving.drops_passed (hs : s.Serving σ) {task : TaskRef} (runId : UInt32)
    (hvalid : task.validate = .ok ()) (hr : remainingSecs task.deadline s.world.now = none) :
  ∃ s', s.step (.putPending task runId) = .ok (.reply .unit, [], s') ∧
    ∀ n, Store.Drops s.world.now s.world.store s'.world.store n
  := by
  obtain ⟨st, fs, logs, hstep, he⟩ := step_putPending_of_passed runId hs hvalid hr
  exact ⟨_, hstep, he.refreshes.drops⟩

/-- A publish of a valid task before its deadline answers and appends its hint to the shard
of its priority, with the next id and receipt, visible at once and expiring `ttl` seconds
from now; the shard drops its expired messages, and no other queue gains one. -/
theorem Serving.publishes (hs : s.Serving σ) {task : TaskRef} (runId : UInt32) {ttl : Nat}
    {expiresAt : Instant} (hvalid : task.validate = .ok ())
    (hr : remainingSecs task.deadline s.world.now = some ttl)
    (he : s.world.now.add? (Duration.ofSeconds ttl).storeSpan = some expiresAt) :
  ∃ s', s.step (.putPending task runId) = .ok (.reply .unit, [], s') ∧
    s'.world.now = s.world.now ∧
    s'.world.store.messagesOf
        (shardName σ.stem task.provisionerId task.workerType task.priority) =
      s.world.store.live s.world.now
          (shardName σ.stem task.provisionerId task.workerType task.priority) ++
        [⟨Store.idOf (s.world.store.issuedIds + 1), Store.receiptOf
          (s.world.store.issuedReceipts + 1),
          Codec.encode (Pending.publishedHint task runId s.world).toJson, s.world.now,
          expiresAt⟩] ∧
    ∀ n ≠ shardName σ.stem task.provisionerId task.workerType task.priority,
      Store.Drops s.world.now s.world.store s'.world.store n
  := by
  obtain ⟨st, fs, logs, hens, hput⟩ := step_putPending_of_ahead runId hs hvalid hr
  have hrules : st.rules = [] := hens.refreshes.rules.trans hs.world.rules
  have hex := hens.refreshes.exists_mem _ (shardName_mem_familyNames σ.stem task.provisionerId
    task.workerType task.priority)
  have hv : s.world.now.add? (Duration.ofSeconds 0).storeSpan = some s.world.now :=
    Instant.add?_zero hs.now
  -- both moves of the clock land in the calendar, so the put answers
  obtain ⟨⟨r, st'⟩, hp⟩ : ∃ p, st.putMessage s.world.now
      (shardName σ.stem task.provisionerId task.workerType task.priority)
      (Codec.encode (Pending.publishedHint task runId s.world).toJson) (.ofSeconds 0)
      (.ofSeconds ttl) = .ok p := by
    cases h : st.putMessage s.world.now
        (shardName σ.stem task.provisionerId task.workerType task.priority)
        (Codec.encode (Pending.publishedHint task runId s.world).toJson) (.ofSeconds 0)
        (.ofSeconds ttl) with
    | ok p => exact ⟨p, rfl⟩
    | error e =>
      have := (Store.putMessage_eq_error_iff.1 h).2.2.2
      simp [hv, he] at this
  obtain ⟨visibleAt, expiresAt', hva, hea, -, hmsg⟩ := Store.putMessage_messagesOf hrules hex hp
  rw [hv] at hva
  rw [he] at hea
  cases hva
  cases hea
  refine ⟨_, hput _ hp, rfl, ?_, fun n hn => ?_⟩
  · show st'.messagesOf _ = _
    rw [hmsg, if_pos rfl, hens.refreshes.live_eq, hens.refreshes.issuedIds,
      hens.refreshes.issuedReceipts]
  · show Store.Drops _ _ st' n
    unfold Store.Drops
    rw [hmsg, if_neg hn]
    exact hens.refreshes.drops n

/-- A poll for no hints ensures the family and answers none. -/
theorem Serving.pollsNone (hs : s.Serving σ) (k : FamilyKey) (priority : Priority) :
  ∃ s', s.step (.pollPending k priority 0) = .ok (.reply (.hints []), [], s') ∧
    ∀ n, Store.Drops s.world.now s.world.store s'.world.store n
  := by
  obtain ⟨st, fs, logs, he, hstep⟩ := step_pollPending_zero hs k priority
  exact ⟨_, hstep, he.refreshes.drops⟩

/-- A poll for `count > 0` hints, whose lease ends in the calendar, answers the first
`min count 32` unexpired messages of the shard visible now, in order, each with the next
handle and the next receipt, each a hint of the poll's priority, leased from the shard, that
a publish of the run put there; the shard keeps its other unexpired messages, the answered
ones leased until the lease's end, and no other queue gains a message. -/
theorem PendingRun.polls (hp : PendingRun σ s₀ tr s) (k : FamilyKey) (priority : Priority)
    {count : Nat} {leaseEnd : Instant} (hpos : 0 < count)
    (hl : s.world.now.add? pendingLease.storeSpan = some leaseEnd) :
  ∃ s' numbered, s.step (.pollPending k priority count) =
      .ok (.reply (.hints numbered), [], s') ∧
    numbered.map (·.1) = List.range' (s.issuedHandles + 1) numbered.length ∧
    numbered.map (·.2.lease.message) =
      (((s.world.store.live s.world.now
          (shardName σ.stem k.provisionerId k.workerType priority)).filter
          (·.isVisible s.world.now)).take (min count maxMessagesPerGet)).mapIdx
        (fun i m => ⟨m.id, Store.receiptOf (s.world.store.issuedReceipts + i + 1), m.text⟩) ∧
    (∀ x ∈ numbered, x.2.priority = priority ∧
      x.2.lease.queue = shardName σ.stem k.provisionerId k.workerType priority ∧
      PublishedHint σ s₀ tr (shardName σ.stem k.provisionerId k.workerType priority)
        x.2.hint) ∧
    s'.world.store.messagesOf (shardName σ.stem k.provisionerId k.workerType priority) =
      (Store.leaseAll s.world.now leaseEnd s.world.store.issuedReceipts
        (s.world.store.live s.world.now
          (shardName σ.stem k.provisionerId k.workerType priority))
        (min count maxMessagesPerGet)).1 ∧
    ∀ n ≠ shardName σ.stem k.provisionerId k.workerType priority,
      Store.Drops s.world.now s.world.store s'.world.store n
  := by
  obtain ⟨st, fs, logs, hens, hget, -⟩ := step_pollPending_of_get hp.serving k priority hpos
  have hrules : st.rules = [] := hens.refreshes.rules.trans hp.serving.world.rules
  obtain ⟨Q, hQ, hlive⟩ := hens.refreshes.found
    (shardName_mem_familyNames σ.stem k.provisionerId k.workerType priority)
  have hg := Store.getMessages_of_found_eq (min count maxMessagesPerGet) hrules hQ hl
  have hread : ∀ m ∈ st.messagesOf (shardName σ.stem k.provisionerId k.workerType priority),
      ∃ hint, Codec.decode PendingHint.ofJson? m.text = .ok hint := fun m hm =>
    hp.hints.readable (x := .pollPending k priority count) trivial m
      (hens.refreshes.mem_messagesOf hm)
  obtain ⟨hints, hstep, hmap, hall⟩ := hget _ _ hg
    (got_readable (P := fun t => ∃ hint, Codec.decode PendingHint.ofJson? t = .ok hint) hread hg)
  -- the get leases the unexpired messages of the shard, as many as asked
  have hcount : min (max (min count maxMessagesPerGet) 1) maxMessagesPerGet =
      min count maxMessagesPerGet := by
    simp only [maxMessagesPerGet]
    omega
  have hR : st.issuedReceipts = s.world.store.issuedReceipts := hens.refreshes.issuedReceipts
  refine ⟨_, _, hstep, by simp [give, List.map_map, Function.comp_def], ?_, fun x hx => ?_, ?_,
    fun n hn => ?_⟩
  · -- the messages answered are those the get leased
    rw [give_map_snd (fun a : PolledHint => a.lease.message), messages_of_leases hmap,
      Store.leaseAll_got_eq, hcount, hlive, hR]
  · -- each hint answered reads from a message of the shard, a hint the run published there
    have hx₂ := mem_give hx
    obtain ⟨hpriority, hdec⟩ := hall x.2 hx₂
    obtain ⟨r, hr, hlr⟩ := List.mem_map.1 (hmap ▸ List.mem_map_of_mem hx₂ :
      x.2.lease ∈ _)
    obtain ⟨m, hm, -, htext⟩ := (Store.getMessages_got hg).2.2 r hr
    refine ⟨hpriority, by rw [← hlr], hp.hints.read (hens.refreshes.mem_messagesOf hm) ?_⟩
    rw [htext, show r = x.2.lease.message by rw [← hlr]]
    exact hdec
  · rw [give_snd]
    show Store.messagesOf (Store.mk _ _ _ _ _ _) _ = _
    simp only [Store.messagesOf_mk, Store.lookup_queues, Store.getD_map_find?,
      Store.messagesOf_put, if_true, Store.getLease]
    rw [hcount, hlive, hR]
  · rw [give_snd]
    show Store.Drops _ _ (Store.mk _ _ _ _ _ _) n
    unfold Store.Drops
    simp only [Store.messagesOf_mk, Store.lookup_queues, Store.getD_map_find?,
      Store.messagesOf_put, if_neg hn, Store.messagesOf_enter]
    exact hens.refreshes.drops n

/-- A poll for `count > 0` hints of a shard holding an unexpired message visible now halts
when its lease would end past the calendar. -/
theorem Serving.pollHalts (hs : s.Serving σ) (k : FamilyKey) (priority : Priority)
    {count : Nat} (hpos : 0 < count)
    (hvis : ∃ m ∈ s.world.store.live s.world.now
      (shardName σ.stem k.provisionerId k.workerType priority), m.isVisible s.world.now)
    (hl : s.world.now.add? pendingLease.storeSpan = none) :
  s.step (.pollPending k priority count) = .error .addOverflow
  := by
  obtain ⟨st, fs, logs, hens, -, hhalt⟩ := step_pollPending_of_get hs k priority hpos
  have hrules : st.rules = [] := hens.refreshes.rules.trans hs.world.rules
  obtain ⟨Q, hQ, hlive⟩ := hens.refreshes.found
    (shardName_mem_familyNames σ.stem k.provisionerId k.workerType priority)
  apply hhalt
  refine Store.getMessages_eq_error_iff.2 ⟨rfl, by rw [hrules]; rfl, ⟨Q, hQ, ?_⟩, by rw [hl]; rfl⟩
  obtain ⟨m, hm, hv⟩ := hvis
  rw [hlive]
  exact List.any_eq_true.2 ⟨m, hm, hv⟩

/-! ### The contract of pending traffic -/

/-- What the next step does at a session `s` that a run `tr` of pending traffic from `s₀`
reached. -/
structure PendingContract (σ : Settings) (s₀ : Session) (tr : List (Step × Outcome))
    (s : Session) : Prop where
  ordered : s.world.store.InPutOrder
  lists (k : FamilyKey) :
    ∃ s', s.step (.pendingQueues k) = .ok (.reply (.shards (Priority.all.map
        fun r => (r, shardName σ.stem k.provisionerId k.workerType r))), [], s') ∧
      ∀ n, Store.Drops s.world.now s.world.store s'.world.store n
  dropped (task : TaskRef) (runId : UInt32) :
    task.validate = .ok () → remainingSecs task.deadline s.world.now = none →
    ∃ s', s.step (.putPending task runId) = .ok (.reply .unit, [], s') ∧
      ∀ n, Store.Drops s.world.now s.world.store s'.world.store n
  published (task : TaskRef) (runId : UInt32) (ttl : Nat) (expiresAt : Instant) :
    task.validate = .ok () → remainingSecs task.deadline s.world.now = some ttl →
    s.world.now.add? (Duration.ofSeconds ttl).storeSpan = some expiresAt →
    ∃ s', s.step (.putPending task runId) = .ok (.reply .unit, [], s') ∧
      s'.world.now = s.world.now ∧
      s'.world.store.messagesOf
          (shardName σ.stem task.provisionerId task.workerType task.priority) =
        s.world.store.live s.world.now
            (shardName σ.stem task.provisionerId task.workerType task.priority) ++
          [⟨Store.idOf (s.world.store.issuedIds + 1), Store.receiptOf
            (s.world.store.issuedReceipts + 1),
            Codec.encode (Pending.publishedHint task runId s.world).toJson, s.world.now,
            expiresAt⟩] ∧
      ∀ n ≠ shardName σ.stem task.provisionerId task.workerType task.priority,
        Store.Drops s.world.now s.world.store s'.world.store n
  pollsNone (k : FamilyKey) (priority : Priority) :
    ∃ s', s.step (.pollPending k priority 0) = .ok (.reply (.hints []), [], s') ∧
      ∀ n, Store.Drops s.world.now s.world.store s'.world.store n
  polled (k : FamilyKey) (priority : Priority) (count : Nat) (leaseEnd : Instant) :
    0 < count → s.world.now.add? pendingLease.storeSpan = some leaseEnd →
    ∃ s' numbered, s.step (.pollPending k priority count) =
        .ok (.reply (.hints numbered), [], s') ∧
      numbered.map (·.1) = List.range' (s.issuedHandles + 1) numbered.length ∧
      numbered.map (·.2.lease.message) =
        (((s.world.store.live s.world.now
            (shardName σ.stem k.provisionerId k.workerType priority)).filter
            (·.isVisible s.world.now)).take (min count maxMessagesPerGet)).mapIdx
          (fun i m => ⟨m.id, Store.receiptOf (s.world.store.issuedReceipts + i + 1), m.text⟩) ∧
      (∀ x ∈ numbered, x.2.priority = priority ∧
        x.2.lease.queue = shardName σ.stem k.provisionerId k.workerType priority ∧
        PublishedHint σ s₀ tr (shardName σ.stem k.provisionerId k.workerType priority)
          x.2.hint) ∧
      s'.world.store.messagesOf (shardName σ.stem k.provisionerId k.workerType priority) =
        (Store.leaseAll s.world.now leaseEnd s.world.store.issuedReceipts
          (s.world.store.live s.world.now
            (shardName σ.stem k.provisionerId k.workerType priority))
          (min count maxMessagesPerGet)).1 ∧
      ∀ n ≠ shardName σ.stem k.provisionerId k.workerType priority,
        Store.Drops s.world.now s.world.store s'.world.store n

/-- Every session that pending traffic reaches from a fresh session over an empty store, at a
valid instant, keeps the contract: its next step does what the pending queues promise. -/
theorem pending_traffic_contract (σ : Settings) {t₀ : Instant} (ht₀ : t₀.Valid)
    (pageSize : Nat) (virtualTime : Bool) {tr : List (Step × Outcome)} {s : Session}
    (hrun : Reaches (Session.start σ t₀ pageSize virtualTime none) tr s)
    (htraffic : ∀ x ∈ tr, x.1.PendingTraffic) :
  PendingContract σ (Session.start σ t₀ pageSize virtualTime none) tr s
  := by
  have hp := hrun.pendingRun ht₀ htraffic
  exact {
    ordered := hp.serving.world.ordered
    lists := hp.serving.lists
    dropped := fun _ runId => hp.serving.drops_passed runId
    published := fun _ runId _ _ => hp.serving.publishes runId
    pollsNone := hp.serving.pollsNone
    polled := fun k priority _ _ => hp.polls k priority }

/-- A session in which, from noon on 1 March 2024 under the default settings, a task due an
hour later was published and a poll of its shard answered keeps the contract. -/
theorem pending_contract_after_publish_and_poll :
  ∃ tr s, tr.map Prod.fst = [.putPending ⟨⟨"t1"⟩, ⟨"p1", by decide⟩, ⟨"w1", by decide⟩,
        ⟨19783, 46800, 0⟩, .high⟩ 1,
      .pollPending ⟨⟨"p1", by decide⟩, ⟨"w1", by decide⟩⟩ .high 1] ∧
    PendingContract Settings.default
      (Session.start Settings.default ⟨19783, 43200, 0⟩ 5000 false none) tr s
  := by
  have ht₀ : Instant.Valid ⟨19783, 43200, 0⟩ := ⟨by decide, by decide, by decide, by decide⟩
  have hs₀ := Serving.start Settings.default ht₀ 5000 false
  -- the task's hint lives until its deadline, an hour on
  have hvalid : TaskRef.validate ⟨⟨"t1"⟩, ⟨"p1", by decide⟩, ⟨"w1", by decide⟩,
      ⟨19783, 46800, 0⟩, .high⟩ = .ok () := by decide
  have hr : remainingSecs ⟨19783, 46800, 0⟩ ⟨19783, 43200, 0⟩ = some 3600 := by decide
  have he : Instant.add? ⟨19783, 43200, 0⟩ (Duration.ofSeconds 3600).storeSpan =
      some ⟨19783, 46800, 0⟩ := by decide
  obtain ⟨s₁, hstep₁, hnow₁, -⟩ := hs₀.publishes 1 hvalid hr he
  -- the poll that follows answers, its lease ending five minutes on
  have hp₁ := Reaches.pendingRun ht₀ (.step hstep₁ (.refl _)) fun x hx => by
    rw [List.mem_singleton.1 hx]
    trivial
  have hl : s₁.world.now.add? pendingLease.storeSpan = some ⟨19783, 43500, 0⟩ := by
    rw [hnow₁]
    decide
  obtain ⟨s₂, _, hstep₂, -⟩ := hp₁.polls ⟨⟨"p1", by decide⟩, ⟨"w1", by decide⟩⟩ .high
    Nat.one_pos hl
  refine ⟨_, s₂, rfl, pending_traffic_contract Settings.default ht₀ 5000 false
    (.step hstep₁ (.step hstep₂ (.refl _))) fun x hx => ?_⟩
  simp only [List.mem_cons, List.not_mem_nil, or_false] at hx
  rcases hx with rfl | rfl <;> trivial

/-- Near the end of the calendar the poll does not answer: from noon on 1 March 2024 the
clock moves to two minutes before the calendar ends, a task due 90 seconds later is
published, and a poll of its shard halts, as the lease it would take ends past the
calendar. -/
theorem pending_poll_halts_at_calendar_end :
  ∃ s₁ s₂, (Session.start Settings.default ⟨19783, 43200, 0⟩ 5000 false none).step
      (.advance 8208557582280000) = .ok (.reply (.instant ⟨95026236, 86280, 0⟩), [], s₁) ∧
    s₁.step (.putPending ⟨⟨"t1"⟩, ⟨"p1", by decide⟩, ⟨"w1", by decide⟩,
      ⟨95026236, 86370, 0⟩, .high⟩ 1) = .ok (.reply .unit, [], s₂) ∧
    s₂.step (.pollPending ⟨⟨"p1", by decide⟩, ⟨"w1", by decide⟩⟩ .high 1) =
      .error .addOverflow
  := by
  have ht₀ : Instant.Valid ⟨19783, 43200, 0⟩ := ⟨by decide, by decide, by decide, by decide⟩
  have ht₁ : Instant.Valid ⟨95026236, 86280, 0⟩ := ⟨by decide, by decide, by decide, by decide⟩
  have hs₀ := Serving.start Settings.default ht₀ 5000 false
  have hs₁ := hs₀.of_clock ht₁ []
  -- the clock lands two minutes before the calendar ends
  have hplus : Instant.plus ⟨19783, 43200, 0⟩ (Span.ofMillis 8208557582280000) =
      .ok ⟨95026236, 86280, 0⟩ := by decide
  -- the task, due 90 seconds later, is published on its shard
  have hvalid : TaskRef.validate ⟨⟨"t1"⟩, ⟨"p1", by decide⟩, ⟨"w1", by decide⟩,
      ⟨95026236, 86370, 0⟩, .high⟩ = .ok () := by decide
  have hr : remainingSecs ⟨95026236, 86370, 0⟩ ⟨95026236, 86280, 0⟩ = some 90 := by decide
  have he : Instant.add? ⟨95026236, 86280, 0⟩ (Duration.ofSeconds 90).storeSpan =
      some ⟨95026236, 86370, 0⟩ := by decide
  obtain ⟨s₂, hstep₂, hnow₂, hmsgs, -⟩ := hs₁.publishes 1 hvalid hr he
  have hs₂ := (Serving.step hs₁ (.inl (by trivial)) (by trivial) hstep₂).serving
  refine ⟨_, s₂, ?_, hstep₂, hs₂.pollHalts _ .high (by decide) ?_ ?_⟩
  · rw [step_advance hs₀]
    show Except.map _ (Instant.plus ⟨19783, 43200, 0⟩ _) = _
    rw [hplus]
    rfl
  · -- its hint, visible at once, lives until the deadline
    rw [hnow₂]
    unfold Store.live
    rw [hmsgs]
    exact ⟨_, List.mem_filter.2 ⟨List.mem_append_right _ (List.mem_singleton_self _),
      by decide⟩, by decide⟩
  · -- five minutes later is past the calendar
    rw [hnow₂]
    decide

end Session

end TaskQueue
