import TaskQueue.Proofs.Traffic.Service
import TaskQueue.Proofs.Store.Halting
import TaskQueue.Proofs.Session.Caches
import TaskQueue.Proofs.Session.Survival
import Mathlib

/-!
# Steps of traffic

Traffic is what the queues of a service are for: publishes and polls of pending hints,
puts and polls of expiration notices, removes and releases through the handles of polled
messages, and moves of the clock (`Step.PendingTraffic`, `Step.NoticeTraffic`).

A session *serves* the settings `σ` (`Session.Serving`) when its world does, its clock is
a valid instant, its loops are not running, and its live handles are sound: their numbers
were issued and differ, their receipts were drawn and differ, their ids were drawn, and
every message held under a handle's id has the handle's text.

Each step of traffic is computed here, in a serving session, down to the store call that
carries it (`step_putPending_of_ahead`, `step_pollPending_of_get`, …), and every step of
traffic keeps the session serving (`Serving.step`), keeps the store's messages with their
texts (`Store.Keeps`), and changes the store only by the calls it makes.
-/

namespace TaskQueue

open Time

/-- A step of pending traffic: a publish, a listing of a family's queues, a pending poll,
a remove or release through a handle, or a move of the clock to a valid instant. -/
def Step.PendingTraffic : Step → Prop
  | .putPending .. | .pendingQueues _ | .pollPending .. | .remove _ | .release _
  | .advance _ => True
  | .setTime t => t.Valid
  | _ => False

/-- A step of notice traffic: an expiration put of a notice at valid instants, an
expiration poll, a remove through a handle, or a move of the clock to a valid instant. -/
def Step.NoticeTraffic : Step → Prop
  | .putClaim _ _ t => t.Valid
  | .putDeadline _ _ _ t => t.Valid
  | .putResolved .. | .pollNotices _ | .remove _ | .advance _ => True
  | .setTime t => t.Valid
  | _ => False

/-- The queue a notice goes to. -/
def Notice.kind : Notice → ExpirationKind
  | claim _ => .claim
  | deadline _ => .deadline
  | resolved _ => .resolved

/-- The notice a step puts at `now` under the settings `σ`, with the seconds it stays
invisible: a claim until `takenUntil` has passed, a deadline until the deadline and then the
configured delay, rounded up to whole seconds, have passed (both capped at the largest
64-bit number), a resolution at once. -/
def Step.putNotice? (σ : Settings) (now : Instant) : Step → Option (Notice × Nat)
  | .putClaim taskId runId takenUntil =>
    some (.claim ⟨taskId, runId, takenUntil⟩, delaySecs takenUntil now)
  | .putDeadline taskId groupId schedulerId deadline =>
    some (.deadline ⟨taskId, groupId, schedulerId, deadline⟩,
      min Expiration.delayCap (delaySecs deadline now +
        min Expiration.delayCap ((σ.deadlineDelay.millis + 999) / 1000)))
  | .putResolved taskId groupId schedulerId resolution =>
    some (.resolved ⟨taskId, groupId, schedulerId, resolution⟩, 0)
  | _ => none

/-- The step puts a message under the name `n` with the text `text`: a publish its hint on
the shard of its task's priority, an expiration put its notice on the queue of its kind. -/
def Step.Puts (σ : Settings) (w : World) (st : Step) (n text : String) : Prop :=
  match st with
  | .putPending task runId =>
    n = shardName σ.stem task.provisionerId task.workerType task.priority ∧
      text = Codec.encode (Pending.publishedHint task runId w).toJson
  | st => ∃ notice visibility, st.putNotice? σ w.now = some (notice, visibility) ∧
      n = σ.expirationQueue notice.kind ∧ text = Codec.encode notice.toJson

/-- The messages a poll step may get, those of the queue it polls in the store `st`, read as
what it polls: hints of the shard, or notices of the kind. -/
def Step.Readable (σ : Settings) (st : Store) : Step → Prop
  | .pollPending k priority _ =>
    ∀ m ∈ st.messagesOf (shardName σ.stem k.provisionerId k.workerType priority),
      ∃ hint, Codec.decode PendingHint.ofJson? m.text = .ok hint
  | .pollNotices kind =>
    ∀ m ∈ st.messagesOf (σ.expirationQueue kind),
      ∃ n, Codec.decode (Notice.ofJson? kind) m.text = .ok n
  | _ => True

/-! ### How traffic moves a store -/

/-- The outcome answers a message with the id `id` through a handle. -/
def Outcome.Hands : Outcome → String → Prop
  | .reply (.hints hs), id => ∃ x ∈ hs, x.2.lease.message.id = id
  | .reply (.notices ns), id => ∃ x ∈ ns, x.2.lease.message.id = id
  | _, _ => False

namespace Store

variable {s s₁ s' : Store} {now : Instant}

/-- A refresh keeps a store sound: it drops messages and draws nothing. -/
theorem Refreshes.sound {names : List String} (h : Refreshes now names s s') (hs : s.Sound) :
  s'.Sound
  where
  ids_nodup n := by
    rcases h.messagesOf n with h' | h' <;> rw [h']
    · exact hs.ids_nodup n
    · exact (hs.ids_nodup n).sublist (List.filter_sublist.map _)
  id_queue hm hm' hid := hs.id_queue (h.mem_messagesOf hm) (h.mem_messagesOf hm') hid
  receipt_id hm hm' hr := hs.receipt_id (h.mem_messagesOf hm) (h.mem_messagesOf hm') hr
  id_drawn hm := h.issuedIds ▸ hs.id_drawn (h.mem_messagesOf hm)
  receipt_drawn hm := h.issuedReceipts ▸ hs.receipt_drawn (h.mem_messagesOf hm)

/-- A refresh keeps every queue in put order. -/
theorem Refreshes.inPutOrder {names : List String} (h : Refreshes now names s s')
    (ho : s.InPutOrder) :
  s'.InPutOrder
  := by
  intro n
  rw [h.issuedIds]
  rcases h.messagesOf n with h' | h' <;> rw [h']
  · exact ho n
  · exact (List.filter_sublist.map _).trans (ho n)

/-- A call other than an update keeps every message it leaves held, or draws its id. -/
theorem Keeps.of_perform {e : Event} (h : e.call.perform s = .ok (e.answer, s'))
    (hu : ∀ now name text id receipt visibility,
      e.call ≠ .updateMessage now name text id receipt visibility) :
  Keeps s s'
  where
  issued := (perform_issued h).1
  held {n m'} hm := by
    cases perform_origin h hm with
    | kept hm₀ => exact .inl ⟨m', hm₀, rfl, rfl, rfl⟩
    | put _ hid _ _ _ => exact .inr ⟨s.issuedIds + 1, by omega, hid⟩
    | leased hm₀ _ _ _ _ hid htext hexp _ =>
      exact .inl ⟨_, hm₀, hid.symm, htext.symm, hexp.symm⟩
    | updated _ hc _ _ _ _ => exact absurd hc (hu _ _ _ _ _ _)

/-- A call other than a delete of a queue keeps every queue that exists. -/
theorem exists?_of_perform {e : Event} (h : e.call.perform s = .ok (e.answer, s'))
    (hd : ∀ name, e.call ≠ .deleteQueue name) {n : String} (hn : s.exists? n = true) :
  s'.exists? n = true
  := by
  by_cases hq : e.call.queue? = some n
  · obtain ⟨call, answer⟩ := e
    rw [exists?] at hn ⊢
    cases call with
    | createQueue q metadata =>
      obtain rfl : q = n := by simpa [Call.queue?] using hq
      obtain ⟨r, hr, -⟩ := map_answering_eq_ok.1 h
      rcases createQueue_eq_ok_iff.1 hr with ⟨-, rfl, -⟩ | ⟨-, ⟨-, -, rfl⟩ | ⟨-, -, rfl⟩⟩ <;>
        simp_all [find?_put, find?_enter]
    | deleteQueue q => exact absurd rfl (hd q)
    | putMessage now q text visibility ttl =>
      obtain rfl : q = n := by simpa [Call.queue?] using hq
      obtain ⟨r, hr, -⟩ := map_answering_eq_ok.1 h
      rcases putMessage_eq_ok_iff.1 hr with
        ⟨-, rfl, -⟩ | ⟨-, ⟨-, -, rfl⟩ | ⟨-, -, -, -, -, -, -, rfl⟩⟩ <;>
        simp_all [find?_put, find?_enter]
    | getMessages now q visibility maxCount =>
      obtain rfl : q = n := by simpa [Call.queue?] using hq
      obtain ⟨r, hr, -⟩ := map_answering_eq_ok.1 h
      rcases getMessages_eq_ok_iff.1 hr with
        ⟨-, rfl, -⟩ | ⟨-, ⟨-, -, rfl⟩ | ⟨-, -, -, -, rfl⟩ | ⟨-, -, -, -, -, -, rfl⟩⟩ <;>
        simp_all [find?_put, find?_enter]
    | deleteMessage now q id receipt =>
      obtain rfl : q = n := by simpa [Call.queue?] using hq
      obtain ⟨r, hr, -⟩ := map_answering_eq_ok.1 h
      rcases deleteMessage_eq_ok_iff.1 hr with
        ⟨-, rfl, -⟩ | ⟨-, ⟨-, -, rfl⟩ | ⟨-, -, ⟨-, -, -, rfl⟩ | ⟨-, -, -, rfl⟩⟩⟩ <;>
        simp_all [find?_put, find?_enter]
    | updateMessage now q text id receipt visibility =>
      obtain rfl : q = n := by simpa [Call.queue?] using hq
      obtain ⟨r, hr, -⟩ := map_answering_eq_ok.1 h
      rcases updateMessage_eq_ok_iff.1 hr with
        ⟨-, rfl, -⟩ | ⟨-, ⟨-, -, rfl⟩ | ⟨-, -, ⟨-, -, -, rfl⟩ | ⟨-, -, -, -, -, rfl⟩⟩⟩ <;>
        simp_all [find?_put, find?_enter]
    | getMetadata now q =>
      obtain rfl : q = n := by simpa [Call.queue?] using hq
      obtain ⟨r, hr, -⟩ := map_answering_eq_ok.1 h
      rcases getMetadata_eq_ok_iff.1 hr with ⟨-, rfl, -⟩ | ⟨-, ⟨-, -, rfl⟩ | ⟨-, -, -, rfl⟩⟩ <;>
        simp_all [find?_put, find?_enter]
    | setMetadata q metadata =>
      obtain rfl : q = n := by simpa [Call.queue?] using hq
      obtain ⟨r, hr, -⟩ := map_answering_eq_ok.1 h
      rcases setMetadata_eq_ok_iff.1 hr with ⟨-, rfl, -⟩ | ⟨-, ⟨-, -, rfl⟩ | ⟨-, -, -, rfl⟩⟩ <;>
        simp_all [find?_put, find?_enter]
    | listQueues stem marker withMetadata => simp [Call.queue?] at hq
  · rwa [exists?, Call.perform_find?_of_ne h hq]

/-- How traffic moves a store: it stays sound and in put order, with no failure armed,
every queue that exists goes on existing, every message is kept with its text, and no
counter goes back. -/
structure Moves (s s' : Store) : Prop where
  sound : s.Sound → s'.Sound
  ordered : s.Sound → s.InPutOrder → s'.InPutOrder
  rules : s'.rules = s.rules
  exists_of : ∀ n, s.exists? n = true → s'.exists? n = true
  keeps : Keeps s s'
  receipts : s.issuedReceipts ≤ s'.issuedReceipts

namespace Moves

theorem refl (s : Store) :
  Moves s s
  := ⟨id, fun _ h => h, rfl, fun _ h => h, .refl s, le_refl _⟩

theorem trans (h₁ : Moves s s₁) (h₂ : Moves s₁ s') :
  Moves s s'
  := ⟨fun hs => h₂.sound (h₁.sound hs), fun hs ho => h₂.ordered (h₁.sound hs) (h₁.ordered hs ho),
    h₂.rules.trans h₁.rules, fun n hn => h₂.exists_of n (h₁.exists_of n hn),
    h₁.keeps.trans h₂.keeps, h₁.receipts.trans h₂.receipts⟩

theorem of_refreshes {names : List String} (h : Refreshes now names s s') :
  Moves s s'
  := ⟨h.sound, fun _ ho => h.inPutOrder ho, h.rules, h.exists_of, .of_refreshes h,
    h.issuedReceipts.ge⟩

/-- A call other than a delete of a queue or an update, with no failure armed. -/
theorem of_perform {e : Event} (h : e.call.perform s = .ok (e.answer, s')) (hr : s.rules = [])
    (hd : ∀ name, e.call ≠ .deleteQueue name)
    (hu : ∀ now name text id receipt visibility,
      e.call ≠ .updateMessage now name text id receipt visibility) :
  Moves s s'
  := ⟨fun hs => hs.perform h, fun hs ho => ho.perform hs h, (perform_rules h hr).trans hr.symm,
    fun _ hn => exists?_of_perform h hd hn, .of_perform h hu, (perform_issued h).2⟩

theorem of_putMessage {name text : String} {visibility ttl : Duration} {r : Except Fault Unit}
    (hr : s.rules = []) (h : s.putMessage now name text visibility ttl = .ok (r, s')) :
  Moves s s'
  := of_perform (e := ⟨.putMessage now name text visibility ttl, r.map fun _ => .done⟩)
    (map_answering_eq_ok.2 ⟨r, h, rfl⟩) hr (fun _ => by simp) (fun _ _ _ _ _ _ => by simp)

theorem of_getMessages {name : String} {visibility : Duration} {maxCount : Nat}
    {r : Except Fault (List RawMessage)} (hr : s.rules = [])
    (h : s.getMessages now name visibility maxCount = .ok (r, s')) :
  Moves s s'
  := of_perform (e := ⟨.getMessages now name visibility maxCount, r.map .messages⟩)
    (map_answering_eq_ok.2 ⟨r, h, rfl⟩) hr (fun _ => by simp) (fun _ _ _ _ _ _ => by simp)

theorem of_deleteMessage {name id receipt : String} {r : Except Fault Unit}
    (hr : s.rules = []) (h : s.deleteMessage now name id receipt = .ok (r, s')) :
  Moves s s'
  := of_perform (e := ⟨.deleteMessage now name id receipt, r.map fun _ => .done⟩)
    (map_answering_eq_ok.2 ⟨r, h, rfl⟩) hr (fun _ => by simp) (fun _ _ _ _ _ _ => by simp)

end Moves

/-- An update that writes the text every message of its id holds keeps every message. -/
theorem Keeps.of_updateMessage {name text id receipt : String} {visibility : Duration}
    {r : Except Fault String} (hr : s.rules = [])
    (h : s.updateMessage now name text id receipt visibility = .ok (r, s'))
    (htext : ∀ m ∈ s.messagesOf name, m.id = id → m.text = text) :
  Keeps s s'
  := by
  rcases updateMessage_eq_ok_iff.1 h with ⟨-, -, hc⟩ | ⟨-, ⟨-, -, rfl⟩ |
      ⟨q, hq, ⟨f, -, -, rfl⟩ | ⟨i, hi, visibleAt, -, -, rfl⟩⟩⟩
  · simp [hr] at hc
  · exact .of_subset (by simp [enter_issuedIds]) fun n m hm => by simpa using hm
  · refine .of_subset (by simp [enter_issuedIds]) fun n m hm => ?_
    simp only [messagesOf_put] at hm
    split_ifs at hm with hn
    · subst hn
      exact (messagesOf_of_find? hq).symm ▸ purge_subset q now hm
    · simpa using hm
  · refine ⟨by simp [enter_issuedIds], fun {n m'} hm => .inl ?_⟩
    simp only [messagesOf_put] at hm
    split_ifs at hm with hn
    · subst hn
      obtain ⟨-, m, hmi, hid, -⟩ := locate_ok hi
      have hmq : m ∈ s.messagesOf n :=
        (messagesOf_of_find? hq).symm ▸ purge_subset q now (List.mem_of_getElem? hmi)
      rcases mem_modify hm with hm' | ⟨m₀, hm₀, rfl⟩
      · exact ⟨m', (messagesOf_of_find? hq).symm ▸ purge_subset q now hm', rfl, rfl, rfl⟩
      · -- the message rewritten is the one located, and gets back its own text
        rw [hmi] at hm₀
        cases hm₀
        exact ⟨m, hmq, rfl, htext m hmq hid, rfl⟩
    · exact ⟨m', by simpa using hm, rfl, rfl, rfl⟩

/-! ### Messages held as they were -/

/-- Every message `s'` holds under a name was held by `s` under that name, with the same id,
text and expiry. -/
def Holds (s s' : Store) : Prop :=
  ∀ {n : String} {m' : StoredMessage}, m' ∈ s'.messagesOf n →
    ∃ m ∈ s.messagesOf n, m.id = m'.id ∧ m.text = m'.text ∧ m.expiresAt = m'.expiresAt

theorem Holds.refl (s : Store) :
  Holds s s
  := fun hm => ⟨_, hm, rfl, rfl, rfl⟩

theorem Holds.trans (h₁ : Holds s s₁) (h₂ : Holds s₁ s') :
  Holds s s'
  := by
  intro n m' hm'
  obtain ⟨m₁, hm₁, hid, htext, hexp⟩ := h₂ hm'
  obtain ⟨m, hm, hid', htext', hexp'⟩ := h₁ hm₁
  exact ⟨m, hm, hid'.trans hid, htext'.trans htext, hexp'.trans hexp⟩

/-- A store that keeps every message and has drawn no new id holds them as they were. -/
theorem Keeps.holds (h : Keeps s s') (hs' : s'.Sound) (hi : s'.issuedIds ≤ s.issuedIds) :
  Holds s s'
  := by
  intro n m' hm'
  rcases h.held hm' with hkept | ⟨k, hk, hid⟩
  · exact hkept
  · -- an id drawn after those of `s` is no id `s'` has drawn
    obtain ⟨j, hj, hidj⟩ := hs'.id_drawn hm'
    rw [hid, idOf_inj] at hidj
    omega

theorem exists_of_forall₂_mem_left {R : StoredMessage → StoredMessage → Prop}
    {ms ms' : List StoredMessage} (h : List.Forall₂ R ms ms') {m : StoredMessage}
    (hm : m ∈ ms) :
  ∃ m' ∈ ms', R m m'
  := by
  induction h with
  | nil => simp at hm
  | @cons a b ms ms' hab _ ih =>
    rcases List.mem_cons.1 hm with rfl | hm
    · exact ⟨b, List.mem_cons_self, hab⟩
    · obtain ⟨m', hm', hr⟩ := ih hm
      exact ⟨m', List.mem_cons_of_mem _ hm', hr⟩

section Calls

variable {name : String} {visibility : Duration}

theorem getMessages_issuedIds {maxCount : Nat} {r : Except Fault (List RawMessage)}
    (h : s.getMessages now name visibility maxCount = .ok (r, s')) :
  s'.issuedIds = s.issuedIds
  := by
  rcases getMessages_eq_ok_iff.1 h with ⟨-, rfl, -⟩ | ⟨-, ⟨-, -, rfl⟩ | ⟨q, -, -, -, rfl⟩ |
      ⟨q, -, -, leaseEnd, -, -, rfl⟩⟩ <;>
    simp [enter_issuedIds, put_issuedIds]

theorem deleteMessage_issuedIds {id receipt : String} {r : Except Fault Unit}
    (h : s.deleteMessage now name id receipt = .ok (r, s')) :
  s'.issuedIds = s.issuedIds
  := by
  rcases deleteMessage_eq_ok_iff.1 h with ⟨-, rfl, -⟩ | ⟨-, ⟨-, -, rfl⟩ |
      ⟨q, -, ⟨f, -, -, rfl⟩ | ⟨i, -, -, rfl⟩⟩⟩ <;>
    simp [enter_issuedIds, put_issuedIds]

theorem updateMessage_issuedIds {text id receipt : String} {r : Except Fault String}
    (h : s.updateMessage now name text id receipt visibility = .ok (r, s')) :
  s'.issuedIds = s.issuedIds
  := by
  rcases updateMessage_eq_ok_iff.1 h with ⟨-, rfl, -⟩ | ⟨-, ⟨-, -, rfl⟩ |
      ⟨q, -, ⟨f, -, -, rfl⟩ | ⟨i, -, visibleAt, -, -, rfl⟩⟩⟩ <;>
    simp [enter_issuedIds, put_issuedIds]

/-- What a get answers: messages the store goes on holding as answered, with receipts drawn
one after another, each with the id and text of a message the queue held. -/
theorem getMessages_got {maxCount : Nat} {got : List RawMessage}
    (h : s.getMessages now name visibility maxCount = .ok (.ok got, s')) :
  (∀ r ∈ got, ∃ m' ∈ s'.messagesOf name, m'.raw = r) ∧
    got.map (·.receipt) =
      (List.range got.length).map (fun j => receiptOf (s.issuedReceipts + j + 1)) ∧
    ∀ r ∈ got, ∃ m ∈ s.messagesOf name, m.id = r.id ∧ m.text = r.text
  := by
  rcases getMessages_eq_ok_iff.1 h with ⟨hr, -, -⟩ | ⟨-, ⟨-, hr, -⟩ | ⟨q, -, -, hr, -⟩ |
      ⟨q, hq, -, leaseEnd, -, hr, rfl⟩⟩
  · cases hr
  · cases hr
  · cases hr
    simp
  · cases hr
    refine ⟨fun r hr => ?_, leaseAll_receipts now leaseEnd _ _ _, fun r hr => ?_⟩
    · -- the store goes on holding each message answered, leased
      obtain ⟨m', hm', hraw, -⟩ := leaseAll_got_mem now leaseEnd _ _ _ r hr
      refine ⟨m', ?_, hraw⟩
      simpa [messagesOf_mk, lookup_queues, getD_map_find?, messagesOf_put, getLease] using hm'
    · -- each message answered is one the queue held, unexpired and visible
      have hmem : (r.id, r.text) ∈ (((q.purge now).messages.filter (·.isVisible now)).take
          (min (max maxCount 1) maxMessagesPerGet)).map fun m => (m.id, m.text) := by
        rw [← leaseAll_got now leaseEnd s.issuedReceipts]
        exact List.mem_map_of_mem hr
      obtain ⟨m, hm, heq⟩ := List.mem_map.1 hmem
      have hmq : m ∈ q.messages :=
        purge_subset q now (List.mem_of_mem_filter (List.mem_of_mem_take hm))
      obtain ⟨hid, htext⟩ := Prod.mk.inj heq
      exact ⟨m, (messagesOf_of_find? hq).symm ▸ hmq, hid, htext⟩

/-- A put on a queue that exists, with no failure armed, drops the queue's expired messages
and appends one, with the next id and receipt, visible and expiring as the put's moves of
the clock say; no other queue changes. -/
theorem putMessage_messagesOf {text : String} {ttl : Duration} {r : Except Fault Unit}
    (hr : s.rules = []) (hq : s.exists? name = true)
    (h : s.putMessage now name text visibility ttl = .ok (r, s')) :
  ∃ visibleAt expiresAt, now.add? visibility.storeSpan = some visibleAt ∧
    now.add? ttl.storeSpan = some expiresAt ∧ s'.issuedIds = s.issuedIds + 1 ∧
    ∀ n, s'.messagesOf n = if n = name then
      s.live now name ++ [⟨idOf (s.issuedIds + 1), receiptOf (s.issuedReceipts + 1), text,
        visibleAt, expiresAt⟩]
      else s.messagesOf n
  := by
  obtain ⟨q, hfind⟩ := (exists?_iff s name).1 hq
  rcases putMessage_eq_ok_iff.1 h with ⟨-, -, hc⟩ | ⟨-, ⟨hnone, -, -⟩ |
      ⟨q', visibleAt, expiresAt, hq', hv, he, -, rfl⟩⟩
  · simp [hr] at hc
  · rw [hfind] at hnone
    cases hnone
  · rw [hfind] at hq'
    cases hq'
    refine ⟨visibleAt, expiresAt, hv, he, by simp [put_issuedIds], fun n => ?_⟩
    rw [messagesOf_put]
    split_ifs with hn
    · simp [live, messagesOf_of_find? hfind, StoredQueue.purge_messages]
    · simp [messagesOf_mk, lookup_queues, getD_map_find?]

/-! ### What each call keeps -/

/-- A refresh keeps every message unexpired at its instant. -/
theorem Refreshes.keeps {names : List String} (h : Refreshes now names s s') {n : String}
    {m : StoredMessage} (hm : m ∈ s.messagesOf n) (hlive : m.isLive now = true) :
  m ∈ s'.messagesOf n
  := by
  rcases h.messagesOf n with h | h <;> rw [h]
  · exact hm
  · exact List.mem_filter.2 ⟨hm, hlive⟩

/-- A store that sets one queue to messages keeping `m`, when it was held there, and
leaves the others as `s` had them, keeps `m`. -/
theorem mem_put_of_mem {t : Store} {q : StoredQueue} {n : String} {m : StoredMessage}
    (ht : ∀ n, t.messagesOf n = s.messagesOf n) (hm : m ∈ s.messagesOf n)
    (hq : n = name → m ∈ q.messages) :
  m ∈ (t.put name q).messagesOf n
  := by
  rw [messagesOf_put]
  split_ifs with hn
  · exact hq hn
  · rw [ht]
    exact hm

/-- Purging keeps the messages unexpired at its instant. -/
theorem mem_purge {q : StoredQueue} {m : StoredMessage} (hm : m ∈ q.messages)
    (hlive : m.isLive now = true) :
  m ∈ (q.purge now).messages
  := by
  rw [StoredQueue.purge_messages]
  exact List.mem_filter.2 ⟨hm, hlive⟩

theorem mem_of_found {q : StoredQueue} {m : StoredMessage} (hq : s.find? name = some q)
    (hm : m ∈ s.messagesOf name) :
  m ∈ q.messages
  := messagesOf_of_find? hq ▸ hm

/-- A put keeps every message unexpired at its instant. -/
theorem putMessage_keeps {text : String} {ttl : Duration} {r : Except Fault Unit}
    (h : s.putMessage now name text visibility ttl = .ok (r, s')) {n : String}
    {m : StoredMessage} (hm : m ∈ s.messagesOf n) (hlive : m.isLive now = true) :
  m ∈ s'.messagesOf n
  := by
  rcases putMessage_eq_ok_iff.1 h with ⟨-, rfl, -⟩ | ⟨-, ⟨-, -, rfl⟩ |
      ⟨q, visibleAt, expiresAt, hq, -, -, -, rfl⟩⟩
  · simpa using hm
  · simpa using hm
  · refine mem_put_of_mem (fun n => messagesOf_enter s _ _ n) hm fun hn => ?_
    subst hn
    exact List.mem_append_left _ (mem_purge (mem_of_found hq hm) hlive)

/-- A get keeps every message unexpired at its instant, or answers one with its id. -/
theorem getMessages_keeps {maxCount : Nat} {r : Except Fault (List RawMessage)}
    (h : s.getMessages now name visibility maxCount = .ok (r, s')) {n : String}
    {m : StoredMessage} (hm : m ∈ s.messagesOf n) (hlive : m.isLive now = true) :
  m ∈ s'.messagesOf n ∨ ∃ got, r = .ok got ∧ ∃ x ∈ got, x.id = m.id
  := by
  rcases getMessages_eq_ok_iff.1 h with ⟨-, rfl, -⟩ | ⟨-, ⟨-, -, rfl⟩ | ⟨q, hq, -, -, rfl⟩ |
      ⟨q, hq, -, leaseEnd, -, rfl, rfl⟩⟩
  · exact .inl (by simpa using hm)
  · exact .inl (by simpa using hm)
  · refine .inl (mem_put_of_mem (fun n => messagesOf_enter s _ _ n) hm fun hn => ?_)
    subst hn
    exact mem_purge (mem_of_found hq hm) hlive
  · by_cases hn : n = name
    · -- the lease either keeps the message as it was or answers it
      subst hn
      obtain ⟨m', hm', hid, -, -, hkept | ⟨-, -, hraw, -⟩⟩ := exists_of_forall₂_mem_left
        (leaseAll_forall₂ now leaseEnd _ _ _) (mem_purge (mem_of_found hq hm) hlive)
      · refine .inl ?_
        show m ∈ (Store.mk _ _ _ _ _ _).messagesOf _
        simpa [messagesOf_mk, lookup_queues, getD_map_find?, messagesOf_put, getLease, hkept]
          using hm'
      · exact .inr ⟨_, rfl, _, hraw, hid⟩
    · refine .inl ?_
      show m ∈ (Store.mk _ _ _ _ _ _).messagesOf _
      simpa [messagesOf_mk, lookup_queues, getD_map_find?, messagesOf_put, hn] using hm

/-- A delete keeps every message unexpired at its instant that holds another receipt than
the one it presents. -/
theorem deleteMessage_keeps {id receipt : String} {r : Except Fault Unit}
    (h : s.deleteMessage now name id receipt = .ok (r, s')) {n : String}
    {m : StoredMessage} (hm : m ∈ s.messagesOf n) (hlive : m.isLive now = true)
    (hr : m.receipt ≠ receipt) :
  m ∈ s'.messagesOf n
  := by
  rcases deleteMessage_eq_ok_iff.1 h with ⟨-, rfl, -⟩ | ⟨-, ⟨-, -, rfl⟩ |
      ⟨q, hq, ⟨f, -, -, rfl⟩ | ⟨i, hi, -, rfl⟩⟩⟩
  · simpa using hm
  · simpa using hm
  · refine mem_put_of_mem (fun n => messagesOf_enter s _ _ n) hm fun hn => ?_
    subst hn
    exact mem_purge (mem_of_found hq hm) hlive
  · refine mem_put_of_mem (fun n => messagesOf_enter s _ _ n) hm fun hn => ?_
    subst hn
    -- the message erased holds the receipt presented, so it is another one
    obtain ⟨-, m₀, hm₀, -, hr₀⟩ := locate_ok hi
    obtain ⟨j, hj⟩ := List.mem_iff_getElem?.1 (mem_purge (mem_of_found hq hm) hlive)
    refine List.mem_eraseIdx_iff_getElem?.2 ⟨j, fun hji => hr ?_, hj⟩
    subst hji
    rw [hj] at hm₀
    cases hm₀
    exact hr₀

/-- An update keeps every message unexpired at its instant that holds another receipt than
the one it presents. -/
theorem updateMessage_keeps {text id receipt : String} {r : Except Fault String}
    (h : s.updateMessage now name text id receipt visibility = .ok (r, s')) {n : String}
    {m : StoredMessage} (hm : m ∈ s.messagesOf n) (hlive : m.isLive now = true)
    (hr : m.receipt ≠ receipt) :
  m ∈ s'.messagesOf n
  := by
  rcases updateMessage_eq_ok_iff.1 h with ⟨-, rfl, -⟩ | ⟨-, ⟨-, -, rfl⟩ |
      ⟨q, hq, ⟨f, -, -, rfl⟩ | ⟨i, hi, visibleAt, -, -, rfl⟩⟩⟩
  · simpa using hm
  · exact (messagesOf_enter s _ _ n).symm ▸ hm
  · refine mem_put_of_mem (fun n => messagesOf_enter s _ _ n) hm fun hn => ?_
    subst hn
    exact mem_purge (mem_of_found hq hm) hlive
  · refine mem_put_of_mem (fun n => messagesOf_enter s _ _ n) hm fun hn => ?_
    subst hn
    -- the message rewritten holds the receipt presented, so it is another one
    obtain ⟨-, m₀, hm₀, -, hr₀⟩ := locate_ok hi
    obtain ⟨j, hj⟩ := List.mem_iff_getElem?.1 (mem_purge (mem_of_found hq hm) hlive)
    have hji : i ≠ j := by
      rintro rfl
      rw [hj] at hm₀
      cases hm₀
      exact hr hr₀
    refine List.mem_iff_getElem?.2 ⟨j, ?_⟩
    rw [List.getElem?_modify, hj]
    simp [hji]

end Calls

/-- An update that makes a message visible at once never halts at a valid instant. -/
theorem updateMessage_answers (st : Store) (hnow : now.Valid) (name text id receipt : String) :
  ∃ p, st.updateMessage now name text id receipt (.ofSeconds 0) = .ok p
  := by
  cases h : st.updateMessage now name text id receipt (.ofSeconds 0) with
  | ok p => exact ⟨p, rfl⟩
  | error e =>
    have hzero : (Duration.ofSeconds 0).storeSpan = Span.zero := rfl
    have := (updateMessage_eq_error_iff.1 h).2.2.2
    rw [hzero, Instant.add?_zero hnow] at this
    cases this

/-- An update that writes the text every message of its id holds. -/
theorem Moves.of_updateMessage {name text id receipt : String} {visibility : Duration}
    {r : Except Fault String} (hr : s.rules = [])
    (h : s.updateMessage now name text id receipt visibility = .ok (r, s'))
    (htext : ∀ m ∈ s.messagesOf name, m.id = id → m.text = text) :
  Moves s s'
  := by
  have he : Call.perform (.updateMessage now name text id receipt visibility) s =
      .ok (r.map .receipt, s') := map_answering_eq_ok.2 ⟨r, h, rfl⟩
  exact ⟨fun hs => hs.perform (e := ⟨_, _⟩) he, fun hs ho => ho.perform (e := ⟨_, _⟩) hs he,
    (perform_rules (e := ⟨_, _⟩) he hr).trans hr.symm,
    fun _ hn => exists?_of_perform (e := ⟨_, _⟩) he (fun _ => by simp) hn,
    .of_updateMessage hr h htext, (perform_issued (e := ⟨_, _⟩) he).2⟩

end Store

namespace Session

/-- A session that serves the settings `σ`, its handles sound. -/
structure Serving (σ : Settings) (s : Session) : Prop where
  world : s.world.Serving σ
  now : s.world.now.Valid
  idle : s.loops.running = false
  numbers : (s.handles.map (·.1)).Nodup
  numbered : ∀ e ∈ s.handles, e.1 ≤ s.issuedHandles
  receipts : (s.handles.map (·.2.lease.message.receipt)).Nodup
  receipt_drawn : ∀ e ∈ s.handles,
    ∃ k ≤ s.world.store.issuedReceipts, e.2.lease.message.receipt = Store.receiptOf k
  id_drawn : ∀ e ∈ s.handles,
    ∃ k ≤ s.world.store.issuedIds, e.2.lease.message.id = Store.idOf k
  texts : ∀ e ∈ s.handles, ∀ n, ∀ m ∈ s.world.store.messagesOf n,
    m.id = e.2.lease.message.id → m.text = e.2.lease.message.text

end Session

/-! ### Keeping a session serving -/

namespace World.Serving

variable {σ : Settings} {w w' : World}

/-- A world whose store moved, that remembers only families and kinds whose queues exist,
serves as before. -/
theorem of_moves (hw : w.Serving σ) (hm : Store.Moves w.store w'.store)
    (hs : w'.settings = w.settings) (hl : w'.link = w.link) (hg : w'.signal = w.signal)
    (hf : ∀ e ∈ w'.families, e ∈ w.families ∨
      (e.2 = familyNames σ.stem e.1.provisionerId e.1.workerType ∧
        ∀ n ∈ e.2, w'.store.exists? n = true))
    (hr : ∀ k ∈ w'.ready, k ∈ w.ready ∨ w'.store.exists? (σ.expirationQueue k) = true) :
  w'.Serving σ
  where
  settings := hs.trans hw.settings
  link := hl.trans hw.link
  rules := hm.rules.trans hw.rules
  signal := hg.trans hw.signal
  sound := hm.sound hw.sound
  ordered := hm.ordered hw.sound hw.ordered
  families e he := by
    rcases hf e he with he | he
    · obtain ⟨hnames, hex⟩ := hw.families e he
      exact ⟨hnames, fun n hn => hm.exists_of n (hex n hn)⟩
    · exact he
  ready k hk := by
    rcases hr k hk with hk | hk
    · exact hm.exists_of _ (hw.ready k hk)
    · exact hk

/-- A world that ensured a family, remembering it, and whose store moved on from there,
serves as before. -/
theorem of_ensured (hw : w.Serving σ) {k : FamilyKey} {st : Store}
    {fs : List (FamilyKey × List String)}
    (he : Pending.Ensured w k (familyNames σ.stem k.provisionerId k.workerType) st fs)
    (hm : Store.Moves st w'.store) (hs : w'.settings = w.settings) (hl : w'.link = w.link)
    (hg : w'.signal = w.signal) (hf : w'.families = fs) (hr : w'.ready = w.ready) :
  w'.Serving σ
  := by
  refine hw.of_moves ((Store.Moves.of_refreshes he.refreshes).trans hm) hs hl hg
    (fun e he' => ?_) (fun k hk => .inl (hr ▸ hk))
  rw [hf] at he'
  rcases he.families e he' with h | rfl
  · exact .inl h
  · exact .inr ⟨rfl, fun n hn => hm.exists_of n (he.refreshes.exists_mem n hn)⟩

/-- A world that made sure of an expiration queue, remembering it, and whose store moved on
from there, serves as before. -/
theorem of_readied (hw : w.Serving σ) {kind : ExpirationKind} {st : Store}
    {rd : List ExpirationKind}
    (he : Expiration.Readied w (σ.expirationQueue kind) kind st rd)
    (hm : Store.Moves st w'.store) (hs : w'.settings = w.settings) (hl : w'.link = w.link)
    (hg : w'.signal = w.signal) (hf : w'.families = w.families) (hr : w'.ready = rd) :
  w'.Serving σ
  := by
  refine hw.of_moves ((Store.Moves.of_refreshes he.refreshes).trans hm) hs hl hg
    (fun e he' => .inl (hf ▸ he')) (fun k hk => ?_)
  rcases he.ready k (hr ▸ hk) with h | rfl
  · exact .inl h
  · exact .inr (hm.exists_of _ (he.refreshes.exists_mem _ (List.mem_singleton_self _)))

/-- Reports are no part of serving. -/
theorem fresh (hw : w.Serving σ) :
  { w with reports := [] }.Serving σ
  := ⟨hw.settings, hw.link, hw.rules, hw.signal, hw.sound, hw.ordered, hw.families, hw.ready⟩

end World.Serving

namespace Session

variable {σ : Settings} {s s' : Session}

/-- A handle's message, held under its id, still has its text after the store moved. -/
theorem Serving.texts_of_moves (hs : s.Serving σ) {st : Store}
    (hm : Store.Moves s.world.store st) {e : Nat × Held} (he : e ∈ s.handles) {n : String}
    {m : StoredMessage} (hmn : m ∈ st.messagesOf n) (hid : m.id = e.2.lease.message.id) :
  m.text = e.2.lease.message.text
  := by
  rcases hm.keeps.held hmn with ⟨m₀, hm₀, hid₀, htext, -⟩ | ⟨k, hk, hidk⟩
  · rw [← htext]
    exact hs.texts e he n m₀ hm₀ (hid₀.trans hid)
  · -- a message put since has an id drawn after every handle's
    obtain ⟨j, hj, hidj⟩ := hs.id_drawn e he
    rw [hid, hidj, Store.idOf_inj] at hidk
    omega

/-- A step that moved the store and kept the clock, the loops and the handles keeps a
session serving. -/
theorem Serving.of_moves (hs : s.Serving σ) (hw : s'.world.Serving σ)
    (hm : Store.Moves s.world.store s'.world.store) (hnow : s'.world.now = s.world.now)
    (hl : s'.loops = s.loops) (hh : s'.handles = s.handles)
    (hi : s'.issuedHandles = s.issuedHandles) :
  s'.Serving σ
  where
  world := hw
  now := hnow ▸ hs.now
  idle := hl ▸ hs.idle
  numbers := hh ▸ hs.numbers
  numbered e he := hi ▸ hs.numbered e (hh ▸ he)
  receipts := hh ▸ hs.receipts
  receipt_drawn e he := by
    obtain ⟨k, hk, hr⟩ := hs.receipt_drawn e (hh ▸ he)
    exact ⟨k, hk.trans hm.receipts, hr⟩
  id_drawn e he := by
    obtain ⟨k, hk, hr⟩ := hs.id_drawn e (hh ▸ he)
    exact ⟨k, hk.trans hm.keeps.issued, hr⟩
  texts e he n m hmn hid := hs.texts_of_moves hm (hh ▸ he) hmn hid

/-- Using up a handle keeps a session serving. -/
theorem Serving.consume (hs : s.Serving σ) (n : Nat) :
  (s.consume n).Serving σ
  where
  world := hs.world
  now := hs.now
  idle := hs.idle
  numbers := (List.filter_sublist.map _).nodup hs.numbers
  numbered e he := hs.numbered e (List.mem_of_mem_filter he)
  receipts := (List.filter_sublist.map _).nodup hs.receipts
  receipt_drawn e he := hs.receipt_drawn e (List.mem_of_mem_filter he)
  id_drawn e he := hs.id_drawn e (List.mem_of_mem_filter he)
  texts e he := hs.texts e (List.mem_of_mem_filter he)

/-- Giving handles appends them, numbered after every handle issued. -/
theorem give_snd {α : Type} (s : Session) (items : List α) (hold : α → Held) :
  (s.give items hold).2 = { s with
    handles := s.handles ++ (items.zipIdx (s.issuedHandles + 1)).map fun p => (p.2, hold p.1)
    issuedHandles := s.issuedHandles + items.length }
  := rfl

/-- Each item given a handle is answered with it, in order. -/
theorem give_items {α : Type} (s : Session) (items : List α) (hold : α → Held) :
  (s.give items hold).1.map (·.2) = items
  := by
  simp [give, List.map_map, Function.comp_def]

/-- Every item given a handle is answered. -/
theorem exists_mem_give {α : Type} (s : Session) {items : List α} (hold : α → Held) {a : α}
    (ha : a ∈ items) :
  ∃ x ∈ (s.give items hold).1, x.2 = a
  := by
  rw [← give_items s items hold] at ha
  exact List.mem_map.1 ha

/-- An item answered with a handle is held by that handle. -/
theorem give_mem_handles {α : Type} {s : Session} {items : List α} {hold : α → Held}
    {x : Nat × α} (hx : x ∈ (s.give items hold).1) :
  (x.1, hold x.2) ∈ (s.give items hold).2.handles
  := by
  simp only [give, List.mem_map] at hx ⊢
  obtain ⟨⟨a, n⟩, hp, rfl⟩ := hx
  exact List.mem_append_right _ (List.mem_map.2 ⟨(a, n), hp, rfl⟩)

/-- A handle given is numbered within the handles issued. -/
theorem give_le_issued {α : Type} {s : Session} {items : List α} {hold : α → Held}
    {x : Nat × α} (hx : x ∈ (s.give items hold).1) :
  x.1 ≤ (s.give items hold).2.issuedHandles
  := by
  simp only [give, List.mem_map] at hx ⊢
  obtain ⟨⟨a, n⟩, hp, rfl⟩ := hx
  have := List.snd_lt_add_of_mem_zipIdx hp
  show n ≤ s.issuedHandles + items.length
  omega

/-- A live handle after giving handles is an old one or numbered after every handle
issued. -/
theorem give_handles {α : Type} (s : Session) (items : List α) (hold : α → Held) :
  ∀ e ∈ (s.give items hold).2.handles, e ∈ s.handles ∨ s.issuedHandles < e.1
  := by
  rw [give_snd]
  intro e he
  rcases List.mem_append.1 he with he | he
  · exact .inl he
  · obtain ⟨p, hp, rfl⟩ := List.mem_map.1 he
    have := List.le_snd_of_mem_zipIdx hp
    exact .inr (by omega)

/-- Giving handles to messages a get just leased keeps a session serving: the handles are
numbered after every handle issued, and each message, leased with a fresh receipt, is
held with its id and text. -/
theorem Serving.give {α : Type} (hs : s.Serving σ) {w : World} (hw : w.Serving σ)
    (hm : Store.Moves s.world.store w.store) (hnow : w.now = s.world.now)
    (items : List α) (hold : α → Held)
    (hheld : ∀ a ∈ items, ∃ n, ∃ m ∈ w.store.messagesOf n, m.raw = (hold a).lease.message)
    (hfresh : items.map (fun a => (hold a).lease.message.receipt) =
      (List.range items.length).map
        fun j => Store.receiptOf (s.world.store.issuedReceipts + j + 1)) :
  ({ s with world := w }.give items hold).2.Serving σ
  := by
  -- what the new handles hold, message by message
  have hnew : ∀ e ∈ (items.zipIdx (s.issuedHandles + 1)).map (fun p => (p.2, hold p.1)),
      s.issuedHandles < e.1 ∧ e.1 ≤ s.issuedHandles + items.length ∧
      ∃ n, ∃ m ∈ w.store.messagesOf n, m.raw = e.2.lease.message := by
    intro e he
    obtain ⟨p, hp, rfl⟩ := List.mem_map.1 he
    have h₁ := List.le_snd_of_mem_zipIdx hp
    have h₂ := List.snd_lt_add_of_mem_zipIdx hp
    exact ⟨by omega, by omega, hheld p.1 (List.fst_mem_of_mem_zipIdx hp)⟩
  have hnums : ((items.zipIdx (s.issuedHandles + 1)).map (fun p => (p.2, hold p.1))).map (·.1) =
      List.range' (s.issuedHandles + 1) items.length := by
    simp [List.map_map, Function.comp_def]
  have hrecs : ((items.zipIdx (s.issuedHandles + 1)).map
      (fun p => (p.2, hold p.1))).map (·.2.lease.message.receipt) =
      (List.range items.length).map
        fun j => Store.receiptOf (s.world.store.issuedReceipts + j + 1) := by
    rw [← hfresh, List.map_map]
    conv_rhs => rw [← List.zipIdx_map_fst (s.issuedHandles + 1) items, List.map_map]
    rfl
  rw [give_snd]
  refine ⟨hw, hnow ▸ hs.now, hs.idle, ?_, ?_, ?_, ?_, ?_, ?_⟩
  · -- numbers: the old ones are issued, the new ones come after
    rw [List.map_append, hnums, List.nodup_append]
    refine ⟨hs.numbers, List.nodup_range', fun a ha b hb => ?_⟩
    obtain ⟨e, he, rfl⟩ := List.mem_map.1 ha
    have := hs.numbered e he
    simp only [List.mem_range'] at hb
    omega
  · intro e he
    rcases List.mem_append.1 he with he | he
    · exact (hs.numbered e he).trans (Nat.le_add_right _ _)
    · exact (hnew e he).2.1
  · -- receipts: the old ones were drawn, the new ones are drawn after
    rw [List.map_append, hrecs, List.nodup_append]
    refine ⟨hs.receipts, (List.nodup_range.map fun i j hij => by
      simpa [Store.receiptOf_inj] using hij), fun a ha b hb => ?_⟩
    obtain ⟨e, he, rfl⟩ := List.mem_map.1 ha
    obtain ⟨j, -, rfl⟩ := List.mem_map.1 hb
    obtain ⟨k, hk, hr⟩ := hs.receipt_drawn e he
    rw [hr, Ne, Store.receiptOf_inj]
    omega
  · intro e he
    rcases List.mem_append.1 he with he | he
    · obtain ⟨k, hk, hr⟩ := hs.receipt_drawn e he
      exact ⟨k, hk.trans hm.receipts, hr⟩
    · obtain ⟨-, -, n, m, hmn, hraw⟩ := hnew e he
      rw [← hraw]
      exact hw.sound.receipt_drawn hmn
  · intro e he
    rcases List.mem_append.1 he with he | he
    · obtain ⟨k, hk, hr⟩ := hs.id_drawn e he
      exact ⟨k, hk.trans hm.keeps.issued, hr⟩
    · obtain ⟨-, -, n, m, hmn, hraw⟩ := hnew e he
      rw [← hraw]
      exact hw.sound.id_drawn hmn
  · intro e he n' m' hm' hid
    rcases List.mem_append.1 he with he | he
    · exact hs.texts_of_moves hm he hm' hid
    · -- the message a new handle holds is the one held under its id
      obtain ⟨-, -, n, m, hmn, hraw⟩ := hnew e he
      rw [← hraw] at hid ⊢
      obtain ⟨-, rfl⟩ := hw.sound.eq_of_id hm' hmn hid
      rfl

/-! ### A step is its work, from a fresh report list -/

/-- The session a step works from: the same, with a fresh report list. -/
def fresh (s : Session) : Session :=
  { s with world := { s.world with reports := [] } }

theorem Serving.fresh (hs : s.Serving σ) :
  s.fresh.Serving σ
  := ⟨hs.world.fresh, hs.now, hs.idle, hs.numbers, hs.numbered, hs.receipts, hs.receipt_drawn,
    hs.id_drawn, hs.texts⟩

/-- A step whose work leaves the loops idle answers what the work answers, with the reports
the work made. -/
theorem step_of_perform {st : Step} {o : Outcome} {s₁ : Session}
    (h : s.fresh.perform st = .ok (o, s₁)) (hidle : s₁.loops.running = false) :
  s.step st = .ok (o, s₁.world.reports, s₁)
  := by
  unfold fresh at h
  simp [step, h, hidle, bind, Except.bind, pure, Except.pure]

/-- A step whose work halts halts. -/
theorem step_of_perform_halts {st : Step} {e : Halt} (h : s.fresh.perform st = .error e) :
  s.step st = .error e
  := by
  unfold fresh at h
  simp [step, h, bind, Except.bind]

section Attempts

variable {α : Type} {x : Attempt α} {reply : α → Reply} {w : World}

theorem attempt_of_ok {a : α} (h : x.run.run s.world = .ok (.ok a, w)) :
  s.attempt x reply = .ok (.reply (reply a), { s with world := w })
  := by
  simp [attempt, exec, h, bind, Except.bind, pure, Except.pure]

theorem attempt_of_error {e : QueueError} (h : x.run.run s.world = .ok (.error e, w)) :
  s.attempt x reply = .ok (.failed e, { s with world := w })
  := by
  simp [attempt, exec, h, bind, Except.bind, pure, Except.pure]

theorem attempt_of_halt {e : Halt} (h : x.run.run s.world = .error e) :
  s.attempt x reply = .error e
  := by
  simp [attempt, exec, h, bind, Except.bind]

/-- A step whose work is an attempt that answers replies with the answer. -/
theorem step_of_attempt_ok {st : Step} {a : α}
    (hst : s.fresh.perform st = s.fresh.attempt x reply)
    (h : x.run.run s.fresh.world = .ok (.ok a, w)) (hidle : s.loops.running = false) :
  s.step st = .ok (.reply (reply a), w.reports, { s with world := w })
  := step_of_perform (hst.trans (attempt_of_ok h)) hidle

/-- A step whose work is an attempt that fails fails with its error. -/
theorem step_of_attempt_error {st : Step} {e : QueueError}
    (hst : s.fresh.perform st = s.fresh.attempt x reply)
    (h : x.run.run s.fresh.world = .ok (.error e, w)) (hidle : s.loops.running = false) :
  s.step st = .ok (.failed e, w.reports, { s with world := w })
  := step_of_perform (hst.trans (attempt_of_error h)) hidle

/-- A step whose work is an attempt that halts halts. -/
theorem step_of_attempt_halt {st : Step} {e : Halt}
    (hst : s.fresh.perform st = s.fresh.attempt x reply)
    (h : x.run.run s.fresh.world = .error e) :
  s.step st = .error e
  := step_of_perform_halts (hst.trans (attempt_of_halt h))

end Attempts

/-! ### Moves of the clock -/

/-- A session whose clock moved to a valid instant serves as before. -/
theorem Serving.of_clock (hs : s.Serving σ) {t : Instant} (ht : t.Valid) (r : List QueueError) :
  { s with world := { s.world with now := t, reports := r } }.Serving σ
  := ⟨⟨hs.world.settings, hs.world.link, hs.world.rules, hs.world.signal, hs.world.sound,
      hs.world.ordered, hs.world.families, hs.world.ready⟩,
    ht, hs.idle, hs.numbers, hs.numbered, hs.receipts, hs.receipt_drawn, hs.id_drawn, hs.texts⟩

/-- Advancing the clock answers the instant it moved to, or halts past the calendar. -/
theorem step_advance (hs : s.Serving σ) (ms : Int) :
  s.step (.advance ms) = (s.world.now.plus (Span.ofMillis ms)).map fun t =>
    (.reply (.instant t), [], { s with world := { s.world with now := t, reports := [] } })
  := by
  cases ht : s.world.now.add? (Span.ofMillis ms) with
  | none =>
    have hplus : s.world.now.plus (Span.ofMillis ms) = .error .addOverflow := by
      simp [Instant.plus, ht]
    have hp : s.fresh.perform (.advance ms) = .error .addOverflow := by
      simp [fresh, perform, hplus, bind, Except.bind]
    rw [hplus, step_of_perform_halts hp]
    rfl
  | some t =>
    have hplus : s.world.now.plus (Span.ofMillis ms) = .ok t := Instant.plus_eq_ok.2 ht
    have hp : s.fresh.perform (.advance ms) = .ok (.reply (.instant t),
        { s with world := { s.world with now := t, reports := [] } }) := by
      simp [fresh, perform, hplus, bind, Except.bind]
      rfl
    rw [hplus, step_of_perform hp (by exact hs.idle)]
    rfl

/-- Setting the clock answers the instant set. -/
theorem step_setTime (hs : s.Serving σ) (t : Instant) :
  s.step (.setTime t) =
    .ok (.reply (.instant t), [], { s with world := { s.world with now := t, reports := [] } })
  := by
  have hp : s.fresh.perform (.setTime t) =
      .ok (.reply (.instant t), { s with world := { s.world with now := t, reports := [] } }) :=
    rfl
  exact step_of_perform hp hs.idle

/-! ### Pending steps -/

section Pending

variable {task : TaskRef} (runId : UInt32)

theorem perform_putPending (s : Session) (task : TaskRef) (runId : UInt32) :
  s.perform (.putPending task runId) = s.attempt (Pending.publish task runId) fun _ => .unit
  := rfl

theorem perform_pendingQueues (s : Session) (k : FamilyKey) :
  s.perform (.pendingQueues k) = s.attempt (Pending.queues k) .shards
  := rfl

/-- A publish of a task that does not validate fails as the validation does, and changes
nothing. -/
theorem step_putPending_of_invalid (hs : s.Serving σ) {e : QueueError}
    (he : task.validate = .error e) :
  s.step (.putPending task runId) = .ok (.failed e, [], s.fresh)
  := by
  have hrun : (Pending.publish task runId).run.run s.fresh.world =
      .ok (.error e, s.fresh.world) := by
    simp [Pending.publish, he, Attempt.ofExcept, ExceptT.run_bind]
    rfl
  exact step_of_attempt_error (perform_putPending s.fresh task runId) hrun hs.idle

/-- A publish of a valid task past its deadline ensures the family and puts nothing. -/
theorem step_putPending_of_passed (hs : s.Serving σ) (hvalid : task.validate = .ok ())
    (hr : remainingSecs task.deadline s.world.now = none) :
  ∃ st fs logs, s.step (.putPending task runId) = .ok (.reply .unit, [], { s with
      world := { s.world with
        store := st, families := fs, logs := s.world.logs ++ logs, reports := [] } }) ∧
    Pending.Ensured s.world task.family (familyNames σ.stem task.provisionerId task.workerType)
      st fs
  := by
  obtain ⟨st, fs, logs, hrun, he⟩ := Pending.publish_serving_of_passed runId hs.fresh.world
    hvalid hr
  exact ⟨st, fs, logs, step_of_attempt_ok (perform_putPending s.fresh task runId) hrun hs.idle,
    ⟨he.refreshes, he.families⟩⟩

/-- A publish of a valid task before its deadline ensures the family, then makes one put,
of the task's hint on the queue of its priority; the step answers as the put does, or halts
with it. -/
theorem step_putPending_of_ahead (hs : s.Serving σ) (hvalid : task.validate = .ok ()) {ttl : Nat}
    (hr : remainingSecs task.deadline s.world.now = some ttl) :
  ∃ st fs logs,
    Pending.Ensured s.world task.family (familyNames σ.stem task.provisionerId task.workerType)
      st fs ∧
    ∀ p, st.putMessage s.world.now
        (shardName σ.stem task.provisionerId task.workerType task.priority)
        (Codec.encode (Pending.publishedHint task runId s.world).toJson) (.ofSeconds 0)
        (.ofSeconds ttl) = p →
      s.step (.putPending task runId) = p.map fun a => (.reply .unit, [], { s with
        world := { s.world with
          store := a.2, families := fs, issued := s.world.issued + 1,
          logs := s.world.logs ++ logs, reports := [] } })
  := by
  obtain ⟨st, fs, logs, he, hput⟩ := Pending.publish_serving_of_ahead runId hs.fresh.world
    hvalid hr
  refine ⟨st, fs, logs, ⟨he.refreshes, he.families⟩, fun p hp => ?_⟩
  have hrun := hput p hp
  rcases p with h | a
  · exact step_of_attempt_halt (perform_putPending s.fresh task runId) hrun
  · exact step_of_attempt_ok (perform_putPending s.fresh task runId) hrun hs.idle

/-- Listing a family's queues ensures the family and answers each priority with its shard,
highest first. -/
theorem step_pendingQueues (hs : s.Serving σ) (k : FamilyKey) :
  ∃ st fs logs, s.step (.pendingQueues k) = .ok (.reply (.shards (Priority.all.map
      fun r => (r, shardName σ.stem k.provisionerId k.workerType r))), [], { s with
      world := { s.world with
        store := st, families := fs, logs := s.world.logs ++ logs, reports := [] } }) ∧
    Pending.Ensured s.world k (familyNames σ.stem k.provisionerId k.workerType) st fs
  := by
  obtain ⟨st, fs, logs, hrun, he⟩ := Pending.queues_serving hs.fresh.world k
  exact ⟨st, fs, logs, step_of_attempt_ok (perform_pendingQueues s.fresh k) hrun hs.idle,
    ⟨he.refreshes, he.families⟩⟩

/-- The queue a pending poll reads is the shard of its priority. -/
theorem lookup_shards (f : Priority → String) (priority : Priority) :
  ((Priority.all.map fun r => (r, f r)).lookup priority).getD "" = f priority
  := by
  cases priority <;> rfl

section Poll

variable {k : FamilyKey} {priority : Priority} {count : Nat}

/-- What a pending poll step runs: the family's queues, then a poll of the queue of the
priority. -/
def pollRun (k : FamilyKey) (priority : Priority) (count : Nat) : Attempt (List PolledHint) := do
  let qs ← Pending.queues k
  Pending.poll k priority ((qs.lookup priority).getD "") count

theorem perform_pollPending_of_ok {hints : List PolledHint} {w : World}
    (h : (pollRun k priority count).run.run s.world = .ok (.ok hints, w)) :
  s.perform (.pollPending k priority count) =
    .ok (.reply (.hints ({ s with world := w }.give hints .hint).1),
      ({ s with world := w }.give hints .hint).2)
  := by
  unfold pollRun at h
  simp only [perform, exec, h]
  rfl

theorem perform_pollPending_of_halt {e : Halt}
    (h : (pollRun k priority count).run.run s.world = .error e) :
  s.perform (.pollPending k priority count) = .error e
  := by
  unfold pollRun at h
  simp only [perform, exec, h]
  rfl

/-- In a serving world a pending poll step ensures the family, then polls the shard of the
priority. -/
theorem pollRun_serving {w : World} (hw : w.Serving σ) (k : FamilyKey) (priority : Priority)
    (count : Nat) :
  ∃ st fs logs, Pending.Ensured w k (familyNames σ.stem k.provisionerId k.workerType) st fs ∧
    (pollRun k priority count).run.run w =
      (Pending.poll k priority (shardName σ.stem k.provisionerId k.workerType priority)
        count).run.run { w with store := st, families := fs, logs := w.logs ++ logs }
  := by
  obtain ⟨st, fs, logs, hq, he⟩ := Pending.queues_serving hw k
  refine ⟨st, fs, logs, he, ?_⟩
  unfold pollRun
  rw [Attempt.run_bind_of_ok hq, lookup_shards]

/-- A pending poll for no hints ensures the family and answers none. -/
theorem step_pollPending_zero (hs : s.Serving σ) (k : FamilyKey) (priority : Priority) :
  ∃ st fs logs, Pending.Ensured s.world k (familyNames σ.stem k.provisionerId k.workerType)
      st fs ∧
    s.step (.pollPending k priority 0) = .ok (.reply (.hints []), [], ({ s with
      world := { s.world with
        store := st, families := fs, logs := s.world.logs ++ logs, reports := [] } }.give
      ([] : List PolledHint) .hint).2)
  := by
  obtain ⟨st, fs, logs, he, hrun⟩ := pollRun_serving hs.fresh.world k priority 0
  refine ⟨st, fs, logs, ⟨he.refreshes, he.families⟩, ?_⟩
  have hpoll : (pollRun k priority 0).run.run s.fresh.world =
      .ok (.ok [], { s.fresh.world with
        store := st, families := fs, logs := s.fresh.world.logs ++ logs }) := by
    rw [hrun]
    simp [Pending.poll]
    rfl
  exact step_of_perform (perform_pollPending_of_ok hpoll) hs.idle

/-- A pending poll for some hints ensures the family, then makes one get of the shard of the
priority, of as many messages as asked and at most 32, leased for five minutes; when every
message got reads as a hint, it gives each a handle and answers them all, in order, leased
from the shard; a get that halts halts the step. -/
theorem step_pollPending_of_get (hs : s.Serving σ) (k : FamilyKey) (priority : Priority)
    (hpos : 0 < count) :
  ∃ st fs logs, Pending.Ensured s.world k (familyNames σ.stem k.provisionerId k.workerType)
      st fs ∧
    (∀ got st', st.getMessages s.world.now
        (shardName σ.stem k.provisionerId k.workerType priority) pendingLease
        (min count maxMessagesPerGet) = .ok (.ok got, st') →
      (∀ m ∈ got, ∃ hint, Codec.decode PendingHint.ofJson? m.text = .ok hint) →
      ∃ hints, s.step (.pollPending k priority count) = .ok
          (.reply (.hints ({ s with world := { s.world with
            store := st', families := fs, logs := s.world.logs ++ logs,
            reports := [] } }.give hints .hint).1), [],
          ({ s with world := { s.world with
            store := st', families := fs, logs := s.world.logs ++ logs,
            reports := [] } }.give hints .hint).2) ∧
        hints.map (·.lease) =
          got.map (⟨shardName σ.stem k.provisionerId k.workerType priority, ·⟩) ∧
        ∀ x ∈ hints, x.priority = priority ∧
          Codec.decode PendingHint.ofJson? x.lease.message.text = .ok x.hint) ∧
    ∀ e, st.getMessages s.world.now (shardName σ.stem k.provisionerId k.workerType priority)
        pendingLease (min count maxMessagesPerGet) = .error e →
      s.step (.pollPending k priority count) = .error e
  := by
  obtain ⟨st, fs, logs, he, hrun⟩ := pollRun_serving hs.fresh.world k priority count
  refine ⟨st, fs, logs, ⟨he.refreshes, he.families⟩, fun got st' hget hdec => ?_,
    fun e hget => ?_⟩
  · obtain ⟨hints, hpoll, hmap, hall⟩ := Pending.poll_of_get k priority
      (w := { s.fresh.world with
        store := st, families := fs, logs := s.fresh.world.logs ++ logs })
      hs.world.link hpos hget hdec
    rw [← hrun] at hpoll
    exact ⟨hints, step_of_perform (perform_pollPending_of_ok hpoll) hs.idle, hmap, hall⟩
  · have hpoll := Pending.poll_halts k priority
      (w := { s.fresh.world with
        store := st, families := fs, logs := s.fresh.world.logs ++ logs })
      hs.world.link hpos hget
    rw [← hrun] at hpoll
    exact step_of_perform_halts (perform_pollPending_of_halt hpoll)

end Poll

end Pending

/-! ### Expiration steps -/

section Expiration

/-- A step whose work is an expiration put makes sure of the kind's queue, then makes one put
of the notice on it, living seven days; it answers as the put does, or halts with it. -/
theorem step_of_put (hs : s.Serving σ) {st : Step} {x : Attempt Unit} (kind : ExpirationKind)
    (notice : Json) (visibility : Nat)
    (hst : s.fresh.perform st = s.fresh.attempt x fun _ => .unit)
    (hx : x.run.run s.fresh.world =
      (Expiration.put kind notice visibility).run.run s.fresh.world) :
  ∃ st' rd logs, Expiration.Readied s.world (σ.expirationQueue kind) kind st' rd ∧
    ∀ p, st'.putMessage s.world.now (σ.expirationQueue kind) (Codec.encode notice)
        (.ofSeconds visibility) noticeTtl = p →
      s.step st = p.map fun a => (.reply .unit, [], { s with
        world := { s.world with
          store := a.2, ready := rd, logs := s.world.logs ++ logs, reports := [] } })
  := by
  obtain ⟨st', rd, logs, hr, hput⟩ := Expiration.put_serving hs.fresh.world kind notice visibility
  refine ⟨st', rd, logs, ⟨hr.refreshes, hr.messagesOf, hr.ready⟩, fun p hp => ?_⟩
  have hrun := hx.trans (hput p hp)
  rcases p with e | a
  · exact step_of_attempt_halt hst hrun
  · exact step_of_attempt_ok hst hrun hs.idle

/-- Each put step of notice traffic puts its notice with its own visibility. -/
theorem step_of_putNotice (hs : s.Serving σ) {st : Step} {notice : Notice} {visibility : Nat}
    (h : st.putNotice? σ s.world.now = some (notice, visibility)) :
  ∃ st' rd logs,
    Expiration.Readied s.world (σ.expirationQueue notice.kind) notice.kind st' rd ∧
    ∀ p, st'.putMessage s.world.now (σ.expirationQueue notice.kind)
        (Codec.encode notice.toJson) (.ofSeconds visibility) noticeTtl = p →
      s.step st = p.map fun a => (.reply .unit, [], { s with
        world := { s.world with
          store := a.2, ready := rd, logs := s.world.logs ++ logs, reports := [] } })
  := by
  cases st with
  | putClaim taskId runId takenUntil =>
    obtain ⟨rfl, rfl⟩ := Prod.mk.inj (Option.some.inj h.symm)
    exact step_of_put hs .claim _ _ rfl (Expiration.putClaim_run taskId runId takenUntil _)
  | putDeadline taskId groupId schedulerId deadline =>
    obtain ⟨rfl, rfl⟩ := Prod.mk.inj (Option.some.inj h.symm)
    refine step_of_put hs .deadline _ _ rfl ?_
    have hσ : s.fresh.world.settings = σ := hs.world.settings
    rw [Expiration.putDeadline_run, hσ]
    rfl
  | putResolved taskId groupId schedulerId resolution =>
    obtain ⟨rfl, rfl⟩ := Prod.mk.inj (Option.some.inj h.symm)
    exact step_of_put hs .resolved _ _ rfl rfl
  | _ => cases h

theorem perform_pollNotices_of_ok {kind : ExpirationKind} {ns : List PolledNotice} {w : World}
    (h : (Expiration.poll kind).run.run s.world = .ok (.ok ns, w)) :
  s.perform (.pollNotices kind) =
    .ok (.reply (.notices ({ s with world := w }.give ns .notice).1),
      ({ s with world := w }.give ns .notice).2)
  := by
  simp only [perform, exec, h]
  rfl

theorem perform_pollNotices_of_halt {kind : ExpirationKind} {e : Halt}
    (h : (Expiration.poll kind).run.run s.world = .error e) :
  s.perform (.pollNotices kind) = .error e
  := by
  simp only [perform, exec, h]
  rfl

/-- An expiration poll step makes sure of the kind's queue, then makes one get of at most 32
messages leased for ten minutes; when every message got reads as a notice of the kind, it
gives each a handle and answers them all, in order, leased from the queue; a get that halts
halts the step. -/
theorem step_pollNotices (hs : s.Serving σ) (kind : ExpirationKind) :
  ∃ st rd logs, Expiration.Readied s.world (σ.expirationQueue kind) kind st rd ∧
    (∀ got st', st.getMessages s.world.now (σ.expirationQueue kind) noticeLease
        maxMessagesPerGet = .ok (.ok got, st') →
      (∀ m ∈ got, ∃ n, Codec.decode (Notice.ofJson? kind) m.text = .ok n) →
      ∃ ns, s.step (.pollNotices kind) = .ok
          (.reply (.notices ({ s with world := { s.world with
            store := st', ready := rd, logs := s.world.logs ++ logs,
            reports := [] } }.give ns .notice).1), [],
          ({ s with world := { s.world with
            store := st', ready := rd, logs := s.world.logs ++ logs,
            reports := [] } }.give ns .notice).2) ∧
        ns.map (·.lease) = got.map (⟨σ.expirationQueue kind, ·⟩) ∧
        ∀ x ∈ ns, Codec.decode (Notice.ofJson? kind) x.lease.message.text = .ok x.notice) ∧
    ∀ e, st.getMessages s.world.now (σ.expirationQueue kind) noticeLease maxMessagesPerGet =
        .error e →
      s.step (.pollNotices kind) = .error e
  := by
  obtain ⟨st, rd, logs, hr, hget, hhalt⟩ := Expiration.poll_serving hs.fresh.world kind
  refine ⟨st, rd, logs, ⟨hr.refreshes, hr.messagesOf, hr.ready⟩, fun got st' h hdec => ?_,
    fun e h => step_of_perform_halts (perform_pollNotices_of_halt (hhalt e h))⟩
  obtain ⟨ns, hpoll, hmap, hall⟩ := hget got st' h hdec
  exact ⟨ns, step_of_perform (perform_pollNotices_of_ok hpoll) hs.idle, hmap, hall⟩

end Expiration

/-! ### Steps on handles -/

section Handles

/-- A step on a handle is refused and changes nothing, or uses a live handle. -/
theorem withHandle_cases (s : Session) (h : HandleRef)
    (use : Session → Nat → Held → Except Halt (Outcome × Session)) :
  (∃ reason, s.withHandle h use = .ok (.refused reason, s)) ∨
    ∃ n held, (n, held) ∈ s.handles ∧ s.withHandle h use = use s n held
  := by
  unfold withHandle
  split
  · exact .inl ⟨_, rfl⟩
  · next n _ =>
    cases hn : s.held? n with
    | none => exact .inl ⟨_, rfl⟩
    | some held =>
      obtain ⟨l₁, l₂, hsplit, -⟩ := List.lookup_eq_some_iff.1 hn
      exact .inr ⟨n, held, by simp [hsplit], rfl⟩

/-- The handle a number names, among handles numbered apart, is the one with that number. -/
theorem withHandle_number (hnd : (s.handles.map (·.1)).Nodup) {i : Nat} {held : Held}
    (hi : (i, held) ∈ s.handles)
    (use : Session → Nat → Held → Except Halt (Outcome × Session)) :
  s.withHandle (.number i) use = use s i held
  := by
  have hsel : s.select (.number i) = .ok i := by
    simp only [select]
    rw [if_pos (List.any_eq_true.2 ⟨_, hi, by simp⟩)]
  have hheld : s.held? i = some held := by
    obtain ⟨l₁, l₂, hsplit⟩ := List.append_of_mem hi
    refine List.lookup_eq_some_iff.2 ⟨l₁, l₂, hsplit, fun p hp => ?_⟩
    -- no handle before it has its number
    rw [hsplit, List.map_append, List.map_cons, List.nodup_append] at hnd
    have hne := hnd.2.2 _ (List.mem_map_of_mem hp) i List.mem_cons_self
    exact bne_iff_ne.2 (Ne.symm hne)
  simp [withHandle, hsel, hheld]

/-- Removing through a handle makes one delete of its message, with its receipt, and uses
the handle up; a delete that answers is answered, with nothing reported or logged. -/
theorem remove_use (hs : s.Serving σ) (n : Nat) (held : Held) :
  ∃ r st', s.world.store.deleteMessage s.world.now held.lease.queue held.lease.message.id
      held.lease.message.receipt = .ok (r, st') ∧
    ∃ o reports logs, (s.consume n).attempt held.lease.remove (fun _ => .unit) =
        .ok (o, { s.consume n with world := { s.world with
          store := st', reports := reports, logs := logs } }) ∧
      (r = .ok () → o = .reply .unit ∧ reports = s.world.reports ∧ logs = s.world.logs)
  := by
  obtain ⟨⟨r, st'⟩, hdel⟩ := Store.deleteMessage_answers s.world.store s.world.now
    held.lease.queue held.lease.message.id held.lease.message.receipt
  have hrun := Lease.remove_of_delete (w := (s.consume n).world) hs.world.link hdel
  refine ⟨r, st', hdel, ?_⟩
  rcases r with f | u
  · obtain ⟨r', reports, logs, hfin, -⟩ := Lease.finish_run held.lease "delete_message"
      (.error (QueueError.ofFault f)) { s.world with store := st' }
    rcases r' with e | u
    · exact ⟨_, reports, logs, attempt_of_error (hrun.trans hfin), by simp⟩
    · exact ⟨_, reports, logs, attempt_of_ok (hrun.trans hfin), by simp⟩
  · exact ⟨_, s.world.reports, s.world.logs, attempt_of_ok hrun, fun _ => ⟨rfl, rfl, rfl⟩⟩

theorem perform_remove (s : Session) (h : HandleRef) :
  s.perform (.remove h) = s.withHandle h fun s n held =>
    (s.consume n).attempt held.lease.remove fun _ => .unit
  := rfl

/-- A remove step is refused and changes nothing, or uses a live handle: it deletes the
handle's message with its receipt and uses the handle up. -/
theorem step_remove (hs : s.Serving σ) (h : HandleRef) :
  (∃ reason, s.step (.remove h) = .ok (.refused reason, [], s.fresh)) ∨
    ∃ n held, (n, held) ∈ s.handles ∧ ∃ r st',
      s.world.store.deleteMessage s.world.now held.lease.queue held.lease.message.id
        held.lease.message.receipt = .ok (r, st') ∧
      ∃ o reports logs, s.step (.remove h) = .ok (o, reports, { s.consume n with
          world := { s.world with store := st', reports := reports, logs := logs } }) ∧
        (r = .ok () → o = .reply .unit ∧ reports = [] ∧ logs = s.world.logs)
  := by
  rcases withHandle_cases s.fresh h fun s n held =>
      (s.consume n).attempt held.lease.remove fun _ => .unit with
    ⟨reason, hw⟩ | ⟨n, held, hmem, hw⟩
  · exact .inl ⟨reason, step_of_perform ((perform_remove _ h).trans hw) hs.idle⟩
  · obtain ⟨r, st', hdel, o, reports, logs, hatt, hok⟩ := remove_use hs.fresh n held
    exact .inr ⟨n, held, hmem, r, st', hdel, o, reports, logs,
      step_of_perform (((perform_remove _ h).trans hw).trans hatt) hs.idle, hok⟩

/-- A remove through a live handle by its number deletes the handle's message with its
receipt and uses the handle up; a delete that answers is answered, with nothing reported. -/
theorem step_remove_number (hs : s.Serving σ) {i : Nat} {held : Held}
    (hi : (i, held) ∈ s.handles) :
  ∃ r st', s.world.store.deleteMessage s.world.now held.lease.queue held.lease.message.id
      held.lease.message.receipt = .ok (r, st') ∧
    ∃ o reports logs, s.step (.remove (.number i)) = .ok (o, reports, { s.consume i with
        world := { s.world with store := st', reports := reports, logs := logs } }) ∧
      (r = .ok () → o = .reply .unit ∧ reports = [] ∧ logs = s.world.logs)
  := by
  obtain ⟨r, st', hdel, o, reports, logs, hatt, hok⟩ := remove_use hs.fresh i held
  have hw := withHandle_number hs.numbers (s := s.fresh) hi fun s n held =>
    (s.consume n).attempt held.lease.remove fun _ => .unit
  exact ⟨r, st', hdel, o, reports, logs,
    step_of_perform (((perform_remove _ _).trans hw).trans hatt) hs.idle, hok⟩

/-- Releasing through a hint's handle makes one update of its message, with its own text,
its id and its receipt, and uses the handle up. -/
theorem release_use (hs : s.Serving σ) (n : Nat) (hint : PolledHint) :
  ∃ r st', s.world.store.updateMessage s.world.now hint.lease.queue hint.lease.message.text
      hint.lease.message.id hint.lease.message.receipt (.ofSeconds 0) = .ok (r, st') ∧
    ∃ o reports logs, (s.consume n).attempt hint.lease.release (fun _ => .unit) =
        .ok (o, { s.consume n with world := { s.world with
          store := st', reports := reports, logs := logs } })
  := by
  obtain ⟨⟨r, st'⟩, hup⟩ := Store.updateMessage_answers s.world.store hs.now hint.lease.queue
    hint.lease.message.text hint.lease.message.id hint.lease.message.receipt
  have hrun := Lease.release_of_update (w := (s.consume n).world) hs.world.link hup
  obtain ⟨r', reports, logs, hfin, -⟩ := Lease.finish_run hint.lease "update_message"
    ((r.mapError QueueError.ofFault).map fun _ => ()) { s.world with store := st' }
  refine ⟨r, st', hup, ?_⟩
  rcases r' with e | u
  · exact ⟨_, reports, logs, attempt_of_error (hrun.trans hfin)⟩
  · exact ⟨_, reports, logs, attempt_of_ok (hrun.trans hfin)⟩

theorem perform_release (s : Session) (h : HandleRef) :
  s.perform (.release h) = s.withHandle h fun s n held =>
    match held with
    | .hint hint => (s.consume n).attempt hint.lease.release fun _ => .unit
    | .notice _ => pure (.refused "only pending hints can be released", s.consume n)
  := rfl

/-- A release step is refused and changes nothing, or uses a live handle: a notice's is
refused and used up, a hint's message is updated with its own text, id and receipt, and
the handle used up. -/
theorem step_release (hs : s.Serving σ) (h : HandleRef) :
  (∃ reason, s.step (.release h) = .ok (.refused reason, [], s.fresh)) ∨
    (∃ n notice, (n, .notice notice) ∈ s.handles ∧ ∃ reason,
      s.step (.release h) = .ok (.refused reason, [], s.fresh.consume n)) ∨
    ∃ n hint, (n, .hint hint) ∈ s.handles ∧ ∃ r st',
      s.world.store.updateMessage s.world.now hint.lease.queue hint.lease.message.text
        hint.lease.message.id hint.lease.message.receipt (.ofSeconds 0) = .ok (r, st') ∧
      ∃ o reports logs, s.step (.release h) = .ok (o, reports, { s.consume n with
          world := { s.world with store := st', reports := reports, logs := logs } })
  := by
  rcases withHandle_cases s.fresh h fun s n held =>
      match held with
      | .hint hint => (s.consume n).attempt hint.lease.release fun _ => .unit
      | .notice _ => pure (.refused "only pending hints can be released", s.consume n) with
    ⟨reason, hw⟩ | ⟨n, held, hmem, hw⟩
  · exact .inl ⟨reason, step_of_perform ((perform_release _ h).trans hw) hs.idle⟩
  · cases held with
    | notice notice =>
      exact .inr (.inl ⟨n, notice, hmem, _,
        step_of_perform ((perform_release _ h).trans hw) hs.idle⟩)
    | hint hint =>
      obtain ⟨r, st', hup, o, reports, logs, hatt⟩ := release_use hs.fresh n hint
      exact .inr (.inr ⟨n, hint, hmem, r, st', hup, o, reports, logs,
        step_of_perform (((perform_release _ h).trans hw).trans hatt) hs.idle⟩)

end Handles

/-! ### What a step of traffic keeps -/

/-- What the step `st` from `s` to `s'`, answered `o`, keeps: `s'` serves, the store moved,
every message held after it was held before under the same name, as it is, or the step
put it and answered; the clock stays, or moves to the instant the step answers; every live
handle after it was live before or is new; and every
message unexpired before it is held after it as it was, unless the step used up a handle
holding its receipt or answered it. -/
structure Moved (σ : Settings) (st : Step) (o : Outcome) (s s' : Session) : Prop where
  serving : s'.Serving σ
  moves : Store.Moves s.world.store s'.world.store
  news : ∀ {n : String} {m' : StoredMessage}, m' ∈ s'.world.store.messagesOf n →
    (∃ m ∈ s.world.store.messagesOf n, m.id = m'.id ∧ m.text = m'.text ∧
      m.expiresAt = m'.expiresAt) ∨ st.Puts σ s.world n m'.text ∧ o = .reply .unit
  now : s'.world.now = s.world.now ∨ o = .reply (.instant s'.world.now)
  handles : ∀ e ∈ s'.handles, e ∈ s.handles ∨ s.issuedHandles < e.1
  issuedHandles : s.issuedHandles ≤ s'.issuedHandles
  holds : ∀ {n : String} {m : StoredMessage}, m ∈ s.world.store.messagesOf n →
    m.isLive s.world.now = true → m ∈ s'.world.store.messagesOf n ∨
      (∃ e ∈ s.handles, e ∉ s'.handles ∧ e.2.lease.message.receipt = m.receipt) ∨
      o.Hands m.id

namespace Moved

variable {st : Step} {o : Outcome}

/-- A step that draws no message id holds every message as it was. -/
theorem of_issued (hs' : s'.Serving σ) (hm : Store.Moves s.world.store s'.world.store)
    (hi : s'.world.store.issuedIds ≤ s.world.store.issuedIds) (hnow : s'.world.now = s.world.now)
    (hh : ∀ e ∈ s'.handles, e ∈ s.handles ∨ s.issuedHandles < e.1)
    (hih : s.issuedHandles ≤ s'.issuedHandles)
    (hk : ∀ {n : String} {m : StoredMessage}, m ∈ s.world.store.messagesOf n →
      m.isLive s.world.now = true → m ∈ s'.world.store.messagesOf n ∨
        (∃ e ∈ s.handles, e ∉ s'.handles ∧ e.2.lease.message.receipt = m.receipt) ∨
        o.Hands m.id) :
  Moved σ st o s s'
  := ⟨hs', hm, fun hm' => .inl (hm.keeps.holds hs'.world.sound hi hm'), .inl hnow, hh, hih, hk⟩

/-- A step that draws no message id, keeps the handles and every unexpired message. -/
theorem of_kept (hs' : s'.Serving σ) (hm : Store.Moves s.world.store s'.world.store)
    (hi : s'.world.store.issuedIds ≤ s.world.store.issuedIds) (hnow : s'.world.now = s.world.now)
    (hh : s'.handles = s.handles) (hih : s'.issuedHandles = s.issuedHandles)
    (hk : ∀ {n : String} {m : StoredMessage}, m ∈ s.world.store.messagesOf n →
      m.isLive s.world.now = true → m ∈ s'.world.store.messagesOf n) :
  Moved σ st o s s'
  := of_issued hs' hm hi hnow (fun _ he => .inl (hh ▸ he)) hih.ge fun hm hl => .inl (hk hm hl)

theorem fresh (hs : s.Serving σ) :
  Moved σ st o s s.fresh
  := of_kept hs.fresh (.refl _) le_rfl rfl rfl rfl fun hm _ => hm

/-- A move of the clock, answered with the instant it moved to. -/
theorem clock (hs : s.Serving σ) {t : Instant} (ht : t.Valid) :
  Moved σ st (.reply (.instant t)) s { s with world := { s.world with now := t, reports := [] } }
  := ⟨hs.of_clock ht [], .refl _, fun hm' => .inl ⟨_, hm', rfl, rfl, rfl⟩, .inr rfl,
    fun _ he => .inl he, le_rfl, fun hm _ => .inl hm⟩

/-- A step that only ensured a family. -/
theorem ensured (hs : s.Serving σ) {k : FamilyKey} {st' : Store}
    {fs : List (FamilyKey × List String)} {logs : List LogEvent}
    (he : Pending.Ensured s.world k (familyNames σ.stem k.provisionerId k.workerType) st' fs) :
  Moved σ st o s { s with world := { s.world with
    store := st', families := fs, logs := s.world.logs ++ logs, reports := [] } }
  := by
  have hm := Store.Moves.of_refreshes he.refreshes
  refine of_kept (hs.of_moves ?_ hm rfl rfl rfl rfl) hm he.refreshes.issuedIds.le rfl rfl rfl
    fun hm hl => he.refreshes.keeps hm hl
  exact hs.world.of_ensured he (.refl _) rfl rfl rfl rfl rfl

/-- A publish that put its hint. -/
theorem published (hs : s.Serving σ) {task : TaskRef} {runId : UInt32} {ttl : Nat}
    {st' : Store} {fs : List (FamilyKey × List String)} {logs : List LogEvent}
    {a : Except Fault Unit × Store}
    (he : Pending.Ensured s.world task.family
      (familyNames σ.stem task.provisionerId task.workerType) st' fs)
    (hput : st'.putMessage s.world.now
      (shardName σ.stem task.provisionerId task.workerType task.priority)
      (Codec.encode (Pending.publishedHint task runId s.world).toJson) (.ofSeconds 0)
      (.ofSeconds ttl) = .ok a) :
  Moved σ (.putPending task runId) (.reply .unit) s { s with world := { s.world with
    store := a.2, families := fs, issued := s.world.issued + 1,
    logs := s.world.logs ++ logs, reports := [] } }
  := by
  have hrules : st'.rules = [] := he.refreshes.rules.trans hs.world.rules
  have hm := (Store.Moves.of_refreshes he.refreshes).trans (.of_putMessage hrules hput)
  refine ⟨hs.of_moves (hs.world.of_ensured he (.of_putMessage hrules hput) rfl rfl rfl rfl rfl)
    hm rfl rfl rfl rfl, hm, fun {n m'} hm' => ?_, .inl rfl, fun e he => .inl he, le_rfl,
    fun hm hl => .inl (Store.putMessage_keeps hput (he.refreshes.keeps hm hl) hl)⟩
  have hex := he.refreshes.exists_mem _ (shardName_mem_familyNames σ.stem task.provisionerId
    task.workerType task.priority)
  obtain ⟨visibleAt, expiresAt, -, -, -, hmsg⟩ := Store.putMessage_messagesOf hrules hex hput
  rw [hmsg] at hm'
  split_ifs at hm' with hn
  · rcases List.mem_append.1 hm' with hm' | hm'
    · -- a message the shard held, unexpired
      rw [hn]
      exact .inl ⟨m', he.refreshes.mem_messagesOf (List.mem_of_mem_filter hm'), rfl, rfl, rfl⟩
    · obtain rfl := List.mem_singleton.1 hm'
      exact .inr ⟨⟨hn, rfl⟩, rfl⟩
  · exact .inl ⟨m', he.refreshes.mem_messagesOf hm', rfl, rfl, rfl⟩

/-- An expiration put that put its notice. -/
theorem noticed (hs : s.Serving σ) {notice : Notice} {visibility : Nat} {st' : Store}
    {rd : List ExpirationKind} {logs : List LogEvent} {a : Except Fault Unit × Store}
    (hn : st.putNotice? σ s.world.now = some (notice, visibility))
    (he : Expiration.Readied s.world (σ.expirationQueue notice.kind) notice.kind st' rd)
    (hput : st'.putMessage s.world.now (σ.expirationQueue notice.kind)
      (Codec.encode notice.toJson) (.ofSeconds visibility) noticeTtl = .ok a) :
  Moved σ st (.reply .unit) s { s with world := { s.world with
    store := a.2, ready := rd, logs := s.world.logs ++ logs, reports := [] } }
  := by
  have hrules : st'.rules = [] := he.refreshes.rules.trans hs.world.rules
  have hm := (Store.Moves.of_refreshes he.refreshes).trans (.of_putMessage hrules hput)
  refine ⟨hs.of_moves (hs.world.of_readied he (.of_putMessage hrules hput) rfl rfl rfl rfl rfl)
    hm rfl rfl rfl rfl, hm, fun {n m'} hm' => ?_, .inl rfl, fun e he => .inl he, le_rfl,
    fun hm hl => .inl (Store.putMessage_keeps hput (he.refreshes.keeps hm hl) hl)⟩
  have hex := he.refreshes.exists_mem _ (List.mem_singleton_self _)
  obtain ⟨visibleAt, expiresAt, -, -, -, hmsg⟩ := Store.putMessage_messagesOf hrules hex hput
  rw [hmsg] at hm'
  split_ifs at hm' with hq
  · rcases List.mem_append.1 hm' with hm' | hm'
    · rw [hq]
      exact .inl ⟨m', he.refreshes.mem_messagesOf (List.mem_of_mem_filter hm'), rfl, rfl, rfl⟩
    · obtain rfl := List.mem_singleton.1 hm'
      -- a put step other than a publish puts its notice
      cases st
      all_goals first
        | exact .inr ⟨⟨notice, visibility, hn, hq, rfl⟩, rfl⟩
        | cases hn
  · exact .inl ⟨m', he.refreshes.mem_messagesOf hm', rfl, rfl, rfl⟩

/-- A step that gave handles to what a get answered, after a refresh of the store. -/
theorem gave {α : Type} (hs : s.Serving σ) {st' st'' : Store} {w : World} {queue : String}
    {visibility : Duration} {maxCount : Nat} {got : List RawMessage} {items : List α}
    {hold : α → Held} {names : List String}
    (hr : Store.Refreshes s.world.now names s.world.store st')
    (hget : st'.getMessages s.world.now queue visibility maxCount = .ok (.ok got, st''))
    (hw : w.Serving σ) (hstore : w.store = st'') (hnow : w.now = s.world.now)
    (hitems : items.map (fun a => (hold a).lease.message) = got)
    (ho : ∀ a ∈ items, o.Hands (hold a).lease.message.id) :
  Moved σ st o s ({ s with world := w }.give items hold).2
  := by
  have hrules : st'.rules = [] := hr.rules.trans hs.world.rules
  have hm : Store.Moves s.world.store w.store :=
    hstore ▸ (Store.Moves.of_refreshes hr).trans (.of_getMessages hrules hget)
  obtain ⟨hheld, hrecs, -⟩ := Store.getMessages_got hget
  have hserving := hs.give hw hm hnow items hold (fun a ha => ?_) ?_
  · refine of_issued hserving hm ?_ hnow (give_handles _ items hold)
      (Nat.le_add_right _ _) fun hm hl => ?_
    · show w.store.issuedIds ≤ s.world.store.issuedIds
      rw [hstore, Store.getMessages_issuedIds hget, hr.issuedIds]
    · -- a message the get did not answer is held as it was
      rcases Store.getMessages_keeps hget (hr.keeps hm hl) hl with hkept | ⟨got', hgot, x, hx, hid⟩
      · exact .inl (by rw [give_snd]; exact hstore ▸ hkept)
      · cases hgot
        rw [← hitems] at hx
        obtain ⟨a, ha, rfl⟩ := List.mem_map.1 hx
        exact .inr (.inr (hid ▸ ho a ha))
  · -- each item holds a message the get answered, which the store goes on holding
    obtain ⟨m', hm', hraw⟩ := hheld _ (hitems ▸ List.mem_map_of_mem ha)
    exact ⟨queue, m', hstore ▸ hm', hraw⟩
  · -- the items' receipts are those the get drew
    have hlen : items.length = got.length := by
      rw [← hitems, List.length_map]
    rw [hlen, ← hr.issuedReceipts, ← hrecs, ← hitems, List.map_map]
    rfl

/-- A step that used a handle up, refused. -/
theorem consumed (hs : s.Serving σ) (n : Nat) :
  Moved σ st o s (s.fresh.consume n)
  := of_issued (hs.fresh.consume n) (.refl _) le_rfl rfl
    (fun _ he => .inl (List.mem_of_mem_filter he)) le_rfl fun hm _ => .inl hm

/-- Using up a live handle drops it. -/
theorem not_mem_consume {n : Nat} {held : Held} :
  (n, held) ∉ (s.consume n).handles
  := by
  simp [consume]

/-- A step that presented the receipt of a live handle and used it up keeps every message
unexpired that holds another receipt. -/
theorem holds_of_consume {n : Nat} {held : Held} (hmem : (n, held) ∈ s.handles)
    {handles : List (Nat × Held)} (hh : handles = (s.consume n).handles) {st' : Store}
    (hk : ∀ {q : String} {m : StoredMessage}, m ∈ s.world.store.messagesOf q →
      m.isLive s.world.now = true → m.receipt ≠ held.lease.message.receipt →
      m ∈ st'.messagesOf q)
    {q : String} {m : StoredMessage} (hm : m ∈ s.world.store.messagesOf q)
    (hl : m.isLive s.world.now = true) :
  m ∈ st'.messagesOf q ∨
    (∃ e ∈ s.handles, e ∉ handles ∧ e.2.lease.message.receipt = m.receipt) ∨ o.Hands m.id
  := by
  by_cases hr : m.receipt = held.lease.message.receipt
  · exact .inr (.inl ⟨(n, held), hmem, hh ▸ not_mem_consume, hr.symm⟩)
  · exact .inl (hk hm hl hr)

/-- A remove that deleted through a handle and used it up. -/
theorem removed (hs : s.Serving σ) {n : Nat} {held : Held} (hmem : (n, held) ∈ s.handles)
    {r : Except Fault Unit} {st' : Store} {reports : List QueueError} {logs : List LogEvent}
    (hdel : s.world.store.deleteMessage s.world.now held.lease.queue held.lease.message.id
      held.lease.message.receipt = .ok (r, st')) :
  Moved σ st o s { s.consume n with world := { s.world with
    store := st', reports := reports, logs := logs } }
  := by
  have hm := Store.Moves.of_deleteMessage hs.world.rules hdel
  refine of_issued ((hs.consume n).of_moves ?_ hm rfl rfl rfl rfl) hm
    (Store.deleteMessage_issuedIds hdel).le rfl (fun e he => .inl (List.mem_of_mem_filter he))
    le_rfl (holds_of_consume hmem rfl fun hm hl hr => Store.deleteMessage_keeps hdel hm hl hr)
  exact hs.world.of_moves hm rfl rfl rfl (fun e he => .inl he) (fun k hk => .inl hk)

/-- A release that updated a hint's message with its own text and used its handle up. -/
theorem released (hs : s.Serving σ) {n : Nat} {hint : PolledHint}
    (hmem : (n, .hint hint) ∈ s.handles) {r : Except Fault String} {st' : Store}
    {reports : List QueueError} {logs : List LogEvent}
    (hup : s.world.store.updateMessage s.world.now hint.lease.queue hint.lease.message.text
      hint.lease.message.id hint.lease.message.receipt (.ofSeconds 0) = .ok (r, st')) :
  Moved σ st o s { s.consume n with world := { s.world with
    store := st', reports := reports, logs := logs } }
  := by
  have hm := Store.Moves.of_updateMessage hs.world.rules hup
    fun m hm hid => hs.texts _ hmem _ m hm hid
  refine of_issued ((hs.consume n).of_moves ?_ hm rfl rfl rfl rfl) hm
    (Store.updateMessage_issuedIds hup).le rfl (fun e he => .inl (List.mem_of_mem_filter he))
    le_rfl (holds_of_consume hmem rfl fun hm hl hr => Store.updateMessage_keeps hup hm hl hr)
  exact hs.world.of_moves hm rfl rfl rfl (fun e he => .inl he) (fun k hk => .inl hk)

/-- A step that ensured a family and gave handles to nothing. -/
theorem gaveNone {α : Type} (hs : s.Serving σ) {k : FamilyKey} {st' : Store}
    {fs : List (FamilyKey × List String)} {logs : List LogEvent} {hold : α → Held}
    (he : Pending.Ensured s.world k (familyNames σ.stem k.provisionerId k.workerType) st' fs) :
  Moved σ st o s ({ s with world := { s.world with
    store := st', families := fs, logs := s.world.logs ++ logs, reports := [] } }.give
      ([] : List α) hold).2
  := by
  have hm := Store.Moves.of_refreshes he.refreshes
  have hw : World.Serving σ { s.world with
      store := st', families := fs, logs := s.world.logs ++ logs, reports := [] } :=
    hs.world.of_ensured he (.refl _) rfl rfl rfl rfl rfl
  refine of_issued (hs.give hw hm rfl [] hold (by simp) rfl) hm he.refreshes.issuedIds.le rfl
    (give_handles _ [] hold) (Nat.le_add_right _ _) fun hm hl => .inl ?_
  rw [give_snd]
  exact he.refreshes.keeps hm hl

end Moved

/-- The messages of polled items leased from one queue are the messages got. -/
theorem messages_of_leases {α : Type} {items : List α} {lease : α → Lease} {queue : String}
    {got : List RawMessage} (h : items.map lease = got.map (⟨queue, ·⟩)) :
  items.map (fun a => (lease a).message) = got
  := by
  have := congrArg (List.map Lease.message) h
  simpa [List.map_map, Function.comp_def] using this

/-- Each message a get answers reads as the queue's messages do. -/
theorem got_readable {st' st'' : Store} {now : Instant} {queue : String} {visibility : Duration}
    {maxCount : Nat} {got : List RawMessage} {P : String → Prop}
    (hread : ∀ m ∈ st'.messagesOf queue, P m.text)
    (hget : st'.getMessages now queue visibility maxCount = .ok (.ok got, st'')) :
  ∀ r ∈ got, P r.text
  := by
  intro r hr
  obtain ⟨m, hm, -, htext⟩ := (Store.getMessages_got hget).2.2 r hr
  exact htext ▸ hread m hm

/-! ### Every step of traffic keeps a session serving -/

variable {o : Outcome} {rs : List QueueError}

theorem advance_moved (hs : s.Serving σ) {ms : Int} (h : s.step (.advance ms) = .ok (o, rs, s')) :
  Moved σ (.advance ms) o s s'
  := by
  rw [step_advance hs] at h
  cases ht : s.world.now.add? (Span.ofMillis ms) with
  | none =>
    simp [Instant.plus, ht, Except.map] at h
  | some t =>
    rw [Instant.plus_eq_ok.2 ht] at h
    cases h
    exact .clock hs (Instant.add?_valid hs.now ht)

theorem setTime_moved (hs : s.Serving σ) {t : Instant} (ht : t.Valid)
    (h : s.step (.setTime t) = .ok (o, rs, s')) :
  Moved σ (.setTime t) o s s'
  := by
  rw [step_setTime hs] at h
  cases h
  exact .clock hs ht

theorem putPending_moved (hs : s.Serving σ) {task : TaskRef} {runId : UInt32}
    (h : s.step (.putPending task runId) = .ok (o, rs, s')) :
  Moved σ (.putPending task runId) o s s'
  := by
  cases hv : task.validate with
  | error e =>
    rw [step_putPending_of_invalid runId hs hv] at h
    cases h
    exact .fresh hs
  | ok u =>
    cases hr : remainingSecs task.deadline s.world.now with
    | none =>
      obtain ⟨st', fs, logs, hstep, he⟩ := step_putPending_of_passed runId hs hv hr
      rw [hstep] at h
      cases h
      exact .ensured hs he
    | some ttl =>
      obtain ⟨st', fs, logs, he, hput⟩ := step_putPending_of_ahead runId hs hv hr
      cases hp : st'.putMessage s.world.now
          (shardName σ.stem task.provisionerId task.workerType task.priority)
          (Codec.encode (Pending.publishedHint task runId s.world).toJson) (.ofSeconds 0)
          (.ofSeconds ttl) with
      | error e =>
        rw [hput _ hp] at h
        cases h
      | ok a =>
        rw [hput _ hp] at h
        cases h
        exact .published hs he hp

theorem pendingQueues_moved (hs : s.Serving σ) {k : FamilyKey}
    (h : s.step (.pendingQueues k) = .ok (o, rs, s')) :
  Moved σ (.pendingQueues k) o s s'
  := by
  obtain ⟨st', fs, logs, hstep, he⟩ := step_pendingQueues hs k
  rw [hstep] at h
  cases h
  exact .ensured hs he

theorem pollPending_moved (hs : s.Serving σ) {k : FamilyKey} {priority : Priority} {count : Nat}
    (hread : ∀ m ∈ s.world.store.messagesOf (shardName σ.stem k.provisionerId k.workerType
      priority), ∃ hint, Codec.decode PendingHint.ofJson? m.text = .ok hint)
    (h : s.step (.pollPending k priority count) = .ok (o, rs, s')) :
  Moved σ (.pollPending k priority count) o s s'
  := by
  cases count with
  | zero =>
    obtain ⟨st', fs, logs, he, hstep⟩ := step_pollPending_zero hs k priority
    rw [hstep] at h
    cases h
    exact .gaveNone hs he
  | succ c =>
    obtain ⟨st', fs, logs, he, hget, hhalt⟩ := step_pollPending_of_get hs k priority
      (Nat.succ_pos c)
    have hrules : st'.rules = [] := he.refreshes.rules.trans hs.world.rules
    cases hg : st'.getMessages s.world.now
        (shardName σ.stem k.provisionerId k.workerType priority) pendingLease
        (min (c + 1) maxMessagesPerGet) with
    | error e =>
      rw [hhalt e hg] at h
      cases h
    | ok p =>
      obtain ⟨r, st''⟩ := p
      obtain ⟨got, rfl⟩ := Store.getMessages_answer hrules (he.refreshes.exists_mem _
        (shardName_mem_familyNames σ.stem k.provisionerId k.workerType priority)) hg
      obtain ⟨hints, hstep, hmap, -⟩ := hget got st'' hg
        (got_readable (P := fun t => ∃ hint, Codec.decode PendingHint.ofJson? t = .ok hint)
          (fun m hm => hread m (he.refreshes.mem_messagesOf hm)) hg)
      rw [hstep] at h
      cases h
      exact .gave hs he.refreshes hg
        (hs.world.of_ensured he (.of_getMessages hrules hg) rfl rfl rfl rfl rfl) rfl rfl
        (messages_of_leases hmap) fun a ha => by
          obtain ⟨x, hx, rfl⟩ := exists_mem_give _ Held.hint ha
          exact ⟨x, hx, rfl⟩

theorem putNotice_moved (hs : s.Serving σ) {st : Step} {notice : Notice} {visibility : Nat}
    (hn : st.putNotice? σ s.world.now = some (notice, visibility))
    (h : s.step st = .ok (o, rs, s')) :
  Moved σ st o s s'
  := by
  obtain ⟨st', rd, logs, he, hput⟩ := step_of_putNotice hs hn
  cases hp : st'.putMessage s.world.now (σ.expirationQueue notice.kind)
      (Codec.encode notice.toJson) (.ofSeconds visibility) noticeTtl with
  | error e =>
    rw [hput _ hp] at h
    cases h
  | ok a =>
    rw [hput _ hp] at h
    cases h
    exact .noticed hs hn he hp

theorem pollNotices_moved (hs : s.Serving σ) {kind : ExpirationKind}
    (hread : ∀ m ∈ s.world.store.messagesOf (σ.expirationQueue kind),
      ∃ n, Codec.decode (Notice.ofJson? kind) m.text = .ok n)
    (h : s.step (.pollNotices kind) = .ok (o, rs, s')) :
  Moved σ (.pollNotices kind) o s s'
  := by
  obtain ⟨st', rd, logs, he, hget, hhalt⟩ := step_pollNotices hs kind
  have hrules : st'.rules = [] := he.refreshes.rules.trans hs.world.rules
  cases hg : st'.getMessages s.world.now (σ.expirationQueue kind) noticeLease
      maxMessagesPerGet with
  | error e =>
    rw [hhalt e hg] at h
    cases h
  | ok p =>
    obtain ⟨r, st''⟩ := p
    obtain ⟨got, rfl⟩ := Store.getMessages_answer hrules
      (he.refreshes.exists_mem _ (List.mem_singleton_self _)) hg
    obtain ⟨ns, hstep, hmap, -⟩ := hget got st'' hg
      (got_readable (P := fun t => ∃ n, Codec.decode (Notice.ofJson? kind) t = .ok n)
        (fun m hm => hread m (he.refreshes.mem_messagesOf hm)) hg)
    rw [hstep] at h
    cases h
    exact .gave hs he.refreshes hg
      (hs.world.of_readied he (.of_getMessages hrules hg) rfl rfl rfl rfl rfl) rfl rfl
      (messages_of_leases hmap) fun a ha => by
        obtain ⟨x, hx, rfl⟩ := exists_mem_give _ Held.notice ha
        exact ⟨x, hx, rfl⟩

theorem remove_moved (hs : s.Serving σ) {h : HandleRef}
    (hstep : s.step (.remove h) = .ok (o, rs, s')) :
  Moved σ (.remove h) o s s'
  := by
  rcases step_remove hs h with ⟨reason, h'⟩ |
      ⟨n, held, hmem, r, st', hdel, o', reports, logs, h', -⟩
  · rw [h'] at hstep
    cases hstep
    exact .fresh hs
  · rw [h'] at hstep
    cases hstep
    exact .removed hs hmem hdel

theorem release_moved (hs : s.Serving σ) {h : HandleRef}
    (hstep : s.step (.release h) = .ok (o, rs, s')) :
  Moved σ (.release h) o s s'
  := by
  rcases step_release hs h with ⟨reason, h'⟩ | ⟨n, notice, -, reason, h'⟩ |
      ⟨n, hint, hmem, r, st', hup, o', reports, logs, h'⟩
  · rw [h'] at hstep
    cases hstep
    exact .fresh hs
  · rw [h'] at hstep
    cases hstep
    exact .consumed hs n
  · rw [h'] at hstep
    cases hstep
    exact .released hs hmem hup

/-- Every step of traffic from a serving session, whose poll reads what it polls, keeps it
serving, moves its store, and holds every message as it was or as the step put it. -/
theorem Serving.step {st : Step} (hs : s.Serving σ) (hx : st.PendingTraffic ∨ st.NoticeTraffic)
    (hread : st.Readable σ s.world.store) (h : s.step st = .ok (o, rs, s')) :
  Moved σ st o s s'
  := by
  cases hn : st.putNotice? σ s.world.now with
  | some nv => exact putNotice_moved hs hn h
  | none =>
    cases st with
    | advance ms => exact advance_moved hs h
    | setTime t =>
      have ht : t.Valid := by
        rcases hx with hx | hx <;> exact hx
      exact setTime_moved hs ht h
    | putPending task runId => exact putPending_moved hs h
    | pendingQueues k => exact pendingQueues_moved hs h
    | pollPending k priority count => exact pollPending_moved hs hread h
    | pollNotices kind => exact pollNotices_moved hs hread h
    | remove h' => exact remove_moved hs h
    | release h' => exact release_moved hs h
    | putClaim | putDeadline | putResolved => cases hn
    | _ => simp [Step.PendingTraffic, Step.NoticeTraffic] at hx

/-! ### Runs of a session -/

/-- A fresh session over an empty store, its calls going to the store, at a valid instant,
serves its settings. -/
theorem Serving.start (σ : Settings) {t₀ : Instant} (ht₀ : t₀.Valid) (pageSize : Nat)
    (virtualTime : Bool) :
  (Session.start σ t₀ pageSize virtualTime none).Serving σ
  where
  world := ⟨rfl, rfl, rfl, rfl, Store.sound_empty pageSize, Store.inPutOrder_empty pageSize,
    fun _ he => (by cases he), fun _ hk => (by cases hk)⟩
  now := ht₀
  idle := rfl
  numbers := List.nodup_nil
  numbered _ he := by cases he
  receipts := List.nodup_nil
  receipt_drawn _ he := by cases he
  id_drawn _ he := by cases he
  texts _ he := by cases he

/-- What holds at the start of a run and is kept by each of its steps, from the run so far,
holds at its end. -/
theorem Reaches.induction_snoc {s₀ : Session} {P : List (Step × Outcome) → Session → Prop}
    (h₀ : P [] s₀)
    (hstep : ∀ {tr s₁ st o rs s₂}, Reaches s₀ tr s₁ → P tr s₁ →
      s₁.step st = .ok (o, rs, s₂) → P (tr ++ [(st, o)]) s₂)
    {tr : List (Step × Outcome)} {s : Session} (h : Reaches s₀ tr s) :
  P tr s
  := by
  induction h generalizing P with
  | refl => exact h₀
  | @step s₀ s₁ s' st o rs tr hs _ ih =>
    -- the rest of the run starts after the first step
    exact ih (P := fun tr s => P ((st, o) :: tr) s) (hstep (.refl _) h₀ hs)
      fun hr hp h => hstep (.step hs hr) hp h

/-- A run followed by a step is a run. -/
theorem Reaches.snoc {s₀ s₁ s₂ : Session} {tr : List (Step × Outcome)} {st : Step}
    {o : Outcome} {rs : List QueueError} (h : Reaches s₀ tr s₁)
    (hs : s₁.step st = .ok (o, rs, s₂)) :
  Reaches s₀ (tr ++ [(st, o)]) s₂
  := by
  induction h with
  | refl => exact .step hs (.refl _)
  | step h₁ _ ih => exact .step h₁ (ih hs)

end Session

end TaskQueue
