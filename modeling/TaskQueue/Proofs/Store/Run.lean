import TaskQueue.Proofs.Store.Calls
import Mathlib.Data.List.Nodup

/-!
# Runs of a store

A run is a list of calls of the nine operations, made one after another on one store, each
at an instant of its own (the clock may go forward or back between calls), with the
answer each gave.  `Store.Run s es s'` says that the events `es` take the store from `s`
to `s'`; a halting call ends a run, so every call of a run answered.

What a call hands out is a list of pairs of a message id and a pop receipt
(`Event.handed`): a get hands out the messages it leased, and an update the message it
rewrote, with the new receipt.

Everything a call does to one message is said once, by `perform_origin`: a message the
store holds after a call was held before it as it was, or was just put, with a fresh id
and receipt, or was held before, unexpired, and is handed out by the call with a fresh
receipt, the expiry it had, and, when the call is a get, the lease's end as the instant it
is visible again.
-/

namespace TaskQueue

open Time

namespace Store

/-! ### Calls, answers and events -/

/-- A call of one of the store's operations, with the instant it is made at when the
operation reads the clock. -/
inductive Call where
  | createQueue (name : String) (metadata : Option Metadata)
  | deleteQueue (name : String)
  | putMessage (now : Instant) (name text : String) (visibility ttl : Duration)
  | getMessages (now : Instant) (name : String) (visibility : Duration) (maxCount : Nat)
  | deleteMessage (now : Instant) (name id receipt : String)
  | updateMessage (now : Instant) (name text id receipt : String) (visibility : Duration)
  | getMetadata (now : Instant) (name : String)
  | setMetadata (name : String) (metadata : Metadata)
  | listQueues (stem : String) (marker : Option String) (withMetadata : Bool)
  deriving DecidableEq

/-- What a call answers when it succeeds. -/
inductive Answer where
  | done
  | messages (ms : List RawMessage)
  | receipt (r : String)
  | properties (p : QueueProperties)
  | page (p : ListPage)
  deriving DecidableEq

/-- The outcome of an operation, with its answer named. -/
def answering {α : Type} (f : α → Answer) (o : Except Fault α × Store) :
    Except Fault Answer × Store :=
  (o.1.map f, o.2)

/-- Makes a call on a store. -/
def Call.perform : Call → Store → Except Halt (Except Fault Answer × Store)
  | .createQueue name metadata, s => answering (fun _ => .done) <$> s.createQueue name metadata
  | .deleteQueue name, s => answering (fun _ => .done) <$> s.deleteQueue name
  | .putMessage now name text visibility ttl, s =>
    answering (fun _ => .done) <$> s.putMessage now name text visibility ttl
  | .getMessages now name visibility maxCount, s =>
    answering .messages <$> s.getMessages now name visibility maxCount
  | .deleteMessage now name id receipt, s =>
    answering (fun _ => .done) <$> s.deleteMessage now name id receipt
  | .updateMessage now name text id receipt visibility, s =>
    answering .receipt <$> s.updateMessage now name text id receipt visibility
  | .getMetadata now name, s => answering .properties <$> s.getMetadata now name
  | .setMetadata name metadata, s => answering (fun _ => .done) <$> s.setMetadata name metadata
  | .listQueues stem marker withMetadata, s =>
    answering .page <$> s.listQueues stem marker withMetadata

/-- A call with its answer. -/
structure Event where
  call : Call
  answer : Except Fault Answer
  deriving DecidableEq

/-- The ids and receipts an event hands out: the messages a get leased, or the message an
update rewrote with its new receipt. -/
def Event.handed (e : Event) : List (String × String) :=
  match e.call, e.answer with
  | .getMessages .., .ok (.messages ms) => ms.map fun m => (m.id, m.receipt)
  | .updateMessage _ _ _ id _ _, .ok (.receipt r) => [(id, r)]
  | _, _ => []

/-- The events `es` take the store from `s` to `s'`. -/
inductive Run : Store → List Event → Store → Prop
  | nil (s : Store) : Run s [] s
  | cons {s s₁ s' : Store} {e : Event} {es : List Event} :
    e.call.perform s = .ok (e.answer, s₁) → Run s₁ es s' → Run s (e :: es) s'

theorem map_answering_eq_ok {α : Type} {f : α → Answer}
    {x : Except Halt (Except Fault α × Store)} {a : Except Fault Answer} {s' : Store} :
  answering f <$> x = .ok (a, s') ↔ ∃ r, x = .ok (r, s') ∧ a = r.map f
  := by
  cases x with
  | error h => simp [Functor.map, Except.map]
  | ok o =>
    obtain ⟨r, s₁⟩ := o
    simp [Functor.map, Except.map, answering, @eq_comm _ _ a, and_comm]

/-! ### Runs -/

theorem Run.append {s s₁ s' : Store} {es es' : List Event} (h : Run s es s₁)
    (h' : Run s₁ es' s') :
  Run s (es ++ es') s'
  := by
  induction h with
  | nil => exact h'
  | cons hstep _ ih => exact .cons hstep (ih h')

theorem Run.split {s s' : Store} {es es' : List Event} (h : Run s (es ++ es') s') :
  ∃ s₁, Run s es s₁ ∧ Run s₁ es' s'
  := by
  induction es generalizing s with
  | nil => exact ⟨s, .nil s, h⟩
  | cons e es ih =>
    cases h with
    | cons hstep hrest =>
      obtain ⟨s₁, h₁, h₂⟩ := ih hrest
      exact ⟨s₁, .cons hstep h₁, h₂⟩

/-- A run through one marked event: the store before the event, and the store after it. -/
theorem Run.split_at {s s' : Store} {es es' : List Event} {e : Event}
    (h : Run s (es ++ e :: es') s') :
  ∃ s₁ s₂, Run s es s₁ ∧ e.call.perform s₁ = .ok (e.answer, s₂) ∧ Run s₂ es' s'
  := by
  obtain ⟨s₁, h₁, h₂⟩ := h.split
  cases h₂ with
  | cons hstep hrest => exact ⟨s₁, _, h₁, hstep, hrest⟩

/-- An event of a run, with the stores before and after it. -/
theorem Run.of_mem {s s' : Store} {es : List Event} {e : Event} (hrun : Run s es s')
    (he : e ∈ es) :
  ∃ s₁ s₂ as bs, es = as ++ e :: bs ∧ Run s as s₁ ∧ e.call.perform s₁ = .ok (e.answer, s₂) ∧
    Run s₂ bs s'
  := by
  obtain ⟨as, bs, rfl⟩ := List.append_of_mem he
  obtain ⟨s₁, s₂, h₁, h, h₂⟩ := hrun.split_at
  exact ⟨s₁, s₂, as, bs, rfl, h₁, h, h₂⟩

/-- What holds of a store and is kept by every call holds all along a run. -/
theorem Run.invariant {P : Store → Prop}
    (step : ∀ {s s' : Store} {e : Event}, P s → e.call.perform s = .ok (e.answer, s') → P s')
    {s s' : Store} {es : List Event} (h : Run s es s') (hs : P s) :
  P s'
  := by
  induction h with
  | nil => exact hs
  | cons hstep _ ih => exact ih (step hs hstep)

/-! ### What a call does to one message -/

/-- The instant a call is made at, when it reads the clock. -/
def Call.now? : Call → Option Instant
  | .putMessage now .. | .getMessages now .. | .deleteMessage now .. | .updateMessage now ..
  | .getMetadata now .. => some now
  | _ => none

/-- Where a message held under a name after a call comes from. -/
inductive Origin (s : Store) (e : Event) (s' : Store) (name : String) (m' : StoredMessage) :
    Prop
  /-- It was held under the name before, as it is. -/
  | kept : m' ∈ s.messagesOf name → Origin s e s' name m'
  /-- The call put it, with the next id and the next receipt, both drawn. -/
  | put {now : Instant} {text : String} {visibility ttl : Duration} :
    e.call = .putMessage now name text visibility ttl → m'.id = idOf (s.issuedIds + 1) →
    m'.receipt = receiptOf (s.issuedReceipts + 1) → s'.issuedIds = s.issuedIds + 1 →
    s'.issuedReceipts = s.issuedReceipts + 1 → Origin s e s' name m'
  /-- A get leased it: it was held, unexpired and visible, and is visible again at the end
  of the lease; the get hands it out with its new receipt. -/
  | leased {m : StoredMessage} {now : Instant} {visibility : Duration} {maxCount : Nat} :
    m ∈ s.messagesOf name → e.call = .getMessages now name visibility maxCount →
    now < m.expiresAt → m.visibleAt ≤ now → now.add? visibility.storeSpan = some m'.visibleAt →
    m'.id = m.id → m'.text = m.text → m'.expiresAt = m.expiresAt →
    (m'.id, m'.receipt) ∈ e.handed → Origin s e s' name m'
  /-- An update rewrote it: it was held and unexpired, and keeps its id and expiry; the
  update hands it out with its new receipt. -/
  | updated {m : StoredMessage} {now : Instant} {text receipt : String}
    {visibility : Duration} :
    m ∈ s.messagesOf name → e.call = .updateMessage now name text m.id receipt visibility →
    now < m.expiresAt → m'.id = m.id → m'.expiresAt = m.expiresAt →
    (m'.id, m'.receipt) ∈ e.handed → Origin s e s' name m'

theorem mem_of_mem_purge {q : StoredQueue} {now : Instant} {m : StoredMessage}
    (hm : m ∈ (q.purge now).messages) :
  m ∈ q.messages ∧ now < m.expiresAt
  := by
  simp only [StoredQueue.purge_messages, List.mem_filter, StoredMessage.isLive_iff] at hm
  exact hm

variable {s s' : Store} {name : String} {m' : StoredMessage}

/-- A call that sets one queue to a part of what it held keeps every message it holds. -/
theorem Origin.of_put {t : Store} {e : Event} {n : String} {q q' : StoredQueue}
    (ht : ∀ n, t.messagesOf n = s.messagesOf n) (hq : s.find? n = some q)
    (hsub : q'.messages ⊆ q.messages) (hm : m' ∈ (t.put n q').messagesOf name) :
  Origin s e (t.put n q') name m'
  := by
  rw [messagesOf_put] at hm
  split_ifs at hm with hn
  · subst hn
    exact .kept ((messagesOf_of_find? hq).symm ▸ hsub hm)
  · exact .kept (ht name ▸ hm)

theorem purge_subset (q : StoredQueue) (now : Instant) :
  (q.purge now).messages ⊆ q.messages
  := fun _ hm => (mem_of_mem_purge hm).1

theorem perform_origin {e : Event} (h : e.call.perform s = .ok (e.answer, s'))
    (hm : m' ∈ s'.messagesOf name) :
  Origin s e s' name m'
  := by
  obtain ⟨call, answer⟩ := e
  cases call with
  | createQueue n metadata =>
    obtain ⟨r, hr, -⟩ := map_answering_eq_ok.1 h
    rcases createQueue_eq_ok_iff.1 hr with ⟨-, rfl, -⟩ | ⟨-, ⟨-, -, rfl⟩ | ⟨-, -, rfl⟩⟩
    · exact .kept (by simpa using hm)
    · exact .kept (by simpa using hm)
    · -- the new queue holds nothing
      simp only [messagesOf_put, messagesOf_enter] at hm
      split_ifs at hm
      · simp at hm
      · exact .kept hm
  | deleteQueue n =>
    obtain ⟨r, hr, -⟩ := map_answering_eq_ok.1 h
    rcases deleteQueue_eq_ok_iff.1 hr with ⟨-, rfl, -⟩ | ⟨-, ⟨-, -, rfl⟩ | ⟨-, -, rfl⟩⟩
    · exact .kept (by simpa using hm)
    · simp only [messagesOf_erase, messagesOf_enter] at hm
      split_ifs at hm
      · simp at hm
      · exact .kept hm
    · exact .kept (by simpa using hm)
  | putMessage now n text visibility ttl =>
    obtain ⟨r, hr, -⟩ := map_answering_eq_ok.1 h
    rcases putMessage_eq_ok_iff.1 hr with
      ⟨-, rfl, -⟩ | ⟨-, ⟨-, -, rfl⟩ | ⟨q, visibleAt, expiresAt, hq, -, -, -, rfl⟩⟩
    · exact .kept (by simpa using hm)
    · exact .kept (by simpa using hm)
    · simp only [messagesOf_put] at hm
      split_ifs at hm with hn
      · subst hn
        rcases List.mem_append.1 hm with hm | hm
        · exact .kept ((messagesOf_of_find? hq).symm ▸ (mem_of_mem_purge hm).1)
        · obtain rfl := List.mem_singleton.1 hm
          exact .put rfl rfl rfl (by simp) (by simp)
      · exact .kept (by simpa using hm)
  | getMessages now n visibility maxCount =>
    obtain ⟨r, hr, rfl⟩ := map_answering_eq_ok.1 h
    rcases getMessages_eq_ok_iff.1 hr with
      ⟨-, rfl, -⟩ | ⟨-, ⟨-, -, rfl⟩ | ⟨q, hq, -, -, rfl⟩ | ⟨q, hq, -, leaseEnd, hend, rfl, rfl⟩⟩
    · exact .kept (by simpa using hm)
    · exact .kept (by simpa using hm)
    · exact Origin.of_put (by simp) hq (purge_subset q now) hm
    · simp only [messagesOf_mk, lookup_queues, getD_map_find?, messagesOf_put,
        messagesOf_enter] at hm
      split_ifs at hm with hn
      · subst hn
        obtain ⟨m, hmq, hid, htext, hexp, rfl | ⟨hvis, hva, hraw, -⟩⟩ :=
          exists_of_forall₂_mem (leaseAll_forall₂ now leaseEnd _ _ _) hm
        · exact .kept ((messagesOf_of_find? hq).symm ▸ (mem_of_mem_purge hmq).1)
        · -- a leased message: visible and unexpired when the get was made
          obtain ⟨hmq, hlive⟩ := mem_of_mem_purge hmq
          refine .leased ((messagesOf_of_find? hq).symm ▸ hmq) rfl hlive
            ((StoredMessage.isVisible_iff now m).1 hvis) (hva ▸ hend) hid htext hexp ?_
          simp only [Event.handed, Except.map]
          exact List.mem_map.2 ⟨m'.raw, hraw, rfl⟩
      · exact .kept hm
  | deleteMessage now n id receipt =>
    obtain ⟨r, hr, -⟩ := map_answering_eq_ok.1 h
    rcases deleteMessage_eq_ok_iff.1 hr with
      ⟨-, rfl, -⟩ | ⟨-, ⟨-, -, rfl⟩ | ⟨q, hq, ⟨f, -, -, rfl⟩ | ⟨i, -, -, rfl⟩⟩⟩
    · exact .kept (by simpa using hm)
    · exact .kept (by simpa using hm)
    · exact Origin.of_put (by simp) hq (purge_subset q now) hm
    · exact Origin.of_put (by simp) hq
        (fun _ hx => purge_subset q now ((List.eraseIdx_sublist _ _).subset hx)) hm
  | updateMessage now n text id receipt visibility =>
    obtain ⟨r, hr, rfl⟩ := map_answering_eq_ok.1 h
    rcases updateMessage_eq_ok_iff.1 hr with
      ⟨-, rfl, -⟩ | ⟨-, ⟨-, -, rfl⟩ | ⟨q, hq, ⟨f, -, -, rfl⟩ | ⟨i, hi, visibleAt, -, rfl, rfl⟩⟩⟩
    · exact .kept (by simpa using hm)
    · exact .kept (by simpa using hm)
    · exact Origin.of_put (by simp) hq (purge_subset q now) hm
    · rw [messagesOf_put] at hm
      split_ifs at hm with hn
      · subst hn
        rcases mem_modify hm with hm | ⟨m, hmi, rfl⟩
        · exact .kept ((messagesOf_of_find? hq).symm ▸ (mem_of_mem_purge hm).1)
        · -- the rewritten message is the one `locate` found, with the id asked for
          obtain ⟨-, m₀, hm₀, hid, -⟩ := locate_ok hi
          rw [hm₀] at hmi
          cases hmi
          subst hid
          obtain ⟨hmq, hlive⟩ := mem_of_mem_purge (List.mem_of_getElem? hm₀)
          refine .updated ((messagesOf_of_find? hq).symm ▸ hmq) rfl hlive rfl rfl ?_
          simp [Event.handed, Except.map]
      · exact .kept (by simpa using hm)
  | getMetadata now n =>
    obtain ⟨r, hr, -⟩ := map_answering_eq_ok.1 h
    rcases getMetadata_eq_ok_iff.1 hr with ⟨-, rfl, -⟩ | ⟨-, ⟨-, -, rfl⟩ | ⟨q, hq, -, rfl⟩⟩
    · exact .kept (by simpa using hm)
    · exact .kept (by simpa using hm)
    · exact Origin.of_put (by simp) hq (purge_subset q now) hm
  | setMetadata n metadata =>
    obtain ⟨r, hr, -⟩ := map_answering_eq_ok.1 h
    rcases setMetadata_eq_ok_iff.1 hr with ⟨-, rfl, -⟩ | ⟨-, ⟨-, -, rfl⟩ | ⟨q, hq, -, rfl⟩⟩
    · exact .kept (by simpa using hm)
    · exact .kept (by simpa using hm)
    · exact Origin.of_put (by simp) hq (by simp) hm
  | listQueues stem marker withMetadata =>
    obtain ⟨r, hr, -⟩ := map_answering_eq_ok.1 h
    rcases listQueues_eq_ok_iff.1 hr with ⟨-, rfl, -⟩ | ⟨-, -, rfl⟩ <;>
      exact .kept (by simpa using hm)

/-! ### What a call hands out -/

/-- Only a get that leased messages and an update that rewrote one hand anything out. -/
theorem handed_cases {e : Event} (h : e.call.perform s = .ok (e.answer, s')) {id r : String}
    (hr : (id, r) ∈ e.handed) :
  (∃ now name visibility maxCount q leaseEnd,
    e.call = .getMessages now name visibility maxCount ∧ s.find? name = some q ∧
    now.add? visibility.storeSpan = some leaseEnd ∧
    (id, r) ∈ (s.getLease now leaseEnd q maxCount).2.1.map (fun m => (m.id, m.receipt)) ∧
    s' = { (s.enter .getMessages name).2.put name
      { q with messages := (s.getLease now leaseEnd q maxCount).1 } with
      issuedReceipts := (s.getLease now leaseEnd q maxCount).2.2 }) ∨
  (∃ now name text receipt visibility q i visibleAt,
    e.call = .updateMessage now name text id receipt visibility ∧ s.find? name = some q ∧
    locate name id receipt (q.purge now).messages = .ok i ∧
    now.add? visibility.storeSpan = some visibleAt ∧ r = receiptOf (s.issuedReceipts + 1) ∧
    s' = { (s.enter .updateMessage name).2 with
      issuedReceipts := s.issuedReceipts + 1 }.put name
      { q with messages := (q.purge now).messages.modify i fun m =>
        { m with text, visibleAt, receipt := receiptOf (s.issuedReceipts + 1) } })
  := by
  obtain ⟨call, answer⟩ := e
  cases call
  case getMessages now n visibility maxCount =>
    obtain ⟨a, ha, rfl⟩ := map_answering_eq_ok.1 h
    rcases getMessages_eq_ok_iff.1 ha with
      ⟨rfl, -, -⟩ | ⟨-, ⟨-, rfl, -⟩ | ⟨q, -, -, rfl, -⟩ | ⟨q, hq, -, leaseEnd, hend, rfl, rfl⟩⟩
    · simp [Event.handed, Except.map] at hr
    · simp [Event.handed, Except.map] at hr
    · simp [Event.handed, Except.map] at hr
    · exact .inl ⟨now, n, visibility, maxCount, q, leaseEnd, rfl, hq, hend, hr, rfl⟩
  case updateMessage now n text id' receipt visibility =>
    obtain ⟨a, ha, rfl⟩ := map_answering_eq_ok.1 h
    rcases updateMessage_eq_ok_iff.1 ha with
      ⟨rfl, -, -⟩ | ⟨-, ⟨-, rfl, -⟩ | ⟨q, hq, ⟨f, -, rfl, -⟩ | ⟨i, hi, visibleAt, hva, rfl, rfl⟩⟩⟩
    · simp [Event.handed, Except.map] at hr
    · simp [Event.handed, Except.map] at hr
    · simp [Event.handed, Except.map] at hr
    · simp only [Event.handed, Except.map, List.mem_singleton, Prod.mk.injEq] at hr
      obtain ⟨rfl, rfl⟩ := hr
      exact .inr ⟨now, n, text, receipt, visibility, q, i, visibleAt, rfl, hq, hi, hva, rfl, rfl⟩
  all_goals simp [Event.handed] at hr

/-- Every receipt a call hands out is drawn by the call. -/
theorem handed_fresh {e : Event} (h : e.call.perform s = .ok (e.answer, s')) {id r : String}
    (hr : (id, r) ∈ e.handed) :
  ∃ k, s.issuedReceipts < k ∧ k ≤ s'.issuedReceipts ∧ r = receiptOf k
  := by
  rcases handed_cases h hr with
    ⟨now, name, visibility, maxCount, q, leaseEnd, -, -, -, hmem, rfl⟩ |
    ⟨-, -, -, -, -, -, -, -, -, -, -, -, rfl, rfl⟩
  · -- the receipts of a lease are drawn one after another
    have hr' : r ∈ (s.getLease now leaseEnd q maxCount).2.1.map (·.receipt) := by
      obtain ⟨m, hm, he⟩ := List.mem_map.1 hmem
      simp only [Prod.mk.injEq] at he
      exact List.mem_map.2 ⟨m, hm, he.2⟩
    rw [leaseAll_receipts] at hr'
    obtain ⟨j, hj, rfl⟩ := List.mem_map.1 hr'
    rw [List.mem_range] at hj
    refine ⟨s.issuedReceipts + j + 1, by omega, ?_, rfl⟩
    simp only [leaseAll_issued]
    omega
  · exact ⟨s.issuedReceipts + 1, by omega, by simp, rfl⟩

/-- Every message a call hands out was held before the call, unexpired at the call's
instant and, for a get, visible. -/
theorem handed_source {e : Event} (h : e.call.perform s = .ok (e.answer, s')) {id r : String}
    (hr : (id, r) ∈ e.handed) :
  ∃ name m now, m ∈ s.messagesOf name ∧ m.id = id ∧ e.call.now? = some now ∧
    now < m.expiresAt ∧
    ∀ n visibility maxCount, e.call = .getMessages now n visibility maxCount →
      m.visibleAt ≤ now
  := by
  rcases handed_cases h hr with
    ⟨now, name, visibility, maxCount, q, leaseEnd, hcall, hq, -, hmem, -⟩ |
    ⟨now, name, text, receipt, visibility, q, i, visibleAt, hcall, hq, hi, -, -, -⟩
  · -- a lease answers the first visible messages of the queue
    obtain ⟨raw, hraw, he⟩ := List.mem_map.1 hmem
    have hgot : (raw.id, raw.text) ∈ (((q.purge now).messages.filter (·.isVisible now)).take
        (min (max maxCount 1) maxMessagesPerGet)).map fun m => (m.id, m.text) := by
      rw [← leaseAll_got now leaseEnd s.issuedReceipts]
      exact List.mem_map_of_mem hraw
    obtain ⟨m, hm, he'⟩ := List.mem_map.1 hgot
    obtain ⟨hmp, hvis⟩ := List.mem_filter.1 (List.mem_of_mem_take hm)
    obtain ⟨hmq, hlive⟩ := mem_of_mem_purge hmp
    simp only [Prod.mk.injEq] at he he'
    refine ⟨name, m, now, (messagesOf_of_find? hq).symm ▸ hmq, he'.1.trans he.1,
      by rw [hcall]; rfl, hlive, fun _ _ _ _ => (StoredMessage.isVisible_iff now m).1 hvis⟩
  · obtain ⟨-, m, hm, hid, -⟩ := locate_ok hi
    obtain ⟨hmq, hlive⟩ := mem_of_mem_purge (List.mem_of_getElem? hm)
    refine ⟨name, m, now, (messagesOf_of_find? hq).symm ▸ hmq, hid, by rw [hcall]; rfl,
      hlive, ?_⟩
    intro _ _ _ hget
    rw [hcall] at hget
    cases hget

/-- Every message a call hands out is held after the call with the receipt handed out,
and a get holds it until the end of its lease. -/
theorem handed_held {e : Event} (h : e.call.perform s = .ok (e.answer, s')) {id r : String}
    (hr : (id, r) ∈ e.handed) :
  ∃ name m', m' ∈ s'.messagesOf name ∧ m'.id = id ∧ m'.receipt = r ∧
    ∀ now n visibility maxCount, e.call = .getMessages now n visibility maxCount →
      now.add? visibility.storeSpan = some m'.visibleAt
  := by
  rcases handed_cases h hr with
    ⟨now, name, visibility, maxCount, q, leaseEnd, hcall, -, hend, hmem, rfl⟩ |
    ⟨now, name, text, receipt, visibility, q, i, visibleAt, hcall, -, hi, -, rfl, rfl⟩
  · obtain ⟨raw, hraw, he⟩ := List.mem_map.1 hmem
    obtain ⟨m', hm', rfl, hva⟩ := leaseAll_got_mem now leaseEnd _ _ _ raw hraw
    simp only [Prod.mk.injEq] at he
    refine ⟨name, m', by simpa [getLease] using hm', he.1, he.2, ?_⟩
    intro now' n' visibility' maxCount' hget
    rw [hcall] at hget
    injection hget with hnow _ hvis
    subst hnow hvis
    rw [hend, hva]
  · obtain ⟨-, m, hm, hid, -⟩ := locate_ok hi
    refine ⟨name, { m with text, visibleAt, receipt := receiptOf (s.issuedReceipts + 1) }, ?_,
      hid, rfl, ?_⟩
    · -- the rewritten message stands where `locate` found it
      rw [messagesOf_put, if_pos rfl]
      apply List.mem_of_getElem? (i := i)
      rw [List.getElem?_modify_eq, hm]
      rfl
    · intro _ _ _ _ hget
      rw [hcall] at hget
      cases hget

/-- A call hands out each receipt once. -/
theorem handed_receipts_nodup {e : Event} (h : e.call.perform s = .ok (e.answer, s')) :
  (e.handed.map Prod.snd).Nodup
  := by
  obtain ⟨call, answer⟩ := e
  cases call
  case getMessages now n visibility maxCount =>
    obtain ⟨a, ha, rfl⟩ := map_answering_eq_ok.1 h
    rcases getMessages_eq_ok_iff.1 ha with
      ⟨rfl, -, -⟩ | ⟨-, ⟨-, rfl, -⟩ | ⟨q, -, -, rfl, -⟩ | ⟨q, -, -, leaseEnd, -, rfl, -⟩⟩
    · simp [Event.handed, Except.map]
    · simp [Event.handed, Except.map]
    · simp [Event.handed, Except.map]
    · -- the receipts of a lease are drawn one after another
      simp only [Event.handed, Except.map, List.map_map]
      change ((s.getLease now leaseEnd q maxCount).2.1.map (·.receipt)).Nodup
      rw [leaseAll_receipts]
      refine List.Nodup.map (fun j j' hj => ?_) List.nodup_range
      simp only [receiptOf_inj] at hj
      omega
  case updateMessage now n text id receipt visibility =>
    obtain ⟨a, ha, rfl⟩ := map_answering_eq_ok.1 h
    rcases updateMessage_eq_ok_iff.1 ha with
      ⟨rfl, -, -⟩ | ⟨-, ⟨-, rfl, -⟩ | ⟨q, -, ⟨f, -, rfl, -⟩ | ⟨i, -, visibleAt, -, rfl, -⟩⟩⟩ <;>
      simp [Event.handed, Except.map]
  all_goals simp [Event.handed]

/-- The ids of a queue after a call are those it held, in order, some perhaps dropped,
and perhaps the next id at the end. -/
theorem perform_ids {e : Event} (h : e.call.perform s = .ok (e.answer, s')) (name : String) :
  ∃ l, l.Sublist ((s.messagesOf name).map (·.id)) ∧
    ((s'.messagesOf name).map (·.id) = l ∨
      (s'.messagesOf name).map (·.id) = l ++ [idOf (s.issuedIds + 1)])
  := by
  -- a call that sets one queue to a part of what it held
  have narrowed : ∀ {t : Store} {n : String} {q q' : StoredQueue},
      (∀ n, t.messagesOf n = s.messagesOf n) → s.find? n = some q →
      (q'.messages.map (·.id)).Sublist (q.messages.map (·.id)) →
      ∃ l, l.Sublist ((s.messagesOf name).map (·.id)) ∧
        ((t.put n q').messagesOf name).map (·.id) = l := by
    intro t n q q' ht hq hsub
    rw [messagesOf_put]
    split_ifs with hn
    · subst hn
      exact ⟨_, (messagesOf_of_find? hq).symm ▸ hsub, rfl⟩
    · exact ⟨_, .refl _, by rw [ht]⟩
  have purged : ∀ (q : StoredQueue) (now : Instant),
      ((q.purge now).messages.map (·.id)).Sublist (q.messages.map (·.id)) :=
    fun q now => List.filter_sublist.map _
  obtain ⟨call, answer⟩ := e
  cases call with
  | createQueue n metadata =>
    obtain ⟨r, hr, -⟩ := map_answering_eq_ok.1 h
    rcases createQueue_eq_ok_iff.1 hr with ⟨-, rfl, -⟩ | ⟨-, ⟨-, -, rfl⟩ | ⟨-, -, rfl⟩⟩
    · exact ⟨_, .refl _, .inl (by simp)⟩
    · exact ⟨_, .refl _, .inl (by simp)⟩
    · rw [messagesOf_put]
      split_ifs
      · exact ⟨[], List.nil_sublist _, .inl rfl⟩
      · exact ⟨_, .refl _, .inl (by simp)⟩
  | deleteQueue n =>
    obtain ⟨r, hr, -⟩ := map_answering_eq_ok.1 h
    rcases deleteQueue_eq_ok_iff.1 hr with ⟨-, rfl, -⟩ | ⟨-, ⟨-, -, rfl⟩ | ⟨-, -, rfl⟩⟩
    · exact ⟨_, .refl _, .inl (by simp)⟩
    · rw [messagesOf_erase]
      split_ifs
      · exact ⟨[], List.nil_sublist _, .inl rfl⟩
      · exact ⟨_, .refl _, .inl (by simp)⟩
    · exact ⟨_, .refl _, .inl (by simp)⟩
  | putMessage now n text visibility ttl =>
    obtain ⟨r, hr, -⟩ := map_answering_eq_ok.1 h
    rcases putMessage_eq_ok_iff.1 hr with
      ⟨-, rfl, -⟩ | ⟨-, ⟨-, -, rfl⟩ | ⟨q, visibleAt, expiresAt, hq, -, -, -, rfl⟩⟩
    · exact ⟨_, .refl _, .inl (by simp)⟩
    · exact ⟨_, .refl _, .inl (by simp)⟩
    · rw [messagesOf_put]
      split_ifs with hn
      · -- the new message goes last, with the next id
        subst hn
        refine ⟨_, (messagesOf_of_find? hq).symm ▸ purged q now, .inr ?_⟩
        simp
      · exact ⟨_, .refl _, .inl (by simp)⟩
  | getMessages now n visibility maxCount =>
    obtain ⟨r, hr, -⟩ := map_answering_eq_ok.1 h
    rcases getMessages_eq_ok_iff.1 hr with
      ⟨-, rfl, -⟩ | ⟨-, ⟨-, -, rfl⟩ | ⟨q, hq, -, -, rfl⟩ | ⟨q, hq, -, leaseEnd, -, -, rfl⟩⟩
    · exact ⟨_, .refl _, .inl (by simp)⟩
    · exact ⟨_, .refl _, .inl (by simp)⟩
    · exact (narrowed (by simp) hq (purged q now)).imp fun _ h => ⟨h.1, .inl h.2⟩
    · -- a lease keeps the ids of the queue
      have hsub : (({ q with messages := (s.getLease now leaseEnd q maxCount).1 } :
          StoredQueue).messages.map (·.id)).Sublist (q.messages.map (·.id)) := by
        dsimp only
        rw [leaseAll_ids]
        exact purged q now
      exact (narrowed (by simp) hq hsub).imp fun _ h => ⟨h.1, .inl h.2⟩
  | deleteMessage now n id receipt =>
    obtain ⟨r, hr, -⟩ := map_answering_eq_ok.1 h
    rcases deleteMessage_eq_ok_iff.1 hr with
      ⟨-, rfl, -⟩ | ⟨-, ⟨-, -, rfl⟩ | ⟨q, hq, ⟨f, -, -, rfl⟩ | ⟨i, -, -, rfl⟩⟩⟩
    · exact ⟨_, .refl _, .inl (by simp)⟩
    · exact ⟨_, .refl _, .inl (by simp)⟩
    · exact (narrowed (by simp) hq (purged q now)).imp fun _ h => ⟨h.1, .inl h.2⟩
    · exact (narrowed (by simp) hq (((List.eraseIdx_sublist _ _).map _).trans
        (purged q now))).imp fun _ h => ⟨h.1, .inl h.2⟩
  | updateMessage now n text id receipt visibility =>
    obtain ⟨r, hr, -⟩ := map_answering_eq_ok.1 h
    rcases updateMessage_eq_ok_iff.1 hr with
      ⟨-, rfl, -⟩ | ⟨-, ⟨-, -, rfl⟩ | ⟨q, hq, ⟨f, -, -, rfl⟩ | ⟨i, -, visibleAt, -, -, rfl⟩⟩⟩
    · exact ⟨_, .refl _, .inl (by simp)⟩
    · exact ⟨_, .refl _, .inl (by simp)⟩
    · exact (narrowed (by simp) hq (purged q now)).imp fun _ h => ⟨h.1, .inl h.2⟩
    · refine (narrowed (by simp) hq ?_).imp fun _ h => ⟨h.1, .inl h.2⟩
      dsimp only
      rw [modify_ids]
      · exact purged q now
      · intro m
        rfl
  | getMetadata now n =>
    obtain ⟨r, hr, -⟩ := map_answering_eq_ok.1 h
    rcases getMetadata_eq_ok_iff.1 hr with ⟨-, rfl, -⟩ | ⟨-, ⟨-, -, rfl⟩ | ⟨q, hq, -, rfl⟩⟩
    · exact ⟨_, .refl _, .inl (by simp)⟩
    · exact ⟨_, .refl _, .inl (by simp)⟩
    · exact (narrowed (by simp) hq (purged q now)).imp fun _ h => ⟨h.1, .inl h.2⟩
  | setMetadata n metadata =>
    obtain ⟨r, hr, -⟩ := map_answering_eq_ok.1 h
    rcases setMetadata_eq_ok_iff.1 hr with ⟨-, rfl, -⟩ | ⟨-, ⟨-, -, rfl⟩ | ⟨q, hq, -, rfl⟩⟩
    · exact ⟨_, .refl _, .inl (by simp)⟩
    · exact ⟨_, .refl _, .inl (by simp)⟩
    · exact (narrowed (by simp) hq (by simp)).imp fun _ h => ⟨h.1, .inl h.2⟩
  | listQueues stem marker withMetadata =>
    obtain ⟨r, hr, -⟩ := map_answering_eq_ok.1 h
    rcases listQueues_eq_ok_iff.1 hr with ⟨-, rfl, -⟩ | ⟨-, -, rfl⟩ <;>
      exact ⟨_, .refl _, .inl (by simp)⟩

/-- A put hands nothing out. -/
theorem handed_of_putMessage {e : Event} {now : Instant} {name text : String}
    {visibility ttl : Duration} (hc : e.call = .putMessage now name text visibility ttl) :
  e.handed = []
  := by
  obtain ⟨call, answer⟩ := e
  subst hc
  rfl

/-- A message held after a call was held before under the same name, or was just put, or
is handed out by the call with the expiry of a message held before with its id. -/
theorem Origin.trichotomy {e : Event} (o : Origin s e s' name m') :
  m' ∈ s.messagesOf name ∨
  (∃ now text visibility ttl, e.call = .putMessage now name text visibility ttl ∧
    m'.id = idOf (s.issuedIds + 1) ∧ m'.receipt = receiptOf (s.issuedReceipts + 1) ∧
    s'.issuedIds = s.issuedIds + 1 ∧ s'.issuedReceipts = s.issuedReceipts + 1) ∨
  ((m'.id, m'.receipt) ∈ e.handed ∧
    ∃ m ∈ s.messagesOf name, m'.id = m.id ∧ m'.expiresAt = m.expiresAt)
  := by
  cases o with
  | kept hm => exact .inl hm
  | put hcall hid hr hi hr' => exact .inr (.inl ⟨_, _, _, _, hcall, hid, hr, hi, hr'⟩)
  | leased hm _ _ _ _ hid _ hexp hh => exact .inr (.inr ⟨hh, _, hm, hid, hexp⟩)
  | updated hm _ _ hid hexp hh => exact .inr (.inr ⟨hh, _, hm, hid, hexp⟩)

/-- A call never takes a counter back, and raises the id counter by at most one and the
receipt counter by at most the most messages one get returns. -/
theorem perform_issued_range {e : Event} (h : e.call.perform s = .ok (e.answer, s')) :
  (s.issuedIds ≤ s'.issuedIds ∧ s'.issuedIds ≤ s.issuedIds + 1) ∧
    (s.issuedReceipts ≤ s'.issuedReceipts ∧
      s'.issuedReceipts ≤ s.issuedReceipts + maxMessagesPerGet)
  := by
  obtain ⟨call, answer⟩ := e
  cases call with
  | createQueue n metadata =>
    obtain ⟨r, hr, -⟩ := map_answering_eq_ok.1 h
    rcases createQueue_eq_ok_iff.1 hr with ⟨-, rfl, -⟩ | ⟨-, ⟨-, -, rfl⟩ | ⟨-, -, rfl⟩⟩ <;>
      simp
  | deleteQueue n =>
    obtain ⟨r, hr, -⟩ := map_answering_eq_ok.1 h
    rcases deleteQueue_eq_ok_iff.1 hr with ⟨-, rfl, -⟩ | ⟨-, ⟨-, -, rfl⟩ | ⟨-, -, rfl⟩⟩ <;>
      simp
  | putMessage now n text visibility ttl =>
    obtain ⟨r, hr, -⟩ := map_answering_eq_ok.1 h
    rcases putMessage_eq_ok_iff.1 hr with
      ⟨-, rfl, -⟩ | ⟨-, ⟨-, -, rfl⟩ | ⟨-, -, -, -, -, -, -, rfl⟩⟩ <;> simp [maxMessagesPerGet]
  | getMessages now n visibility maxCount =>
    obtain ⟨r, hr, -⟩ := map_answering_eq_ok.1 h
    rcases getMessages_eq_ok_iff.1 hr with
      ⟨-, rfl, -⟩ | ⟨-, ⟨-, -, rfl⟩ | ⟨-, -, -, -, rfl⟩ | ⟨q, -, -, leaseEnd, -, -, rfl⟩⟩
    · simp
    · simp
    · simp
    · -- a get leases at most as many messages as it may return
      have hgot : (leaseAll now leaseEnd s.issuedReceipts (q.purge now).messages
          (min (max maxCount 1) maxMessagesPerGet)).2.1.length ≤
          min (max maxCount 1) maxMessagesPerGet :=
        leaseAll_got_length_le now leaseEnd _ _ _
      simp only [put_issuedIds, enter_issuedIds, leaseAll_issued]
      omega
  | deleteMessage now n id receipt =>
    obtain ⟨r, hr, -⟩ := map_answering_eq_ok.1 h
    rcases deleteMessage_eq_ok_iff.1 hr with
      ⟨-, rfl, -⟩ | ⟨-, ⟨-, -, rfl⟩ | ⟨-, -, ⟨-, -, -, rfl⟩ | ⟨-, -, -, rfl⟩⟩⟩ <;> simp
  | updateMessage now n text id receipt visibility =>
    obtain ⟨r, hr, -⟩ := map_answering_eq_ok.1 h
    rcases updateMessage_eq_ok_iff.1 hr with
      ⟨-, rfl, -⟩ | ⟨-, ⟨-, -, rfl⟩ | ⟨-, -, ⟨-, -, -, rfl⟩ | ⟨-, -, -, -, -, rfl⟩⟩⟩ <;>
      simp [maxMessagesPerGet]
  | getMetadata now n =>
    obtain ⟨r, hr, -⟩ := map_answering_eq_ok.1 h
    rcases getMetadata_eq_ok_iff.1 hr with ⟨-, rfl, -⟩ | ⟨-, ⟨-, -, rfl⟩ | ⟨-, -, -, rfl⟩⟩ <;>
      simp
  | setMetadata n metadata =>
    obtain ⟨r, hr, -⟩ := map_answering_eq_ok.1 h
    rcases setMetadata_eq_ok_iff.1 hr with ⟨-, rfl, -⟩ | ⟨-, ⟨-, -, rfl⟩ | ⟨-, -, -, rfl⟩⟩ <;>
      simp
  | listQueues stem marker withMetadata =>
    obtain ⟨r, hr, -⟩ := map_answering_eq_ok.1 h
    rcases listQueues_eq_ok_iff.1 hr with ⟨-, rfl, -⟩ | ⟨-, -, rfl⟩ <;> simp

/-- A call never takes a counter back. -/
theorem perform_issued {e : Event} (h : e.call.perform s = .ok (e.answer, s')) :
  s.issuedIds ≤ s'.issuedIds ∧ s.issuedReceipts ≤ s'.issuedReceipts
  := ⟨(perform_issued_range h).1.1, (perform_issued_range h).2.1⟩

/-- A call on a store without failure rules leaves it without failure rules. -/
theorem perform_rules {e : Event} (h : e.call.perform s = .ok (e.answer, s'))
    (hr : s.rules = []) :
  s'.rules = []
  := by
  have hent : ∀ op queue, (s.enter op queue).2.rules = [] := by
    intro op queue
    simp [enter_snd, hr]
  obtain ⟨call, answer⟩ := e
  cases call with
  | createQueue n metadata =>
    obtain ⟨r, hr, -⟩ := map_answering_eq_ok.1 h
    rcases createQueue_eq_ok_iff.1 hr with ⟨-, rfl, -⟩ | ⟨-, ⟨-, -, rfl⟩ | ⟨-, -, rfl⟩⟩ <;>
      simp [put, hent]
  | deleteQueue n =>
    obtain ⟨r, hr, -⟩ := map_answering_eq_ok.1 h
    rcases deleteQueue_eq_ok_iff.1 hr with ⟨-, rfl, -⟩ | ⟨-, ⟨-, -, rfl⟩ | ⟨-, -, rfl⟩⟩ <;>
      simp [erase, hent]
  | putMessage now n text visibility ttl =>
    obtain ⟨r, hr, -⟩ := map_answering_eq_ok.1 h
    rcases putMessage_eq_ok_iff.1 hr with
      ⟨-, rfl, -⟩ | ⟨-, ⟨-, -, rfl⟩ | ⟨-, -, -, -, -, -, -, rfl⟩⟩ <;> simp [put, hent]
  | getMessages now n visibility maxCount =>
    obtain ⟨r, hr, -⟩ := map_answering_eq_ok.1 h
    rcases getMessages_eq_ok_iff.1 hr with
      ⟨-, rfl, -⟩ | ⟨-, ⟨-, -, rfl⟩ | ⟨-, -, -, -, rfl⟩ | ⟨-, -, -, -, -, -, rfl⟩⟩ <;>
      simp [put, hent]
  | deleteMessage now n id receipt =>
    obtain ⟨r, hr, -⟩ := map_answering_eq_ok.1 h
    rcases deleteMessage_eq_ok_iff.1 hr with
      ⟨-, rfl, -⟩ | ⟨-, ⟨-, -, rfl⟩ | ⟨-, -, ⟨-, -, -, rfl⟩ | ⟨-, -, -, rfl⟩⟩⟩ <;>
      simp [put, hent]
  | updateMessage now n text id receipt visibility =>
    obtain ⟨r, hr, -⟩ := map_answering_eq_ok.1 h
    rcases updateMessage_eq_ok_iff.1 hr with
      ⟨-, rfl, -⟩ | ⟨-, ⟨-, -, rfl⟩ | ⟨-, -, ⟨-, -, -, rfl⟩ | ⟨-, -, -, -, -, rfl⟩⟩⟩ <;>
      simp [put, hent]
  | getMetadata now n =>
    obtain ⟨r, hr, -⟩ := map_answering_eq_ok.1 h
    rcases getMetadata_eq_ok_iff.1 hr with ⟨-, rfl, -⟩ | ⟨-, ⟨-, -, rfl⟩ | ⟨-, -, -, rfl⟩⟩ <;>
      simp [put, hent]
  | setMetadata n metadata =>
    obtain ⟨r, hr, -⟩ := map_answering_eq_ok.1 h
    rcases setMetadata_eq_ok_iff.1 hr with ⟨-, rfl, -⟩ | ⟨-, ⟨-, -, rfl⟩ | ⟨-, -, -, rfl⟩⟩ <;>
      simp [put, hent]
  | listQueues stem marker withMetadata =>
    obtain ⟨r, hr, -⟩ := map_answering_eq_ok.1 h
    rcases listQueues_eq_ok_iff.1 hr with ⟨-, rfl, -⟩ | ⟨-, -, rfl⟩ <;> simp [hent]

/-! ### Along runs -/

/-- What holds of a store and is kept by every event of a run holds at its end. -/
theorem Run.preserves {P : Store → Prop} {es : List Event} (hrun : Run s es s') (hs : P s)
    (step : ∀ e ∈ es, ∀ {s₁ s₂ : Store}, P s₁ → e.call.perform s₁ = .ok (e.answer, s₂) →
      P s₂) :
  P s'
  := by
  induction hrun with
  | nil => exact hs
  | cons hstep _ ih =>
    exact ih (step _ List.mem_cons_self hs hstep) fun e he => step e (List.mem_cons_of_mem _ he)

/-- A run never takes a counter back. -/
theorem Run.issued {es : List Event} (hrun : Run s es s') :
  s.issuedIds ≤ s'.issuedIds ∧ s.issuedReceipts ≤ s'.issuedReceipts
  := by
  induction hrun with
  | nil => exact ⟨le_refl _, le_refl _⟩
  | cons hstep _ ih =>
    have := perform_issued hstep
    omega

/-- Along a run each call raises the id counter by at most one, and the receipt counter by
at most the most messages one get returns. -/
theorem Run.issued_le {es : List Event} (hrun : Run s es s') :
  s'.issuedIds ≤ s.issuedIds + es.length ∧
    s'.issuedReceipts ≤ s.issuedReceipts + maxMessagesPerGet * es.length
  := by
  induction hrun with
  | nil => simp
  | cons hstep _ ih =>
    have := perform_issued_range hstep
    simp only [List.length_cons, Nat.mul_succ]
    omega

/-- A run from the empty store of fewer than `2⁵⁹` calls issues fewer than `2⁶⁴` ids and
receipts: its counters stay in the range of an unsigned 64-bit number, where counting in
natural numbers counts as the store does. -/
theorem Run.issued_lt_of_length {pageSize : Nat} {es : List Event} (hrun : Run (empty pageSize) es s')
    (hlen : es.length < 2 ^ 59) :
  s'.issuedIds < 2 ^ 64 ∧ s'.issuedReceipts < 2 ^ 64
  := by
  have h := hrun.issued_le
  simp only [empty, maxMessagesPerGet] at h
  omega

/-- A run from a store without failure rules never meets one. -/
theorem Run.rules {es : List Event} (hrun : Run s es s') (hr : s.rules = []) :
  s'.rules = []
  := hrun.invariant (fun hr h => perform_rules h hr) hr

end Store

end TaskQueue
