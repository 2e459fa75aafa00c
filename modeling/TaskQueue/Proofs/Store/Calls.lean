import TaskQueue.Proofs.Store.Messages

/-!
# What each call of a store does

One statement per operation says everything a call can do, as an equivalence: the call
answers `r` and leaves `s'` exactly when one of its outcomes holds.  Every call is first
counted (`Store.enter`); when a failure rule fires, it answers the injected fault and the
counted store.  Otherwise its outcomes follow its branches, and each names the store it
leaves: the counted store, with counters drawn and one queue set or removed.

Later proofs take a call apart with these statements and never unfold the call.  The view
they work through is `Store.messagesOf`, the messages held under a name.
-/

namespace TaskQueue

open Time

namespace Store

/-! ### The messages under a name -/

/-- The messages a store holds under a name; none when there is no such queue. -/
def messagesOf (s : Store) (name : String) : List StoredMessage :=
  ((s.find? name).map (·.messages)).getD []

theorem messagesOf_of_find? {s : Store} {name : String} {q : StoredQueue}
    (h : s.find? name = some q) :
  s.messagesOf name = q.messages
  := by
  rw [messagesOf, h]
  rfl

theorem messagesOf_of_find?_none {s : Store} {name : String} (h : s.find? name = none) :
  s.messagesOf name = []
  := by
  rw [messagesOf, h]
  rfl

@[simp]
theorem messagesOf_put (s : Store) (n : String) (q : StoredQueue) (n' : String) :
  (s.put n q).messagesOf n' = if n' = n then q.messages else s.messagesOf n'
  := by
  by_cases h : n' = n
  · rw [if_pos h, messagesOf_of_find? (show (s.put n q).find? n' = some q by simp [h])]
  · rw [if_neg h, messagesOf, find?_put, if_neg h]
    rfl

@[simp]
theorem messagesOf_erase (s : Store) (n n' : String) :
  (s.erase n).messagesOf n' = if n' = n then [] else s.messagesOf n'
  := by
  by_cases h : n' = n
  · rw [if_pos h, messagesOf_of_find?_none (by simp [h])]
  · rw [if_neg h, messagesOf, find?_erase, if_neg h]
    rfl

@[simp]
theorem messagesOf_mk (qs : List (String × StoredQueue)) (ids receipts : Nat)
    (calls : Operation → Nat) (rules : List FailureRule) (pageSize : Nat) (n : String) :
  (Store.mk qs ids receipts calls rules pageSize).messagesOf n =
    ((qs.lookup n).map (·.messages)).getD []
  := rfl

@[simp]
theorem getD_map_find? (s : Store) (n : String) :
  ((s.find? n).map (·.messages)).getD [] = s.messagesOf n
  := rfl

@[simp]
theorem messagesOf_enter (s : Store) (op : Operation) (queue n : String) :
  (s.enter op queue).2.messagesOf n = s.messagesOf n
  := by
  rw [messagesOf, find?_enter]
  rfl

/-! ### One statement per operation -/

variable {s s' : Store} {now : Instant} {name : String}

theorem createQueue_eq_ok_iff {metadata : Option Metadata} {r : Except Fault Unit} :
  s.createQueue name metadata = .ok (r, s') ↔
    (r = .error (injected .createQueue name) ∧ s' = (s.enter .createQueue name).2 ∧
      (FailureRule.consume .createQueue name s.rules).isSome) ∨
    (FailureRule.consume .createQueue name s.rules = none ∧
      ((s.exists? name = true ∧ r = .error (.queueAlreadyExists name) ∧
        s' = (s.enter .createQueue name).2) ∨
      (s.exists? name = false ∧ r = .ok () ∧
        s' = (s.enter .createQueue name).2.put name ⟨metadata.getD [], []⟩)))
  := by
  unfold createQueue
  cases hc : FailureRule.consume .createQueue name s.rules with
  | some rules =>
    rw [enter_of_consume_some hc]
    simp [pure, Except.pure, @eq_comm _ _ r, @eq_comm _ _ s']
  | none =>
    rw [enter_of_consume hc]
    have hex : (s.enter .createQueue name).2.exists? name = s.exists? name := by
      simp [exists?, enter_snd]
    cases he : s.exists? name <;> simp [hex, he, pure, Except.pure, @eq_comm _ _ r,
      @eq_comm _ _ s']

theorem deleteQueue_eq_ok_iff {r : Except Fault Unit} :
  s.deleteQueue name = .ok (r, s') ↔
    (r = .error (injected .deleteQueue name) ∧ s' = (s.enter .deleteQueue name).2 ∧
      (FailureRule.consume .deleteQueue name s.rules).isSome) ∨
    (FailureRule.consume .deleteQueue name s.rules = none ∧
      ((s.exists? name = true ∧ r = .ok () ∧ s' = (s.enter .deleteQueue name).2.erase name) ∨
      (s.exists? name = false ∧ r = .error (.queueNotFound name) ∧
        s' = (s.enter .deleteQueue name).2)))
  := by
  unfold deleteQueue
  cases hc : FailureRule.consume .deleteQueue name s.rules with
  | some rules =>
    rw [enter_of_consume_some hc]
    simp [pure, Except.pure, @eq_comm _ _ r, @eq_comm _ _ s']
  | none =>
    rw [enter_of_consume hc]
    have hex : (s.enter .deleteQueue name).2.exists? name = s.exists? name := by
      simp [exists?, enter_snd]
    cases he : s.exists? name <;> simp [hex, he, pure, Except.pure, @eq_comm _ _ r,
      @eq_comm _ _ s']

theorem putMessage_eq_ok_iff {text : String} {visibility ttl : Duration}
    {r : Except Fault Unit} :
  s.putMessage now name text visibility ttl = .ok (r, s') ↔
    (r = .error (injected .putMessage name) ∧ s' = (s.enter .putMessage name).2 ∧
      (FailureRule.consume .putMessage name s.rules).isSome) ∨
    (FailureRule.consume .putMessage name s.rules = none ∧
      ((s.find? name = none ∧ r = .error (.queueNotFound name) ∧
        s' = { (s.enter .putMessage name).2 with
          issuedIds := s.issuedIds + 1, issuedReceipts := s.issuedReceipts + 1 }) ∨
      (∃ q visibleAt expiresAt, s.find? name = some q ∧
        now.add? visibility.storeSpan = some visibleAt ∧ now.add? ttl.storeSpan = some expiresAt ∧
        r = .ok () ∧
        s' = ({ (s.enter .putMessage name).2 with
          issuedIds := s.issuedIds + 1, issuedReceipts := s.issuedReceipts + 1 }).put name
          { q with messages := (q.purge now).messages ++
            [(⟨idOf (s.issuedIds + 1), receiptOf (s.issuedReceipts + 1), text, visibleAt,
              expiresAt⟩ : StoredMessage)] })))
  := by
  unfold putMessage
  cases hc : FailureRule.consume .putMessage name s.rules with
  | some rules =>
    rw [enter_of_consume_some hc]
    simp [pure, Except.pure, @eq_comm _ _ r, @eq_comm _ _ s']
  | none =>
    rw [enter_of_consume hc]
    simp only [nextId_snd, nextReceipt_snd, nextId_fst_eq, nextReceipt_fst_eq, need_eq,
      find?_mk, enter_queues, enter_issuedIds, enter_issuedReceipts, lookup_queues]
    cases s.find? name <;> simp [pure, Except.pure, @eq_comm _ _ r, @eq_comm _ _ s']

/-- The lease a get makes of a queue's unexpired messages: at most `maxCount` of them,
and at least one, up to the most one get returns. -/
abbrev getLease (s : Store) (now leaseEnd : Instant) (q : StoredQueue) (maxCount : Nat) :
    List StoredMessage × List RawMessage × Nat :=
  leaseAll now leaseEnd s.issuedReceipts (q.purge now).messages
    (min (max maxCount 1) maxMessagesPerGet)

theorem getMessages_eq_ok_iff {visibility : Duration} {maxCount : Nat}
    {r : Except Fault (List RawMessage)} :
  s.getMessages now name visibility maxCount = .ok (r, s') ↔
    (r = .error (injected .getMessages name) ∧ s' = (s.enter .getMessages name).2 ∧
      (FailureRule.consume .getMessages name s.rules).isSome) ∨
    (FailureRule.consume .getMessages name s.rules = none ∧
      ((s.find? name = none ∧ r = .error (.queueNotFound name) ∧
        s' = (s.enter .getMessages name).2) ∨
      (∃ q, s.find? name = some q ∧ (q.purge now).messages.any (·.isVisible now) = false ∧
        r = .ok [] ∧ s' = (s.enter .getMessages name).2.put name (q.purge now)) ∨
      (∃ q, s.find? name = some q ∧ (q.purge now).messages.any (·.isVisible now) = true ∧
        ∃ leaseEnd, now.add? visibility.storeSpan = some leaseEnd ∧
        r = .ok (s.getLease now leaseEnd q maxCount).2.1 ∧
        s' = { (s.enter .getMessages name).2.put name
          { q with messages := (s.getLease now leaseEnd q maxCount).1 } with
          issuedReceipts := (s.getLease now leaseEnd q maxCount).2.2 })))
  := by
  unfold getMessages
  cases hc : FailureRule.consume .getMessages name s.rules with
  | some rules =>
    rw [enter_of_consume_some hc]
    simp [pure, Except.pure, @eq_comm _ _ r, @eq_comm _ _ s']
  | none =>
    rw [enter_of_consume hc]
    simp only [need_eq, enter_issuedReceipts]
    rw [find?_enter]
    cases s.find? name with
    | none => simp [pure, Except.pure, @eq_comm _ _ r, @eq_comm _ _ s']
    | some q =>
      simp only [Option.some_inj, exists_eq_left', reduceCtorEq, false_and, false_or]
      generalize (q.purge now).messages.any (·.isVisible now) = visible
      cases visible <;> simp [getLease, pure, Except.pure, @eq_comm _ _ r, @eq_comm _ _ s']

theorem deleteMessage_eq_ok_iff {id receipt : String} {r : Except Fault Unit} :
  s.deleteMessage now name id receipt = .ok (r, s') ↔
    (r = .error (injected .deleteMessage name) ∧ s' = (s.enter .deleteMessage name).2 ∧
      (FailureRule.consume .deleteMessage name s.rules).isSome) ∨
    (FailureRule.consume .deleteMessage name s.rules = none ∧
      ((s.find? name = none ∧ r = .error (.queueNotFound name) ∧
        s' = (s.enter .deleteMessage name).2) ∨
      (∃ q, s.find? name = some q ∧
        ((∃ f, locate name id receipt (q.purge now).messages = .error f ∧ r = .error f ∧
          s' = (s.enter .deleteMessage name).2.put name (q.purge now)) ∨
        (∃ i, locate name id receipt (q.purge now).messages = .ok i ∧ r = .ok () ∧
          s' = (s.enter .deleteMessage name).2.put name
            { q with messages := (q.purge now).messages.eraseIdx i })))))
  := by
  unfold deleteMessage
  cases hc : FailureRule.consume .deleteMessage name s.rules with
  | some rules =>
    rw [enter_of_consume_some hc]
    simp [pure, Except.pure, @eq_comm _ _ r, @eq_comm _ _ s']
  | none =>
    rw [enter_of_consume hc]
    simp only [need_eq, find?_enter]
    cases s.find? name with
    | none => simp [pure, Except.pure, @eq_comm _ _ r, @eq_comm _ _ s']
    | some q =>
      simp only [Option.some_inj, exists_eq_left', reduceCtorEq, false_and, false_or]
      cases locate name id receipt (q.purge now).messages <;>
        simp [pure, Except.pure, @eq_comm _ _ r, @eq_comm _ _ s']

theorem updateMessage_eq_ok_iff {text id receipt : String} {visibility : Duration}
    {r : Except Fault String} :
  s.updateMessage now name text id receipt visibility = .ok (r, s') ↔
    (r = .error (injected .updateMessage name) ∧ s' = (s.enter .updateMessage name).2 ∧
      (FailureRule.consume .updateMessage name s.rules).isSome) ∨
    (FailureRule.consume .updateMessage name s.rules = none ∧
      ((s.find? name = none ∧ r = .error (.queueNotFound name) ∧
        s' = { (s.enter .updateMessage name).2 with issuedReceipts := s.issuedReceipts + 1 }) ∨
      (∃ q, s.find? name = some q ∧
        ((∃ f, locate name id receipt (q.purge now).messages = .error f ∧ r = .error f ∧
          s' = { (s.enter .updateMessage name).2 with
            issuedReceipts := s.issuedReceipts + 1 }.put name (q.purge now)) ∨
        (∃ i, locate name id receipt (q.purge now).messages = .ok i ∧
          ∃ visibleAt, now.add? visibility.storeSpan = some visibleAt ∧
          r = .ok (receiptOf (s.issuedReceipts + 1)) ∧
          s' = { (s.enter .updateMessage name).2 with
            issuedReceipts := s.issuedReceipts + 1 }.put name
            { q with messages := (q.purge now).messages.modify i fun m =>
              { m with text, visibleAt, receipt := receiptOf (s.issuedReceipts + 1) } })))))
  := by
  unfold updateMessage
  cases hc : FailureRule.consume .updateMessage name s.rules with
  | some rules =>
    rw [enter_of_consume_some hc]
    simp [pure, Except.pure, @eq_comm _ _ r, @eq_comm _ _ s']
  | none =>
    rw [enter_of_consume hc]
    simp only [nextReceipt_snd, nextReceipt_fst_eq, need_eq, find?_mk, lookup_queues,
      find?_enter, enter_issuedReceipts]
    cases s.find? name with
    | none => simp [pure, Except.pure, @eq_comm _ _ r, @eq_comm _ _ s']
    | some q =>
      simp only [Option.some_inj, exists_eq_left', reduceCtorEq, false_and, false_or]
      cases locate name id receipt (q.purge now).messages <;>
        simp [pure, Except.pure, @eq_comm _ _ r, @eq_comm _ _ s']

theorem getMetadata_eq_ok_iff {r : Except Fault QueueProperties} :
  s.getMetadata now name = .ok (r, s') ↔
    (r = .error (injected .getMetadata name) ∧ s' = (s.enter .getMetadata name).2 ∧
      (FailureRule.consume .getMetadata name s.rules).isSome) ∨
    (FailureRule.consume .getMetadata name s.rules = none ∧
      ((s.find? name = none ∧ r = .error (.queueNotFound name) ∧
        s' = (s.enter .getMetadata name).2) ∨
      (∃ q, s.find? name = some q ∧ r = .ok ⟨q.metadata, (q.purge now).messages.length⟩ ∧
        s' = (s.enter .getMetadata name).2.put name (q.purge now))))
  := by
  unfold getMetadata
  cases hc : FailureRule.consume .getMetadata name s.rules with
  | some rules =>
    rw [enter_of_consume_some hc]
    simp [pure, Except.pure, @eq_comm _ _ r, @eq_comm _ _ s']
  | none =>
    rw [enter_of_consume hc]
    simp only [need_eq, find?_enter]
    cases s.find? name <;> simp [pure, Except.pure, @eq_comm _ _ r, @eq_comm _ _ s']

theorem setMetadata_eq_ok_iff {metadata : Metadata} {r : Except Fault Unit} :
  s.setMetadata name metadata = .ok (r, s') ↔
    (r = .error (injected .setMetadata name) ∧ s' = (s.enter .setMetadata name).2 ∧
      (FailureRule.consume .setMetadata name s.rules).isSome) ∨
    (FailureRule.consume .setMetadata name s.rules = none ∧
      ((s.find? name = none ∧ r = .error (.queueNotFound name) ∧
        s' = (s.enter .setMetadata name).2) ∨
      (∃ q, s.find? name = some q ∧ r = .ok () ∧
        s' = (s.enter .setMetadata name).2.put name { q with metadata })))
  := by
  unfold setMetadata
  cases hc : FailureRule.consume .setMetadata name s.rules with
  | some rules =>
    rw [enter_of_consume_some hc]
    simp [pure, Except.pure, @eq_comm _ _ r, @eq_comm _ _ s']
  | none =>
    rw [enter_of_consume hc]
    simp only [need_eq, find?_enter]
    cases s.find? name <;> simp [pure, Except.pure, @eq_comm _ _ r, @eq_comm _ _ s']

/-- The queues a listing from `marker` on goes through: those after the marker whose names
start with `stem`, in the order of the table. -/
def listable (s : Store) (stem : String) (marker : Option String) :
    List (String × StoredQueue) :=
  s.queues.filter fun e => marker.all (· < e.1) && e.1.startsWith stem

/-- The page a listing answers: of the queues after the marker whose names start with the
stem, the first `pageSize`, and the last name listed as the next marker when more are
left. -/
def listPage (s : Store) (stem : String) (marker : Option String) (withMetadata : Bool) :
    ListPage :=
  let listed := ((s.listable stem marker).take s.pageSize).map fun (n, q) =>
    (⟨n, if withMetadata then some q.metadata else none⟩ : Listing)
  ⟨listed,
    if s.pageSize < (s.listable stem marker).length then listed.getLast?.map (·.name)
    else none⟩

theorem listQueues_eq_ok_iff {stem : String} {marker : Option String} {withMetadata : Bool}
    {r : Except Fault ListPage} :
  s.listQueues stem marker withMetadata = .ok (r, s') ↔
    (r = .error (injected .listQueues stem) ∧ s' = (s.enter .listQueues stem).2 ∧
      (FailureRule.consume .listQueues stem s.rules).isSome) ∨
    (FailureRule.consume .listQueues stem s.rules = none ∧
      r = .ok (s.listPage stem marker withMetadata) ∧ s' = (s.enter .listQueues stem).2)
  := by
  unfold listQueues
  cases hc : FailureRule.consume .listQueues stem s.rules with
  | some rules =>
    rw [enter_of_consume_some hc]
    simp [pure, Except.pure, @eq_comm _ _ r, @eq_comm _ _ s']
  | none =>
    rw [enter_of_consume hc]
    simp [listPage, listable, pure, Except.pure, @eq_comm _ _ r, @eq_comm _ _ s']

/-! ### Calls as equations

The outcomes of a call as equations, for proofs that follow a computation made of calls.
-/

/-- An injected failure is a transient error. -/
@[simp]
theorem injected_kind (op : Operation) (queue : String) :
  (QueueError.ofFault (injected op queue)).kind = .transient
  := rfl

theorem getMetadata_of_consume_some {rules : List FailureRule} (now : Instant)
    (hc : FailureRule.consume .getMetadata name s.rules = some rules) :
  s.getMetadata now name = .ok (.error (injected .getMetadata name), (s.enter .getMetadata name).2)
  := getMetadata_eq_ok_iff.2 (.inl ⟨rfl, rfl, by simp [hc]⟩)

theorem getMetadata_of_find? {q : StoredQueue} (now : Instant)
    (hc : FailureRule.consume .getMetadata name s.rules = none) (hq : s.find? name = some q) :
  s.getMetadata now name = .ok (.ok ⟨q.metadata, (q.purge now).messages.length⟩,
    (s.enter .getMetadata name).2.put name (q.purge now))
  := getMetadata_eq_ok_iff.2 (.inr ⟨hc, .inr ⟨q, hq, rfl, rfl⟩⟩)

theorem deleteQueue_of_consume_some {rules : List FailureRule}
    (hc : FailureRule.consume .deleteQueue name s.rules = some rules) :
  s.deleteQueue name = .ok (.error (injected .deleteQueue name), (s.enter .deleteQueue name).2)
  := deleteQueue_eq_ok_iff.2 (.inl ⟨rfl, rfl, by simp [hc]⟩)

theorem deleteQueue_of_find? {q : StoredQueue}
    (hc : FailureRule.consume .deleteQueue name s.rules = none) (hq : s.find? name = some q) :
  s.deleteQueue name = .ok (.ok (), (s.enter .deleteQueue name).2.erase name)
  := deleteQueue_eq_ok_iff.2 (.inr ⟨hc, .inl ⟨(exists?_iff s name).2 ⟨q, hq⟩, rfl, rfl⟩⟩)

theorem listQueues_of_consume_some {stem : String} (marker : Option String)
    (withMetadata : Bool) {rules : List FailureRule}
    (hc : FailureRule.consume .listQueues stem s.rules = some rules) :
  s.listQueues stem marker withMetadata =
    .ok (.error (injected .listQueues stem), (s.enter .listQueues stem).2)
  := listQueues_eq_ok_iff.2 (.inl ⟨rfl, rfl, by simp [hc]⟩)

theorem listQueues_of_consume_none {stem : String} (marker : Option String)
    (withMetadata : Bool) (hc : FailureRule.consume .listQueues stem s.rules = none) :
  s.listQueues stem marker withMetadata =
    .ok (.ok (s.listPage stem marker withMetadata), (s.enter .listQueues stem).2)
  := listQueues_eq_ok_iff.2 (.inr ⟨hc, rfl, rfl⟩)

theorem getMetadata_of_find?_none (now : Instant)
    (hc : FailureRule.consume .getMetadata name s.rules = none) (hq : s.find? name = none) :
  s.getMetadata now name = .ok (.error (.queueNotFound name), (s.enter .getMetadata name).2)
  := getMetadata_eq_ok_iff.2 (.inr ⟨hc, .inl ⟨hq, rfl, rfl⟩⟩)

theorem setMetadata_of_find? {q : StoredQueue} (metadata : Metadata)
    (hc : FailureRule.consume .setMetadata name s.rules = none) (hq : s.find? name = some q) :
  s.setMetadata name metadata =
    .ok (.ok (), (s.enter .setMetadata name).2.put name { q with metadata })
  := setMetadata_eq_ok_iff.2 (.inr ⟨hc, .inr ⟨q, hq, rfl, rfl⟩⟩)

theorem createQueue_of_find?_none (metadata : Option Metadata)
    (hc : FailureRule.consume .createQueue name s.rules = none) (hq : s.find? name = none) :
  s.createQueue name metadata =
    .ok (.ok (), (s.enter .createQueue name).2.put name ⟨metadata.getD [], []⟩)
  := createQueue_eq_ok_iff.2 (.inr ⟨hc, .inr ⟨by simp [exists?, hq], rfl, rfl⟩⟩)

theorem putMessage_of_find? {q : StoredQueue} {text : String} {visibility ttl : Duration}
    {visibleAt expiresAt : Instant}
    (hc : FailureRule.consume .putMessage name s.rules = none) (hq : s.find? name = some q)
    (hv : now.add? visibility.storeSpan = some visibleAt)
    (he : now.add? ttl.storeSpan = some expiresAt) :
  s.putMessage now name text visibility ttl = .ok (.ok (),
    ({ (s.enter .putMessage name).2 with
      issuedIds := s.issuedIds + 1, issuedReceipts := s.issuedReceipts + 1 }).put name
      { q with messages := (q.purge now).messages ++
        [(⟨idOf (s.issuedIds + 1), receiptOf (s.issuedReceipts + 1), text, visibleAt,
          expiresAt⟩ : StoredMessage)] })
  := putMessage_eq_ok_iff.2 (.inr ⟨hc, .inr ⟨q, visibleAt, expiresAt, hq, hv, he, rfl, rfl⟩⟩)

/-- A message whose expiry is past the end of the calendar halts the put. -/
theorem putMessage_of_overflow {q : StoredQueue} {text : String} {visibility ttl : Duration}
    {visibleAt : Instant}
    (hc : FailureRule.consume .putMessage name s.rules = none) (hq : s.find? name = some q)
    (hv : now.add? visibility.storeSpan = some visibleAt)
    (he : now.add? ttl.storeSpan = none) :
  s.putMessage now name text visibility ttl = .error .addOverflow
  := by
  unfold putMessage
  rw [enter_of_consume hc]
  simp only [nextId_snd, nextReceipt_snd, need_eq, find?_mk, enter_queues, lookup_queues, hq]
  simp [Instant.plus, hv, he, bind, Except.bind]

/-- A message that would become visible past the end of the calendar halts the put. -/
theorem putMessage_of_late {q : StoredQueue} {text : String} {visibility ttl : Duration}
    (hc : FailureRule.consume .putMessage name s.rules = none) (hq : s.find? name = some q)
    (hv : now.add? visibility.storeSpan = none) :
  s.putMessage now name text visibility ttl = .error .addOverflow
  := by
  unfold putMessage
  rw [enter_of_consume hc]
  simp only [nextId_snd, nextReceipt_snd, need_eq, find?_mk, enter_queues, lookup_queues, hq]
  simp [Instant.plus, hv, bind, Except.bind]

theorem getMessages_of_invisible {q : StoredQueue} (visibility : Duration) (maxCount : Nat)
    (hc : FailureRule.consume .getMessages name s.rules = none) (hq : s.find? name = some q)
    (hv : (q.purge now).messages.any (·.isVisible now) = false) :
  s.getMessages now name visibility maxCount =
    .ok (.ok [], (s.enter .getMessages name).2.put name (q.purge now))
  := getMessages_eq_ok_iff.2 (.inr ⟨hc, .inr (.inl ⟨q, hq, hv, rfl, rfl⟩)⟩)

theorem getMessages_of_visible {q : StoredQueue} {visibility : Duration} (maxCount : Nat)
    {leaseEnd : Instant}
    (hc : FailureRule.consume .getMessages name s.rules = none) (hq : s.find? name = some q)
    (hv : (q.purge now).messages.any (·.isVisible now) = true)
    (hl : now.add? visibility.storeSpan = some leaseEnd) :
  s.getMessages now name visibility maxCount = .ok (.ok (s.getLease now leaseEnd q maxCount).2.1,
    { (s.enter .getMessages name).2.put name
      { q with messages := (s.getLease now leaseEnd q maxCount).1 } with
      issuedReceipts := (s.getLease now leaseEnd q maxCount).2.2 })
  := getMessages_eq_ok_iff.2 (.inr ⟨hc, .inr (.inr ⟨q, hq, hv, leaseEnd, hl, rfl, rfl⟩)⟩)

/-- A lease that would end past the end of the calendar halts the get. -/
theorem getMessages_of_overflow {q : StoredQueue} {visibility : Duration} (maxCount : Nat)
    (hc : FailureRule.consume .getMessages name s.rules = none) (hq : s.find? name = some q)
    (hv : (q.purge now).messages.any (·.isVisible now) = true)
    (hl : now.add? visibility.storeSpan = none) :
  s.getMessages now name visibility maxCount = .error .addOverflow
  := by
  unfold getMessages
  rw [enter_of_consume hc]
  simp only [need_eq, find?_enter, hq, hv, if_true]
  simp [Instant.plus, hl, bind, Except.bind]

theorem deleteMessage_of_locate {q : StoredQueue} {id receipt : String} {i : Nat}
    (hc : FailureRule.consume .deleteMessage name s.rules = none) (hq : s.find? name = some q)
    (hi : locate name id receipt (q.purge now).messages = .ok i) :
  s.deleteMessage now name id receipt = .ok (.ok (),
    (s.enter .deleteMessage name).2.put name { q with messages := (q.purge now).messages.eraseIdx i })
  := deleteMessage_eq_ok_iff.2 (.inr ⟨hc, .inr ⟨q, hq, .inr ⟨i, hi, rfl, rfl⟩⟩⟩)

theorem deleteMessage_of_locate_error {q : StoredQueue} {id receipt : String} {f : Fault}
    (hc : FailureRule.consume .deleteMessage name s.rules = none) (hq : s.find? name = some q)
    (hf : locate name id receipt (q.purge now).messages = .error f) :
  s.deleteMessage now name id receipt =
    .ok (.error f, (s.enter .deleteMessage name).2.put name (q.purge now))
  := deleteMessage_eq_ok_iff.2 (.inr ⟨hc, .inr ⟨q, hq, .inl ⟨f, hf, rfl, rfl⟩⟩⟩)

theorem updateMessage_of_locate {q : StoredQueue} {text id receipt : String}
    {visibility : Duration} {i : Nat} {visibleAt : Instant}
    (hc : FailureRule.consume .updateMessage name s.rules = none) (hq : s.find? name = some q)
    (hi : locate name id receipt (q.purge now).messages = .ok i)
    (hv : now.add? visibility.storeSpan = some visibleAt) :
  s.updateMessage now name text id receipt visibility = .ok (.ok (receiptOf (s.issuedReceipts + 1)),
    { (s.enter .updateMessage name).2 with issuedReceipts := s.issuedReceipts + 1 }.put name
      { q with messages := (q.purge now).messages.modify i fun m =>
        { m with text, visibleAt, receipt := receiptOf (s.issuedReceipts + 1) } })
  := updateMessage_eq_ok_iff.2 (.inr ⟨hc, .inr ⟨q, hq, .inr ⟨i, hi, visibleAt, hv, rfl, rfl⟩⟩⟩)

theorem updateMessage_of_locate_error {q : StoredQueue} {text id receipt : String}
    {visibility : Duration} {f : Fault}
    (hc : FailureRule.consume .updateMessage name s.rules = none) (hq : s.find? name = some q)
    (hf : locate name id receipt (q.purge now).messages = .error f) :
  s.updateMessage now name text id receipt visibility = .ok (.error f,
    { (s.enter .updateMessage name).2 with issuedReceipts := s.issuedReceipts + 1 }.put name
      (q.purge now))
  := updateMessage_eq_ok_iff.2 (.inr ⟨hc, .inr ⟨q, hq, .inl ⟨f, hf, rfl, rfl⟩⟩⟩)

end Store

end TaskQueue
