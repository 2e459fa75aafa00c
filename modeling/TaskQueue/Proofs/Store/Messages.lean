import TaskQueue.Proofs.Store.Basic
import Mathlib.Data.List.Forall2

/-!
# Lists of stored messages

The calls of a store change a queue's list of messages in four ways: dropping the expired
ones (`StoredQueue.purge`), leasing the first visible ones (`Store.leaseAll`), and, once a
message is found by its id (`Store.locate`), removing it or rewriting it.

Ids and pop receipts are drawn from counters: the id numbered `k` is `idOf k` and the
receipt numbered `k` is `receiptOf k`, and different numbers give different texts
(`idOf_inj`, `receiptOf_inj`).

When the ids of a list are distinct, removing or rewriting the message `locate` finds is
removing or rewriting the message with that id (`eraseIdx_of_findIdx?`,
`modify_of_findIdx?`).  Leasing goes message by message (`leaseAll_forall₂`): each message
is kept as it was, or, when it is visible, given the lease's end and a receipt drawn
during the lease, and then it is among those the lease answers.  The lease answers the
first visible messages, as many as asked and in order (`leaseAll_got`), with receipts
drawn one after another (`leaseAll_receipts`).
-/

namespace TaskQueue

open Time

namespace Store

/-! ### Numbered ids and receipts -/

/-- The message id numbered `k`. -/
def idOf (k : Nat) : String := "msg-" ++ toString k

/-- The pop receipt numbered `k`. -/
def receiptOf (k : Nat) : String := "receipt-" ++ toString k

/-- A text followed by a number in decimal tells the number. -/
theorem append_toString_inj (stem : String) {k k' : Nat}
    (h : stem ++ toString k = stem ++ toString k') :
  k = k'
  := by
  have hchars : (toString k).toList = (toString k').toList :=
    List.append_cancel_left (by simpa only [String.toList_append] using congrArg String.toList h)
  simp only [Nat.toString_eq_ofList_toDigits, String.toList_ofList] at hchars
  calc k = Nat.ofDigitChars 10 (Nat.toDigits 10 k) 0 := Nat.ofDigitChars_ten_toDigits.symm
    _ = Nat.ofDigitChars 10 (Nat.toDigits 10 k') 0 := by rw [hchars]
    _ = k' := Nat.ofDigitChars_ten_toDigits

theorem idOf_inj {k k' : Nat} :
  idOf k = idOf k' ↔ k = k'
  := ⟨append_toString_inj "msg-", fun h => h ▸ rfl⟩

theorem receiptOf_inj {k k' : Nat} :
  receiptOf k = receiptOf k' ↔ k = k'
  := ⟨append_toString_inj "receipt-", fun h => h ▸ rfl⟩

@[simp]
theorem nextId_fst_eq (s : Store) :
  s.nextId.1 = idOf (s.issuedIds + 1)
  := rfl

@[simp]
theorem nextReceipt_fst_eq (s : Store) :
  s.nextReceipt.1 = receiptOf (s.issuedReceipts + 1)
  := rfl

end Store

/-! ### Purging -/

@[simp]
theorem StoredQueue.purge_messages (now : Instant) (q : StoredQueue) :
  (q.purge now).messages = q.messages.filter (·.isLive now)
  := rfl

@[simp]
theorem StoredQueue.purge_metadata (now : Instant) (q : StoredQueue) :
  (q.purge now).metadata = q.metadata
  := rfl

theorem StoredMessage.isLive_iff (now : Instant) (m : StoredMessage) :
  m.isLive now = true ↔ now < m.expiresAt
  := by
  simp [StoredMessage.isLive]

theorem StoredMessage.isVisible_iff (now : Instant) (m : StoredMessage) :
  m.isVisible now = true ↔ m.visibleAt ≤ now
  := by
  simp [StoredMessage.isVisible]

namespace Store

/-! ### Finding a message by its id -/

/-- With distinct ids, removing the message at the first position holding an id removes
the message with that id. -/
theorem eraseIdx_of_findIdx? {ms : List StoredMessage} {id : String} {i : Nat}
    (hd : (ms.map (·.id)).Nodup) (h : ms.findIdx? (·.id == id) = some i) :
  ms.eraseIdx i = ms.filter (·.id != id)
  := by
  induction ms generalizing i with
  | nil => simp at h
  | cons m rest ih =>
    rw [List.map_cons, List.nodup_cons] at hd
    rw [List.findIdx?_cons] at h
    by_cases hm : m.id = id
    · -- the first message is the one: no other message has its id
      subst hm
      simp only [beq_self_eq_true, if_true, Option.some.injEq] at h
      subst h
      have hrest : rest.filter (·.id != m.id) = rest := by
        rw [List.filter_eq_self]
        intro x hx
        have : x.id ≠ m.id := fun e => hd.1 (e ▸ List.mem_map_of_mem hx)
        simpa using this
      simp [hrest]
    · simp only [beq_iff_eq, hm, if_false, Option.map_eq_some_iff] at h
      obtain ⟨j, hj, rfl⟩ := h
      simp [ih hd.2 hj, hm]

/-- With distinct ids, rewriting the message at the first position holding an id
rewrites the message with that id. -/
theorem modify_of_findIdx? {ms : List StoredMessage} {id : String} {i : Nat}
    (f : StoredMessage → StoredMessage)
    (hd : (ms.map (·.id)).Nodup) (h : ms.findIdx? (·.id == id) = some i) :
  ms.modify i f = ms.map fun m => if m.id = id then f m else m
  := by
  induction ms generalizing i with
  | nil => simp at h
  | cons m rest ih =>
    rw [List.map_cons, List.nodup_cons] at hd
    rw [List.findIdx?_cons] at h
    by_cases hm : m.id = id
    · subst hm
      simp only [beq_self_eq_true, if_true, Option.some.injEq] at h
      subst h
      have hrest : (rest.map fun x => if x.id = m.id then f x else x) = rest.map fun x => x := by
        apply List.map_congr_left
        intro x hx
        have : x.id ≠ m.id := fun e => hd.1 (e ▸ List.mem_map_of_mem hx)
        simp [this]
      simp [List.modify, hrest]
    · simp only [beq_iff_eq, hm, if_false, Option.map_eq_some_iff] at h
      obtain ⟨j, hj, rfl⟩ := h
      simp [List.modify_succ_cons, ih hd.2 hj, hm]

/-- `locate` finds the message with the id, and answers its position when the receipt
is its receipt. -/
theorem locate_ok {name id receipt : String} {ms : List StoredMessage} {i : Nat}
    (h : locate name id receipt ms = .ok i) :
  ms.findIdx? (·.id == id) = some i ∧ ∃ m, ms[i]? = some m ∧ m.id = id ∧ m.receipt = receipt
  := by
  unfold locate at h
  cases hj : ms.findIdx? (·.id == id) with
  | none => simp [hj] at h
  | some j =>
    simp only [hj] at h
    split at h
    · rename_i hr
      cases h
      obtain ⟨hlt, hid, -⟩ := List.findIdx?_eq_some_iff_getElem.1 hj
      refine ⟨rfl, ms[i], List.getElem?_eq_getElem hlt, by simpa using hid, ?_⟩
      simpa [List.getElem?_eq_getElem hlt] using hr
    · cases h

/-- `locate` fails only because no message has the id or because its receipt is another. -/
theorem locate_error {name id receipt : String} {ms : List StoredMessage} {f : Fault}
    (h : locate name id receipt ms = .error f) :
  f = .messageNotFound name id ∨ f = .popReceiptMismatch name id
  := by
  unfold locate at h
  cases hj : ms.findIdx? (·.id == id) with
  | none =>
    simp only [hj, Except.error.injEq] at h
    exact .inl h.symm
  | some j =>
    simp only [hj] at h
    split at h
    · cases h
    · simp only [Except.error.injEq] at h
      exact .inr h.symm

/-- `locate` fails as not found exactly when no message has the id. -/
theorem locate_notFound {name id receipt : String} {ms : List StoredMessage} :
  locate name id receipt ms = .error (.messageNotFound name id) ↔ ∀ m ∈ ms, m.id ≠ id
  := by
  unfold locate
  cases hj : ms.findIdx? (·.id == id) with
  | none =>
    simp only [true_iff]
    intro m hm he
    have := List.findIdx?_eq_none_iff.1 hj m hm
    simp [he] at this
  | some j =>
    obtain ⟨hlt, hid, -⟩ := List.findIdx?_eq_some_iff_getElem.1 hj
    constructor
    · intro h
      simp only at h
      split at h <;> simp at h
    · intro h
      exact absurd (by simpa using hid) (h _ (List.getElem_mem hlt))

/-- A message of a list with one entry rewritten is one of the list, or the rewritten
entry. -/
theorem mem_modify {ms : List StoredMessage} {i : Nat} {f : StoredMessage → StoredMessage}
    {m' : StoredMessage} (h : m' ∈ ms.modify i f) :
  m' ∈ ms ∨ ∃ m, ms[i]? = some m ∧ m' = f m
  := by
  obtain ⟨j, hj⟩ := List.mem_iff_getElem?.1 h
  rw [List.getElem?_modify] at hj
  obtain ⟨m, hm, hfm⟩ : ∃ m, ms[j]? = some m ∧ (if i = j then f m else m) = m' := by
    simpa using hj
  by_cases hij : i = j
  · subst hij
    rw [if_pos rfl] at hfm
    exact .inr ⟨m, hm, hfm.symm⟩
  · rw [if_neg hij] at hfm
    subst hfm
    exact .inl (List.mem_of_getElem? hm)

/-- Rewriting one entry by a function that keeps ids keeps the ids of the list. -/
theorem modify_ids {ms : List StoredMessage} {i : Nat} {f : StoredMessage → StoredMessage}
    (hf : ∀ m, (f m).id = m.id) :
  (ms.modify i f).map (·.id) = ms.map (·.id)
  := by
  apply List.ext_getElem?
  intro j
  simp only [List.getElem?_map, List.getElem?_modify]
  by_cases hij : i = j <;> cases ms[j]? <;> simp [hij, hf]

/-! ### Leasing -/

section Leasing

variable (now leaseEnd : Instant)

theorem leaseAll_cons (issued : Nat) (m : StoredMessage) (ms : List StoredMessage)
    (left : Nat) :
  leaseAll now leaseEnd issued (m :: ms) left =
    if 0 < left ∧ m.isVisible now = true then
      let m' := { m with receipt := receiptOf (issued + 1), visibleAt := leaseEnd }
      let r := leaseAll now leaseEnd (issued + 1) ms (left - 1)
      (m' :: r.1, m'.raw :: r.2.1, r.2.2)
    else
      let r := leaseAll now leaseEnd issued ms left
      (m :: r.1, r.2.1, r.2.2)
  := by
  simp only [leaseAll, Bool.and_eq_true, decide_eq_true_eq]
  split_ifs <;> rfl

/-- A lease draws one receipt for each message it answers. -/
theorem leaseAll_issued (issued : Nat) (ms : List StoredMessage) (left : Nat) :
  (leaseAll now leaseEnd issued ms left).2.2 =
    issued + (leaseAll now leaseEnd issued ms left).2.1.length
  := by
  induction ms generalizing issued left with
  | nil => simp [leaseAll]
  | cons m ms ih =>
    rw [leaseAll_cons]
    split_ifs
    · simp only [List.length_cons, ih]
      omega
    · exact ih issued left

/-- The receipts of the answered messages are drawn one after another. -/
theorem leaseAll_receipts (issued : Nat) (ms : List StoredMessage) (left : Nat) :
  (leaseAll now leaseEnd issued ms left).2.1.map (·.receipt) =
    (List.range (leaseAll now leaseEnd issued ms left).2.1.length).map
      fun j => receiptOf (issued + j + 1)
  := by
  induction ms generalizing issued left with
  | nil => simp [leaseAll]
  | cons m ms ih =>
    rw [leaseAll_cons]
    split_ifs
    · simp only [List.map_cons, List.length_cons, List.range_succ_eq_map, List.map_map, ih]
      refine congrArg _ (List.map_congr_left fun j _ => ?_)
      simp only [Function.comp_apply]
      congr 1
      omega
    · exact ih issued left

/-- A lease answers the first visible messages, as many as asked, in order. -/
theorem leaseAll_got (issued : Nat) (ms : List StoredMessage) (left : Nat) :
  (leaseAll now leaseEnd issued ms left).2.1.map (fun r => (r.id, r.text)) =
    ((ms.filter (·.isVisible now)).take left).map fun m => (m.id, m.text)
  := by
  induction ms generalizing issued left with
  | nil => simp [leaseAll]
  | cons m ms ih =>
    rw [leaseAll_cons]
    by_cases hv : m.isVisible now = true
    · cases left with
      | zero => simp [ih]
      | succ left =>
        simp only [Nat.zero_lt_succ, hv, and_self, if_true, List.map_cons, List.filter_cons,
          List.take_succ_cons, ih]
        rfl
    · simp [hv, ih]

/-- A lease answers at most as many messages as asked. -/
theorem leaseAll_got_length_le (issued : Nat) (ms : List StoredMessage) (left : Nat) :
  (leaseAll now leaseEnd issued ms left).2.1.length ≤ left
  := by
  have h : ((leaseAll now leaseEnd issued ms left).2.1.map fun r => (r.id, r.text)).length =
      (((ms.filter (·.isVisible now)).take left).map fun m => (m.id, m.text)).length :=
    congrArg List.length (leaseAll_got now leaseEnd issued ms left)
  simp only [List.length_map, List.length_take] at h
  omega

/-- What a lease does to one message: it keeps it, or, when it is visible, leases it
until `leaseEnd` with a receipt drawn after `issued`, and answers it. -/
def Leased (issued : Nat) (got : List RawMessage) (m m' : StoredMessage) : Prop :=
  m'.id = m.id ∧ m'.text = m.text ∧ m'.expiresAt = m.expiresAt ∧
    (m' = m ∨ (m.isVisible now = true ∧ m'.visibleAt = leaseEnd ∧ m'.raw ∈ got ∧
      ∃ k, issued < k ∧ m'.receipt = receiptOf k))

theorem Leased.mono {issued issued' : Nat} {got got' : List RawMessage} {m m' : StoredMessage}
    (h : Leased now leaseEnd issued' got m m') (hi : issued ≤ issued') (hg : got ⊆ got') :
  Leased now leaseEnd issued got' m m'
  := by
  obtain ⟨h1, h2, h3, h4 | ⟨h5, h6, h7, k, hk, h8⟩⟩ := h
  · exact ⟨h1, h2, h3, .inl h4⟩
  · exact ⟨h1, h2, h3, .inr ⟨h5, h6, hg h7, k, by omega, h8⟩⟩

/-- A lease keeps the ids of the messages, in order. -/
theorem leaseAll_ids (issued : Nat) (ms : List StoredMessage) (left : Nat) :
  (leaseAll now leaseEnd issued ms left).1.map (·.id) = ms.map (·.id)
  := by
  induction ms generalizing issued left with
  | nil => simp [leaseAll]
  | cons m ms ih =>
    rw [leaseAll_cons]
    split_ifs <;> simp [ih]

/-- A lease goes message by message. -/
theorem leaseAll_forall₂ (issued : Nat) (ms : List StoredMessage) (left : Nat) :
  List.Forall₂ (Leased now leaseEnd issued (leaseAll now leaseEnd issued ms left).2.1)
    ms (leaseAll now leaseEnd issued ms left).1
  := by
  induction ms generalizing issued left with
  | nil => simp [leaseAll]
  | cons m ms ih =>
    rw [leaseAll_cons]
    split_ifs with h
    · refine List.Forall₂.cons ⟨rfl, rfl, rfl, .inr ⟨h.2, rfl, List.mem_cons_self, _, by omega, rfl⟩⟩ ?_
      exact (ih (issued + 1) (left - 1)).imp fun a b hab =>
        hab.mono now leaseEnd (by omega) (List.subset_cons_self _ _)
    · exact List.Forall₂.cons ⟨rfl, rfl, rfl, .inl rfl⟩ (ih issued left)

theorem exists_of_forall₂_mem {R : StoredMessage → StoredMessage → Prop}
    {ms ms' : List StoredMessage} (h : List.Forall₂ R ms ms') {m' : StoredMessage}
    (hm : m' ∈ ms') :
  ∃ m ∈ ms, R m m'
  := by
  induction h with
  | nil => simp at hm
  | @cons a b ms ms' hab _ ih =>
    rcases List.mem_cons.1 hm with rfl | hm
    · exact ⟨a, List.mem_cons_self, hab⟩
    · obtain ⟨m, hm, hr⟩ := ih hm
      exact ⟨m, List.mem_cons_of_mem _ hm, hr⟩

/-- Every answered message is held by the store leased until `leaseEnd`. -/
theorem leaseAll_got_mem (issued : Nat) (ms : List StoredMessage) (left : Nat) :
  ∀ r ∈ (leaseAll now leaseEnd issued ms left).2.1,
    ∃ m' ∈ (leaseAll now leaseEnd issued ms left).1, m'.raw = r ∧ m'.visibleAt = leaseEnd
  := by
  induction ms generalizing issued left with
  | nil => simp [leaseAll]
  | cons m ms ih =>
    rw [leaseAll_cons]
    split_ifs
    · intro r hr
      rcases List.mem_cons.1 hr with rfl | hr
      · exact ⟨_, List.mem_cons_self, rfl, rfl⟩
      · obtain ⟨m', hm', h1, h2⟩ := ih (issued + 1) (left - 1) r hr
        exact ⟨m', List.mem_cons_of_mem _ hm', h1, h2⟩
    · intro r hr
      obtain ⟨m', hm', h1, h2⟩ := ih issued left r hr
      exact ⟨m', List.mem_cons_of_mem _ hm', h1, h2⟩

end Leasing

end Store

end TaskQueue
