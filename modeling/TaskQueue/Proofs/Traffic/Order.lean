import TaskQueue.Proofs.Store.Receipts
import TaskQueue.Proofs.Pending.Service
import Mathlib

/-!
# Messages in the order they were put

Each put draws the next message id, so the ids a store has drawn, `idOf 1` to
`idOf issuedIds`, list its puts in the order they were made (`drawnIds`).  Every store a
run reaches from an empty one holds each queue's messages in that order
(`Store.InPutOrder`, kept by every call, `InPutOrder.perform`): a call drops messages or
appends the one it puts, and never reorders.

A get answers the first visible unexpired messages, as many as asked, in that order, each
with the next receipt drawn (`leaseAll_got_eq`); when none is visible the lease changes
nothing, so a get from a queue that exists always leaves the lease's list
(`getMessages_of_found_eq`).

`Store.Keeps s s'` says that every message `s'` holds was held by `s` under the same
name, with the same id, text and expiry, or has an id drawn after those of `s`.  It
composes (`Keeps.trans`), and a message held at both ends kept its queue, text and
expiry (`Keeps.eq_of_id`).
-/

namespace TaskQueue

open Time

namespace Store

variable {s s' : Store}

/-! ### Ids in the order they were drawn -/

/-- The ids a store whose id counter stands at `n` has drawn, in the order it drew them. -/
def drawnIds (n : Nat) : List String :=
  (List.range n).map fun k => idOf (k + 1)

theorem drawnIds_succ (n : Nat) :
  drawnIds (n + 1) = drawnIds n ++ [idOf (n + 1)]
  := by
  simp [drawnIds, List.range_succ]

theorem drawnIds_sublist {n n' : Nat} (h : n ≤ n') :
  (drawnIds n).Sublist (drawnIds n')
  := by
  induction h with
  | refl => exact .refl _
  | step _ ih =>
    rw [drawnIds_succ]
    exact ih.trans (List.sublist_append_left _ _)

/-- Every queue holds its messages in the order they were put: their ids, read in order,
are ids the store drew, in the order it drew them. -/
def InPutOrder (s : Store) : Prop :=
  ∀ n, ((s.messagesOf n).map (·.id)).Sublist (drawnIds s.issuedIds)

theorem inPutOrder_empty (pageSize : Nat) :
  (Store.empty pageSize).InPutOrder
  := fun _ => List.nil_sublist _

/-- Every call keeps each queue in the order its messages were put. -/
theorem InPutOrder.perform {e : Event} (hs : s.Sound) (ho : s.InPutOrder)
    (h : e.call.perform s = .ok (e.answer, s')) :
  s'.InPutOrder
  := by
  intro n
  have hmono := (perform_issued h).1
  obtain ⟨l, hl, hids | hids⟩ := perform_ids h n <;> rw [hids]
  · exact (hl.trans (ho n)).trans (drawnIds_sublist hmono)
  · -- the message put goes last, and its id is one the call drew
    have hnext : s.issuedIds + 1 ≤ s'.issuedIds := by
      obtain ⟨m, hm, hid⟩ := List.mem_map.1 (show idOf (s.issuedIds + 1) ∈
        (s'.messagesOf n).map (·.id) by simp [hids])
      obtain ⟨k, hk, hk'⟩ := (hs.perform h).id_drawn hm
      rw [hid, idOf_inj] at hk'
      omega
    have hput : (l ++ [idOf (s.issuedIds + 1)]).Sublist (drawnIds (s.issuedIds + 1)) := by
      rw [drawnIds_succ]
      exact (hl.trans (ho n)).append (.refl _)
    exact hput.trans (drawnIds_sublist hnext)

/-- Every store a run reaches from a sound store in put order is in put order. -/
theorem Run.inPutOrder {es : List Event} (hrun : Run s es s') (hs : s.Sound)
    (ho : s.InPutOrder) :
  s'.InPutOrder
  := by
  induction hrun with
  | nil => exact ho
  | cons hstep _ ih => exact ih (hs.perform hstep) (ho.perform hs hstep)

/-! ### What a get answers -/

section Leasing

variable (now leaseEnd : Instant)

/-- A lease of messages none of which is visible changes nothing and answers nothing. -/
theorem leaseAll_of_invisible (issued : Nat) {ms : List StoredMessage} (left : Nat)
    (h : ms.any (·.isVisible now) = false) :
  leaseAll now leaseEnd issued ms left = (ms, [], issued)
  := by
  induction ms generalizing left with
  | nil => rfl
  | cons m ms ih =>
    rw [List.any_cons, Bool.or_eq_false_iff] at h
    rw [leaseAll_cons, if_neg (by simp [h.1]), ih left h.2]

/-- A lease answers the first visible messages, as many as asked, in order, each with the
next receipt drawn. -/
theorem leaseAll_got_eq (issued : Nat) (ms : List StoredMessage) (left : Nat) :
  (leaseAll now leaseEnd issued ms left).2.1 =
    ((ms.filter (·.isVisible now)).take left).mapIdx
      fun i m => ⟨m.id, receiptOf (issued + i + 1), m.text⟩
  := by
  induction ms generalizing issued left with
  | nil => simp [leaseAll]
  | cons m ms ih =>
    rw [leaseAll_cons]
    by_cases hv : m.isVisible now = true
    · cases left with
      | zero => simp [ih]
      | succ left =>
        simp only [Nat.zero_lt_succ, hv, and_self, if_true, List.filter_cons_of_pos hv,
          List.take_succ_cons, List.mapIdx_cons, ih, Nat.add_sub_cancel]
        -- the receipts of the rest are drawn after the first
        refine congrArg _ (congrArg₂ _ (funext₂ fun i m' => ?_) rfl)
        congr 2
        omega
    · simp [hv, ih]

end Leasing

/-- A get from a queue that exists, with no failure rule, leaves the lease of its
unexpired messages and answers what the lease answers, whether or not one of them is
visible. -/
theorem getMessages_of_found_eq {now leaseEnd : Instant} {name : String} {q : StoredQueue}
    {visibility : Duration} (maxCount : Nat) (hr : s.rules = []) (hq : s.find? name = some q)
    (hl : now.add? visibility.storeSpan = some leaseEnd) :
  s.getMessages now name visibility maxCount = .ok (.ok (s.getLease now leaseEnd q maxCount).2.1,
    { (s.enter .getMessages name).2.put name
      { q with messages := (s.getLease now leaseEnd q maxCount).1 } with
      issuedReceipts := (s.getLease now leaseEnd q maxCount).2.2 })
  := by
  have hc : FailureRule.consume .getMessages name s.rules = none := by simp [hr]
  cases hv : (q.purge now).messages.any (·.isVisible now) with
  | true => exact getMessages_of_visible maxCount hc hq hv hl
  | false =>
    -- nothing is visible: the lease is the purged queue, with no receipt drawn
    rw [getMessages_of_invisible _ maxCount hc hq hv, getLease,
      leaseAll_of_invisible now leaseEnd _ _ hv, enter_snd]
    rfl

/-! ### Messages keep their text -/

/-- Every message `s'` holds under a name was held by `s` under that name with the same
id, text and expiry, or has an id drawn after those of `s`. -/
structure Keeps (s s' : Store) : Prop where
  issued : s.issuedIds ≤ s'.issuedIds
  held : ∀ {n : String} {m' : StoredMessage}, m' ∈ s'.messagesOf n →
    (∃ m ∈ s.messagesOf n, m.id = m'.id ∧ m.text = m'.text ∧ m.expiresAt = m'.expiresAt) ∨
    ∃ k, s.issuedIds < k ∧ m'.id = idOf k

namespace Keeps

variable {s₁ : Store}

theorem refl (s : Store) :
  Keeps s s
  := ⟨le_refl _, fun hm => .inl ⟨_, hm, rfl, rfl, rfl⟩⟩

theorem trans (h₁ : Keeps s s₁) (h₂ : Keeps s₁ s') :
  Keeps s s'
  where
  issued := h₁.issued.trans h₂.issued
  held {n m'} hm' := by
    rcases h₂.held hm' with ⟨m₁, hm₁, hid, htext, hexp⟩ | ⟨k, hk, hid⟩
    · rcases h₁.held hm₁ with ⟨m, hm, hid', htext', hexp'⟩ | ⟨k, hk, hid'⟩
      · exact .inl ⟨m, hm, hid'.trans hid, htext'.trans htext, hexp'.trans hexp⟩
      · exact .inr ⟨k, hk, hid.symm.trans hid'⟩
    · exact .inr ⟨k, by have := h₁.issued; omega, hid⟩

/-- A store that holds under each name some of the messages held before, and has drawn
no id fewer, keeps them. -/
theorem of_subset (hi : s.issuedIds ≤ s'.issuedIds)
    (h : ∀ n, s'.messagesOf n ⊆ s.messagesOf n) :
  Keeps s s'
  := ⟨hi, fun hm => .inl ⟨_, h _ hm, rfl, rfl, rfl⟩⟩

/-- Ensuring queues keeps every message. -/
theorem of_refreshes {now : Instant} {names : List String} (h : Refreshes now names s s') :
  Keeps s s'
  := of_subset h.issuedIds.ge fun _ _ hm => h.mem_messagesOf hm

/-- A message held at both ends, the start sound, kept its queue, text and expiry. -/
theorem eq_of_id (h : Keeps s s') (hs : s.Sound) {n n' : String} {m m' : StoredMessage}
    (hm : m ∈ s.messagesOf n) (hm' : m' ∈ s'.messagesOf n') (hid : m.id = m'.id) :
  n' = n ∧ m'.text = m.text ∧ m'.expiresAt = m.expiresAt
  := by
  rcases h.held hm' with ⟨m₀, hm₀, hid₀, htext, hexp⟩ | ⟨k, hk, hid₀⟩
  · -- in a sound store the id tells the queue and the message
    obtain ⟨rfl, rfl⟩ := hs.eq_of_id hm₀ hm (hid₀.trans hid.symm)
    exact ⟨rfl, htext.symm, hexp.symm⟩
  · obtain ⟨j, hj, hmj⟩ := hs.id_drawn hm
    rw [hid, hid₀, idOf_inj] at hmj
    omega

end Keeps

end Store

end TaskQueue
