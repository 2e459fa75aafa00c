import TaskQueue.Proofs.Store.Run

/-!
# Ids, pop receipts and leases

Every store a run reaches from an empty one is `Sound`: no two messages share an id, in
one queue or across queues, no two share a current pop receipt, and every id and receipt
held was drawn from its counter.  Each call keeps this (`Sound.perform`), because what a
call adds is drawn after everything held (`Origin.trichotomy`, `handed_fresh`).

From it follow the guarantees of the lease protocol over whole runs:

* a receipt that stops being current never becomes current again, and a pair of id and
  receipt handed out is refused once a later call has handed out that message again
  (`Revoked`);
* a message deleted is never held again, so never deleted or handed out again (`Gone`);
* a message keeps its expiry, and no call at or after it hands it out;
* a message leased until an instant is not handed out by a get before that instant,
  unless an update rewrote it in between (`LeasedUntil`).
-/

namespace TaskQueue

open Time

namespace Store

/-! ### The invariant -/

/-- Ids and pop receipts as every store a run reaches holds them. -/
structure Sound (s : Store) : Prop where
  /-- No queue holds two messages with one id. -/
  ids_nodup : ∀ n, ((s.messagesOf n).map (·.id)).Nodup
  /-- Two queues never hold messages with one id. -/
  id_queue : ∀ {n n' m m'}, m ∈ s.messagesOf n → m' ∈ s.messagesOf n' → m.id = m'.id → n = n'
  /-- Messages with one current receipt have one id. -/
  receipt_id : ∀ {n n' m m'}, m ∈ s.messagesOf n → m' ∈ s.messagesOf n' →
    m.receipt = m'.receipt → m.id = m'.id
  /-- Every id held was drawn. -/
  id_drawn : ∀ {n m}, m ∈ s.messagesOf n → ∃ k, k ≤ s.issuedIds ∧ m.id = idOf k
  /-- Every receipt held was drawn. -/
  receipt_drawn : ∀ {n m}, m ∈ s.messagesOf n →
    ∃ k, k ≤ s.issuedReceipts ∧ m.receipt = receiptOf k

theorem sound_empty (pageSize : Nat) :
  (Store.empty pageSize).Sound
  := by
  have hnil : ∀ n, (Store.empty pageSize).messagesOf n = [] := fun _ => rfl
  refine ⟨fun n => by simp [hnil], ?_, ?_, ?_, ?_⟩ <;> simp [hnil]

variable {s s' : Store} {n n' : String} {m m' : StoredMessage}

/-- In a sound store an id tells the queue and the message. -/
theorem Sound.eq_of_id (hs : s.Sound) (hm : m ∈ s.messagesOf n) (hm' : m' ∈ s.messagesOf n')
    (h : m.id = m'.id) :
  n = n' ∧ m = m'
  := by
  obtain rfl := hs.id_queue hm hm' h
  exact ⟨rfl, List.inj_on_of_nodup_map (hs.ids_nodup n) hm hm' h⟩

/-- In a sound store a current receipt tells the queue and the message. -/
theorem Sound.eq_of_receipt (hs : s.Sound) (hm : m ∈ s.messagesOf n)
    (hm' : m' ∈ s.messagesOf n') (h : m.receipt = m'.receipt) :
  n = n' ∧ m = m'
  := hs.eq_of_id hm hm' (hs.receipt_id hm hm' h)

/-- A held id is not the next one. -/
theorem Sound.id_ne_next (hs : s.Sound) (hm : m ∈ s.messagesOf n) :
  m.id ≠ idOf (s.issuedIds + 1)
  := by
  obtain ⟨k, hk, hid⟩ := hs.id_drawn hm
  rw [hid, Ne, idOf_inj]
  omega

/-- A held receipt is none drawn after the counter. -/
theorem Sound.receipt_ne_fresh (hs : s.Sound) (hm : m ∈ s.messagesOf n) {k : Nat}
    (hk : s.issuedReceipts < k) :
  m.receipt ≠ receiptOf k
  := by
  obtain ⟨j, hj, hr⟩ := hs.receipt_drawn hm
  rw [hr, Ne, receiptOf_inj]
  omega

/-! ### Every call keeps it -/

section Step

variable {e : Event} (hs : s.Sound) (h : e.call.perform s = .ok (e.answer, s'))
include hs h

theorem Sound.perform_ids_nodup (n : String) :
  ((s'.messagesOf n).map (·.id)).Nodup
  := by
  obtain ⟨l, hl, hids | hids⟩ := perform_ids h n <;> rw [hids]
  · exact (hs.ids_nodup n).sublist hl
  · -- the next id is none of those held
    refine List.nodup_append.2 ⟨(hs.ids_nodup n).sublist hl, List.nodup_singleton _, ?_⟩
    intro a ha b hb
    obtain rfl := List.mem_singleton.1 hb
    obtain ⟨m, hm, rfl⟩ := List.mem_map.1 (hl.subset ha)
    exact hs.id_ne_next hm

theorem Sound.perform_id_queue (hm : m ∈ s'.messagesOf n) (hm' : m' ∈ s'.messagesOf n')
    (hid : m.id = m'.id) :
  n = n'
  := by
  rcases (perform_origin h hm).trichotomy with
    hk | ⟨_, _, _, _, hc, hi, -⟩ | ⟨-, k, hk, hki, -⟩ <;>
    rcases (perform_origin h hm').trichotomy with
      hk' | ⟨_, _, _, _, hc', hi', -⟩ | ⟨-, k', hk', hki', -⟩
  · exact hs.id_queue hk hk' hid
  · exact absurd (hid.trans hi') (hs.id_ne_next hk)
  · exact hs.id_queue hk hk' (hid.trans hki')
  · exact absurd (hid.symm.trans hi) (hs.id_ne_next hk')
  · -- both were put by this call, under its one name
    rw [hc] at hc'
    injection hc'
  · exact absurd (hki'.symm.trans (hid.symm.trans hi)) (hs.id_ne_next hk')
  · exact hs.id_queue hk hk' (hki.symm.trans hid)
  · exact absurd (hki.symm.trans (hid.trans hi')) (hs.id_ne_next hk)
  · exact hs.id_queue hk hk' (hki.symm.trans (hid.trans hki'))

theorem Sound.perform_receipt_id (hm : m ∈ s'.messagesOf n) (hm' : m' ∈ s'.messagesOf n')
    (hr : m.receipt = m'.receipt) :
  m.id = m'.id
  := by
  -- a receipt handed out or put by the call is drawn after every receipt held before
  have fresh : ∀ {n₀ m₀ x}, m₀ ∈ s.messagesOf n₀ → (x, m₀.receipt) ∈ e.handed → False := by
    intro n₀ m₀ x hm₀ hh
    obtain ⟨k, hk, -, hr₀⟩ := handed_fresh h hh
    exact hs.receipt_ne_fresh hm₀ hk hr₀
  rcases (perform_origin h hm).trichotomy with hk | ⟨_, _, _, _, hc, hi, hri, -⟩ | ⟨hh, -⟩ <;>
    rcases (perform_origin h hm').trichotomy with
      hk' | ⟨_, _, _, _, hc', hi', hri', -⟩ | ⟨hh', -⟩
  · exact hs.receipt_id hk hk' hr
  · exact absurd (hr.trans hri') (hs.receipt_ne_fresh hk (Nat.lt_succ_self _))
  · exact (fresh hk (hr ▸ hh')).elim
  · exact absurd (hr.symm.trans hri) (hs.receipt_ne_fresh hk' (Nat.lt_succ_self _))
  · exact hi.trans hi'.symm
  · -- a put hands nothing out
    rw [handed_of_putMessage hc] at hh'
    simp at hh'
  · exact (fresh hk' (hr.symm ▸ hh)).elim
  · rw [handed_of_putMessage hc'] at hh
    simp at hh
  · -- one call hands out each receipt once
    have hpair := List.inj_on_of_nodup_map (handed_receipts_nodup h) hh hh' hr
    exact (Prod.mk.inj hpair).1

theorem Sound.perform_id_drawn (hm : m ∈ s'.messagesOf n) :
  ∃ k, k ≤ s'.issuedIds ∧ m.id = idOf k
  := by
  have hmono := perform_issued h
  rcases (perform_origin h hm).trichotomy with
    hk | ⟨_, _, _, _, -, hi, -, hc, -⟩ | ⟨-, m₀, hm₀, hid, -⟩
  · obtain ⟨k, hk, hid⟩ := hs.id_drawn hk
    exact ⟨k, by omega, hid⟩
  · exact ⟨_, hc.ge, hi⟩
  · obtain ⟨k, hk, hid'⟩ := hs.id_drawn hm₀
    exact ⟨k, by omega, hid.trans hid'⟩

theorem Sound.perform_receipt_drawn (hm : m ∈ s'.messagesOf n) :
  ∃ k, k ≤ s'.issuedReceipts ∧ m.receipt = receiptOf k
  := by
  have hmono := perform_issued h
  rcases (perform_origin h hm).trichotomy with hk | ⟨_, _, _, _, -, -, hr, -, hc⟩ | ⟨hh, -⟩
  · obtain ⟨k, hk, hr⟩ := hs.receipt_drawn hk
    exact ⟨k, by omega, hr⟩
  · exact ⟨_, hc.ge, hr⟩
  · obtain ⟨k, -, hk, hr⟩ := handed_fresh h hh
    exact ⟨k, hk, hr⟩

/-- Every call keeps a store sound. -/
theorem Sound.perform :
  s'.Sound
  := ⟨hs.perform_ids_nodup h, hs.perform_id_queue h, hs.perform_receipt_id h,
    hs.perform_id_drawn h, hs.perform_receipt_drawn h⟩

end Step

/-- Every store a run reaches from a sound one is sound. -/
theorem Run.sound {es : List Event} (hrun : Run s es s') (hs : s.Sound) :
  s'.Sound
  := hrun.invariant (fun hs h => hs.perform h) hs

/-- A store reached by a run from an empty store is sound and has no failure rules. -/
theorem Run.reached {pageSize : Nat} {es : List Event} (hrun : Run (Store.empty pageSize) es s) :
  s.Sound ∧ s.rules = []
  := ⟨hrun.sound (sound_empty pageSize), hrun.rules rfl⟩

/-! ### Receipts are never handed out twice -/

/-- The receipts a run hands out are drawn during the run, each once. -/
theorem Run.handed_receipts {es : List Event} (hrun : Run s es s') :
  ((es.flatMap Event.handed).map Prod.snd).Nodup ∧
    ∀ p ∈ es.flatMap Event.handed,
      ∃ k, s.issuedReceipts < k ∧ k ≤ s'.issuedReceipts ∧ p.2 = receiptOf k
  := by
  induction hrun with
  | nil => simp
  | @cons s s₁ s' e es hstep hrest ih =>
    obtain ⟨hnd, hin⟩ := ih
    have hmono := perform_issued hstep
    have hmono' := hrest.issued
    refine ⟨?_, ?_⟩
    · -- the first event draws below what the rest of the run draws
      rw [List.flatMap_cons, List.map_append, List.nodup_append]
      refine ⟨handed_receipts_nodup hstep, hnd, ?_⟩
      intro a ha b hb hab
      obtain ⟨⟨id, r⟩, hp, rfl⟩ := List.mem_map.1 ha
      obtain ⟨p', hp', rfl⟩ := List.mem_map.1 hb
      obtain ⟨k, -, hk, hr⟩ := handed_fresh hstep hp
      obtain ⟨k', hk', -, hr'⟩ := hin p' hp'
      rw [hr, hr', receiptOf_inj] at hab
      omega
    · intro p hp
      rw [List.flatMap_cons] at hp
      rcases List.mem_append.1 hp with hp | hp
      · obtain ⟨id, r⟩ := p
        obtain ⟨k, hk, hk', hr⟩ := handed_fresh hstep hp
        exact ⟨k, hk, by omega, hr⟩
      · obtain ⟨k, hk, hk', hr⟩ := hin p hp
        exact ⟨k, by omega, hk', hr⟩

/-! ### A pair is refused once its message is handed out again -/

/-- The receipt `r` was drawn, and no message with the id `id` holds it. -/
def Revoked (s : Store) (id r : String) : Prop :=
  (∃ k, k ≤ s.issuedReceipts ∧ r = receiptOf k) ∧
    ∀ n m, m ∈ s.messagesOf n → m.id = id → m.receipt ≠ r

/-- The queue, id and receipt a delete or an update presents. -/
def Call.presents : Call → Option (String × String × String)
  | .deleteMessage _ name id receipt => some (name, id, receipt)
  | .updateMessage _ name _ id receipt _ => some (name, id, receipt)
  | _ => none

/-- A call that presents a receipt reads the clock. -/
theorem Call.now?_of_presents {c : Call} {p : String × String × String}
    (hp : c.presents = some p) :
  ∃ now, c.now? = some now
  := by
  cases c <;> simp_all [Call.presents, Call.now?]

section Revoked

variable {e : Event} {id r : String}

/-- A revoked receipt stays revoked: every receipt a call gives is drawn anew. -/
theorem Revoked.perform (hv : s.Revoked id r) (h : e.call.perform s = .ok (e.answer, s')) :
  s'.Revoked id r
  := by
  obtain ⟨⟨k, hk, rfl⟩, hheld⟩ := hv
  have hmono := perform_issued h
  refine ⟨⟨k, by omega, rfl⟩, fun n m hm hid => ?_⟩
  rcases (perform_origin h hm).trichotomy with hm₀ | ⟨_, _, _, _, -, -, hr, -⟩ | ⟨hh, -⟩
  · exact hheld n m hm₀ hid
  · rw [hr, Ne, receiptOf_inj]
    omega
  · obtain ⟨k', hk', -, hr⟩ := handed_fresh h hh
    rw [hr, Ne, receiptOf_inj]
    omega

/-- Once a call hands a message out, no receipt drawn before is its receipt. -/
theorem revoked_of_handed (hs : s.Sound) (h : e.call.perform s = .ok (e.answer, s'))
    (hr : ∃ k, k ≤ s.issuedReceipts ∧ r = receiptOf k) {r' : String}
    (hh : (id, r') ∈ e.handed) :
  s'.Revoked id r
  := by
  obtain ⟨k, hk, rfl⟩ := hr
  obtain ⟨k', hk', -, rfl⟩ := handed_fresh h hh
  obtain ⟨name, m', hm', hid, hr', -⟩ := handed_held h hh
  have hmono := perform_issued h
  refine ⟨⟨k, by omega, rfl⟩, fun n m hm hmid => ?_⟩
  -- the message with the id is the one handed out, with its new receipt
  obtain ⟨-, rfl⟩ := (hs.perform h).eq_of_id hm hm' (hmid.trans hid.symm)
  rw [hr', Ne, receiptOf_inj]
  omega

/-- A delete or an update that presents a revoked receipt is refused: the queue is gone,
the message is gone from it, or its receipt is another. -/
theorem refused_of_revoked (hv : s.Revoked id r) (hrules : s.rules = [])
    (h : e.call.perform s = .ok (e.answer, s')) {n : String}
    (hp : e.call.presents = some (n, id, r)) :
  e.answer = .error (.popReceiptMismatch n id) ∨ e.answer = .error (.messageNotFound n id) ∨
    e.answer = .error (.queueNotFound n)
  := by
  -- the message `locate` finds holds the receipt asked for, which no message with the id does
  have hfound : ∀ {q : StoredQueue} {now : Instant} {i : Nat}, s.find? n = some q →
      locate n id r (q.purge now).messages = .ok i → False := by
    intro q now i hq hi
    obtain ⟨-, m, hm, hid, hrm⟩ := locate_ok hi
    have hmq := (mem_of_mem_purge (List.mem_of_getElem? hm)).1
    exact hv.2 n m ((messagesOf_of_find? hq).symm ▸ hmq) hid hrm
  have hlocate : ∀ {f : Fault} {l : List StoredMessage}, locate n id r l = .error f →
      e.answer = .error f →
      e.answer = .error (.popReceiptMismatch n id) ∨ e.answer = .error (.messageNotFound n id) ∨
        e.answer = .error (.queueNotFound n) := by
    intro f l hl ha
    rcases locate_error hl with rfl | rfl
    · exact .inr (.inl ha)
    · exact .inl ha
  obtain ⟨call, answer⟩ := e
  cases call
  case deleteMessage now n' id' r' =>
    simp only [Call.presents, Option.some.injEq, Prod.mk.injEq] at hp
    obtain ⟨rfl, rfl, rfl⟩ := hp
    obtain ⟨a, ha, rfl⟩ := map_answering_eq_ok.1 h
    rcases deleteMessage_eq_ok_iff.1 ha with
      ⟨-, -, hc⟩ | ⟨-, ⟨-, rfl, -⟩ | ⟨q, hq, ⟨f, hf, rfl, -⟩ | ⟨i, hi, -, -⟩⟩⟩
    · simp [hrules] at hc
    · exact .inr (.inr rfl)
    · exact hlocate hf rfl
    · exact (hfound hq hi).elim
  case updateMessage now n' text id' r' visibility =>
    simp only [Call.presents, Option.some.injEq, Prod.mk.injEq] at hp
    obtain ⟨rfl, rfl, rfl⟩ := hp
    obtain ⟨a, ha, rfl⟩ := map_answering_eq_ok.1 h
    rcases updateMessage_eq_ok_iff.1 ha with
      ⟨-, -, hc⟩ | ⟨-, ⟨-, rfl, -⟩ | ⟨q, hq, ⟨f, hf, rfl, -⟩ | ⟨i, hi, -⟩⟩⟩
    · simp [hrules] at hc
    · exact .inr (.inr rfl)
    · exact hlocate hf rfl
    · exact (hfound hq hi).elim
  all_goals simp [Call.presents] at hp

/-- A delete or an update made when the queue holds no unexpired message with the id is
answered that the message, or the queue, is not found. -/
theorem refused_of_absent (hrules : s.rules = []) (h : e.call.perform s = .ok (e.answer, s'))
    {now : Instant} {n : String} (hp : e.call.presents = some (n, id, r))
    (hnow : e.call.now? = some now)
    (habsent : ∀ m ∈ s.messagesOf n, m.id = id → m.expiresAt ≤ now) :
  e.answer = .error (.messageNotFound n id) ∨ e.answer = .error (.queueNotFound n)
  := by
  -- the queue's unexpired messages have other ids
  have hnone : ∀ {q : StoredQueue}, s.find? n = some q →
      locate n id r (q.purge now).messages = .error (.messageNotFound n id) := by
    intro q hq
    refine locate_notFound.2 fun m hm hid => ?_
    obtain ⟨hmq, hlive⟩ := mem_of_mem_purge hm
    exact Instant.le_iff_not_lt.1 (habsent m ((messagesOf_of_find? hq).symm ▸ hmq) hid) hlive
  obtain ⟨call, answer⟩ := e
  cases call
  case deleteMessage now' n' id' r' =>
    simp only [Call.presents, Option.some.injEq, Prod.mk.injEq] at hp
    simp only [Call.now?, Option.some.injEq] at hnow
    obtain ⟨rfl, rfl, rfl⟩ := hp
    subst hnow
    obtain ⟨a, ha, rfl⟩ := map_answering_eq_ok.1 h
    rcases deleteMessage_eq_ok_iff.1 ha with
      ⟨-, -, hc⟩ | ⟨-, ⟨-, rfl, -⟩ | ⟨q, hq, ⟨f, hf, rfl, -⟩ | ⟨i, hi, -, -⟩⟩⟩
    · simp [hrules] at hc
    · exact .inr rfl
    · rw [hnone hq, Except.error.injEq] at hf
      subst hf
      exact .inl rfl
    · rw [hnone hq] at hi
      cases hi
  case updateMessage now' n' text id' r' visibility =>
    simp only [Call.presents, Option.some.injEq, Prod.mk.injEq] at hp
    simp only [Call.now?, Option.some.injEq] at hnow
    obtain ⟨rfl, rfl, rfl⟩ := hp
    subst hnow
    obtain ⟨a, ha, rfl⟩ := map_answering_eq_ok.1 h
    rcases updateMessage_eq_ok_iff.1 ha with
      ⟨-, -, hc⟩ | ⟨-, ⟨-, rfl, -⟩ | ⟨q, hq, ⟨f, hf, rfl, -⟩ | ⟨i, hi, -⟩⟩⟩
    · simp [hrules] at hc
    · exact .inr rfl
    · rw [hnone hq, Except.error.injEq] at hf
      subst hf
      exact .inl rfl
    · rw [hnone hq] at hi
      cases hi
  all_goals simp [Call.presents] at hp

end Revoked

/-! ### What stays true of the message with an id -/

/-- The id `id` was drawn, and every message held with it satisfies `P`. -/
def HeldWith (s : Store) (id : String) (P : StoredMessage → Prop) : Prop :=
  (∃ k, k ≤ s.issuedIds ∧ id = idOf k) ∧ ∀ n m, m ∈ s.messagesOf n → m.id = id → P m

/-- A successful update of the message with the id. -/
def Event.Rewrites (e : Event) (id : String) : Prop :=
  ∃ now n text r visibility, e.call = .updateMessage now n text id r visibility ∧
    ∃ r', (id, r') ∈ e.handed

section HeldWith

variable {e : Event} {id : String} {P : StoredMessage → Prop}

/-- What holds of the message with an id holds after a call when a lease and an update of
it keep it: the call puts no message with that id, and keeps all others as they were. -/
theorem HeldWith.perform (hw : s.HeldWith id P) (h : e.call.perform s = .ok (e.answer, s'))
    (hleased : ∀ {n m m' now visibility maxCount}, m ∈ s.messagesOf n → m.id = id →
      e.call = .getMessages now n visibility maxCount → m.visibleAt ≤ now →
      now.add? visibility.storeSpan = some m'.visibleAt → m'.expiresAt = m.expiresAt →
      P m → P m')
    (hupdated : ∀ {n m m' now text receipt visibility}, m ∈ s.messagesOf n → m.id = id →
      e.call = .updateMessage now n text m.id receipt visibility → m'.id = m.id →
      (m'.id, m'.receipt) ∈ e.handed → m'.expiresAt = m.expiresAt → P m → P m') :
  s'.HeldWith id P
  := by
  obtain ⟨⟨k, hk, rfl⟩, hheld⟩ := hw
  have hmono := perform_issued h
  refine ⟨⟨k, by omega, rfl⟩, fun n m' hm' hid => ?_⟩
  cases perform_origin h hm' with
  | kept hm₀ => exact hheld n m' hm₀ hid
  | put _ hi =>
    rw [hid, idOf_inj] at hi
    omega
  | leased hm hcall _ hvis hva hid' _ hexp =>
    exact hleased hm (hid'.symm.trans hid) hcall hvis hva hexp
      (hheld n _ hm (hid'.symm.trans hid))
  | updated hm hcall _ hid' hexp hh =>
    exact hupdated hm (hid'.symm.trans hid) hcall hid' hh hexp
      (hheld n _ hm (hid'.symm.trans hid))

/-- The held message with a drawn id satisfies what every held message with it does. -/
theorem heldWith_of_sound (hs : s.Sound) {n : String} {m : StoredMessage}
    (hm : m ∈ s.messagesOf n) (hP : P m) :
  s.HeldWith m.id P
  := by
  obtain ⟨k, hk, hid⟩ := hs.id_drawn hm
  refine ⟨⟨k, hk, hid⟩, fun n' m' hm' hid' => ?_⟩
  obtain ⟨-, rfl⟩ := hs.eq_of_id hm' hm hid'
  exact hP

end HeldWith

/-! ### A deleted message is gone for good -/

/-- The id `id` was drawn, and no queue holds a message with it. -/
def Gone (s : Store) (id : String) : Prop :=
  s.HeldWith id fun _ => False

section Gone

variable {e : Event} {id : String}

theorem Gone.perform (hg : s.Gone id) (h : e.call.perform s = .ok (e.answer, s')) :
  s'.Gone id
  := HeldWith.perform hg h (fun _ _ _ _ _ _ hP => hP) (fun _ _ _ _ _ _ hP => hP)

/-- No call hands out a message that is gone. -/
theorem Gone.not_handed (hg : s.Gone id) (h : e.call.perform s = .ok (e.answer, s'))
    (r : String) :
  (id, r) ∉ e.handed
  := by
  intro hh
  obtain ⟨name, m, -, hm, hid, -⟩ := handed_source h hh
  exact hg.2 name m hm hid

/-- A delete or an update of a message that is gone is answered that the message, or
the queue, is not found. -/
theorem Gone.refused (hg : s.Gone id) (hrules : s.rules = [])
    (h : e.call.perform s = .ok (e.answer, s')) {n r : String}
    (hp : e.call.presents = some (n, id, r)) :
  e.answer = .error (.messageNotFound n id) ∨ e.answer = .error (.queueNotFound n)
  := by
  obtain ⟨now, hnow⟩ := Call.now?_of_presents hp
  exact refused_of_absent hrules h hp hnow fun m hm hid => (hg.2 n m hm hid).elim

/-- A successful delete leaves no message with the id anywhere. -/
theorem gone_of_deleted (hs : s.Sound) (h : e.call.perform s = .ok (e.answer, s'))
    {now : Instant} {n r : String} (hc : e.call = .deleteMessage now n id r)
    (ha : e.answer = .ok .done) :
  s'.Gone id
  := by
  obtain ⟨call, answer⟩ := e
  subst hc
  obtain ⟨a, hda, rfl⟩ := map_answering_eq_ok.1 h
  rcases deleteMessage_eq_ok_iff.1 hda with
    ⟨rfl, -, -⟩ | ⟨-, ⟨-, rfl, -⟩ | ⟨q, hq, ⟨f, -, rfl, -⟩ | ⟨i, hi, -, rfl⟩⟩⟩
  · simp [Except.map] at ha
  · simp [Except.map] at ha
  · simp [Except.map] at ha
  · obtain ⟨hfind, m, hm, hid, -⟩ := locate_ok hi
    have hmq := (mem_of_mem_purge (List.mem_of_getElem? hm)).1
    rw [← messagesOf_of_find? hq] at hmq
    obtain ⟨k, hk, hidk⟩ := hs.id_drawn hmq
    refine ⟨⟨k, by simpa using hk, hid ▸ hidk⟩, fun n' m' hm' hid' => ?_⟩
    rw [messagesOf_put] at hm'
    split_ifs at hm' with hn
    · -- the queue keeps the messages with other ids
      have hnodup : ((q.purge now).messages.map (·.id)).Nodup :=
        (hs.ids_nodup n).sublist ((messagesOf_of_find? hq).symm ▸ List.filter_sublist.map _)
      dsimp only at hm'
      rw [eraseIdx_of_findIdx? hnodup hfind] at hm'
      simp [hid'] at hm'
    · -- no other queue holds the id
      simp only [messagesOf_enter] at hm'
      exact hn (hs.id_queue hm' hmq (hid'.trans hid.symm))

end Gone

/-! ### An expired message is never handed out -/

/-- Every message held with the id expires at `t`. -/
def ExpiresAt (s : Store) (id : String) (t : Instant) : Prop :=
  s.HeldWith id (·.expiresAt = t)

/-- Every message held with the id is invisible until `t`. -/
def LeasedUntil (s : Store) (id : String) (t : Instant) : Prop :=
  s.HeldWith id (t ≤ ·.visibleAt)

section Expiry

variable {e : Event} {id : String} {t : Instant}

/-- A message keeps its expiry. -/
theorem ExpiresAt.perform (hx : s.ExpiresAt id t) (h : e.call.perform s = .ok (e.answer, s')) :
  s'.ExpiresAt id t
  := HeldWith.perform hx h (fun _ _ _ _ _ hexp hP => hexp.trans hP)
    (fun _ _ _ _ _ hexp hP => hexp.trans hP)

/-- No call made at or after a message's expiry hands it out, so none returns or
updates it. -/
theorem ExpiresAt.not_handed (hx : s.ExpiresAt id t) (h : e.call.perform s = .ok (e.answer, s'))
    {now : Instant} (hnow : e.call.now? = some now) (hle : t ≤ now) (r : String) :
  (id, r) ∉ e.handed
  := by
  intro hh
  obtain ⟨name, m, now', hm, hid, hnow', hlive, -⟩ := handed_source h hh
  rw [hnow, Option.some_inj] at hnow'
  subst hnow'
  rw [hx.2 name m hm hid] at hlive
  exact Instant.le_iff_not_lt.1 hle hlive

/-- A delete or an update made at or after a message's expiry is answered that the
message, or the queue, is not found. -/
theorem ExpiresAt.refused (hx : s.ExpiresAt id t) (hrules : s.rules = [])
    (h : e.call.perform s = .ok (e.answer, s')) {now : Instant} {n r : String}
    (hp : e.call.presents = some (n, id, r)) (hnow : e.call.now? = some now) (hle : t ≤ now) :
  e.answer = .error (.messageNotFound n id) ∨ e.answer = .error (.queueNotFound n)
  := refused_of_absent hrules h hp hnow fun m hm hid => hx.2 n m hm hid ▸ hle

/-- The count a queue's properties give is the number of its messages unexpired at the
call, so a message at or after its expiry is not counted. -/
theorem getMetadata_count (h : e.call.perform s = .ok (e.answer, s')) {now : Instant}
    {n : String} (hc : e.call = .getMetadata now n) {p : QueueProperties}
    (ha : e.answer = .ok (.properties p)) :
  p.count = ((s.messagesOf n).filter fun m => now < m.expiresAt).length
  := by
  obtain ⟨call, answer⟩ := e
  subst hc
  obtain ⟨a, hga, rfl⟩ := map_answering_eq_ok.1 h
  rcases getMetadata_eq_ok_iff.1 hga with
    ⟨rfl, -, -⟩ | ⟨-, ⟨-, rfl, -⟩ | ⟨q, hq, rfl, -⟩⟩
  · simp [Except.map] at ha
  · simp [Except.map] at ha
  · simp only [Except.map, Except.ok.injEq, Answer.properties.injEq] at ha
    subst ha
    rw [messagesOf_of_find? hq]
    rfl

/-! ### A leased message stays leased until its lease ends -/

/-- A lease stays: a later get can lease the message again only once it is visible, and
moves its lease forward, when every instant is valid. -/
theorem LeasedUntil.perform (hl : s.LeasedUntil id t) (h : e.call.perform s = .ok (e.answer, s'))
    (hvalid : ∀ now ∈ e.call.now?, now.Valid) (hnr : ¬ e.Rewrites id) :
  s'.LeasedUntil id t
  := by
  refine HeldWith.perform hl h ?_ ?_
  · intro n m m' now visibility maxCount _ _ hcall hvis hva _ hP
    have hnow : now.Valid := hvalid now (by simp [hcall, Call.now?])
    have hle := Instant.le_of_add? hnow (Duration.storeSpan_nonneg visibility) hva
    exact Instant.le_trans hP (Instant.le_trans hvis hle)
  · -- an update of the message is excluded
    intro n m m' now text receipt visibility _ hid hcall hid' hh _ _
    exact (hnr ⟨now, n, text, receipt, visibility, hid ▸ hcall, m'.receipt,
      hid ▸ hid' ▸ hh⟩).elim

/-- A get leases what it hands out until its lease ends. -/
theorem leasedUntil_of_get (hs : s.Sound) (h : e.call.perform s = .ok (e.answer, s'))
    {now leaseEnd : Instant} {n : String} {visibility : Duration} {maxCount : Nat}
    (hc : e.call = .getMessages now n visibility maxCount)
    (hend : now.add? visibility.storeSpan = some leaseEnd) {r : String}
    (hh : (id, r) ∈ e.handed) :
  s'.LeasedUntil id leaseEnd
  := by
  obtain ⟨name, m', hm', hid, -, hva⟩ := handed_held h hh
  have hva' := hva now n visibility maxCount hc
  rw [hend, Option.some_inj] at hva'
  subst hid
  exact heldWith_of_sound (hs.perform h) hm' (hva' ▸ Instant.le_refl _)

/-- No get before the end of a lease hands the message out. -/
theorem LeasedUntil.not_handed (hl : s.LeasedUntil id t)
    (h : e.call.perform s = .ok (e.answer, s')) {now : Instant} {n : String}
    {visibility : Duration} {maxCount : Nat} (hc : e.call = .getMessages now n visibility maxCount)
    (hlt : now < t) (r : String) :
  (id, r) ∉ e.handed
  := by
  intro hh
  obtain ⟨name, m, now', hm, hid, hnow', -, hvis⟩ := handed_source h hh
  rw [hc] at hnow' hvis
  simp only [Call.now?, Option.some_inj] at hnow'
  subst hnow'
  have hle := Instant.le_trans (hl.2 name m hm hid) (hvis n visibility maxCount rfl)
  exact Instant.le_iff_not_lt.1 hle hlt

end Expiry

/-! ### Runs from an empty store -/

section Runs

variable {pageSize : Nat} {es₁ es₂ es₃ : List Event} {s₁ s₂ s₃ : Store}

/-- A receipt that was current and stopped being current never becomes current again. -/
theorem receipt_not_current_again {n : String} {m : StoredMessage}
    (h₁ : Run (Store.empty pageSize) es₁ s₁) (hm : m ∈ s₁.messagesOf n) (h₂ : Run s₁ es₂ s₂)
    (hretired : ∀ n' m', m' ∈ s₂.messagesOf n' → m'.receipt ≠ m.receipt)
    (h₃ : Run s₂ es₃ s₃) :
  ∀ n' m', m' ∈ s₃.messagesOf n' → m'.receipt ≠ m.receipt
  := by
  obtain ⟨k, hk, hr⟩ := (h₁.reached.1).receipt_drawn hm
  have hrevoked : ∀ id, s₂.Revoked id m.receipt :=
    fun id => ⟨⟨k, le_trans hk h₂.issued.2, hr⟩, fun n' m' hm' _ => hretired n' m' hm'⟩
  intro n' m' hm'
  exact (h₃.invariant (P := fun s => s.Revoked m'.id m.receipt) (fun hv h => hv.perform h)
    (hrevoked m'.id)).2 n' m' hm' rfl

/-- A pair of id and receipt handed out is refused by a delete or an update once a later
call has handed out the message again. -/
theorem refused_after_handed_again {es₄ : List Event} {e₁ e e₂ : Event} {s : Store}
    {id r r' n : String}
    (hrun : Run (Store.empty pageSize) (es₁ ++ e₁ :: es₂ ++ e :: es₃ ++ e₂ :: es₄) s)
    (h₁ : (id, r) ∈ e₁.handed) (h : (id, r') ∈ e.handed)
    (h₂ : e₂.call.presents = some (n, id, r)) :
  e₂.answer = .error (.popReceiptMismatch n id) ∨ e₂.answer = .error (.messageNotFound n id) ∨
    e₂.answer = .error (.queueNotFound n)
  := by
  obtain ⟨t₃, t₃', hpre₃, hstep₂, -⟩ := hrun.split_at
  obtain ⟨t₂, t₂', hpre₂, hstep, hrest₃⟩ := hpre₃.split_at
  obtain ⟨t₁, t₁', -, hstep₁, hrest₂⟩ := hpre₂.split_at
  -- the receipt was drawn when it was handed out
  obtain ⟨k, -, hk, hr⟩ := handed_fresh hstep₁ h₁
  have hdrawn : ∃ k, k ≤ t₂.issuedReceipts ∧ r = receiptOf k :=
    ⟨k, le_trans hk hrest₂.issued.2, hr⟩
  have hrevoked := hrest₃.invariant (P := fun s => s.Revoked id r) (fun hv h => hv.perform h)
    (revoked_of_handed hpre₂.reached.1 hstep hdrawn h)
  exact refused_of_revoked hrevoked hpre₃.reached.2 hstep₂ h₂

/-- A message deleted is never handed out again, and a later delete or update of it is
answered that the message, or the queue, is not found: it is deleted at most once. -/
theorem deleted_message_gone {e : Event} {s : Store} {now : Instant} {n id r : String}
    (hrun : Run (Store.empty pageSize) (es₁ ++ e :: es₂) s)
    (hc : e.call = .deleteMessage now n id r) (ha : e.answer = .ok .done) :
  ∀ e' ∈ es₂, (∀ r', (id, r') ∉ e'.handed) ∧
    ∀ n' r', e'.call.presents = some (n', id, r') →
      e'.answer = .error (.messageNotFound n' id) ∨ e'.answer = .error (.queueNotFound n')
  := by
  obtain ⟨t₁, t₁', hpre, hstep, hrest⟩ := hrun.split_at
  have hgone := gone_of_deleted hpre.reached.1 hstep hc ha
  intro e' he'
  obtain ⟨u, u', as, -, rfl, hbefore, hstep', -⟩ := hrest.of_mem he'
  have hg := hbefore.invariant (P := fun s => s.Gone id) (fun hg h => hg.perform h) hgone
  have hrules := (hpre.append (.cons hstep hbefore)).reached.2
  exact ⟨hg.not_handed hstep', fun _ _ hp => hg.refused hrules hstep' hp⟩

/-- No call made at or after a message's expiry returns or updates it, and a delete or
an update of it is answered that the message, or the queue, is not found. -/
theorem expired_message_untouched {e : Event} {n : String} {m : StoredMessage} {now : Instant}
    (h₁ : Run (Store.empty pageSize) es₁ s₁) (hm : m ∈ s₁.messagesOf n) (h₂ : Run s₁ es₂ s₂)
    (he : e.call.perform s₂ = .ok (e.answer, s₃)) (hnow : e.call.now? = some now)
    (hle : m.expiresAt ≤ now) :
  (∀ r, (m.id, r) ∉ e.handed) ∧
    ∀ n' r, e.call.presents = some (n', m.id, r) →
      e.answer = .error (.messageNotFound n' m.id) ∨ e.answer = .error (.queueNotFound n')
  := by
  have hx : s₁.ExpiresAt m.id m.expiresAt := heldWith_of_sound h₁.reached.1 hm rfl
  have hx₂ := h₂.invariant (P := fun s => s.ExpiresAt m.id m.expiresAt)
    (fun hx h => hx.perform h) hx
  have hrules := (h₁.append h₂).reached.2
  exact ⟨hx₂.not_handed he hnow hle, fun _ _ hp => hx₂.refused hrules he hp hnow hle⟩

/-- A message a get handed out is not handed out by any get made before its lease ends,
unless an update rewrote it in between, when every instant of the run is valid. -/
theorem leased_not_handed_before_end {e₁ e₂ : Event} {s : Store} {now now' leaseEnd : Instant}
    {n n' id r : String} {visibility visibility' : Duration} {maxCount maxCount' : Nat}
    (hrun : Run (Store.empty pageSize) (es₁ ++ e₁ :: es₂ ++ e₂ :: es₃) s)
    (hc₁ : e₁.call = .getMessages now n visibility maxCount) (h₁ : (id, r) ∈ e₁.handed)
    (hend : now.add? visibility.storeSpan = some leaseEnd)
    (hvalid : ∀ e ∈ es₂, ∀ t ∈ e.call.now?, t.Valid) (hnr : ∀ e ∈ es₂, ¬ e.Rewrites id)
    (hc₂ : e₂.call = .getMessages now' n' visibility' maxCount') (hlt : now' < leaseEnd) :
  ∀ r', (id, r') ∉ e₂.handed
  := by
  obtain ⟨t₂, t₂', hpre₂, hstep₂, -⟩ := hrun.split_at
  obtain ⟨t₁, t₁', hpre₁, hstep₁, hrest⟩ := hpre₂.split_at
  have hleased := leasedUntil_of_get hpre₁.reached.1 hstep₁ hc₁ hend h₁
  have hl : t₂.LeasedUntil id leaseEnd :=
    hrest.preserves (P := fun s => s.LeasedUntil id leaseEnd) hleased
      fun e he _ _ hl h => hl.perform h (hvalid e he) (hnr e he)
  exact hl.not_handed hstep₂ hc₂ hlt

end Runs

/-! ### The lease protocol -/

/-- The lease protocol, over every run from an empty store.  Ids are unique across all
queues and current receipts pairwise distinct; no receipt is handed out twice, and one
that stops being current never becomes current again.  A pair handed out is refused once
its message has been handed out again.  A message deleted is never handed out again, and
deleting or updating it again is refused.  A call at or after a message's expiry neither
hands it out nor deletes or updates it, and a count leaves it out.  A message a get leased
is not handed out by a get before the lease ends, unless an update rewrote it; the lease
ends at the get's instant moved by the store's span of the lease, which is ten years for
a lease longer than any span. -/
theorem lease_protocol (pageSize : Nat) :
  (∀ (es : List Event) (s : Store), Run (Store.empty pageSize) es s →
    (∀ n, ((s.messagesOf n).map (·.id)).Nodup) ∧
    (∀ n n' m m', m ∈ s.messagesOf n → m' ∈ s.messagesOf n' →
      m.id = m'.id ∨ m.receipt = m'.receipt → n = n' ∧ m = m') ∧
    ((es.flatMap (·.handed)).map (·.2)).Nodup) ∧
  (∀ (es₁ es₂ es₃ : List Event) (s₁ s₂ s₃ : Store) (n : String) (m : StoredMessage),
    Run (Store.empty pageSize) es₁ s₁ → m ∈ s₁.messagesOf n →
    Run s₁ es₂ s₂ → (∀ n' m', m' ∈ s₂.messagesOf n' → m'.receipt ≠ m.receipt) →
    Run s₂ es₃ s₃ → ∀ n' m', m' ∈ s₃.messagesOf n' → m'.receipt ≠ m.receipt) ∧
  (∀ (es₁ : List Event) (e₁ : Event) (es₂ : List Event) (e : Event) (es₃ : List Event)
      (e₂ : Event) (es₄ : List Event) (s : Store) (id r r' n : String),
    Run (Store.empty pageSize) (es₁ ++ e₁ :: es₂ ++ e :: es₃ ++ e₂ :: es₄) s →
    (id, r) ∈ e₁.handed → (id, r') ∈ e.handed → e₂.call.presents = some (n, id, r) →
    e₂.answer = .error (.popReceiptMismatch n id) ∨
      e₂.answer = .error (.messageNotFound n id) ∨ e₂.answer = .error (.queueNotFound n)) ∧
  (∀ (es₁ : List Event) (e : Event) (es₂ : List Event) (s : Store) (now : Instant)
      (n id r : String), Run (Store.empty pageSize) (es₁ ++ e :: es₂) s →
    e.call = .deleteMessage now n id r → e.answer = .ok .done →
    ∀ e' ∈ es₂, (∀ r', (id, r') ∉ e'.handed) ∧
      ∀ n' r', e'.call.presents = some (n', id, r') →
        e'.answer = .error (.messageNotFound n' id) ∨ e'.answer = .error (.queueNotFound n')) ∧
  (∀ (es₁ : List Event) (s₁ : Store) (es₂ : List Event) (s₂ : Store) (e : Event) (s₃ : Store)
      (n : String) (m : StoredMessage) (now : Instant),
    Run (Store.empty pageSize) es₁ s₁ → m ∈ s₁.messagesOf n →
    Run s₁ es₂ s₂ → e.call.perform s₂ = .ok (e.answer, s₃) → e.call.now? = some now →
    m.expiresAt ≤ now →
    (∀ r, (m.id, r) ∉ e.handed) ∧
    (∀ n' r, e.call.presents = some (n', m.id, r) →
      e.answer = .error (.messageNotFound n' m.id) ∨ e.answer = .error (.queueNotFound n')) ∧
    ∀ n' p, e.call = .getMetadata now n' → e.answer = .ok (.properties p) →
      p.count = ((s₂.messagesOf n').filter fun m' => now < m'.expiresAt).length) ∧
  (∀ (es₁ : List Event) (e₁ : Event) (es₂ : List Event) (e₂ : Event) (es₃ : List Event)
      (s : Store) (now now' leaseEnd : Instant) (n n' id r : String)
      (visibility visibility' : Duration) (maxCount maxCount' : Nat),
    Run (Store.empty pageSize) (es₁ ++ e₁ :: es₂ ++ e₂ :: es₃) s →
    e₁.call = .getMessages now n visibility maxCount → (id, r) ∈ e₁.handed →
    now.add? visibility.storeSpan = some leaseEnd →
    (∀ e ∈ es₂, ∀ t ∈ e.call.now?, t.Valid) → (∀ e ∈ es₂, ¬ e.Rewrites id) →
    e₂.call = .getMessages now' n' visibility' maxCount' → now' < leaseEnd →
    ∀ r', (id, r') ∉ e₂.handed)
  := by
  refine ⟨fun es s hrun => ?_, ?_, ?_, ?_, ?_, ?_⟩
  · have hs := hrun.reached.1
    refine ⟨hs.ids_nodup, fun n n' m m' hm hm' h => ?_, hrun.handed_receipts.1⟩
    rcases h with h | h
    · exact hs.eq_of_id hm hm' h
    · exact hs.eq_of_receipt hm hm' h
  · intro _ _ _ _ _ _ _ _ h₁ hm h₂ hretired h₃
    exact receipt_not_current_again h₁ hm h₂ hretired h₃
  · intro _ _ _ _ _ _ _ _ _ _ _ _ hrun h₁ h h₂
    exact refused_after_handed_again hrun h₁ h h₂
  · intro _ _ _ _ _ _ _ _ hrun hc ha
    exact deleted_message_gone hrun hc ha
  · intro _ _ _ _ _ _ _ _ _ h₁ hm h₂ he hnow hle
    exact ⟨(expired_message_untouched h₁ hm h₂ he hnow hle).1,
      (expired_message_untouched h₁ hm h₂ he hnow hle).2,
      fun _ _ hc ha => getMetadata_count he hc ha⟩
  · intro _ _ _ _ _ _ _ _ _ _ _ _ _ _ _ _ _ hrun hc₁ h₁ hend hvalid hnr hc₂ hlt
    exact leased_not_handed_before_end hrun hc₁ h₁ hend hvalid hnr hc₂ hlt

/-- 2024-03-01T12:00:00Z. -/
def leaseStart : Instant := ⟨19783, 43200, 0⟩

/-- 3651 days after `leaseStart`. -/
def leaseLater : Instant := ⟨23434, 43200, 0⟩

/-- A lease of 10¹⁶ seconds, longer than the longest span. -/
def longVisibility : Duration := .ofSeconds 10000000000000000

/-- A queue with one message that lives twenty years. -/
def leaseSetup : List Event :=
  [⟨.createQueue "lq1" none, .ok .done⟩,
   ⟨.putMessage leaseStart "lq1" "x" (.ofSeconds 0) (.ofSeconds 631152000), .ok .done⟩]

/-- A queue whose message was handed out twice, leased for no time. -/
def redeliveredSetup : List Event :=
  [⟨.createQueue "lq2" none, .ok .done⟩,
   ⟨.putMessage leaseStart "lq2" "x" (.ofSeconds 0) (.ofSeconds 3600), .ok .done⟩,
   ⟨.getMessages leaseStart "lq2" (.ofSeconds 0) 1,
     .ok (.messages [⟨"msg-1", "receipt-2", "x"⟩])⟩,
   ⟨.getMessages leaseStart "lq2" (.ofSeconds 0) 1,
     .ok (.messages [⟨"msg-1", "receipt-3", "x"⟩])⟩]

/-- The message handed out twice, and then its queue deleted. -/
def queueGoneSetup : List Event :=
  redeliveredSetup ++ [⟨.deleteQueue "lq2", .ok .done⟩]

/-- Once a message was handed out again, its first receipt is refused: a delete presenting
it can run after the two gets, and whatever it answers is a refusal. -/
theorem first_receipt_refused_after_redelivery :
  (∃ s, Run (Store.empty 1) (redeliveredSetup ++
    [⟨.deleteMessage leaseStart "lq2" "msg-1" "receipt-2",
      .error (.popReceiptMismatch "lq2" "msg-1")⟩]) s) ∧
  ∀ (a : Except Fault Answer) (s : Store),
    Run (Store.empty 1) (redeliveredSetup ++
      [⟨.deleteMessage leaseStart "lq2" "msg-1" "receipt-2", a⟩]) s →
    a = .error (.popReceiptMismatch "lq2" "msg-1") ∨ a = .error (.messageNotFound "lq2" "msg-1") ∨
      a = .error (.queueNotFound "lq2")
  := by
  refine ⟨⟨_, .cons rfl (.cons rfl (.cons rfl (.cons rfl (.cons rfl (.nil _)))))⟩,
    fun a s hrun => ?_⟩
  -- the two gets hand out the pair of the first receipt, then a pair of the same message
  exact (lease_protocol 1).2.2.1 [redeliveredSetup[0], redeliveredSetup[1]] redeliveredSetup[2] []
    redeliveredSetup[3] [] _ [] s "msg-1" "receipt-2" "receipt-3" "lq2" hrun
    (by simp [redeliveredSetup, Event.handed]) (by simp [redeliveredSetup, Event.handed]) rfl

/-- A lease longer than any span ends after ten years: a message leased at `leaseStart`
for 10¹⁶ seconds is handed out again by the next call, a get 3651 days later.  And a
pair presented after its queue was deleted is refused with the queue not found. -/
theorem lease_cut_and_queue_not_found :
  (∃ s, Run (Store.empty 1) (leaseSetup ++
      [⟨.getMessages leaseStart "lq1" longVisibility 1,
        .ok (.messages [⟨"msg-1", "receipt-2", "x"⟩])⟩,
       ⟨.getMessages leaseLater "lq1" (.ofSeconds 0) 1,
        .ok (.messages [⟨"msg-1", "receipt-3", "x"⟩])⟩]) s) ∧
    (leaseLater.since leaseStart).nanos < longVisibility.nanos ∧
  ∃ s, Run (Store.empty 1) (queueGoneSetup ++
    [⟨.deleteMessage leaseStart "lq2" "msg-1" "receipt-2", .error (.queueNotFound "lq2")⟩]) s
  := by
  refine ⟨⟨_, .cons rfl (.cons rfl (.cons rfl (.cons rfl (.nil _))))⟩, by decide,
    ⟨_, .cons rfl (.cons rfl (.cons rfl (.cons rfl (.cons rfl (.cons rfl (.nil _))))))⟩⟩

end Store

end TaskQueue
