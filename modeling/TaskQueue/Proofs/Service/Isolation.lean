import TaskQueue.Proofs.Service.Kept

/-!
# The queues of each role stay apart

Settings that validate keep the three expiration queues outside the pending queues'
prefix `{stem}-` (`Settings.expirationQueue_startsWith_eq_false`), while every shard name
has that prefix: no pending queue is an expiration queue.  A sweep calls the store only
on queues under the prefix, so it neither reads nor deletes an expiration queue.  An
expiration put or poll calls the store on its own kind's queue only, and a poll answers
only notices leased from that queue; when the three names differ, the queues of the
other two kinds are left as they were.

Validation does not ask the three names to differ: a claim queue and a resolved queue of
one name pass it (`shared_expiration_queue_validates`), and then a poll of either kind
leases the other's notices.
-/

namespace TaskQueue

open Std.Do Time

namespace Settings

/-- Settings validate when the stem does, each expiration queue passes its check, and the
request timeout and loop intervals are positive. -/
theorem validate_eq_ok_iff {s : Settings} :
    s.validate = .ok () ↔ validateStem s.stem = .ok () ∧
      (∀ p ∈ s.expirationQueues, s.validateExpirationQueue p.1 p.2 = .ok ()) ∧
      s.requestTimeout.isZero = false ∧ s.gcInterval.isZero = false ∧
      s.cacheResetInterval.isZero = false
  := by
  unfold validate
  simp only [expirationQueues, List.mem_cons, List.not_mem_nil, or_false, forall_eq_or_imp,
    forall_eq]
  -- the checks run in turn; the first that fails is the answer
  rcases h0 : validateStem s.stem with e | ⟨⟩
  · simp [bind, Except.bind]
  rcases h1 : s.validateExpirationQueue "CLAIM_QUEUE" s.claimQueue with e | ⟨⟩
  · simp [h1, bind, Except.bind, forIn]
  rcases h2 : s.validateExpirationQueue "DEADLINE_QUEUE" s.deadlineQueue with e | ⟨⟩
  · simp [h1, h2, bind, Except.bind, pure, Except.pure, forIn]
  rcases h3 : s.validateExpirationQueue "RESOLVED_QUEUE" s.resolvedQueue with e | ⟨⟩
  · simp [h1, h2, h3, bind, Except.bind, pure, Except.pure, forIn]
  cases s.requestTimeout.isZero
  · cases s.gcInterval.isZero <;> cases s.cacheResetInterval.isZero <;>
      simp [h1, h2, h3, bind, Except.bind, pure, Except.pure, forIn, throw, throwThe,
        MonadExceptOf.throw]
  · simp [h1, h2, h3, bind, Except.bind, pure, Except.pure, forIn, throw, throwThe,
      MonadExceptOf.throw]

/-- An expiration queue passes its check when it is a queue name outside the pending
queues' prefix. -/
theorem validateExpirationQueue_eq_ok_iff {s : Settings} {setting name : String} :
    s.validateExpirationQueue setting name = .ok () ↔
      isQueueName name = true ∧ name.startsWith (shardPrefix s.stem) = false
  := by
  unfold validateExpirationQueue validateQueueName gcPrefix
  cases hq : isQueueName name
  · simp
  · cases name.startsWith (shardPrefix s.stem) <;> simp

/-- Under settings that validate, no expiration queue has the pending queues' prefix. -/
theorem expirationQueue_startsWith_eq_false {s : Settings} (h : s.validate = .ok ())
    (k : ExpirationKind) :
    (s.expirationQueue k).startsWith (shardPrefix s.stem) = false
  := by
  obtain ⟨-, hqs, -⟩ := validate_eq_ok_iff.1 h
  -- each kind's queue is one of the three names validation checks
  have hmem : ∃ setting, (setting, s.expirationQueue k) ∈ s.expirationQueues := by
    cases k with
    | claim => exact ⟨"CLAIM_QUEUE", by simp [expirationQueues, expirationQueue]⟩
    | deadline => exact ⟨"DEADLINE_QUEUE", by simp [expirationQueues, expirationQueue]⟩
    | resolved => exact ⟨"RESOLVED_QUEUE", by simp [expirationQueues, expirationQueue]⟩
  obtain ⟨setting, hmem⟩ := hmem
  exact (validateExpirationQueue_eq_ok_iff.1 (hqs _ hmem)).2

end Settings

/-- Every shard name has the prefix of its stem. -/
theorem shardName_startsWith (stem : String) (p : ProvisionerId) (wt : WorkerType)
    (r : Priority) :
    (shardName stem p wt r).startsWith (shardPrefix stem) = true
  := by
  rw [String.startsWith_string_iff]
  unfold shardName shardPrefix
  simp only [String.toList_append, List.append_assoc]
  exact List.prefix_append_right_inj _ |>.2 (List.prefix_append _ _)

/-! ### What each operation calls -/

section Calls

variable {s : Settings} {w w' : World}

/-- A sweep calls the store only on queues under the pending queues' prefix, however its
calls answer. -/
theorem Sweep.run_callsOn (hs : w.settings = s) {now : Instant}
    {r : Except QueueError Nat} (h : (Sweep.run now).run.run w = .ok (r, w')) :
    Store.CallsOn (·.startsWith (shardPrefix s.stem) = true) w.store w'.store
  := by
  subst hs
  have hkept := Attempt.kept_of_triple (t := fun _ => False) w
    (Sweep.run_kept w (fun _ hn => hn) now) (Kept.refl w) h
  exact hkept.store

/-- An expiration put calls the store only on its kind's queue. -/
theorem Expiration.put_callsOn (hs : w.settings = s) {kind : ExpirationKind} {notice : Json}
    {visibility : Nat} {r : Except QueueError Unit}
    (h : (Expiration.put kind notice visibility).run.run w = .ok (r, w')) :
    Store.CallsOn (· = s.expirationQueue kind) w.store w'.store
  := by
  subst hs
  have hkept := Attempt.kept_of_triple w
    (Expiration.put_kept (t := (· = kind)) (N := (· = w.settings.expirationQueue kind)) w rfl rfl
      notice visibility) (Kept.refl w) h
  exact hkept.store

/-- An expiration poll calls the store only on its kind's queue, and every notice it
answers is leased from there. -/
theorem Expiration.poll_callsOn (hs : w.settings = s) {kind : ExpirationKind}
    {r : Except QueueError (List PolledNotice)} (h : (Expiration.poll kind).run.run w = .ok (r, w')) :
    Store.CallsOn (· = s.expirationQueue kind) w.store w'.store ∧
      ∀ ns, r = .ok ns → ∀ n ∈ ns, n.lease.queue = s.expirationQueue kind
  := by
  subst hs
  have hend := Attempt.of_triple
    (Expiration.poll_leased (t := (· = kind)) (N := (· = w.settings.expirationQueue kind)) w rfl rfl)
    (Kept.refl w) h
  cases r with
  | ok ns =>
    obtain ⟨hkept, hleased⟩ := hend
    refine ⟨hkept.store, fun ns' hns => ?_⟩
    cases hns
    exact hleased
  | error e => exact ⟨hend.store, fun _ hns => nomatch hns⟩

end Calls

/-! ### The roles stay apart -/

/-- Under settings that validate, no shard is an expiration queue and a sweep leaves the
expiration queues as they were, calling the store only under the pending queues' prefix.
When the three expiration queues are moreover distinct, a put or a poll of one kind calls
only its own queue, leaves the other two as they were, and a poll answers only notices
leased from its own queue. -/
theorem expiration_queues_isolated {s : Settings} (hv : s.validate = .ok ()) :
    (∀ k, (s.expirationQueue k).startsWith (shardPrefix s.stem) = false) ∧
    (∀ p wt r k, shardName s.stem p wt r ≠ s.expirationQueue k) ∧
    (∀ (w w' : World) now r, w.settings = s → (Sweep.run now).run.run w = .ok (r, w') →
      Store.CallsOn (·.startsWith (shardPrefix s.stem) = true) w.store w'.store ∧
      ∀ k, w'.store.find? (s.expirationQueue k) = w.store.find? (s.expirationQueue k)) ∧
    (Function.Injective s.expirationQueue → ∀ kind (w : World), w.settings = s →
      (∀ notice visibility r w', (Expiration.put kind notice visibility).run.run w = .ok (r, w') →
        Store.CallsOn (· = s.expirationQueue kind) w.store w'.store ∧
        ∀ k ≠ kind, w'.store.find? (s.expirationQueue k) = w.store.find? (s.expirationQueue k)) ∧
      (∀ r w', (Expiration.poll kind).run.run w = .ok (r, w') →
        Store.CallsOn (· = s.expirationQueue kind) w.store w'.store ∧
        (∀ k ≠ kind, w'.store.find? (s.expirationQueue k) = w.store.find? (s.expirationQueue k)) ∧
        ∀ ns, r = .ok ns → ∀ n ∈ ns, n.lease.queue = s.expirationQueue kind))
  := by
  have hout := Settings.expirationQueue_startsWith_eq_false hv
  refine ⟨hout, fun p wt r k he => ?_, fun w w' now r hs h => ?_, fun hinj kind w hs => ⟨?_, ?_⟩⟩
  · -- a shard has the prefix, an expiration queue has not
    have := shardName_startsWith s.stem p wt r
    rw [he, hout k] at this
    exact Bool.false_ne_true this
  · have hcalls := Sweep.run_callsOn hs h
    exact ⟨hcalls, fun k => hcalls.find?_eq (by simp [hout k])⟩
  · intro notice visibility r w' h
    have hcalls := Expiration.put_callsOn hs h
    exact ⟨hcalls, fun k hk => hcalls.find?_eq fun he => hk (hinj he)⟩
  · intro r w' h
    obtain ⟨hcalls, hleased⟩ := Expiration.poll_callsOn hs h
    exact ⟨hcalls, fun k hk => hcalls.find?_eq fun he => hk (hinj he), hleased⟩

/-- The stem of the default settings is one. -/
theorem Settings.default_validateStem : validateStem Settings.default.stem = .ok ()
  := by
  show validateStem "pq" = .ok ()
  rw [validateStem, if_pos (by decide)]

/-- The default settings validate. -/
theorem Settings.default_validate : Settings.default.validate = .ok ()
  := by
  refine Settings.validate_eq_ok_iff.2
    ⟨Settings.default_validateStem, ?_, by decide, by decide, by decide⟩
  simp only [Settings.expirationQueues, Settings.default, List.mem_cons, List.not_mem_nil,
    or_false, forall_eq_or_imp, forall_eq, Settings.validateExpirationQueue_eq_ok_iff]
  refine ⟨⟨by decide, by rw [String.startsWith_string_eq_false_iff]; decide⟩, ⟨by decide, by rw [String.startsWith_string_eq_false_iff]; decide⟩,
    ⟨by decide, by rw [String.startsWith_string_eq_false_iff]; decide⟩⟩

/-- Under the default settings a deadline poll leaves the claim queue as it was. -/
theorem default_deadline_poll_keeps_claims :
    Settings.default.validate = .ok () ∧ Function.Injective Settings.default.expirationQueue ∧
      ∀ (w : World) r w', w.settings = Settings.default →
        (Expiration.poll .deadline).run.run w = .ok (r, w') →
        w'.store.find? Settings.default.claimQueue = w.store.find? Settings.default.claimQueue
  := by
  have hinj : Function.Injective Settings.default.expirationQueue := by
    intro a b hab
    cases a <;> cases b <;> first | rfl | exact absurd hab (by decide)
  refine ⟨Settings.default_validate, hinj, fun w r w' hs h => ?_⟩
  exact ((expiration_queues_isolated Settings.default_validate).2.2.2 hinj .deadline w hs).2 r w' h
    |>.2.1 .claim (by decide)

/-- Validation lets the claim queue and the resolved queue share a name. -/
theorem shared_expiration_queue_validates :
    ∃ s : Settings, s.validate = .ok () ∧ s.expirationQueue .claim = s.expirationQueue .resolved
  := by
  refine ⟨{ Settings.default with claimQueue := "tq-shared", resolvedQueue := "tq-shared" },
    Settings.validate_eq_ok_iff.2 ⟨Settings.default_validateStem, ?_, by decide, by decide,
      by decide⟩, rfl⟩
  simp only [Settings.expirationQueues, Settings.default, List.mem_cons, List.not_mem_nil,
    or_false, forall_eq_or_imp, forall_eq, Settings.validateExpirationQueue_eq_ok_iff]
  refine ⟨⟨by decide, by rw [String.startsWith_string_eq_false_iff]; decide⟩, ⟨by decide, by rw [String.startsWith_string_eq_false_iff]; decide⟩,
    ⟨by decide, by rw [String.startsWith_string_eq_false_iff]; decide⟩⟩

end TaskQueue
