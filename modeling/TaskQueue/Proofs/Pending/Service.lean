import TaskQueue.Service.Pending
import TaskQueue.Proofs.World
import TaskQueue.Proofs.Codec
import TaskQueue.Proofs.Instant

/-!
# The pending manager on the in-memory store

When the service's calls go to the in-memory store and no failure rule is armed, every
call of the pending manager succeeds or halts, and what it does to the world is a
function of the store.  Ensuring a queue reads its properties, which drops its expired
messages, then creates it or rewrites its metadata when needed (`ensureStore`); ensuring
a family does that for its seven queues in turn, unless the family is remembered
(`ensureFamily_fresh`, `ensureFamily_cached`).

With failure rules armed an ensure may fail, but one that answers went the same way
(`ensureFamily_eq_ok`).  Ensures of a family that all answer read the properties of its
seven queues once and create each that was missing (`ensureFamily_repeated_calls`).

The view the statements share is `Store.live`: the messages of a queue that have not
expired.  Ensuring keeps it (`Refreshes`).
-/

namespace TaskQueue

open Time

/-! ### What ensuring does to a store -/

namespace Store

/-- The messages of a queue that have not expired at `now`. -/
def live (s : Store) (now : Instant) (n : String) : List StoredMessage :=
  (s.messagesOf n).filter (·.isLive now)

/-- `s'` is `s` with the queues `names` made to exist, their metadata maybe rewritten and
the expired messages of some queues dropped: what ensuring queues does to a store with
no failure rule armed. -/
structure Refreshes (now : Instant) (names : List String) (s s' : Store) : Prop where
  messagesOf : ∀ n, s'.messagesOf n = s.messagesOf n ∨
    s'.messagesOf n = (s.messagesOf n).filter (·.isLive now)
  exists_mem : ∀ n ∈ names, s'.exists? n = true
  exists_of : ∀ n, s.exists? n = true → s'.exists? n = true
  rules : s'.rules = s.rules
  issuedIds : s'.issuedIds = s.issuedIds
  issuedReceipts : s'.issuedReceipts = s.issuedReceipts

namespace Refreshes

variable {now : Instant} {names names' : List String} {s s₁ s₂ : Store}

/-- A store whose queues `names` exist already refreshes itself. -/
theorem refl (h : ∀ n ∈ names, s.exists? n = true) :
  Refreshes now names s s
  := ⟨fun _ => .inl rfl, h, fun _ h => h, rfl, rfl, rfl⟩

theorem trans (h₁ : Refreshes now names s s₁) (h₂ : Refreshes now names' s₁ s₂) :
  Refreshes now (names ++ names') s s₂
  where
  messagesOf n := by
    -- dropping the expired messages twice drops them once
    rcases h₂.messagesOf n with h | h <;> rcases h₁.messagesOf n with h' | h'
    · exact .inl (h.trans h')
    · exact .inr (h.trans h')
    · exact .inr (by rw [h, h'])
    · exact .inr (by rw [h, h']; simp only [List.filter_filter, Bool.and_self])
  exists_mem n hn := by
    rcases List.mem_append.1 hn with hn | hn
    · exact h₂.exists_of n (h₁.exists_mem n hn)
    · exact h₂.exists_mem n hn
  exists_of n hn := h₂.exists_of n (h₁.exists_of n hn)
  rules := h₂.rules.trans h₁.rules
  issuedIds := h₂.issuedIds.trans h₁.issuedIds
  issuedReceipts := h₂.issuedReceipts.trans h₁.issuedReceipts

/-- Refreshing keeps the messages that have not expired. -/
theorem live_eq (h : Refreshes now names s s') (n : String) :
  s'.live now n = s.live now n
  := by
  unfold live
  rcases h.messagesOf n with h | h <;> rw [h]
  simp only [List.filter_filter, Bool.and_self]

/-- Refreshing adds no message. -/
theorem mem_messagesOf (h : Refreshes now names s s') {n : String} {m : StoredMessage}
    (hm : m ∈ s'.messagesOf n) :
  m ∈ s.messagesOf n
  := by
  rcases h.messagesOf n with h | h <;> rw [h] at hm
  · exact hm
  · exact List.mem_of_mem_filter hm

end Refreshes

end Store

/-! ### The names of a family -/

theorem Priority.tag_injective : Function.Injective Priority.tag
  := by
  intro r r' h
  cases r <;> cases r' <;> first | rfl | exact absurd h (by decide)

/-- The queues of a family differ in their last character, the priority's tag. -/
theorem shardName_injective (stem : String) (p : ProvisionerId) (wt : WorkerType) :
  Function.Injective (shardName stem p wt)
  := by
  intro r r' h
  have h' := congrArg String.toList h
  simp only [shardName, String.toList_append] at h'
  have htag := List.append_cancel_left h'
  simp only [Char.toString, String.toList_singleton, List.cons.injEq, and_true] at htag
  exact Priority.tag_injective htag

theorem familyNames_nodup (stem : String) (p : ProvisionerId) (wt : WorkerType) :
  (familyNames stem p wt).Nodup
  := (List.nodup_map_iff (shardName_injective stem p wt)).2 (by decide)

theorem familyNames_length (stem : String) (p : ProvisionerId) (wt : WorkerType) :
  (familyNames stem p wt).length = 7
  := by
  simp [familyNames, Priority.all]

/-- The queue of a priority stands at the priority's index among the family's names. -/
theorem familyNames_getElem? (stem : String) (p : ProvisionerId) (wt : WorkerType)
    (r : Priority) :
  (familyNames stem p wt)[r.index]? = some (shardName stem p wt r)
  := by
  cases r <;> rfl

theorem shardName_mem_familyNames (stem : String) (p : ProvisionerId) (wt : WorkerType)
    (r : Priority) :
  shardName stem p wt r ∈ familyNames stem p wt
  := List.mem_of_getElem? (familyNames_getElem? stem p wt r)

namespace Pending

variable {w : World}

/-! ### Ensuring a queue -/

/-- What ensuring a queue of the family of `p` and `wt` does to a store with no failure
rule: reading its properties drops its expired messages; a queue with fresh metadata of
the family is left so, another has its metadata rewritten, and a missing one is created
with that metadata. -/
def ensureStore (now : Instant) (p : ProvisionerId) (wt : WorkerType) (s : Store)
    (q : String) : Store :=
  let desired := (QueueMetadata.mk p.val wt.val now).toMetadata
  match s.find? q with
  | some Q =>
    let s₁ := (s.enter .getMetadata q).2.put q (Q.purge now)
    if isFresh Q.metadata p wt now then s₁
    else (s₁.enter .setMetadata q).2.put q { Q.purge now with metadata := desired }
  | none => ((s.enter .getMetadata q).2.enter .createQueue q).2.put q ⟨desired, []⟩

theorem ensureQueue_run (q : String) (p : ProvisionerId) (wt : WorkerType)
    (hlink : w.link = .store) (hrules : w.store.rules = []) :
  ∃ logs, (ensureQueue q p wt).run.run w =
    pure (.ok (), { w with store := ensureStore w.now p wt w.store q, logs := w.logs ++ logs })
  := by
  unfold ensureQueue ensureStore
  cases hq : w.store.find? q with
  | some Q =>
    have hgm := Run.getMetadata_of_store hlink
      (Store.getMetadata_of_find? w.now (by simp [hrules]) hq)
    by_cases hf : isFresh Q.metadata p wt w.now
    · refine ⟨[], ?_⟩
      simp [hgm, hf, Attempt.lift, ExceptT.run_bind, Except.mapError]
    · -- stale or foreign metadata is rewritten
      have hsm := Run.setMetadata_of_store
        (w := { w with store := (w.store.enter .getMetadata q).2.put q (Q.purge w.now) }) (n := q)
        hlink
        (Store.setMetadata_of_find? (q := Q.purge w.now)
          (QueueMetadata.mk p.val wt.val w.now).toMetadata
          (by simp [Store.put_rules, Store.enter_rules_nil hrules]) (by simp))
      refine ⟨[⟨.debug, pendingTarget, "refreshed queue metadata",
        [LogEvent.quotedField "queue" q]⟩], ?_⟩
      simp [hgm, hf, hsm, Attempt.lift, ExceptT.run_bind, Except.mapError, Run.logPending]
  | none =>
    -- a missing queue is created with the family's metadata
    have hgm := Run.getMetadata_of_store hlink
      (Store.getMetadata_of_find?_none w.now (by simp [hrules]) hq)
    have hcq := Run.createQueue_of_store (w := { w with store := (w.store.enter .getMetadata q).2 })
      (n := q) hlink (Store.createQueue_of_find?_none (some (QueueMetadata.mk p.val wt.val w.now).toMetadata)
        (by simp [Store.enter_rules_nil hrules]) (by simp [hq]))
    have hkind : (QueueError.ofFault (.queueNotFound q)).kind = .queueNotFound := rfl
    refine ⟨[⟨.debug, pendingTarget, "created pending queue", [LogEvent.quotedField "queue" q]⟩], ?_⟩
    simp [hgm, hkind, hcq, createQueue, Attempt.lift, ExceptT.run_bind, Except.mapError,
      Run.logPending]

/-- Ensuring a queue makes it exist and drops its expired messages, and nothing else. -/
theorem ensureStore_refreshes (now : Instant) (p : ProvisionerId) (wt : WorkerType)
    {s : Store} (hrules : s.rules = []) (q : String) :
  Store.Refreshes now [q] s (ensureStore now p wt s q)
  := by
  unfold ensureStore
  cases hq : s.find? q with
  | some Q =>
    by_cases hf : isFresh Q.metadata p wt now
    · simp only [hf, if_true]
      refine ⟨fun n => ?_, fun n hn => ?_, fun n hn => ?_, ?_, by simp, by simp⟩
      · by_cases hn : n = q
        · subst hn
          simp [Store.messagesOf_of_find? hq, StoredQueue.purge]
        · simp [hn]
      · simp [List.mem_singleton.1 hn, Store.exists?]
      · by_cases hnq : n = q <;> simp_all [Store.exists?]
      · rw [hrules, Store.put_rules, Store.enter_rules_nil hrules]
    · simp only [hf, Bool.false_eq_true, if_false]
      refine ⟨fun n => ?_, fun n hn => ?_, fun n hn => ?_, ?_, by simp, by simp⟩
      · by_cases hn : n = q
        · subst hn
          simp [Store.messagesOf_of_find? hq, StoredQueue.purge]
        · simp [hn]
      · simp [List.mem_singleton.1 hn, Store.exists?]
      · by_cases hnq : n = q <;> simp_all [Store.exists?]
      · rw [hrules, Store.put_rules]
        exact Store.enter_rules_nil (by rw [Store.put_rules, Store.enter_rules_nil hrules]) _ _
  | none =>
    refine ⟨fun n => ?_, fun n hn => ?_, fun n hn => ?_, ?_, by simp, by simp⟩
    · by_cases hn : n = q
      · subst hn
        simp [Store.messagesOf_of_find?_none hq]
      · simp [hn]
    · simp [List.mem_singleton.1 hn, Store.exists?]
    · by_cases hnq : n = q <;> simp_all [Store.exists?]
    · rw [hrules, Store.put_rules, Store.enter_rules_nil (Store.enter_rules_nil hrules _ _)]

/-! ### Ensuring a family -/

/-- What ensuring the queues `names` in turn does to a store with no failure rule. -/
def ensureNames (now : Instant) (p : ProvisionerId) (wt : WorkerType) (s : Store)
    (names : List String) : Store :=
  names.foldl (ensureStore now p wt) s

theorem ensureNames_refreshes (now : Instant) (p : ProvisionerId) (wt : WorkerType)
    (names : List String) {s : Store} (hrules : s.rules = []) :
  Store.Refreshes now names s (ensureNames now p wt s names)
  := by
  induction names generalizing s with
  | nil => exact .refl (by simp)
  | cons q qs ih =>
    have h₁ := ensureStore_refreshes now p wt hrules q
    exact h₁.trans (ih (h₁.rules.trans hrules))

theorem ensureQueues_run (p : ProvisionerId) (wt : WorkerType) (names : List String)
    (hlink : w.link = .store) (hrules : w.store.rules = []) :
  ∃ logs, (ensureQueues p wt names).run.run w =
    pure (.ok (), { w with store := ensureNames w.now p wt w.store names, logs := w.logs ++ logs })
  := by
  induction names generalizing w with
  | nil => exact ⟨[], by simp [ensureQueues, ensureNames]⟩
  | cons q qs ih =>
    obtain ⟨l₁, h₁⟩ := ensureQueue_run q p wt hlink hrules
    -- the queues after the first are ensured in the world the first leaves
    have hrules₁ := (ensureStore_refreshes w.now p wt hrules q).rules.trans hrules
    obtain ⟨l₂, h₂⟩ :=
      @ih { w with store := ensureStore w.now p wt w.store q, logs := w.logs ++ l₁ } hlink hrules₁
    refine ⟨l₁ ++ l₂, ?_⟩
    simp [ensureQueues, ExceptT.run_bind, h₁, h₂, ensureNames]

/-- A remembered family is answered from memory. -/
theorem ensureFamily_cached {k : FamilyKey} {names : List String}
    (h : w.families.lookup k = some names) :
  (ensureFamily k).run.run w = pure (.ok names, w)
  := by
  simp [ensureFamily, ExceptT.run_bind, h]

/-- A family not remembered before the stop signal has its seven queues ensured, and is
remembered. -/
theorem ensureFamily_fresh (k : FamilyKey) (hlink : w.link = .store)
    (hrules : w.store.rules = []) (hsignal : w.signal ≠ .raised)
    (h : w.families.lookup k = none) :
  ∃ logs, (ensureFamily k).run.run w =
    pure (.ok (familyNames w.settings.stem k.provisionerId k.workerType),
      { w with
        store := (ensureNames w.now k.provisionerId k.workerType w.store
          (familyNames w.settings.stem k.provisionerId k.workerType)),
        families := w.families ++ [(k, familyNames w.settings.stem k.provisionerId k.workerType)],
        logs := w.logs ++ logs })
  := by
  obtain ⟨l, hq⟩ := ensureQueues_run k.provisionerId k.workerType
    (familyNames w.settings.stem k.provisionerId k.workerType) hlink hrules
  refine ⟨l ++ [⟨.debug, pendingTarget, "pending queue family ready",
    [("provisioner_id", k.provisionerId.val), ("worker_type", k.workerType.val)]⟩], ?_⟩
  simp [ensureFamily, h, hsignal, Attempt.lift, ExceptT.run_bind, hq, Run.logPending, Except.map]

/-! ### Ensures that answer

With failure rules armed, an ensure may fail; one that answers went the way it goes with
no rule, since an injected failure is transient and fails the ensure.  So an ensure that
answers left the store as `ensureStore` and `ensureNames` say, whatever the rules.
-/

/-- A create of a missing pending queue that answers created it. -/
theorem createQueue_eq_ok {q : String} {m : Metadata} {w' : World} (hlink : w.link = .store)
    (hq : w.store.find? q = none) (h : (createQueue q m).run.run w = .ok (.ok (), w')) :
  ∃ logs, w' = { w with
    store := (w.store.enter .createQueue q).2.put q ⟨m, []⟩
    logs := w.logs ++ logs }
  := by
  unfold createQueue at h
  rcases hc : w.store.createQueue q (some m) with e | ⟨r, s₁⟩
  · have : (Run.createQueue q (some m)).run w = .error e :=
      Run.perform_halts (fun s _ => s.createQueue q (some m)) _ _ hlink hc
    simp [this, Attempt.lift, ExceptT.run_bind] at h
    cases h
  · have hrun := Run.createQueue_of_store hlink hc
    rcases Store.createQueue_eq_ok_iff.1 hc with ⟨rfl, rfl, -⟩ | ⟨-, ⟨he, -⟩ | ⟨-, rfl, rfl⟩⟩
    · simp [hrun, Attempt.lift, ExceptT.run_bind, Run.reportNoted, Except.mapError] at h
      cases h
    · -- the store answers that the queue exists only when it does
      simp [Store.exists?, hq] at he
    · simp [hrun, Attempt.lift, ExceptT.run_bind, Except.mapError, Run.logPending] at h
      cases h
      exact ⟨_, rfl⟩

/-- An ensure of a queue that answers left the store as `ensureStore` says. -/
theorem ensureQueue_eq_ok {q : String} {p : ProvisionerId} {wt : WorkerType} {w' : World}
    (hlink : w.link = .store) (h : (ensureQueue q p wt).run.run w = .ok (.ok (), w')) :
  ∃ logs, w' = { w with
    store := ensureStore w.now p wt w.store q
    logs := w.logs ++ logs }
  := by
  unfold ensureQueue at h
  have hkind : (QueueError.ofFault (.queueNotFound q)).kind = .queueNotFound := rfl
  rcases hg : w.store.getMetadata w.now q with e | ⟨r, s₁⟩
  · have : (Run.getMetadata q).run w = .error e :=
      Run.perform_halts (fun s now => s.getMetadata now q) _ _ hlink hg
    simp [this, Attempt.lift, ExceptT.run_bind] at h
    cases h
  · have hrun := Run.getMetadata_of_store hlink hg
    rcases Store.getMetadata_eq_ok_iff.1 hg with
      ⟨rfl, rfl, -⟩ | ⟨-, ⟨hq, rfl, rfl⟩ | ⟨Q, hq, rfl, rfl⟩⟩
    · simp [hrun, Attempt.lift, ExceptT.run_bind, Run.reportNoted, Except.mapError] at h
      cases h
    · -- a missing queue is created
      simp [hrun, hkind, Attempt.lift, ExceptT.run_bind, Except.mapError] at h
      have hq₁ : (w.store.enter .getMetadata q).2.find? q = none := by simpa using hq
      obtain ⟨logs, rfl⟩ :=
        createQueue_eq_ok (w := { w with store := (w.store.enter .getMetadata q).2 }) hlink hq₁ h
      exact ⟨logs, by simp [ensureStore, hq]⟩
    · by_cases hf : isFresh Q.metadata p wt w.now
      · simp [hrun, hf, Attempt.lift, ExceptT.run_bind, Except.mapError] at h
        cases h
        exact ⟨[], by simp [ensureStore, hq, hf]⟩
      · -- stale or foreign metadata is rewritten, on a queue the read just kept
        set s₁ := (w.store.enter .getMetadata q).2.put q (Q.purge w.now)
        have hq₁ : s₁.find? q = some (Q.purge w.now) := by simp [s₁]
        rcases hs : s₁.setMetadata q (QueueMetadata.mk p.val wt.val w.now).toMetadata with
          e | ⟨r, s₂⟩
        · have : (Run.setMetadata q (QueueMetadata.mk p.val wt.val w.now).toMetadata).run
              { w with store := s₁ } = .error e :=
            Run.perform_halts (w := { w with store := s₁ })
              (fun s _ => s.setMetadata q (QueueMetadata.mk p.val wt.val w.now).toMetadata) _ _ hlink hs
          simp [hrun, hf, this, Attempt.lift, ExceptT.run_bind, Except.mapError] at h
          cases h
        · have hrun₂ := Run.setMetadata_of_store (w := { w with store := s₁ }) hlink hs
          rcases Store.setMetadata_eq_ok_iff.1 hs with
            ⟨rfl, rfl, -⟩ | ⟨-, ⟨hq₂, -⟩ | ⟨Q₂, hq₂, rfl, rfl⟩⟩
          · simp [hrun, hf, hrun₂, Attempt.lift, ExceptT.run_bind, Run.reportNoted,
              Except.mapError] at h
            cases h
          · simp [hq₁] at hq₂
          · rw [hq₁, Option.some_inj] at hq₂
            subst hq₂
            simp [hrun, hf, hrun₂, Attempt.lift, ExceptT.run_bind, Except.mapError,
              Run.logPending] at h
            cases h
            exact ⟨[⟨.debug, pendingTarget, "refreshed queue metadata",
              [LogEvent.quotedField "queue" q]⟩], by simp [ensureStore, hq, hf, s₁]⟩

theorem ensureQueues_eq_ok {p : ProvisionerId} {wt : WorkerType} {names : List String}
    {w' : World} (hlink : w.link = .store)
    (h : (ensureQueues p wt names).run.run w = .ok (.ok (), w')) :
  ∃ logs, w' = { w with
    store := ensureNames w.now p wt w.store names
    logs := w.logs ++ logs }
  := by
  induction names generalizing w with
  | nil =>
    simp [ensureQueues] at h
    cases h
    exact ⟨[], by simp [ensureNames]⟩
  | cons q qs ih =>
    obtain ⟨⟨⟩, w₁, h₁, h₂⟩ := Attempt.run_bind_eq_ok.1 h
    obtain ⟨l₁, rfl⟩ := ensureQueue_eq_ok hlink h₁
    obtain ⟨l₂, rfl⟩ := ih (by exact hlink) h₂
    exact ⟨l₁ ++ l₂, by simp [ensureNames]⟩

/-- An ensure of a family not remembered that answers made its seven queues exist and
remembered it with their names. -/
theorem ensureFamily_eq_ok {k : FamilyKey} {names : List String} {w' : World}
    (hlink : w.link = .store) (hk : w.families.lookup k = none)
    (h : (ensureFamily k).run.run w = .ok (.ok names, w')) :
  names = familyNames w.settings.stem k.provisionerId k.workerType ∧
  ∃ logs, w' = { w with
    store := ensureNames w.now k.provisionerId k.workerType w.store names
    families := w.families ++ [(k, names)]
    logs := w.logs ++ logs }
  := by
  by_cases hs : w.signal = .raised
  · simp [ensureFamily, hk, hs, ExceptT.run_bind] at h
    cases h
  · rcases hq : (ensureQueues k.provisionerId k.workerType
        (familyNames w.settings.stem k.provisionerId k.workerType)).run.run w with
      e | ⟨(e | ⟨⟩), w₁⟩
    · simp [ensureFamily, hk, hs, hq, Attempt.lift, ExceptT.run_bind] at h
      cases h
    · simp [ensureFamily, hk, hs, hq, Attempt.lift, ExceptT.run_bind] at h
      cases h
    · obtain ⟨logs, hw₁⟩ := ensureQueues_eq_ok hlink hq
      rw [hw₁] at hq
      simp [ensureFamily, hk, hs, Attempt.lift, ExceptT.run_bind, Run.logPending,
        show ∀ a : Except QueueError Unit × World, (Except.ok a : Except Halt _) = pure a from
          fun _ => rfl, hq] at h
      cases h
      exact ⟨rfl, _, rfl⟩

/-- Ensures of a family not remembered, one after another, that all answer: the first
ensures the family's queues and remembers it, and the others are answered from memory. -/
theorem ensureFamily_repeated {k : FamilyKey} {m : Nat} {ws : Nat → World}
    {names : Nat → List String} (hlink : (ws 0).link = .store)
    (hk : (ws 0).families.lookup k = none) (hm : 0 < m)
    (h : ∀ i < m, (ensureFamily k).run.run (ws i) = .ok (.ok (names i), ws (i + 1))) :
  (ws m).store = ensureNames (ws 0).now k.provisionerId k.workerType (ws 0).store
    (familyNames (ws 0).settings.stem k.provisionerId k.workerType)
  := by
  obtain ⟨hn, logs, hw₁⟩ := ensureFamily_eq_ok hlink hk (h 0 hm)
  have hl : (ws 1).families.lookup k = some (names 0) := by
    simp [hw₁, List.lookup_append, hk]
  -- after the first, every ensure is answered from memory and leaves the world as it was
  have hsame : ∀ i, 0 < i → i ≤ m → ws i = ws 1 := by
    intro i hi him
    induction i with
    | zero => omega
    | succ i ih =>
      rcases Nat.eq_zero_or_pos i with rfl | hi'
      · rfl
      · have hwi := ih hi' (by omega)
        have hstep := h i (by omega)
        rw [hwi, ensureFamily_cached hl] at hstep
        exact (Prod.mk.inj (Except.ok.inj hstep)).2.symm
  rw [hsame m hm le_rfl, hw₁, hn]

/-! ### What ensuring costs

Ensuring a queue reads its properties once and creates it only when it is missing; the
seven queues of a family have distinct names, so ensuring a family reads seven
properties and creates each of its queues that was missing.
-/

section Calls

variable {now : Instant} {p : ProvisionerId} {wt : WorkerType}

/-- Ensuring a queue reads its properties once, and creates it once when it is missing. -/
theorem ensureStore_calls (s : Store) (q : String) :
  (ensureStore now p wt s q).calls .getMetadata = s.calls .getMetadata + 1 ∧
  (ensureStore now p wt s q).calls .createQueue =
    s.calls .createQueue + if s.exists? q then 0 else 1
  := by
  unfold ensureStore
  cases hq : s.find? q with
  | none => simp [Store.enter_calls, Store.exists?, hq]
  | some Q =>
    by_cases hf : isFresh Q.metadata p wt now <;>
      simp [Store.enter_calls, Store.exists?, hq, hf]

/-- Ensuring a queue makes it exist and leaves the others as they were. -/
theorem ensureStore_exists? (s : Store) (q n : String) :
  (ensureStore now p wt s q).exists? n = (n == q || s.exists? n)
  := by
  unfold ensureStore
  cases hq : s.find? q with
  | none => by_cases hn : n = q <;> simp [Store.exists?, hn]
  | some Q =>
    by_cases hf : isFresh Q.metadata p wt now <;> by_cases hn : n = q <;>
      simp [Store.exists?, hq, hf, hn]

/-- Ensuring distinct queues in turn reads each once and creates each that was missing. -/
theorem ensureNames_calls {names : List String} (hn : names.Nodup) (s : Store) :
  (ensureNames now p wt s names).calls .getMetadata = s.calls .getMetadata + names.length ∧
  (ensureNames now p wt s names).calls .createQueue =
    s.calls .createQueue + (names.filter (fun n => !s.exists? n)).length
  := by
  induction names generalizing s with
  | nil => simp [ensureNames]
  | cons q qs ih =>
    obtain ⟨hq, hqs⟩ := List.nodup_cons.1 hn
    obtain ⟨ih₁, ih₂⟩ := ih hqs (ensureStore now p wt s q)
    obtain ⟨h₁, h₂⟩ := @ensureStore_calls now p wt s q
    -- the queues after the first are missing after it exactly when they were before
    have hfilter : qs.filter (fun n => !(ensureStore now p wt s q).exists? n) =
        qs.filter (fun n => !s.exists? n) :=
      List.filter_congr fun n hn => by
        have hne : n ≠ q := fun h => hq (h ▸ hn)
        rw [ensureStore_exists?, beq_false_of_ne hne, Bool.false_or]
    simp only [ensureNames, List.foldl_cons] at ih₁ ih₂ ⊢
    rw [ih₁, ih₂, h₁, h₂, hfilter, List.filter_cons]
    cases s.exists? q <;> simp <;> omega

end Calls

/-- Ensures of a family not remembered, one after another, that all answer: together they
read the properties of each of its seven queues once, and create each that was missing. -/
theorem ensureFamily_repeated_calls {k : FamilyKey} {m : Nat} {ws : Nat → World}
    {names : Nat → List String} (hlink : (ws 0).link = .store)
    (hk : (ws 0).families.lookup k = none) (hm : 0 < m)
    (h : ∀ i < m, (ensureFamily k).run.run (ws i) = .ok (.ok (names i), ws (i + 1))) :
  (ws m).store.calls .getMetadata = (ws 0).store.calls .getMetadata + 7 ∧
  (ws m).store.calls .createQueue = (ws 0).store.calls .createQueue +
    ((familyNames (ws 0).settings.stem k.provisionerId k.workerType).filter
      (fun n => !(ws 0).store.exists? n)).length
  := by
  rw [ensureFamily_repeated hlink hk hm h,
    ← familyNames_length (ws 0).settings.stem k.provisionerId k.workerType]
  exact ensureNames_calls (familyNames_nodup _ _ _) _

end Pending

end TaskQueue
