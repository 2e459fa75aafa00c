import TaskQueue.Proofs.Pending.Count
import TaskQueue.Proofs.Service.Stamps
import TaskQueue.Proofs.Sweep

/-!
# Ensuring one pending queue

An ensure of a queue of a family makes sure the queue exists and carries metadata naming the
family, at most 23 hours old.  On the in-memory store with no failure rule it makes the
calls `ensureEvents` lists, with the answers listed there: it reads the queue's properties;
then it creates a missing queue with the family's metadata, or rewrites metadata that does
not read, names another family or is 23 hours old, or leaves fresh metadata alone
(`ensureStore_events`).  The queue is then as `ensuredQueue` says and every other queue as
it was (`find?_ensureStore`).  Reading the properties drops the queue's expired messages,
so even a fresh queue loses those (`ensure_drops_expired_message`).

Metadata written at an instant with a year of four digits reads back fresh at that
instant, so an ensure right after at the same instant only reads the properties
(`ensureStore_again`).

With failure rules armed, an ensure that fails was stopped by the injected failure of one
of its calls, the calls before it having gone as with no rule; the failure is reported
once, with the queue and a note that says which call it was (`ensureQueue_eq_error`).

`ensure_queue_contract` gathers these facts for every queue and family of a world.
-/

namespace TaskQueue

open Time

namespace Store

/-- The operation of a call. -/
def Call.operation : Call → Operation
  | .createQueue .. => .createQueue
  | .deleteQueue .. => .deleteQueue
  | .putMessage .. => .putMessage
  | .getMessages .. => .getMessages
  | .deleteMessage .. => .deleteMessage
  | .updateMessage .. => .updateMessage
  | .getMetadata .. => .getMetadata
  | .setMetadata .. => .setMetadata
  | .listQueues .. => .listQueues

/-- Setting a queue of a sorted store to what it holds changes nothing. -/
theorem put_self {s : Store} (hs : s.Sorted) {n : String} {q : StoredQueue}
    (hq : s.find? n = some q) :
  s.put n q = s
  := by
  have hl : (s.put n q).queues = s.queues := by
    refine eq_of_lookup_eq (hs.put n q) hs fun n' => ?_
    rw [lookup_queues, lookup_queues, find?_put]
    by_cases hn : n' = n
    · rw [if_pos hn, hn, hq]
    · rw [if_neg hn]
  cases s
  simp only [put] at hl ⊢
  rw [hl]

/-- Creating a queue never halts: its answers, failures included, are the store's. -/
theorem createQueue_ne_halt (s : Store) (n : String) (m : Option Metadata) (h : Halt) :
  s.createQueue n m ≠ .error h
  := by
  intro hc
  unfold createQueue at hc
  split at hc
  · cases hc
  · split at hc <;> cases hc

/-- Reading a queue's properties never halts. -/
theorem getMetadata_ne_halt (s : Store) (now : Instant) (n : String) (h : Halt) :
  s.getMetadata now n ≠ .error h
  := by
  intro hg
  unfold getMetadata at hg
  split at hg
  · cases hg
  · split at hg <;> cases hg

/-- Writing a queue's metadata never halts. -/
theorem setMetadata_ne_halt (s : Store) (n : String) (m : Metadata) (h : Halt) :
  s.setMetadata n m ≠ .error h
  := by
  intro hs
  unfold setMetadata at hs
  split at hs
  · cases hs
  · split at hs <;> cases hs

end Store

namespace Pending

/-- The metadata an ensure at `now` writes for the family of `p` and `wt`. -/
abbrev desired (now : Instant) (p : ProvisionerId) (wt : WorkerType) : Metadata :=
  (QueueMetadata.mk p.val wt.val now).toMetadata

/-- The calls ensuring queue `q` makes on a store with no failure rule, with their answers:
read its properties; then create it when it is missing, or rewrite its metadata when that
is stale or names another family. -/
def ensureEvents (now : Instant) (p : ProvisionerId) (wt : WorkerType) (s : Store)
    (q : String) : List Store.Event :=
  match s.find? q with
  | none =>
    [⟨.getMetadata now q, .error (.queueNotFound q)⟩,
      ⟨.createQueue q (some (desired now p wt)), .ok .done⟩]
  | some Q =>
    ⟨.getMetadata now q, .ok (.properties ⟨Q.metadata, (Q.purge now).messages.length⟩)⟩ ::
      if isFresh Q.metadata p wt now then [] else [⟨.setMetadata q (desired now p wt), .ok .done⟩]

/-- The queue an ensure leaves: a missing one created empty with the family's metadata, a
fresh one kept, any other given the family's metadata; in each the expired messages are
dropped. -/
def ensuredQueue (now : Instant) (p : ProvisionerId) (wt : WorkerType) :
    Option StoredQueue → StoredQueue
  | none => ⟨desired now p wt, []⟩
  | some Q => if isFresh Q.metadata p wt now then Q.purge now
    else { Q.purge now with metadata := desired now p wt }

/-- The note an ensure gives the error of each call it makes. -/
def ensureNote : Store.Call → String
  | .getMetadata .. => "failed to read queue metadata"
  | .setMetadata .. => "failed to set queue metadata"
  | _ => "failed to create queue"

/-- The error an ensure of `q` answers when its call `c` fails by an injected failure: that
failure, named by the queue and the ensure's note. -/
def ensureFailure (q : String) (c : Store.Call) : QueueError :=
  ((QueueError.ofFault (Store.injected c.operation q)).withContext "queue" q).withContext "note"
    (ensureNote c)

variable {now : Instant} {p : ProvisionerId} {wt : WorkerType} {s : Store} {q : String}

/-! ### With no failure rule -/

/-- With no failure rule, the store makes the calls of `ensureEvents`, answering as it
says, and is left as `ensureStore` says. -/
theorem ensureStore_events (now : Instant) (p : ProvisionerId) (wt : WorkerType) (q : String)
    (hrules : s.rules = []) :
  Store.Run s (ensureEvents now p wt s q) (ensureStore now p wt s q)
  := by
  unfold ensureEvents ensureStore
  cases hq : s.find? q with
  | none =>
    have h₁ : (Store.Call.getMetadata now q).perform s =
        .ok (.error (.queueNotFound q), (s.enter .getMetadata q).2) := by
      rw [Store.Call.perform, Store.getMetadata_of_find?_none now (by simp [hrules]) hq]
      rfl
    have h₂ : (Store.Call.createQueue q (some (desired now p wt))).perform
        (s.enter .getMetadata q).2 = .ok (.ok .done,
          ((s.enter .getMetadata q).2.enter .createQueue q).2.put q ⟨desired now p wt, []⟩) := by
      rw [Store.Call.perform, Store.createQueue_of_find?_none _
        (by simp [Store.enter_rules_nil hrules]) (by rw [Store.find?_enter]; exact hq)]
      rfl
    exact .cons h₁ (.cons h₂ (.nil _))
  | some Q =>
    have h₁ : (Store.Call.getMetadata now q).perform s =
        .ok (.ok (.properties ⟨Q.metadata, (Q.purge now).messages.length⟩),
          (s.enter .getMetadata q).2.put q (Q.purge now)) := by
      rw [Store.Call.perform, Store.getMetadata_of_find? now (by simp [hrules]) hq]
      rfl
    by_cases hf : isFresh Q.metadata p wt now
    · simp only [hf, if_true]
      exact .cons h₁ (.nil _)
    · -- the read found the queue, so the rewrite finds it too
      have h₂ : (Store.Call.setMetadata q (desired now p wt)).perform
          ((s.enter .getMetadata q).2.put q (Q.purge now)) = .ok (.ok .done,
            (((s.enter .getMetadata q).2.put q (Q.purge now)).enter .setMetadata q).2.put q
              { Q.purge now with metadata := desired now p wt }) := by
        rw [Store.Call.perform, Store.setMetadata_of_find? (q := Q.purge now) _
          (by simp [Store.put_rules, Store.enter_rules_nil hrules]) (by simp)]
        rfl
      simp only [hf, Bool.false_eq_true, if_false]
      exact .cons h₁ (.cons h₂ (.nil _))

/-- Ensuring a queue leaves it as `ensuredQueue` says and every other queue as it was. -/
theorem find?_ensureStore (n : String) :
  (ensureStore now p wt s q).find? n =
    if n = q then some (ensuredQueue now p wt (s.find? q)) else s.find? n
  := by
  unfold ensureStore ensuredQueue
  cases hq : s.find? q with
  | none => by_cases hn : n = q <;> simp [hn]
  | some Q =>
    by_cases hf : isFresh Q.metadata p wt now <;> by_cases hn : n = q <;> simp [hf, hn]

theorem ensureStore_sorted (hs : s.Sorted) :
  (ensureStore now p wt s q).Sorted
  := by
  unfold ensureStore
  split
  · split
    · exact ((Sweep.sorted_enter _ _).2 hs).put _ _
    · exact ((Sweep.sorted_enter _ _).2 (((Sweep.sorted_enter _ _).2 hs).put _ _)).put _ _
  · exact ((Sweep.sorted_enter _ _).2 ((Sweep.sorted_enter _ _).2 hs)).put _ _

/-! ### A second ensure -/

/-- Metadata an ensure writes is fresh for an ensure at the same instant, when that instant
has a year of four digits: its text reads back. -/
theorem isFresh_desired (ht : now.Valid) (hy : 0 ≤ now.date.1 ∧ now.date.1 ≤ 9999) :
  isFresh (desired now p wt) p wt now = true
  := by
  have hm := QueueMetadata.ofMetadata?_toMetadata (QueueMetadata.mk p.val wt.val now) ht hy
  unfold isFresh
  rw [hm]
  simp only [QueueMetadata.describes, Time.Instant.since_self, beq_self_eq_true, Bool.and_self,
    Bool.true_and, decide_eq_true_eq]
  show (0 : Int) < metadataRefreshAge.nanos
  simp only [metadataRefreshAge, Span.ofHours, Span.ofSeconds, nanosPerSecond]
  omega

/-- The queue an ensure leaves is fresh for a second ensure at the same instant. -/
theorem isFresh_ensuredQueue (ht : now.Valid) (hy : 0 ≤ now.date.1 ∧ now.date.1 ≤ 9999)
    (o : Option StoredQueue) :
  isFresh (ensuredQueue now p wt o).metadata p wt now = true
  := by
  cases o with
  | none => exact isFresh_desired ht hy
  | some Q =>
    by_cases hf : isFresh Q.metadata p wt now
    · simp [ensuredQueue, hf, StoredQueue.purge]
    · simpa [ensuredQueue, hf] using isFresh_desired ht hy

/-- The queue an ensure leaves holds no expired message. -/
theorem ensuredQueue_purge (o : Option StoredQueue) :
  (ensuredQueue now p wt o).purge now = ensuredQueue now p wt o
  := by
  cases o with
  | none => rfl
  | some Q =>
    by_cases hf : isFresh Q.metadata p wt now <;>
      simp [ensuredQueue, hf, StoredQueue.purge, List.filter_filter]

/-- A second ensure of a queue at the same instant, on a sorted store with no failure rule,
only reads the queue's properties, and changes nothing but the count of that call. -/
theorem ensureStore_again (p : ProvisionerId) (wt : WorkerType) (q : String) (hs : s.Sorted)
    (ht : now.Valid) (hy : 0 ≤ now.date.1 ∧ now.date.1 ≤ 9999) :
  ensureEvents now p wt (ensureStore now p wt s q) q =
      [⟨.getMetadata now q, .ok (.properties ⟨(ensuredQueue now p wt (s.find? q)).metadata,
        (ensuredQueue now p wt (s.find? q)).messages.length⟩)⟩] ∧
    ensureStore now p wt (ensureStore now p wt s q) q =
      ((ensureStore now p wt s q).enter .getMetadata q).2
  := by
  have hq : (ensureStore now p wt s q).find? q = some (ensuredQueue now p wt (s.find? q)) := by
    rw [find?_ensureStore, if_pos rfl]
  have hsorted : (ensureStore now p wt s q).Sorted := ensureStore_sorted hs
  have hf : isFresh (ensuredQueue now p wt (s.find? q)).metadata p wt now = true :=
    isFresh_ensuredQueue ht hy (s.find? q)
  have hp : (ensuredQueue now p wt (s.find? q)).purge now = ensuredQueue now p wt (s.find? q) :=
    ensuredQueue_purge (s.find? q)
  -- what the first ensure left is all the second one sees
  generalize ensureStore now p wt s q = s' at hq hsorted ⊢
  generalize ensuredQueue now p wt (s.find? q) = Q at hq hf hp ⊢
  refine ⟨?_, ?_⟩
  · simp [ensureEvents, hq, hf, hp]
  · simp only [ensureStore, hq, hf, if_true, hp]
    exact Store.put_self ((Sweep.sorted_enter _ _).2 hsorted) (by rw [Store.find?_enter, hq])

/-! ### Ensures that fail -/

variable {w w' : World}

/-- Every list of ensure calls starts by reading the queue's properties. -/
theorem ensureEvents_cons (now : Instant) (p : ProvisionerId) (wt : WorkerType) (s : Store)
    (q : String) :
  ∃ a rest, ensureEvents now p wt s q = ⟨.getMetadata now q, a⟩ :: rest
  := by
  unfold ensureEvents
  split
  · exact ⟨_, _, rfl⟩
  · exact ⟨_, _, rfl⟩

/-- A create of a missing pending queue that fails was failed by an injected failure, which
it reports and answers with the queue and a note. -/
theorem createQueue_eq_error {m : Metadata} (hlink : w.link = .store)
    (hq : w.store.find? q = none) {e : QueueError}
    (h : (createQueue q m).run.run w = .ok (.error e, w')) :
  (Store.Call.createQueue q (some m)).perform w.store =
      .ok (.error (Store.injected .createQueue q), w'.store) ∧
    e = ensureFailure q (.createQueue q (some m)) ∧ w'.reports = w.reports ++ [e] ∧
    w' = { w with store := w'.store, reports := w'.reports, logs := w'.logs }
  := by
  unfold createQueue at h
  rcases hc : w.store.createQueue q (some m) with e' | ⟨r, s₁⟩
  · exact absurd hc (Store.createQueue_ne_halt _ _ _ _)
  have hrun := Run.createQueue_of_store hlink hc
  rcases Store.createQueue_eq_ok_iff.1 hc with ⟨rfl, rfl, -⟩ | ⟨-, ⟨he, -⟩ | ⟨-, rfl, rfl⟩⟩
  · simp [hrun, Attempt.lift, ExceptT.run_bind, Run.reportNoted, Except.mapError] at h
    cases h
    refine ⟨?_, rfl, rfl, rfl⟩
    rw [Store.Call.perform, hc]
    rfl
  · -- the store answers that the queue exists only when it does
    simp [Store.exists?, hq] at he
  · simp [hrun, Attempt.lift, ExceptT.run_bind, Except.mapError, Run.logPending] at h
    cases h

/-- An ensure of a queue that fails was stopped by an injected failure of one of its calls:
the calls before it went as with no failure, that call failed, and the ensure reports and
answers the failure, named by the queue and a note.  Nothing else of the world changes. -/
theorem ensureQueue_eq_error (hlink : w.link = .store) {e : QueueError}
    (h : (ensureQueue q p wt).run.run w = .ok (.error e, w')) :
  ∃ pre ev, pre ++ [ev] <+: ensureEvents w.now p wt w.store q ∧
    Store.Run w.store (pre ++ [⟨ev.call, .error (Store.injected ev.call.operation q)⟩])
      w'.store ∧
    e = ensureFailure q ev.call ∧ w'.reports = w.reports ++ [e] ∧
    w' = { w with store := w'.store, reports := w'.reports, logs := w'.logs }
  := by
  unfold ensureQueue at h
  have hkind : (QueueError.ofFault (.queueNotFound q)).kind = .queueNotFound := rfl
  rcases hg : w.store.getMetadata w.now q with e' | ⟨r, s₁⟩
  · exact absurd hg (Store.getMetadata_ne_halt _ _ _ _)
  have hrun := Run.getMetadata_of_store hlink hg
  have hperform : (Store.Call.getMetadata w.now q).perform w.store =
      .ok (r.map .properties, s₁) := by
    rw [Store.Call.perform, hg]
    rfl
  obtain ⟨a, rest, hevs⟩ := ensureEvents_cons w.now p wt w.store q
  rcases Store.getMetadata_eq_ok_iff.1 hg with
    ⟨rfl, rfl, -⟩ | ⟨-, ⟨hq, rfl, rfl⟩ | ⟨Q, hq, rfl, rfl⟩⟩
  · -- the read fails by an injected failure
    simp [hrun, Attempt.lift, ExceptT.run_bind, Run.reportNoted, Except.mapError] at h
    cases h
    exact ⟨[], ⟨.getMetadata w.now q, a⟩, ⟨rest, by rw [hevs]; rfl⟩,
      .cons hperform (.nil _), rfl, rfl, rfl⟩
  · -- a missing queue is created, and the create fails
    simp [hrun, hkind, Attempt.lift, ExceptT.run_bind, Except.mapError] at h
    have hq₁ : (w.store.enter .getMetadata q).2.find? q = none := by simpa using hq
    obtain ⟨hc, rfl, hrep, hw'⟩ :=
      createQueue_eq_error (w := { w with store := (w.store.enter .getMetadata q).2 }) hlink hq₁ h
    have hevs' : ensureEvents w.now p wt w.store q =
        [⟨.getMetadata w.now q, .error (.queueNotFound q)⟩,
          ⟨.createQueue q (some (desired w.now p wt)), .ok .done⟩] := by
      simp [ensureEvents, hq]
    refine ⟨[⟨.getMetadata w.now q, .error (.queueNotFound q)⟩],
      ⟨.createQueue q (some (desired w.now p wt)), .ok .done⟩,
      by rw [hevs']; exact List.prefix_refl _, .cons hperform (.cons hc (.nil _)), rfl, hrep, hw'⟩
  · by_cases hf : isFresh Q.metadata p wt w.now
    · simp [hrun, hf, Attempt.lift, ExceptT.run_bind, Except.mapError] at h
      cases h
    · -- stale or foreign metadata is rewritten, and the write fails
      set s₁ := (w.store.enter .getMetadata q).2.put q (Q.purge w.now)
      have hq₁ : s₁.find? q = some (Q.purge w.now) := by simp [s₁]
      rcases hs : s₁.setMetadata q (desired w.now p wt) with e' | ⟨r₂, s₂⟩
      · exact absurd hs (Store.setMetadata_ne_halt _ _ _ _)
      have hrun₂ := Run.setMetadata_of_store (w := { w with store := s₁ }) hlink hs
      rcases Store.setMetadata_eq_ok_iff.1 hs with
        ⟨rfl, rfl, -⟩ | ⟨-, ⟨hq₂, -⟩ | ⟨Q₂, hq₂, rfl, rfl⟩⟩
      · simp [hrun, hf, hrun₂, Attempt.lift, ExceptT.run_bind, Run.reportNoted,
          Except.mapError] at h
        cases h
        have hevs' : ensureEvents w.now p wt w.store q =
            [⟨.getMetadata w.now q,
                .ok (.properties ⟨Q.metadata, (Q.purge w.now).messages.length⟩)⟩,
              ⟨.setMetadata q (desired w.now p wt), .ok .done⟩] := by
          simp [ensureEvents, hq, hf]
        refine ⟨[⟨.getMetadata w.now q,
            .ok (.properties ⟨Q.metadata, (Q.purge w.now).messages.length⟩)⟩],
          ⟨.setMetadata q (desired w.now p wt), .ok .done⟩,
          by rw [hevs']; exact List.prefix_refl _, .cons hperform (.cons ?_ (.nil _)), rfl, rfl,
          rfl⟩
        rw [Store.Call.perform, hs]
        rfl
      · simp [hq₁] at hq₂
      · simp [hrun, hf, hrun₂, Attempt.lift, ExceptT.run_bind, Except.mapError,
          Run.logPending] at h
        cases h

/-! ### The ensure of a queue, whole -/

/-- What ensuring queue `q` of the family of `p` and `wt` from the world `w` does. -/
structure EnsuresQueue (w : World) (q : String) (p : ProvisionerId) (wt : WorkerType) :
    Prop where
  /-- With no failure rule the ensure answers, having made the calls of `ensureEvents` and
  left `q` as `ensuredQueue` says, the other queues and the rest of the world as they were;
  an ensure right after, at an instant with a year of four digits, only reads `q`'s
  properties again. -/
  answers : w.store.rules = [] →
    ∃ w₁, (ensureQueue q p wt).run.run w = pure (.ok (), w₁) ∧
      w₁ = { w with store := w₁.store, logs := w₁.logs } ∧
      Store.Run w.store (ensureEvents w.now p wt w.store q) w₁.store ∧
      (∀ n, w₁.store.find? n =
        if n = q then some (ensuredQueue w.now p wt (w.store.find? q)) else w.store.find? n) ∧
      (w.now.Valid → 0 ≤ w.now.date.1 ∧ w.now.date.1 ≤ 9999 →
        ∃ w₂, (ensureQueue q p wt).run.run w₁ = pure (.ok (), w₂) ∧
          w₂ = { w₁ with store := w₂.store, logs := w₂.logs } ∧
          Store.Run w₁.store [⟨.getMetadata w.now q, .ok (.properties
            ⟨(ensuredQueue w.now p wt (w.store.find? q)).metadata,
              (ensuredQueue w.now p wt (w.store.find? q)).messages.length⟩)⟩] w₂.store ∧
          w₂.store = (w₁.store.enter .getMetadata q).2)
  /-- An ensure that fails was stopped by the injected failure of one of the calls of
  `ensureEvents`, made after those before it; it reports that failure once, named by the
  queue and a note, and answers it. -/
  fails : ∀ e w', (ensureQueue q p wt).run.run w = .ok (.error e, w') →
    ∃ pre ev, pre ++ [ev] <+: ensureEvents w.now p wt w.store q ∧
      Store.Run w.store (pre ++ [⟨ev.call, .error (Store.injected ev.call.operation q)⟩])
        w'.store ∧
      e = ensureFailure q ev.call ∧ w'.reports = w.reports ++ [e] ∧
      w' = { w with store := w'.store, reports := w'.reports, logs := w'.logs }

/-- An ensure of a family not remembered that answers ensured its seven queues in turn. -/
def EnsuresFamilies (w : World) : Prop :=
  ∀ k names w', w.families.lookup k = none →
    (ensureFamily k).run.run w = .ok (.ok names, w') →
    names = familyNames w.settings.stem k.provisionerId k.workerType ∧
      w'.store = ensureNames w.now k.provisionerId k.workerType w.store names

/-- Ensuring a queue on the in-memory store, for every queue and family: with no failure
rule it answers, having read the queue's properties and then created a missing queue or
rewritten stale or foreign metadata, changing no other queue, and a second ensure at the
same instant only reads the properties again; an ensure that fails was stopped by an
injected failure, reported once with the queue and a note, after the calls before it.  An
ensure of a family ensures its seven queues so, in turn. -/
theorem ensure_queue_contract (hlink : w.link = .store) (hs : w.store.Sorted) :
  (∀ q p wt, EnsuresQueue w q p wt) ∧ EnsuresFamilies w
  := by
  refine ⟨fun q p wt => ⟨fun hrules => ?_, fun e w' h => ensureQueue_eq_error hlink h⟩,
    fun k names w' hk h => ?_⟩
  · obtain ⟨logs₁, h₁⟩ := ensureQueue_run q p wt hlink hrules
    refine ⟨_, h₁, rfl, ensureStore_events _ _ _ _ hrules, find?_ensureStore, fun ht hy => ?_⟩
    -- the second ensure starts from the world the first left, at the same instant
    obtain ⟨hevents, hstore⟩ := ensureStore_again p wt q hs ht hy
    have hrules₁ : (ensureStore w.now p wt w.store q).rules = [] :=
      (ensureStore_refreshes w.now p wt hrules q).rules.trans hrules
    obtain ⟨logs₂, h₂⟩ := ensureQueue_run q p wt (w := { w with
      store := ensureStore w.now p wt w.store q, logs := w.logs ++ logs₁ }) hlink hrules₁
    refine ⟨_, h₂, rfl, ?_, hstore⟩
    have hrun := ensureStore_events w.now p wt q hrules₁
    rw [hevents] at hrun
    exact hrun
  · obtain ⟨rfl, logs, rfl⟩ := ensureFamily_eq_ok hlink hk h
    exact ⟨rfl, rfl⟩

/-- A fresh world at the epoch over an empty store ensures queues and families so. -/
theorem ensure_queue_contract_at_epoch :
  (World.init Settings.default .epoch (Store.empty 1) .store).link = .store ∧
    (World.init Settings.default .epoch (Store.empty 1) .store).store.Sorted ∧
    (∀ q p wt, EnsuresQueue (World.init Settings.default .epoch (Store.empty 1) .store) q p wt) ∧
    EnsuresFamilies (World.init Settings.default .epoch (Store.empty 1) .store)
  := by
  have hs : (World.init Settings.default .epoch (Store.empty 1) .store).store.Sorted := by
    simp [World.init, Store.empty, Store.Sorted, Store.names]
  exact ⟨rfl, hs, ensure_queue_contract rfl hs⟩

/-- An ensure of a queue without metadata drops a message that expired at the ensure's
instant: the messages of a queue whose metadata is rewritten are not left untouched. -/
theorem ensure_drops_expired_message :
  ∃ w₁, (ensureQueue "q1" ⟨"p1", by decide⟩ ⟨"w1", by decide⟩).run.run
      (World.init Settings.default .epoch
        ((Store.empty 1).put "q1" ⟨[], [⟨"msg-1", "receipt-1", "x", .epoch, .epoch⟩]⟩) .store) =
      pure (.ok (), w₁) ∧
    (w₁.store.find? "q1").map (·.messages) = some [] ∧
    (w₁.store.find? "q1").map (·.metadata) =
      some (desired .epoch ⟨"p1", by decide⟩ ⟨"w1", by decide⟩)
  := by
  obtain ⟨logs, h⟩ := ensureQueue_run (w := World.init Settings.default .epoch
    ((Store.empty 1).put "q1" ⟨[], [⟨"msg-1", "receipt-1", "x", .epoch, .epoch⟩]⟩) .store)
    "q1" ⟨"p1", by decide⟩ ⟨"w1", by decide⟩ rfl rfl
  refine ⟨_, h, ?_⟩
  -- metadata that does not read is not fresh, and the message expired at the epoch
  have hf : isFresh [] ⟨"p1", by decide⟩ ⟨"w1", by decide⟩ .epoch = false := rfl
  simp [World.init, find?_ensureStore, ensuredQueue, hf, StoredQueue.purge,
    StoredMessage.isLive]
  decide

end Pending

end TaskQueue
