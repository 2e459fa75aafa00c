import TaskQueue.Service.Sweep
import TaskQueue.Proofs.World

/-!
# The sweep of unused pending queues

A sweep goes through the queues whose names start with `{stem}-`, a page at a time, and
deletes those that are stale and empty.  On the store alone, a queue's part of the sweep
is `visit`: a queue that is stale by its metadata has its properties read, which drops its
expired messages, and is deleted when nothing is left in it.  A page's part is `visitAll`,
the visits of its queues in order, and the whole sweep is `sweepStore`, list call after
list call.  The service's sweep does exactly that to its world's store
(`deleteIfUnused_run`, `sweepPage_run`, `sweepPages_run`).

Since a visit touches only its own queue, every page lists the queues after the previous
one as they were when the sweep started, so the sweep visits each queue under the stem
once, in order, with `⌈n / pageSize⌉` list calls (at least one) for `n` such queues.
-/

namespace TaskQueue

open Time

namespace Sweep

/-! ### One queue -/

/-- What sweeping a listed queue `q` named `n` does, on the store alone: its answer, and
the store after. -/
def visit (cutoff now : Instant) (s : Store) (n : String) (q : StoredQueue) :
    Except Fault Bool × Store :=
  if isStale cutoff q.metadata then
    match FailureRule.consume .getMetadata n s.rules with
    | some _ => (.error (Store.injected .getMetadata n), (s.enter .getMetadata n).2)
    | none =>
      let s₁ := (s.enter .getMetadata n).2.put n (q.purge now)
      if (q.purge now).messages = [] then
        match FailureRule.consume .deleteQueue n s₁.rules with
        | some _ => (.error (Store.injected .deleteQueue n), (s₁.enter .deleteQueue n).2)
        | none => (.ok true, (s₁.enter .deleteQueue n).2.erase n)
      else (.ok false, s₁)
  else (.ok false, s)

/-- A listed queue is deleted when it is stale and empty and no failure fires on it; one
that is stale and holds messages is kept without its expired ones. -/
theorem deleteIfUnused_run (cutoff : Instant) {w : World} {l : Listing} {q : StoredQueue}
    (hlink : w.link = .store) (hq : w.store.find? l.name = some q)
    (hl : l.metadata = some q.metadata) :
  ∃ logs, (deleteIfUnused cutoff l).run.run w =
    pure ((visit cutoff w.now w.store l.name q).1.mapError QueueError.ofFault,
      { w with store := (visit cutoff w.now w.store l.name q).2, logs := w.logs ++ logs })
  := by
  unfold deleteIfUnused visit
  by_cases hs : isStale cutoff q.metadata
  · cases hc : FailureRule.consume .getMetadata l.name w.store.rules with
    | some rules =>
      -- reading the properties fails: the error ends the queue's part
      refine ⟨[], ?_⟩
      have hgm := Run.getMetadata_of_store hlink (Store.getMetadata_of_consume_some w.now hc)
      simp [hl, hs, Attempt.ofRun, ExceptT.run_bind, Except.mapError, hgm, ExceptT.run_mk]
    | none =>
      have hgm := Run.getMetadata_of_store hlink (Store.getMetadata_of_find? w.now hc hq)
      by_cases hempty : (q.purge w.now).messages = []
      · have hq₁ : ((w.store.enter .getMetadata l.name).2.put l.name (q.purge w.now)).find? l.name =
            some (q.purge w.now) := by simp
        cases hd : FailureRule.consume .deleteQueue l.name
            ((w.store.enter .getMetadata l.name).2.put l.name (q.purge w.now)).rules with
        | some rules =>
          refine ⟨[], ?_⟩
          have hdq := Run.deleteQueue_of_store (w := { w with
            store := (w.store.enter .getMetadata l.name).2.put l.name (q.purge w.now) }) hlink
            (Store.deleteQueue_of_consume_some hd)
          simp only [hl, hs, Attempt.ofRun, ExceptT.run_bind, Except.mapError, hgm, ExceptT.run_mk,
            Bool.not_true, pure_bind, if_true, if_false, Bool.false_eq_true, StateT.run_bind, hempty,
            List.length_nil, Nat.lt_irrefl, Attempt.lift, ExceptT.run_lift, StateT.run_map, hdq,
            map_pure, hd, Store.injected_kind, reduceCtorEq, ExceptT.run_throw, StateT.run_pure,
            List.append_nil]
        | none =>
          refine ⟨[⟨.info, sweepTarget, "deleted unused worker queue", [("queue", l.name)]⟩], ?_⟩
          have hdq := Run.deleteQueue_of_store (w := { w with
            store := (w.store.enter .getMetadata l.name).2.put l.name (q.purge w.now) }) hlink
            (Store.deleteQueue_of_find? hd hq₁)
          simp only [hl, hs, Attempt.ofRun, ExceptT.run_bind, Except.mapError, hgm, ExceptT.run_mk,
            Bool.not_true, pure_bind, if_true, if_false, Bool.false_eq_true, StateT.run_bind, hempty,
            List.length_nil, Nat.lt_irrefl, Attempt.lift, ExceptT.run_lift, StateT.run_map, hdq,
            map_pure, hd, liftM, monadLift, MonadLift.monadLift, Run.log_run, ExceptT.run_pure,
            StateT.run_pure]
      · -- messages are left after the purge: the queue is kept
        refine ⟨[⟨.debug, sweepTarget, "stale queue still holds messages",
          [("queue", l.name), ("count", toString (q.purge w.now).messages.length)]⟩], ?_⟩
        have hpos : 0 < (q.purge w.now).messages.length := List.length_pos_iff.2 hempty
        simp only [hl, hs, Attempt.ofRun, ExceptT.run_bind, Except.mapError, hgm, ExceptT.run_mk,
          hpos, Bool.not_true, pure_bind, if_true, if_false, Bool.false_eq_true, StateT.run_bind,
          liftM, monadLift, MonadLift.monadLift, Run.log_run, ExceptT.run_pure, StateT.run_pure,
          ExceptT.run_lift, StateT.run_map, map_pure, hempty]
  · refine ⟨[], ?_⟩
    simp [hl, hs]
    rfl

/-- A visit touches only the queue it visits. -/
theorem visit_find?_ne {cutoff now : Instant} {s : Store} {n n' : String} {q : StoredQueue}
    (h : n' ≠ n) :
  (visit cutoff now s n q).2.find? n' = s.find? n'
  := by
  unfold visit
  by_cases hs : isStale cutoff q.metadata
  · rw [if_pos hs]
    cases FailureRule.consume .getMetadata n s.rules with
    | some _ => simp
    | none =>
      by_cases hempty : (q.purge now).messages = []
      · simp only [if_pos hempty]
        split <;> simp [h]
      · simp only [if_neg hempty]
        simp [h]
  · simp [hs]

/-! ### One page -/

/-- The visits of the queues `es` in order, on the store alone: how many were deleted, the
queues whose part failed with their faults, and the store after. -/
def visitAll (cutoff now : Instant) : List (String × StoredQueue) → Store →
    Nat × List (String × Fault) × Store
  | [], s => (0, [], s)
  | (n, q) :: es, s =>
    let r := visitAll cutoff now es (visit cutoff now s n q).2
    match (visit cutoff now s n q).1 with
    | .ok deleted => ((if deleted then 1 else 0) + r.1, r.2.1, r.2.2)
    | .error f => (r.1, (n, f) :: r.2.1, r.2.2)

/-- The report of a queue whose part of the sweep failed. -/
def failureReport (n : String) (f : Fault) : QueueError :=
  ((QueueError.ofFault f).withContext "queue" n).withContext "note"
    "failed to garbage collect queue"

/-- A queue as a listing with metadata shows it. -/
def listing (e : String × StoredQueue) : Listing :=
  ⟨e.1, some e.2.metadata⟩

/-- What a part of the sweep leaves of a world: the store `s`, the reports of the failures
`fails` added, and the clock, the link and the settings as they were. -/
structure Leaves (w w' : World) (s : Store) (fails : List (String × Fault)) : Prop where
  store : w'.store = s
  reports : w'.reports = w.reports ++ fails.map fun (n, f) => failureReport n f
  now : w'.now = w.now
  link : w'.link = w.link
  settings : w'.settings = w.settings

theorem Leaves.trans {w₁ w₂ w₃ : World} {s₂ s₃ : Store} {f₂ f₃ : List (String × Fault)}
    (h₁ : Leaves w₁ w₂ s₂ f₂) (h₂ : Leaves w₂ w₃ s₃ f₃) :
  Leaves w₁ w₃ s₃ (f₂ ++ f₃)
  := ⟨h₂.store, by rw [h₂.reports, h₁.reports, List.map_append, List.append_assoc],
    h₂.now.trans h₁.now, h₂.link.trans h₁.link, h₂.settings.trans h₁.settings⟩

/-- A page's part of the sweep visits its queues in order and reports each failure. -/
theorem sweepPage_run (cutoff : Instant) (es : List (String × StoredQueue)) {w : World}
    (hlink : w.link = .store) (hnodup : (es.map (·.1)).Nodup)
    (hfind : ∀ e ∈ es, w.store.find? e.1 = some e.2) :
  ∃ w', (sweepPage cutoff (es.map listing)).run w =
      pure ((visitAll cutoff w.now es w.store).1, w') ∧
    Leaves w w' (visitAll cutoff w.now es w.store).2.2 (visitAll cutoff w.now es w.store).2.1
  := by
  induction es generalizing w with
  | nil => exact ⟨w, rfl, rfl, by simp [visitAll], rfl, rfl, rfl⟩
  | cons e es ih =>
    obtain ⟨n, q⟩ := e
    simp only [List.map_cons, List.nodup_cons] at hnodup
    have hq : w.store.find? n = some q := hfind (n, q) List.mem_cons_self
    obtain ⟨logs, hrun⟩ := deleteIfUnused_run cutoff (l := listing (n, q)) hlink hq rfl
    simp only [listing] at hrun
    have hfind₁ : ∀ e ∈ es, (visit cutoff w.now w.store n q).2.find? e.1 = some e.2 := by
      intro e he
      have hne : e.1 ≠ n := fun h => hnodup.1 (by rw [← h]; exact List.mem_map_of_mem he)
      rw [visit_find?_ne hne]
      exact hfind e (List.mem_cons_of_mem _ he)
    cases hr : (visit cutoff w.now w.store n q).1 with
    | ok deleted =>
      obtain ⟨w', hrun', hleaves⟩ := ih (w := { w with
        store := (visit cutoff w.now w.store n q).2, logs := w.logs ++ logs }) hlink hnodup.2 hfind₁
      dsimp only at hrun' hleaves
      refine ⟨w', ?_, ?_⟩
      · simp only [List.map_cons, sweepPage, listing, StateT.run_bind, hrun, pure_bind, hr,
          Except.mapError, hrun', visitAll, StateT.run_pure]
      · have h₀ : Leaves w { w with
            store := (visit cutoff w.now w.store n q).2, logs := w.logs ++ logs }
            (visit cutoff w.now w.store n q).2 [] := ⟨rfl, by simp, rfl, rfl, rfl⟩
        simpa [visitAll, hr] using h₀.trans hleaves
    | error f =>
      -- the failure is reported, and the page goes on
      obtain ⟨w', hrun', hleaves⟩ := ih (w := { w with
        store := (visit cutoff w.now w.store n q).2,
        reports := w.reports ++ [failureReport n f],
        logs := if w.logReports then (w.logs ++ logs) ++ [Run.reportEvent (failureReport n f)]
          else w.logs ++ logs }) hlink hnodup.2 hfind₁
      dsimp only at hrun' hleaves
      refine ⟨w', ?_, ?_⟩
      · simp only [List.map_cons, sweepPage, listing, StateT.run_bind, hrun, pure_bind, hr,
          Except.mapError, visitAll, StateT.run_pure, Run.report_run]
        simp only [failureReport] at hrun'
        simpa using hrun'
      · have h₀ : Leaves w { w with
            store := (visit cutoff w.now w.store n q).2,
            reports := w.reports ++ [failureReport n f],
            logs := if w.logReports then (w.logs ++ logs) ++ [Run.reportEvent (failureReport n f)]
              else w.logs ++ logs }
            (visit cutoff w.now w.store n q).2 [(n, f)] := ⟨rfl, by simp, rfl, rfl, rfl⟩
        simpa [visitAll, hr] using h₀.trans hleaves

/-! ### Page after page -/

/-- A queue of a sorted store is what its name finds. -/
theorem find?_of_mem {s : Store} (hs : s.Sorted) {e : String × StoredQueue}
    (he : e ∈ s.queues) :
  s.find? e.1 = some e.2
  := Store.lookup_of_mem hs he

theorem sorted_enter {s : Store} (op : Operation) (n : String) :
  (s.enter op n).2.Sorted ↔ s.Sorted
  := by
  simp [Store.Sorted, Store.names]

/-- A visit keeps the names in order. -/
theorem visit_sorted {cutoff now : Instant} {s : Store} {n : String} {q : StoredQueue}
    (hs : s.Sorted) :
  (visit cutoff now s n q).2.Sorted
  := by
  have h₁ : ((s.enter .getMetadata n).2.put n (q.purge now)).Sorted :=
    ((sorted_enter _ _).2 hs).put n _
  unfold visit
  by_cases hstale : isStale cutoff q.metadata
  · rw [if_pos hstale]
    cases FailureRule.consume .getMetadata n s.rules with
    | some _ => exact (sorted_enter _ _).2 hs
    | none =>
      by_cases hempty : (q.purge now).messages = []
      · simp only [if_pos hempty]
        split
        · exact (sorted_enter _ _).2 h₁
        · exact ((sorted_enter _ _).2 h₁).erase n
      · simp only [if_neg hempty]
        exact h₁
  · rw [if_neg hstale]
    exact hs

theorem visitAll_sorted {cutoff now : Instant} (es : List (String × StoredQueue)) {s : Store}
    (hs : s.Sorted) :
  (visitAll cutoff now es s).2.2.Sorted
  := by
  induction es generalizing s with
  | nil => exact hs
  | cons e es ih =>
    obtain ⟨n, q⟩ := e
    unfold visitAll
    split <;> exact ih (visit_sorted hs)

/-- A sweep on the store alone: page after page from `marker` on, at most `fuel` pages, a
failed listing ending it.  It answers how many queues it deleted, the queues whose part
failed with their faults, and the store after. -/
def sweepStore (stem : String) (cutoff now : Instant) : Nat → Option String → Store →
    Except Fault Nat × List (String × Fault) × Store
  | 0, _, s => (.ok 0, [], s)
  | fuel + 1, marker, s =>
    match FailureRule.consume .listQueues stem s.rules with
    | some _ => (.error (Store.injected .listQueues stem), [], (s.enter .listQueues stem).2)
    | none =>
      let s₁ := (s.enter .listQueues stem).2
      let page := (s₁.listable stem marker).take s₁.pageSize
      let r := visitAll cutoff now page s₁
      let next := if s₁.pageSize < (s₁.listable stem marker).length then
        page.getLast?.map (·.1) else none
      match next with
      | some next =>
        let r' := sweepStore stem cutoff now fuel (some next) r.2.2
        (r'.1.map (r.1 + ·), r.2.1 ++ r'.2.1, r'.2.2)
      | none => (.ok r.1, r.2.1, r.2.2)

/-- The error a failed listing ends the sweep with. -/
def listFailure (f : Fault) : QueueError :=
  (QueueError.ofFault f).withContext "note" "failed to list queues"

@[simp]
theorem listable_enter {s : Store} (op : Operation) (n stem : String) (marker : Option String) :
  (s.enter op n).2.listable stem marker = s.listable stem marker
  := by
  simp [Store.listable]

/-- A page's queues as its listing shows them. -/
theorem listPage_queues (s : Store) (stem : String) (marker : Option String) :
  (s.listPage stem marker true).queues = ((s.listable stem marker).take s.pageSize).map listing
  := rfl

/-- The next marker of a page is the name of its last queue, when more are left. -/
theorem listPage_nextMarker (s : Store) (stem : String) (marker : Option String) :
  (s.listPage stem marker true).nextMarker =
    if s.pageSize < (s.listable stem marker).length then
      (((s.listable stem marker).take s.pageSize).getLast?.map (·.1))
    else none
  := by
  simp only [Store.listPage, List.getLast?_map, Option.map_map]
  rfl

/-- A page of a sorted store lists each queue once, as the store holds it. -/
theorem page_of_sorted {s : Store} (hs : s.Sorted) (stem : String) (marker : Option String)
    (k : Nat) :
  (((s.listable stem marker).take k).map (·.1)).Nodup ∧
    ∀ e ∈ (s.listable stem marker).take k, s.find? e.1 = some e.2
  := by
  have hsub : ((s.listable stem marker).take k).Sublist s.queues :=
    (List.take_sublist _ _).trans List.filter_sublist
  exact ⟨(hs.sublist (hsub.map _)).imp ne_of_lt, fun e he => find?_of_mem hs (hsub.subset he)⟩

/-- The service's sweep from a marker on does to its world's store what `sweepStore` does
to a store, and reports the failures it meets. -/
theorem sweepPages_run (stem : String) (cutoff : Instant) (fuel : Nat) (marker : Option String)
    {w : World} (hlink : w.link = .store) (hs : w.store.Sorted) :
  ∃ w', (sweepPages stem cutoff fuel marker).run.run w =
      pure ((sweepStore stem cutoff w.now fuel marker w.store).1.mapError listFailure, w') ∧
    Leaves w w' (sweepStore stem cutoff w.now fuel marker w.store).2.2
      (sweepStore stem cutoff w.now fuel marker w.store).2.1
  := by
  induction fuel generalizing marker w with
  | zero => exact ⟨w, rfl, rfl, by simp [sweepStore], rfl, rfl, rfl⟩
  | succ fuel ih =>
    cases hc : FailureRule.consume .listQueues stem w.store.rules with
    | some rules =>
      -- the listing fails: the sweep ends with its error
      have hlist := Run.listQueues_of_store hlink
        (Store.listQueues_of_consume_some marker true hc)
      refine ⟨{ w with store := (w.store.enter .listQueues stem).2 }, ?_, ?_⟩
      · simp [sweepPages, sweepStore, hc, Attempt.lift, ExceptT.run_bind, ExceptT.run_lift,
          StateT.run_bind, hlist, Except.mapError, listFailure]
      · exact ⟨by simp [sweepStore, hc], by simp [sweepStore, hc], rfl, rfl, rfl⟩
    | none =>
      have hlist := Run.listQueues_of_store hlink (Store.listQueues_of_consume_none marker true hc)
      -- the page, as the store held it before the list call
      obtain ⟨hnodup, hfind⟩ := page_of_sorted hs stem marker w.store.pageSize
      obtain ⟨w₂, hrun₂, hl₂⟩ := sweepPage_run cutoff
        ((w.store.listable stem marker).take w.store.pageSize)
        (w := { w with store := (w.store.enter .listQueues stem).2 }) hlink hnodup
        (fun e he => by simpa using hfind e he)
      dsimp only at hrun₂ hl₂
      have h₀ : Leaves w { w with store := (w.store.enter .listQueues stem).2 }
          (w.store.enter .listQueues stem).2 [] := ⟨rfl, by simp, rfl, rfl, rfl⟩
      cases hn : (if w.store.pageSize < (w.store.listable stem marker).length then
          ((w.store.listable stem marker).take w.store.pageSize).getLast?.map (·.1) else none) with
      | none =>
        refine ⟨w₂, ?_, ?_⟩
        · simp only [sweepPages, Attempt.lift, ExceptT.run_bind, ExceptT.run_lift, StateT.run_bind,
            StateT.run_map, hlist, map_pure, pure_bind, Except.mapError, ExceptT.run_pure,
            listPage_queues, hrun₂, listPage_nextMarker, hn, StateT.run_pure,
            sweepStore, hc, listable_enter, Store.enter_pageSize]
        · simpa [sweepStore, hc, hn] using h₀.trans hl₂
      | some next =>
        -- the next page is swept from the last name listed on
        have hlink₂ : w₂.link = .store := hl₂.link.trans hlink
        have hs₂ : w₂.store.Sorted := by
          rw [hl₂.store]
          exact visitAll_sorted _ ((sorted_enter _ _).2 hs)
        obtain ⟨w₃, hrun₃, hl₃⟩ := @ih (some next) w₂ hlink₂ hs₂
        rw [hl₂.now, hl₂.store] at hrun₃ hl₃
        refine ⟨w₃, ?_, ?_⟩
        · simp only [sweepPages, Attempt.lift, ExceptT.run_bind, ExceptT.run_lift, StateT.run_bind,
            StateT.run_map, hlist, map_pure, pure_bind, Except.mapError, ExceptT.run_pure,
            listPage_queues, hrun₂, listPage_nextMarker, hn, sweepStore, hc, listable_enter,
            Store.enter_pageSize, hrun₃]
          cases (sweepStore stem cutoff w.now fuel (some next) _).1 <;> rfl
        · simpa [sweepStore, hc, hn] using (h₀.trans hl₂).trans hl₃

/-! ### What a visit reads

A visit reads the table of a store, its page size and its failure rules for the calls it
makes, never its call counts or its rules for list calls, and it makes no list call.  So the
list calls made between visits, failed or not, change nothing a visit does.
-/

/-- The failure rules a visit can meet: all but those for list calls. -/
def visitRules (rules : List FailureRule) : List FailureRule :=
  rules.filter fun r => r.op != .listQueues

@[simp]
theorem visitRules_cons (r : FailureRule) (rs : List FailureRule) :
  visitRules (r :: rs) = if r.op = .listQueues then visitRules rs else r :: visitRules rs
  := by
  by_cases hr : r.op = .listQueues <;> simp [visitRules, hr]

/-- A call other than a list call uses up the same rule among the rules a visit meets. -/
theorem consume_visitRules {op : Operation} (n : String) (rules : List FailureRule)
    (hop : op ≠ .listQueues) :
  FailureRule.consume op n (visitRules rules) = (FailureRule.consume op n rules).map visitRules
  := by
  induction rules with
  | nil => rfl
  | cons r rs ih =>
    by_cases hr : r.op = .listQueues
    · -- a rule for list calls is not met, and does not apply to the call
      have hna : r.appliesTo op n = false := by
        simp [FailureRule.appliesTo, hr, Ne.symm hop]
      rw [visitRules_cons, if_pos hr, ih]
      simp only [FailureRule.consume, hna, Bool.false_eq_true, if_false, Option.map_map]
      congr 1
      funext l
      simp [hr]
    · rw [visitRules_cons, if_neg hr]
      simp only [FailureRule.consume]
      split_ifs
      · simp [hr]
      · rw [ih, Option.map_map, Option.map_map]
        congr 1
        funext l
        simp [hr]

/-- A list call uses up nothing a visit meets. -/
theorem visitRules_consume_listQueues {n : String} {rules rules' : List FailureRule}
    (h : FailureRule.consume .listQueues n rules = some rules') :
  visitRules rules' = visitRules rules
  := by
  induction rules generalizing rules' with
  | nil => simp [FailureRule.consume] at h
  | cons r rs ih =>
    simp only [FailureRule.consume] at h
    split_ifs at h with ha
    · -- the rule used up is one for list calls
      have hr : r.op = .listQueues := by
        simp only [FailureRule.appliesTo, Bool.and_eq_true, beq_iff_eq] at ha
        exact ha.1.1
      cases h
      simp [hr]
    · obtain ⟨rs', hrs', rfl⟩ := Option.map_eq_some_iff.1 h
      simp [ih hrs']

theorem visitRules_enter (s : Store) (op : Operation) (n : String) :
  visitRules (s.enter op n).2.rules = if op = .listQueues then visitRules s.rules else
    (FailureRule.consume op n (visitRules s.rules)).getD (visitRules s.rules)
  := by
  rw [Store.enter_snd]
  dsimp only
  split_ifs with hop
  · subst hop
    cases hc : FailureRule.consume .listQueues n s.rules with
    | none => rfl
    | some rules => exact visitRules_consume_listQueues hc
  · rw [consume_visitRules n s.rules hop]
    cases FailureRule.consume op n s.rules <;> rfl

/-- Two stores alike in all a visit reads: the table, the failure rules other than those
for list calls, and the page size.  Their call counts may differ. -/
structure Alike (s t : Store) : Prop where
  queues : s.queues = t.queues
  rules : visitRules s.rules = visitRules t.rules
  pageSize : s.pageSize = t.pageSize

namespace Alike

variable {s t u : Store}

theorem refl (s : Store) : Alike s s := ⟨rfl, rfl, rfl⟩

theorem trans (h₁ : Alike s t) (h₂ : Alike t u) : Alike s u :=
  ⟨h₁.queues.trans h₂.queues, h₁.rules.trans h₂.rules, h₁.pageSize.trans h₂.pageSize⟩

theorem enter (h : Alike s t) (op : Operation) (n : String) :
  Alike (s.enter op n).2 (t.enter op n).2
  := by
  refine ⟨by simp [h.queues], ?_, by simp [h.pageSize]⟩
  rw [visitRules_enter, visitRules_enter, h.rules]

theorem put (h : Alike s t) (n : String) (q : StoredQueue) : Alike (s.put n q) (t.put n q) :=
  ⟨by simp [Store.put, h.queues], h.rules, h.pageSize⟩

theorem erase (h : Alike s t) (n : String) : Alike (s.erase n) (t.erase n) :=
  ⟨by simp [Store.erase, h.queues], h.rules, h.pageSize⟩

theorem find? (h : Alike s t) (n : String) : s.find? n = t.find? n := by
  unfold Store.find?
  rw [h.queues]

/-- A call other than a list call fails on both stores or on neither. -/
theorem consume_isSome (h : Alike s t) (op : Operation) (n : String)
    (hop : op ≠ .listQueues) :
  (FailureRule.consume op n s.rules).isSome = (FailureRule.consume op n t.rules).isSome
  := by
  have hmap := consume_visitRules n s.rules hop
  rw [h.rules, consume_visitRules n t.rules hop] at hmap
  simpa using (congrArg Option.isSome hmap).symm

end Alike

/-- A list call changes nothing a visit reads, whether it fails or not. -/
theorem alike_enter_listQueues (s : Store) (n : String) :
  Alike (s.enter .listQueues n).2 s
  := ⟨by simp, by rw [visitRules_enter, if_pos rfl], by simp⟩

/-- Alike stores are visited alike. -/
theorem visit_alike (cutoff now : Instant) {s t : Store} (n : String) (q : StoredQueue)
    (h : Alike s t) :
  (visit cutoff now s n q).1 = (visit cutoff now t n q).1 ∧
    Alike (visit cutoff now s n q).2 (visit cutoff now t n q).2
  := by
  have h₁ := (h.enter .getMetadata n).put n (q.purge now)
  have hgm := h.consume_isSome .getMetadata n (by decide)
  have hdq := h₁.consume_isSome .deleteQueue n (by decide)
  unfold visit
  by_cases hstale : isStale cutoff q.metadata
  · rw [if_pos hstale, if_pos hstale]
    -- the two stores take the same branches, as `hgm` and `hdq` say
    cases hs : FailureRule.consume .getMetadata n s.rules <;>
      cases ht : FailureRule.consume .getMetadata n t.rules <;>
      simp only [hs, ht, Option.isSome_none, Option.isSome_some, Bool.false_eq_true,
        Bool.true_eq_false] at hgm
    · by_cases hempty : (q.purge now).messages = []
      · dsimp only
        rw [if_pos hempty, if_pos hempty]
        cases hs' : FailureRule.consume .deleteQueue n
            ((s.enter .getMetadata n).2.put n (q.purge now)).rules <;>
          cases ht' : FailureRule.consume .deleteQueue n
            ((t.enter .getMetadata n).2.put n (q.purge now)).rules <;>
          simp only [hs', ht', Option.isSome_none, Option.isSome_some, Bool.false_eq_true,
            Bool.true_eq_false] at hdq
        · exact ⟨rfl, (h₁.enter _ _).erase n⟩
        · exact ⟨rfl, h₁.enter _ _⟩
      · dsimp only
        rw [if_neg hempty, if_neg hempty]
        exact ⟨rfl, h₁⟩
    · exact ⟨rfl, h.enter _ _⟩
  · rw [if_neg hstale, if_neg hstale]
    exact ⟨rfl, h⟩

theorem visitAll_alike (cutoff now : Instant) (es : List (String × StoredQueue)) {s t : Store}
    (h : Alike s t) :
  (visitAll cutoff now es s).1 = (visitAll cutoff now es t).1 ∧
    (visitAll cutoff now es s).2.1 = (visitAll cutoff now es t).2.1 ∧
    Alike (visitAll cutoff now es s).2.2 (visitAll cutoff now es t).2.2
  := by
  induction es generalizing s t with
  | nil => exact ⟨rfl, rfl, h⟩
  | cons e es ih =>
    obtain ⟨n, q⟩ := e
    obtain ⟨hr, hv⟩ := visit_alike cutoff now n q h
    obtain ⟨h₁, h₂, h₃⟩ := ih hv
    simp only [visitAll, hr]
    split <;> exact ⟨by rw [h₁], by rw [h₂], h₃⟩

/-- Visiting two lists of queues is visiting the first, then the second. -/
theorem visitAll_append {cutoff now : Instant} (es es' : List (String × StoredQueue))
    (s : Store) :
  visitAll cutoff now (es ++ es') s =
    ((visitAll cutoff now es s).1 + (visitAll cutoff now es' (visitAll cutoff now es s).2.2).1,
      (visitAll cutoff now es s).2.1 ++ (visitAll cutoff now es' (visitAll cutoff now es s).2.2).2.1,
      (visitAll cutoff now es' (visitAll cutoff now es s).2.2).2.2)
  := by
  induction es generalizing s with
  | nil => simp [visitAll]
  | cons e es ih =>
    obtain ⟨n, q⟩ := e
    simp only [List.cons_append, visitAll, ih]
    split <;> simp [Nat.add_assoc]

/-- Visits leave alone the queues they do not visit. -/
theorem visitAll_find?_of_not_mem {cutoff now : Instant} (es : List (String × StoredQueue))
    {s : Store} {n : String} (hn : n ∉ es.map (·.1)) :
  (visitAll cutoff now es s).2.2.find? n = s.find? n
  := by
  induction es generalizing s with
  | nil => rfl
  | cons e es ih =>
    obtain ⟨n', q⟩ := e
    simp only [List.map_cons, List.mem_cons, not_or] at hn
    have h := ih (s := (visit cutoff now s n' q).2) hn.2
    rw [visit_find?_ne hn.1] at h
    simp only [visitAll]
    split <;> exact h

/-! ### The pages of a listing -/

section Pages

variable {L : List (String × StoredQueue)}

/-- In a table with increasing names, every name is at most the last. -/
theorem le_of_getLast? (hL : (L.map (·.1)).Pairwise (· < ·)) {e : String × StoredQueue}
    (he : L.getLast? = some e) :
  ∀ a ∈ L, a.1 ≤ e.1
  := by
  obtain ⟨init, rfl⟩ := List.getLast?_eq_some_iff.1 he
  rw [List.map_append, List.pairwise_append] at hL
  intro a ha
  rcases List.mem_append.1 ha with ha | ha
  · exact le_of_lt (hL.2.2 a.1 (List.mem_map_of_mem ha) e.1 (by simp))
  · rw [List.mem_singleton.1 ha]

/-- The queues after the last of the first `k` of a table with increasing names are the
rest of the table. -/
theorem filter_after_take (hL : (L.map (·.1)).Pairwise (· < ·)) {k : Nat}
    {e : String × StoredQueue} (he : (L.take k).getLast? = some e) :
  L.filter (fun a => decide (e.1 < a.1)) = L.drop k
  := by
  have hsplit := hL
  rw [← List.take_append_drop k L, List.map_append, List.pairwise_append] at hsplit
  have hmem : e ∈ L.take k := List.mem_of_getLast? he
  have h₁ : (L.take k).filter (fun a => decide (e.1 < a.1)) = [] := by
    rw [List.filter_eq_nil_iff]
    intro a ha
    simp only [decide_eq_true_eq, not_lt]
    exact le_of_getLast? hsplit.1 he a ha
  have h₂ : (L.drop k).filter (fun a => decide (e.1 < a.1)) = L.drop k := by
    rw [List.filter_eq_self]
    intro a ha
    simp only [decide_eq_true_eq]
    exact hsplit.2.2 e.1 (List.mem_map_of_mem hmem) a.1 (List.mem_map_of_mem ha)
  conv_lhs => rw [← List.take_append_drop k L]
  rw [List.filter_append, h₁, h₂, List.nil_append]

end Pages

/-- After a page is swept, the listing from its last name on shows the queues after the
page as they were before: the visits only touched names up to that last one. -/
theorem listable_after_page {s s' : Store} (hs : s.Sorted) (hs' : s'.Sorted) {stem : String}
    {marker : Option String} {k : Nat} {e : String × StoredQueue}
    (he : ((s.listable stem marker).take k).getLast? = some e)
    (hsame : ∀ n, e.1 < n → s'.find? n = s.find? n) :
  s'.listable stem (some e.1) = (s.listable stem marker).drop k
  := by
  have hL : ((s.listable stem marker).map (·.1)).Pairwise (· < ·) :=
    hs.sublist (List.filter_sublist.map _)
  -- the marker is before `e`, which the listing from it shows
  have hmarker : marker.all (· < e.1) = true := by
    have hmem : e ∈ s.listable stem marker := List.mem_of_mem_take (List.mem_of_getLast? he)
    exact (Bool.and_eq_true _ _ ▸ (List.mem_filter.1 hmem).2).1
  have hfrom : s.listable stem (some e.1) =
      (s.listable stem marker).filter fun a => decide (e.1 < a.1) := by
    unfold Store.listable
    rw [List.filter_filter]
    apply List.filter_congr
    intro a _
    by_cases ha : e.1 < a.1
    · -- after `e`, so after the marker
      have hm : marker.all (· < a.1) = true := by
        cases marker with
        | none => rfl
        | some m =>
          simp only [Option.all_some, decide_eq_true_eq] at hmarker ⊢
          exact lt_trans hmarker ha
      simp only [Option.all_some, ha, decide_true, Bool.true_and, hm]
    · simp only [Option.all_some, ha, decide_false, Bool.false_and]
  rw [← filter_after_take hL he, ← hfrom]
  -- both listings are increasing and find the same under every name
  apply Store.eq_of_lookup_eq (hs'.sublist (List.filter_sublist.map _))
    (hs.sublist (List.filter_sublist.map _))
  intro n
  rw [Store.lookup_filter (fun n => Option.all (· < n) (some e.1) && n.startsWith stem),
    Store.lookup_filter (fun n => Option.all (· < n) (some e.1) && n.startsWith stem)]
  split_ifs with hn
  · simp only [Option.all_some, Bool.and_eq_true, decide_eq_true_eq] at hn
    exact hsame n hn.1
  · rfl

/-! ### What a visit keeps -/

/-- A rule fires only on calls of its own operation. -/
theorem consume_eq_none {op : Operation} {n : String} {rules : List FailureRule}
    (h : op ∉ rules.map (·.op)) :
  FailureRule.consume op n rules = none
  := by
  induction rules with
  | nil => rfl
  | cons r rs ih =>
    simp only [List.map_cons, List.mem_cons, not_or] at h
    have hr : r.appliesTo op n = false := by
      simp [FailureRule.appliesTo, Ne.symm h.1]
    simp only [FailureRule.consume, hr, Bool.false_eq_true, if_false]
    rw [ih h.2]
    rfl

/-- Using up a rule keeps the operations the rules are for. -/
theorem consume_ops {op : Operation} {n : String} {rules rules' : List FailureRule}
    (h : FailureRule.consume op n rules = some rules') :
  rules'.map (·.op) = rules.map (·.op)
  := by
  induction rules generalizing rules' with
  | nil => simp at h
  | cons r rs ih =>
    simp only [FailureRule.consume] at h
    split_ifs at h
    · cases h
      rfl
    · obtain ⟨rs', hrs', rfl⟩ := Option.map_eq_some_iff.1 h
      simp [ih hrs']

theorem enter_ops (s : Store) (op : Operation) (n : String) :
  (s.enter op n).2.rules.map (·.op) = s.rules.map (·.op)
  := by
  rw [Store.enter_snd]
  cases hc : FailureRule.consume op n s.rules with
  | none => rfl
  | some rules => exact consume_ops hc

/-- The stores a visit can leave. -/
theorem visit_store_cases (cutoff now : Instant) (s : Store) (n : String) (q : StoredQueue) :
  let s₁ := (s.enter .getMetadata n).2.put n (q.purge now)
  (visit cutoff now s n q).2 = s ∨ (visit cutoff now s n q).2 = (s.enter .getMetadata n).2 ∨
    (visit cutoff now s n q).2 = s₁ ∨ (visit cutoff now s n q).2 = (s₁.enter .deleteQueue n).2 ∨
    (visit cutoff now s n q).2 = (s₁.enter .deleteQueue n).2.erase n
  := by
  intro s₁
  unfold visit
  by_cases hstale : isStale cutoff q.metadata
  · rw [if_pos hstale]
    cases FailureRule.consume .getMetadata n s.rules with
    | some _ => exact .inr (.inl rfl)
    | none =>
      by_cases hempty : (q.purge now).messages = []
      · dsimp only
        rw [if_pos hempty]
        cases FailureRule.consume .deleteQueue n s₁.rules with
        | some _ => exact .inr (.inr (.inr (.inl rfl)))
        | none => exact .inr (.inr (.inr (.inr rfl)))
      · dsimp only
        rw [if_neg hempty]
        exact .inr (.inr (.inl rfl))
  · rw [if_neg hstale]
    exact .inl rfl

/-- A visit keeps the page size, makes no list call, and keeps the operations that failure
rules are for. -/
theorem visit_keeps (cutoff now : Instant) (s : Store) (n : String) (q : StoredQueue) :
  (visit cutoff now s n q).2.pageSize = s.pageSize ∧
    (visit cutoff now s n q).2.calls .listQueues = s.calls .listQueues ∧
    (visit cutoff now s n q).2.rules.map (·.op) = s.rules.map (·.op)
  := by
  rcases visit_store_cases cutoff now s n q with h | h | h | h | h <;> rw [h] <;>
    simp [Store.put, Store.erase, enter_ops, Store.enter_calls]

theorem visitAll_keeps (cutoff now : Instant) (es : List (String × StoredQueue)) (s : Store) :
  (visitAll cutoff now es s).2.2.pageSize = s.pageSize ∧
    (visitAll cutoff now es s).2.2.calls .listQueues = s.calls .listQueues ∧
    (visitAll cutoff now es s).2.2.rules.map (·.op) = s.rules.map (·.op)
  := by
  induction es generalizing s with
  | nil => exact ⟨rfl, rfl, rfl⟩
  | cons e es ih =>
    obtain ⟨n, q⟩ := e
    obtain ⟨h₁, h₂, h₃⟩ := visit_keeps cutoff now s n q
    obtain ⟨h₄, h₅, h₆⟩ := ih (visit cutoff now s n q).2
    simp only [visitAll]
    split <;> exact ⟨h₄.trans h₁, h₅.trans h₂, h₆.trans h₃⟩

/-! ### The whole sweep on the store -/

/-- The list calls of a sweep over `n` queues at `p` a page: `⌈n / p⌉`, and one when there
are none. -/
def pageCount (n p : Nat) : Nat :=
  max 1 ((n + p - 1) / p)

theorem pageCount_of_le {n p : Nat} (hp : 0 < p) (h : n ≤ p) :
  pageCount n p = 1
  := by
  have h₁ : (n + p - 1) / p < 2 := (Nat.div_lt_iff_lt_mul hp).2 (by omega)
  unfold pageCount
  omega

/-- A full page, then the rest. -/
theorem pageCount_of_lt {n p : Nat} (hp : 0 < p) (h : p < n) :
  pageCount n p = pageCount (n - p) p + 1
  := by
  have h₁ : n + p - 1 = (n - p + p - 1) + p := by omega
  have h₂ : 1 ≤ (n - p + p - 1) / p := (Nat.le_div_iff_mul_le hp).2 (by omega)
  unfold pageCount
  rw [h₁, Nat.add_div_right _ hp]
  omega

theorem pageCount_le {n p : Nat} (hp : 0 < p) :
  pageCount n p ≤ n + 1
  := by
  have h₁ : n ≤ p * n := Nat.le_mul_of_pos_left n hp
  have h₂ : (n + p - 1) / p ≤ n := (Nat.div_le_iff_le_mul_add_pred hp).2 (by omega)
  unfold pageCount
  omega

/-- A list call fails only by a rule for list calls. -/
theorem listQueues_mem_of_consume {n : String} {rules rules' : List FailureRule}
    (h : FailureRule.consume .listQueues n rules = some rules') :
  Operation.listQueues ∈ rules.map (·.op)
  := by
  by_contra hn
  rw [consume_eq_none hn] at h
  cases h

/-- With fuel for all its pages, the sweep from `marker` visits the listing from `marker`
on up to some point, and its store is then as that prefix's visits leave it.  Either it
got through the whole listing, with one list call a page, and answers how many it deleted,
or a list call failed, by a rule for list calls, and the sweep ends with its fault. -/
theorem sweepStore_spec (stem : String) (cutoff now : Instant) {fuel : Nat}
    {marker : Option String} {s : Store} (hs : s.Sorted) (hp : 0 < s.pageSize)
    (hfuel : pageCount (s.listable stem marker).length s.pageSize ≤ fuel) :
  ∃ k, (sweepStore stem cutoff now fuel marker s).2.1 =
      (visitAll cutoff now ((s.listable stem marker).take k) s).2.1 ∧
    Alike (sweepStore stem cutoff now fuel marker s).2.2
      (visitAll cutoff now ((s.listable stem marker).take k) s).2.2 ∧
    ((sweepStore stem cutoff now fuel marker s).1 =
        .ok (visitAll cutoff now (s.listable stem marker) s).1 ∧
      k = (s.listable stem marker).length ∧
      (sweepStore stem cutoff now fuel marker s).2.2.calls .listQueues =
        s.calls .listQueues + pageCount (s.listable stem marker).length s.pageSize ∨
    (sweepStore stem cutoff now fuel marker s).1 = .error (Store.injected .listQueues stem) ∧
      Operation.listQueues ∈ s.rules.map (·.op))
  := by
  induction fuel generalizing marker s with
  | zero =>
    have : 1 ≤ pageCount (s.listable stem marker).length s.pageSize := le_max_left _ _
    omega
  | succ fuel ih =>
    cases hc : FailureRule.consume .listQueues stem s.rules with
    | some rules =>
      -- the first list call fails: nothing is visited
      refine ⟨0, by simp [sweepStore, hc, visitAll], ?_, .inr ⟨by simp [sweepStore, hc], ?_⟩⟩
      · simpa [sweepStore, hc, visitAll] using alike_enter_listQueues s stem
      · exact listQueues_mem_of_consume hc
    | none =>
      have hs₁ : (s.enter .listQueues stem).2.Sorted := (sorted_enter _ _).2 hs
      have hL₁ : (s.enter .listQueues stem).2.listable stem marker = s.listable stem marker :=
        listable_enter _ _ _ _
      have hp₁ : (s.enter .listQueues stem).2.pageSize = s.pageSize := Store.enter_pageSize _ _ _
      -- the page visited after the list call is visited as before it
      obtain ⟨hv₁, hv₂, hv₃⟩ := visitAll_alike cutoff now
        ((s.listable stem marker).take s.pageSize) (alike_enter_listQueues s stem)
      have hcalls := (visitAll_keeps cutoff now ((s.listable stem marker).take s.pageSize)
        (s.enter .listQueues stem).2).2.1
      by_cases hmore : s.pageSize < (s.listable stem marker).length
      · -- more pages follow, from the last name of this one
        have hne : (s.listable stem marker).take s.pageSize ≠ [] := by
          intro h
          rcases List.take_eq_nil_iff.1 h with h | h
          · omega
          · rw [h] at hmore
            simp at hmore
        obtain ⟨e, he⟩ := Option.isSome_iff_exists.1 (List.getLast?_isSome.2 hne)
        simp only [sweepStore, hc, hL₁, hp₁, if_pos hmore, he, Option.map_some]
        set t := (visitAll cutoff now ((s.listable stem marker).take s.pageSize)
          (s.enter .listQueues stem).2).2.2 with ht_def
        have ht : t.Sorted := visitAll_sorted _ hs₁
        have htp : t.pageSize = s.pageSize := (visitAll_keeps _ _ _ _).1.trans hp₁
        -- the visits of the page touched no name after its last
        have hsame : ∀ n, e.1 < n → t.find? n = (s.enter .listQueues stem).2.find? n := by
          intro n hn
          apply visitAll_find?_of_not_mem
          intro hmem
          have hpw : (((s.listable stem marker).take s.pageSize).map (·.1)).Pairwise (· < ·) :=
            hs.sublist (((List.take_sublist _ _).trans List.filter_sublist).map _)
          obtain ⟨a, ha, rfl⟩ := List.mem_map.1 hmem
          exact absurd hn (not_lt.2 (le_of_getLast? hpw he a ha))
        have hrest : t.listable stem (some e.1) = (s.listable stem marker).drop s.pageSize := by
          have h := listable_after_page hs₁ ht (by rw [hL₁]; exact he) hsame
          rwa [hL₁] at h
        have hfuel' : pageCount ((s.listable stem marker).drop s.pageSize).length s.pageSize ≤
            fuel := by
          rw [List.length_drop]
          have := pageCount_of_lt hp hmore
          omega
        obtain ⟨k, hk₁, hk₂, hk₃⟩ := @ih (some e.1) t ht (htp ▸ hp)
          (by rw [hrest, htp]; exact hfuel')
        rw [hrest] at hk₁ hk₂ hk₃
        rw [htp] at hk₃
        -- the rest is visited as it would be right after the page's visits
        obtain ⟨hw₁, hw₂, hw₃⟩ := visitAll_alike cutoff now
          (((s.listable stem marker).drop s.pageSize).take k) hv₃
        obtain ⟨hd₁, -, -⟩ := visitAll_alike cutoff now
          ((s.listable stem marker).drop s.pageSize) hv₃
        refine ⟨s.pageSize + k, ?_, ?_, ?_⟩
        · rw [List.take_add, visitAll_append, hk₁, hw₂, hv₂]
        · rw [List.take_add, visitAll_append]
          exact hk₂.trans hw₃
        · rcases hk₃ with ⟨hok, hk, hcalls'⟩ | ⟨herr, hmem⟩
          · left
            refine ⟨?_, by rw [hk, List.length_drop]; omega, ?_⟩
            · rw [hok, hv₁, hd₁]
              conv_rhs => rw [← List.take_append_drop s.pageSize (s.listable stem marker)]
              rw [visitAll_append]
              rfl
            · rw [hcalls', hcalls, Store.enter_calls, if_pos rfl, pageCount_of_lt hp hmore,
                List.length_drop]
              omega
          · right
            refine ⟨by rw [herr]; rfl, ?_⟩
            rwa [(visitAll_keeps _ _ _ _).2.2, enter_ops] at hmem
      · -- the page is the last
        have htake : (s.listable stem marker).take s.pageSize = s.listable stem marker :=
          List.take_of_length_le (not_lt.1 hmore)
        simp only [sweepStore, hc, hL₁, hp₁, if_neg hmore]
        refine ⟨(s.listable stem marker).length, ?_, ?_, .inl ⟨?_, rfl, ?_⟩⟩
        · rw [hv₂, htake, List.take_length]
        · simpa only [List.take_length, htake] using hv₃
        · rw [hv₁, htake]
        · rw [hcalls, Store.enter_calls, if_pos rfl, pageCount_of_le hp (not_lt.1 hmore)]

/-! ### What the sweep does to each queue -/

/-- What a visit with no failure makes of a queue: a stale queue loses its expired
messages, and goes when none are left; any other is kept as it is. -/
def swept (cutoff now : Instant) (q : StoredQueue) : Option StoredQueue :=
  if isStale cutoff q.metadata then
    if (q.purge now).messages = [] then none else some (q.purge now)
  else some q

section Visit

variable {cutoff now : Instant} {s : Store} {n : String} {q : StoredQueue}

/-- A visit that answers leaves its queue as `swept` says, and answers whether it deleted
it. -/
theorem visit_ok (hq : s.find? n = some q) {b : Bool} (h : (visit cutoff now s n q).1 = .ok b) :
  (visit cutoff now s n q).2.find? n = swept cutoff now q ∧ b = (swept cutoff now q).isNone
  := by
  unfold visit at h ⊢
  unfold swept
  by_cases hstale : isStale cutoff q.metadata
  · rw [if_pos hstale] at h ⊢
    rw [if_pos hstale]
    cases hc : FailureRule.consume .getMetadata n s.rules with
    | some _ => simp [hc] at h
    | none =>
      simp only [hc] at h ⊢
      by_cases hempty : (q.purge now).messages = []
      · rw [if_pos hempty] at h ⊢
        rw [if_pos hempty]
        cases hd : FailureRule.consume .deleteQueue n
            ((s.enter .getMetadata n).2.put n (q.purge now)).rules with
        | some _ => simp [hd] at h
        | none =>
          simp only [hd, Except.ok.injEq] at h
          simp [← h]
      · rw [if_neg hempty] at h ⊢
        rw [if_neg hempty]
        simp only [Except.ok.injEq] at h
        simp [← h]
  · rw [if_neg hstale] at h ⊢
    rw [if_neg hstale]
    simp only [Except.ok.injEq] at h
    simp [hq, ← h]

/-- A visit fails only on a stale queue, by an injected fault of reading it or of deleting
it, and leaves the queue in place. -/
theorem visit_error (hq : s.find? n = some q) {f : Fault}
    (h : (visit cutoff now s n q).1 = .error f) :
  isStale cutoff q.metadata ∧
    (f = Store.injected .getMetadata n ∨ f = Store.injected .deleteQueue n) ∧
    ((visit cutoff now s n q).2.find? n).isSome
  := by
  unfold visit at h ⊢
  by_cases hstale : isStale cutoff q.metadata
  · rw [if_pos hstale] at h ⊢
    refine ⟨hstale, ?_⟩
    cases hc : FailureRule.consume .getMetadata n s.rules with
    | some _ =>
      simp only [hc, Except.error.injEq] at h
      simp [h, hq]
    | none =>
      simp only [hc] at h ⊢
      by_cases hempty : (q.purge now).messages = []
      · rw [if_pos hempty] at h ⊢
        cases hd : FailureRule.consume .deleteQueue n
            ((s.enter .getMetadata n).2.put n (q.purge now)).rules with
        | some _ =>
          simp only [hd, Except.error.injEq] at h
          simp [h]
        | none => simp [hd] at h
      · rw [if_neg hempty] at h
        cases h
  · rw [if_neg hstale] at h
    cases h

/-- With no failure rule a visit can meet, a visit answers, and the store it leaves has
none either. -/
theorem visit_of_visitRules_nil (h : visitRules s.rules = []) :
  (∃ b, (visit cutoff now s n q).1 = .ok b) ∧ visitRules (visit cutoff now s n q).2.rules = []
  := by
  have hnone : ∀ op, op ≠ .listQueues → ∀ (t : Store), visitRules t.rules = [] →
      FailureRule.consume op n t.rules = none ∧ visitRules (t.enter op n).2.rules = [] := by
    intro op hop t ht
    have hmap := consume_visitRules n t.rules hop
    rw [ht] at hmap
    refine ⟨Option.map_eq_none_iff.1 hmap.symm, ?_⟩
    rw [visitRules_enter, if_neg hop, ht]
    rfl
  obtain ⟨hgm, hgm'⟩ := hnone .getMetadata (by decide) s h
  have hdq := hnone .deleteQueue (by decide) ((s.enter .getMetadata n).2.put n (q.purge now)) hgm'
  unfold visit
  rw [hgm]
  by_cases hstale : isStale cutoff q.metadata
  · rw [if_pos hstale]
    by_cases hempty : (q.purge now).messages = []
    · dsimp only
      rw [if_pos hempty, hdq.1]
      exact ⟨⟨true, rfl⟩, hdq.2⟩
    · dsimp only
      rw [if_neg hempty]
      exact ⟨⟨false, rfl⟩, hgm'⟩
  · rw [if_neg hstale]
    exact ⟨⟨false, rfl⟩, h⟩

end Visit

/-- With no failure rule a visit can meet, no visit fails. -/
theorem visitAll_fails_nil (cutoff now : Instant) (es : List (String × StoredQueue)) {s : Store}
    (h : visitRules s.rules = []) :
  (visitAll cutoff now es s).2.1 = []
  := by
  induction es generalizing s with
  | nil => rfl
  | cons e es ih =>
    obtain ⟨n, q⟩ := e
    have hv : (∃ b, (visit cutoff now s n q).1 = .ok b) ∧
        visitRules (visit cutoff now s n q).2.rules = [] := visit_of_visitRules_nil h
    obtain ⟨⟨b, hb⟩, h'⟩ := hv
    simp only [visitAll, hb]
    exact ih h'

section Visits

variable {cutoff now : Instant} {es : List (String × StoredQueue)} {s : Store}

/-- The queues of a listing whose visits failed, each once and in the listing's order. -/
theorem visitAll_fails_sublist :
  ((visitAll cutoff now es s).2.1.map (·.1)).Sublist (es.map (·.1))
  := by
  induction es generalizing s with
  | nil => exact List.Sublist.slnil
  | cons e es ih =>
    obtain ⟨n, q⟩ := e
    simp only [visitAll]
    split
    · exact ih.cons n
    · exact ih.cons_cons n

/-- In a listing with distinct names, each found as listed: the head is found, the rest is
still found after the head's visit, and the visits of the rest leave the head's queue as
its own visit did. -/
theorem visit_frame (cutoff now : Instant) {n : String} {q : StoredQueue} (hnodup : (((n, q) :: es).map (·.1)).Nodup)
    (hfind : ∀ e ∈ (n, q) :: es, s.find? e.1 = some e.2) :
  s.find? n = some q ∧ (∀ e ∈ es, (visit cutoff now s n q).2.find? e.1 = some e.2) ∧
    (visitAll cutoff now es (visit cutoff now s n q).2).2.2.find? n =
      (visit cutoff now s n q).2.find? n
  := by
  simp only [List.map_cons, List.nodup_cons] at hnodup
  refine ⟨hfind (n, q) List.mem_cons_self, ?_, visitAll_find?_of_not_mem es hnodup.1⟩
  intro e he
  have hne : e.1 ≠ n := fun h => hnodup.1 (by rw [← h]; exact List.mem_map_of_mem he)
  rw [visit_find?_ne hne]
  exact hfind e (List.mem_cons_of_mem _ he)

/-- Every failed visit was of a stale queue, failed by an injected fault of reading it or
of deleting it, and left it in place. -/
theorem visitAll_error (hnodup : (es.map (·.1)).Nodup) (hfind : ∀ e ∈ es, s.find? e.1 = some e.2)
    {p : String × Fault} (hp : p ∈ (visitAll cutoff now es s).2.1) :
  ∃ q, (p.1, q) ∈ es ∧ isStale cutoff q.metadata ∧
    (p.2 = Store.injected .getMetadata p.1 ∨ p.2 = Store.injected .deleteQueue p.1) ∧
    ((visitAll cutoff now es s).2.2.find? p.1).isSome
  := by
  induction es generalizing s with
  | nil => cases hp
  | cons e es ih =>
    obtain ⟨n, q⟩ := e
    obtain ⟨hq, hfind₁, hlater⟩ := visit_frame cutoff now hnodup hfind
    have hnodup₁ := (List.nodup_cons.1 hnodup).2
    simp only [visitAll] at hp ⊢
    split at hp
    · obtain ⟨q', hq', h⟩ := ih hnodup₁ hfind₁ hp
      exact ⟨q', List.mem_cons_of_mem _ hq', h⟩
    · next f hf =>
      rcases List.mem_cons.1 hp with rfl | hp
      · obtain ⟨hstale, hfault, hin⟩ := visit_error hq hf
        exact ⟨q, List.mem_cons_self, hstale, hfault, by rw [hlater]; exact hin⟩
      · obtain ⟨q', hq', h⟩ := ih hnodup₁ hfind₁ hp
        exact ⟨q', List.mem_cons_of_mem _ hq', h⟩

/-- Every queue whose visit did not fail is left as `swept` says. -/
theorem visitAll_ok (hnodup : (es.map (·.1)).Nodup) (hfind : ∀ e ∈ es, s.find? e.1 = some e.2)
    {e : String × StoredQueue} (he : e ∈ es) (hok : e.1 ∉ (visitAll cutoff now es s).2.1.map (·.1)) :
  (visitAll cutoff now es s).2.2.find? e.1 = swept cutoff now e.2
  := by
  induction es generalizing s with
  | nil => cases he
  | cons e' es ih =>
    obtain ⟨n, q⟩ := e'
    obtain ⟨hq, hfind₁, hlater⟩ := visit_frame cutoff now hnodup hfind
    have hnodup₁ := List.nodup_cons.1 hnodup
    simp only [visitAll] at hok ⊢
    rcases List.mem_cons.1 he with rfl | he
    · -- the head's own visit did not fail
      split at hok
      · next b hb =>
        rw [hlater]
        exact (visit_ok hq hb).1
      · simp at hok
    · split at hok
      · exact ih hnodup₁.2 hfind₁ he hok
      · simp only [List.map_cons, List.mem_cons, not_or] at hok
        exact ih hnodup₁.2 hfind₁ he hok.2

/-- The count of a listing's visits is how many of its queues are gone after them. -/
theorem visitAll_count (hnodup : (es.map (·.1)).Nodup)
    (hfind : ∀ e ∈ es, s.find? e.1 = some e.2) :
  (visitAll cutoff now es s).1 =
    (es.filter fun e => ((visitAll cutoff now es s).2.2.find? e.1).isNone).length
  := by
  induction es generalizing s with
  | nil => rfl
  | cons e es ih =>
    obtain ⟨n, q⟩ := e
    obtain ⟨hq, hfind₁, hlater⟩ := visit_frame cutoff now hnodup hfind
    have hnodup₁ := (List.nodup_cons.1 hnodup).2
    simp only [visitAll]
    split
    · next b hb =>
      -- the head is gone exactly when its visit answers that it deleted it
      rw [List.filter_cons, hlater, (visit_ok hq hb).1, ← (visit_ok hq hb).2, ih hnodup₁ hfind₁]
      cases b <;> simp [Nat.add_comm]
    · next f hf =>
      have hin := (visit_error hq hf).2.2
      rw [List.filter_cons, hlater, ih hnodup₁ hfind₁]
      simp [Option.isSome_iff_ne_none.1 hin]

/-- After the visits of a listing, a queue whose visit did not fail is as `swept` makes it
when listed, and as it was when not. -/
theorem visitAll_find? (hnodup : (es.map (·.1)).Nodup)
    (hfind : ∀ e ∈ es, s.find? e.1 = some e.2) {n : String}
    (hn : n ∉ (visitAll cutoff now es s).2.1.map (·.1)) :
  (visitAll cutoff now es s).2.2.find? n =
    if n ∈ es.map (·.1) then (s.find? n).bind (swept cutoff now) else s.find? n
  := by
  split_ifs with hmem
  · obtain ⟨e, he, rfl⟩ := List.mem_map.1 hmem
    rw [hfind e he, visitAll_ok hnodup hfind he hn]
    rfl
  · exact visitAll_find?_of_not_mem es hmem

end Visits

/-- The listing of a whole stem: the queues whose names start with it. -/
theorem listable_none (s : Store) (stem : String) :
  s.listable stem none = s.queues.filter fun e => e.1.startsWith stem
  := by
  simp [Store.listable]

/-- Being listed under a stem is starting with it, for a name the store holds. -/
theorem bind_swept_listed {cutoff now : Instant} (s : Store) (stem n : String) :
  (if n ∈ (s.listable stem none).map (·.1) then (s.find? n).bind (swept cutoff now)
    else s.find? n) =
  if n.startsWith stem then (s.find? n).bind (swept cutoff now) else s.find? n
  := by
  by_cases hn : n.startsWith stem
  · rw [if_pos hn]
    by_cases hmem : n ∈ (s.listable stem none).map (·.1)
    · rw [if_pos hmem]
    · -- a name under the stem that is not listed finds nothing
      rw [if_neg hmem]
      have habsent : (s.listable stem none).lookup n = none := by
        rw [List.lookup_eq_none_iff]
        intro e he
        rw [bne_iff_ne, ne_eq]
        intro h
        exact hmem (h ▸ List.mem_map_of_mem he)
      rw [listable_none, Store.lookup_filter (fun n => n.startsWith stem), if_pos hn] at habsent
      rw [Store.lookup_queues] at habsent
      rw [habsent]
      rfl
  · rw [if_neg hn, if_neg]
    intro hmem
    obtain ⟨e, he, rfl⟩ := List.mem_map.1 hmem
    rw [listable_none] at he
    exact hn (List.mem_filter.1 he).2

/-! ### The sweep in a world -/

/-- Ten days before `now` past the calendar's start, the sweep halts before any call. -/
theorem run_halts {now : Instant} (w : World) (hcut : now.sub? unusedMaxAge = none) :
  (run now).run.run w = .error Halt.subOverflow
  := by
  have hget : ((get : Attempt World).run).run w = pure (.ok w, w) := rfl
  simp only [run, Attempt.lift, Run.ofHalting, Instant.minus, hcut, ExceptT.run_bind,
    ExceptT.run_lift, StateT.run_bind, hget, pure_bind, StateT.run_map, StateT.run_lift]
  rfl

/-- Otherwise the sweep is `sweepStore` on the world's store, with fuel for every queue, and
its failures are reported. -/
theorem run_run {now cutoff : Instant} {w : World} (hlink : w.link = .store)
    (hs : w.store.Sorted) (hcut : now.sub? unusedMaxAge = some cutoff) :
  ∃ w', (run now).run.run w = pure ((sweepStore (shardPrefix w.settings.stem) cutoff w.now
      (w.store.queues.length + 1) none w.store).1.mapError listFailure, w') ∧
    Leaves w w' (sweepStore (shardPrefix w.settings.stem) cutoff w.now
        (w.store.queues.length + 1) none w.store).2.2
      (sweepStore (shardPrefix w.settings.stem) cutoff w.now
        (w.store.queues.length + 1) none w.store).2.1
  := by
  obtain ⟨w', hrun, hl⟩ := sweepPages_run (shardPrefix w.settings.stem) cutoff
    (w.store.queues.length + 1) none hlink hs
  have hget : ((get : Attempt World).run).run w = pure (.ok w, w) := rfl
  have hbudget : pageBudget w = w.store.queues.length + 1 := by simp [pageBudget, hlink]
  have hok : (Except.ok cutoff : Except Halt Instant) = pure cutoff := rfl
  cases hr : (sweepStore (shardPrefix w.settings.stem) cutoff w.now
      (w.store.queues.length + 1) none w.store).1 with
  | error f =>
    -- a failed listing ends the sweep with its error
    rw [hr] at hrun
    refine ⟨w', ?_, hl⟩
    simp only [run, Attempt.lift, Run.ofHalting, Instant.minus, hcut, ExceptT.run_bind,
      ExceptT.run_lift, StateT.run_bind, hget, pure_bind, StateT.run_map, StateT.run_lift, hok,
      map_pure, hbudget, hrun]
    rfl
  | ok c =>
    rw [hr] at hrun
    refine ⟨{ w' with logs := w'.logs ++ [⟨.info, sweepTarget, "unused worker queue sweep finished",
      [("deleted", toString c), ("prefix", shardPrefix w.settings.stem)]⟩] }, ?_,
      ⟨hl.store, hl.reports, hl.now, hl.link, hl.settings⟩⟩
    simp only [run, Attempt.lift, Run.ofHalting, Instant.minus, hcut, ExceptT.run_bind,
      ExceptT.run_lift, StateT.run_bind, hget, pure_bind, StateT.run_map, StateT.run_lift, hok,
      map_pure, hbudget, hrun]
    rfl

/-- The sweep in a world, at an instant ten days or more after the calendar's start, on a
sorted store: it visits the queues under the stem up to some point, its store and its
reports are as those visits leave them, and either it got through them all, listing once a
page, or a list call failed by a rule for list calls and the sweep ends with that error. -/
theorem run_spec {now cutoff : Instant} {w : World} (hlink : w.link = .store)
    (hs : w.store.Sorted) (hp : 0 < w.store.pageSize)
    (hcut : now.sub? unusedMaxAge = some cutoff) :
  ∃ w' r k, (run now).run.run w = pure (r, w') ∧
    w'.reports = w.reports ++ (visitAll cutoff w.now
      ((w.store.listable (shardPrefix w.settings.stem) none).take k) w.store).2.1.map
        (fun (n, f) => failureReport n f) ∧
    (∀ n, w'.store.find? n = (visitAll cutoff w.now
      ((w.store.listable (shardPrefix w.settings.stem) none).take k) w.store).2.2.find? n) ∧
    ((r = .ok (visitAll cutoff w.now (w.store.listable (shardPrefix w.settings.stem) none)
          w.store).1 ∧
        k = (w.store.listable (shardPrefix w.settings.stem) none).length ∧
        w'.store.calls .listQueues = w.store.calls .listQueues +
          pageCount (w.store.listable (shardPrefix w.settings.stem) none).length
            w.store.pageSize) ∨
      (r = .error (listFailure (Store.injected .listQueues (shardPrefix w.settings.stem))) ∧
        Operation.listQueues ∈ w.store.rules.map (·.op)))
  := by
  obtain ⟨w', hrun, hl⟩ := run_run hlink hs hcut
  -- there is fuel for every page
  have hfuel : pageCount (w.store.listable (shardPrefix w.settings.stem) none).length
      w.store.pageSize ≤ w.store.queues.length + 1 := by
    have h₁ := pageCount_le (n := (w.store.listable (shardPrefix w.settings.stem) none).length) hp
    have h₂ : (w.store.listable (shardPrefix w.settings.stem) none).length ≤
        w.store.queues.length := List.length_filter_le _ _
    omega
  obtain ⟨k, hk₁, hk₂, hk₃⟩ := sweepStore_spec (shardPrefix w.settings.stem) cutoff w.now
    hs hp hfuel
  refine ⟨w', _, k, hrun, by rw [hl.reports, hk₁], fun n => by rw [hl.store]; exact hk₂.find? n,
    ?_⟩
  rcases hk₃ with ⟨hok, hk, hcalls⟩ | ⟨herr, hmem⟩
  · exact .inl ⟨by rw [hok]; rfl, hk, by rw [hl.store, hcalls]⟩
  · exact .inr ⟨by rw [herr]; rfl, hmem⟩

section Contract

variable {now cutoff : Instant} {w : World}

/-- With no rule for list calls, the sweep goes through every queue under the stem.  The
queues whose visits failed are reported, each once, and left in place; every other queue
ends as `swept` makes it when under the stem, and as it was when not; the sweep answers
how many queues are gone, and lists once a page. -/
theorem run_without_list_failure (hlink : w.link = .store) (hs : w.store.Sorted)
    (hp : 0 < w.store.pageSize) (hcut : now.sub? unusedMaxAge = some cutoff)
    (hrules : Operation.listQueues ∉ w.store.rules.map (·.op)) :
  ∃ w', (run now).run.run w = pure (.ok (visitAll cutoff w.now
      (w.store.listable (shardPrefix w.settings.stem) none) w.store).1, w') ∧
    w'.reports = w.reports ++ (visitAll cutoff w.now
      (w.store.listable (shardPrefix w.settings.stem) none) w.store).2.1.map
        (fun (n, f) => failureReport n f) ∧
    ((visitAll cutoff w.now (w.store.listable (shardPrefix w.settings.stem) none)
      w.store).2.1.map (·.1)).Nodup ∧
    (∀ p ∈ (visitAll cutoff w.now (w.store.listable (shardPrefix w.settings.stem) none)
        w.store).2.1,
      p.1.startsWith (shardPrefix w.settings.stem) ∧
      (∃ q, w.store.find? p.1 = some q ∧ isStale cutoff q.metadata) ∧
      (p.2 = Store.injected .getMetadata p.1 ∨ p.2 = Store.injected .deleteQueue p.1) ∧
      (w'.store.find? p.1).isSome) ∧
    (∀ n, n ∉ (visitAll cutoff w.now (w.store.listable (shardPrefix w.settings.stem) none)
        w.store).2.1.map (·.1) →
      w'.store.find? n = if n.startsWith (shardPrefix w.settings.stem) then
        (w.store.find? n).bind (swept cutoff w.now) else w.store.find? n) ∧
    (visitAll cutoff w.now (w.store.listable (shardPrefix w.settings.stem) none) w.store).1 =
      (w.store.queues.filter fun e => (w'.store.find? e.1).isNone).length ∧
    w'.store.calls .listQueues = w.store.calls .listQueues +
      pageCount (w.store.listable (shardPrefix w.settings.stem) none).length w.store.pageSize
  := by
  obtain ⟨w', r, k, hrun, hrep, hfind, hres⟩ := run_spec hlink hs hp hcut
  rcases hres with ⟨hok, rfl, hcalls⟩ | ⟨-, hmem⟩
  swap
  · exact absurd hmem hrules
  rw [List.take_length] at hrep hfind
  obtain ⟨hnodup, hfindL⟩ := page_of_sorted hs (shardPrefix w.settings.stem) none
    (w.store.listable (shardPrefix w.settings.stem) none).length
  rw [List.take_length] at hnodup hfindL
  refine ⟨w', by rw [hrun, hok], hrep, visitAll_fails_sublist.nodup hnodup, ?_, ?_, ?_, hcalls⟩
  · -- a failed visit was of a listed, stale queue
    intro p hp'
    obtain ⟨q, hq, hstale, hfault, hin⟩ := visitAll_error hnodup hfindL hp'
    rw [listable_none] at hq
    refine ⟨(List.mem_filter.1 hq).2, ⟨q, find?_of_mem hs (List.mem_filter.1 hq).1, hstale⟩,
      hfault, by rw [hfind]; exact hin⟩
  · intro n hn
    rw [hfind, visitAll_find? hnodup hfindL hn, bind_swept_listed]
  · -- a queue not under the stem is never gone
    rw [visitAll_count hnodup hfindL]
    set V := visitAll cutoff w.now (w.store.listable (shardPrefix w.settings.stem) none) w.store
      with hV
    rw [listable_none, List.filter_filter]
    congr 1
    apply List.filter_congr
    intro e he
    rw [hfind]
    by_cases hn : e.1.startsWith (shardPrefix w.settings.stem)
    · simp [hn]
    · have hnot : e.1 ∉ (w.store.listable (shardPrefix w.settings.stem) none).map (·.1) := by
        intro hmem
        obtain ⟨e', he', hname⟩ := List.mem_map.1 hmem
        rw [listable_none] at he'
        exact hn (hname ▸ (List.mem_filter.1 he').2)
      rw [hV, visitAll_find?_of_not_mem _ hnot, find?_of_mem hs he]
      simp [hn]

/-- A sweep that ends with an error ends with the failed list call's, and the queues it
visited before, the first `k` under the stem, end as they would without it. -/
theorem run_list_failure (hlink : w.link = .store) (hs : w.store.Sorted)
    (hp : 0 < w.store.pageSize) (hcut : now.sub? unusedMaxAge = some cutoff)
    {e : QueueError} {w' : World} (h : (run now).run.run w = pure (.error e, w')) :
  e = listFailure (Store.injected .listQueues (shardPrefix w.settings.stem)) ∧
    ∃ k, w'.reports = w.reports ++ (visitAll cutoff w.now
        ((w.store.listable (shardPrefix w.settings.stem) none).take k) w.store).2.1.map
          (fun (n, f) => failureReport n f) ∧
      ∀ n, n ∉ (visitAll cutoff w.now
          ((w.store.listable (shardPrefix w.settings.stem) none).take k) w.store).2.1.map
            (·.1) →
        w'.store.find? n =
          if n ∈ (((w.store.queues.filter fun e => e.1.startsWith (shardPrefix w.settings.stem)).take
            k).map (·.1)) then (w.store.find? n).bind (swept cutoff w.now) else w.store.find? n
  := by
  obtain ⟨w₁, r, k, hrun, hrep, hfind, hres⟩ := run_spec hlink hs hp hcut
  rw [hrun] at h
  obtain ⟨rfl, rfl⟩ := Prod.mk.inj (Except.ok.inj h)
  rcases hres with ⟨hok, -, -⟩ | ⟨herr, -⟩
  · cases hok
  · obtain ⟨hnodup, hfindL⟩ := page_of_sorted hs (shardPrefix w.settings.stem) none k
    refine ⟨Except.error.inj herr, k, hrep, fun n hn => ?_⟩
    rw [hfind, visitAll_find? hnodup hfindL hn, listable_none]

end Contract

/-- The sweep of unused pending queues on the in-memory store, on a sorted store listing
at least one queue a page, at an instant `now` ten days or more after the calendar's
start, `cutoff` being ten days before it.

With no failure rule, it answers: it deletes exactly the queues under the stem that are
stale and hold no unexpired message, answers how many, leaves every other queue as it
was but for the expired messages of the stale ones under the stem, reports nothing, and
lists `max 1 ⌈n / pageSize⌉` times for the `n` queues under the stem.

With no rule for list calls, it answers, and the queues a failure fired on are reported
once each, with their names, by an injected fault of reading or deleting them, and left
in place; every other queue ends as without failures, and the answer is how many queues
are gone.

A sweep that ends with an error ends with the failed list call's, and the first queues
under the stem, those it visited, end as they would without it. -/
theorem unused_queue_sweep_exact (now cutoff : Instant) {w : World} (hlink : w.link = .store)
    (hs : w.store.Sorted) (hp : 0 < w.store.pageSize)
    (hcut : now.sub? unusedMaxAge = some cutoff) :
  (w.store.rules = [] →
    ∃ w' count, (run now).run.run w = pure (.ok count, w') ∧ w'.reports = w.reports ∧
      (∀ n, w'.store.find? n = if n.startsWith (shardPrefix w.settings.stem) then
        (w.store.find? n).bind (swept cutoff w.now) else w.store.find? n) ∧
      count = (w.store.queues.filter fun e => e.1.startsWith (shardPrefix w.settings.stem) &&
        (swept cutoff w.now e.2).isNone).length ∧
      w'.store.calls .listQueues = w.store.calls .listQueues +
        max 1 (((w.store.queues.filter fun e => e.1.startsWith (shardPrefix w.settings.stem)).length
          + w.store.pageSize - 1) / w.store.pageSize)) ∧
  (Operation.listQueues ∉ w.store.rules.map (·.op) →
    ∃ (w' : World) (count : Nat) (fails : List (String × Fault)),
      (run now).run.run w = pure (.ok count, w') ∧
      w'.reports = w.reports ++ fails.map (fun (n, f) => failureReport n f) ∧
      (fails.map (·.1)).Nodup ∧
      (∀ p ∈ fails, p.1.startsWith (shardPrefix w.settings.stem) ∧
        (∃ q, w.store.find? p.1 = some q ∧ isStale cutoff q.metadata) ∧
        (p.2 = Store.injected .getMetadata p.1 ∨ p.2 = Store.injected .deleteQueue p.1) ∧
        (w'.store.find? p.1).isSome) ∧
      (∀ n, n ∉ fails.map (·.1) → w'.store.find? n =
        if n.startsWith (shardPrefix w.settings.stem) then
          (w.store.find? n).bind (swept cutoff w.now) else w.store.find? n) ∧
      count = (w.store.queues.filter fun e => (w'.store.find? e.1).isNone).length ∧
      w'.store.calls .listQueues = w.store.calls .listQueues +
        max 1 (((w.store.queues.filter fun e => e.1.startsWith (shardPrefix w.settings.stem)).length
          + w.store.pageSize - 1) / w.store.pageSize)) ∧
  (∀ e w', (run now).run.run w = pure (.error e, w') →
    e = listFailure (Store.injected .listQueues (shardPrefix w.settings.stem)) ∧
    ∃ (k : Nat) (fails : List (String × Fault)),
      w'.reports = w.reports ++ fails.map (fun (n, f) => failureReport n f) ∧
      ∀ n, n ∉ fails.map (·.1) → w'.store.find? n =
        if n ∈ (((w.store.queues.filter fun e => e.1.startsWith (shardPrefix w.settings.stem)).take
          k).map (·.1)) then (w.store.find? n).bind (swept cutoff w.now) else w.store.find? n)
  := by
  refine ⟨fun hnil => ?_, fun hrules => ?_, fun e w' h => ?_⟩
  · -- no failure rule: no visit fails
    obtain ⟨w', hrun, hrep, -, -, hfind, hcount, hcalls⟩ :=
      run_without_list_failure hlink hs hp hcut (by simp [hnil])
    have hnone := visitAll_fails_nil cutoff w.now
      (w.store.listable (shardPrefix w.settings.stem) none) (s := w.store) (by simp [hnil, visitRules])
    rw [hnone] at hrep hfind
    refine ⟨w', _, hrun, by simpa using hrep, fun n => hfind n List.not_mem_nil, ?_,
      by rw [hcalls, listable_none]; rfl⟩
    rw [hcount]
    congr 1
    apply List.filter_congr
    intro e he
    rw [hfind e.1 List.not_mem_nil, find?_of_mem hs he]
    by_cases hn : e.1.startsWith (shardPrefix w.settings.stem) <;> simp [hn]
  · obtain ⟨w', hrun, hrep, hnodup, hfails, hfind, hcount, hcalls⟩ :=
      run_without_list_failure hlink hs hp hcut hrules
    exact ⟨w', _, _, hrun, hrep, hnodup, hfails, hfind, hcount,
      by rw [hcalls, listable_none]; rfl⟩
  · obtain ⟨he, k, hrep, hfind⟩ := run_list_failure hlink hs hp hcut h
    exact ⟨he, k, _, hrep, hfind⟩

/-- A store holding one queue under the stem `pq`, with no metadata and no message. -/
def orphanStore : Store :=
  (Store.empty 5000).put "pq-orphan" ⟨[], []⟩

/-- A world at noon on 2024-03-01 whose calls go to `orphanStore`. -/
def orphanWorld : World :=
  World.init Settings.default ⟨19783, 43200, 0⟩ orphanStore .store

/-- The sweep at the world's own instant deletes the queue with no metadata. -/
theorem unused_queue_sweep_deletes_orphan :
  ∃ w' count, (run ⟨19783, 43200, 0⟩).run.run orphanWorld = pure (.ok count, w') ∧
    w'.store.find? "pq-orphan" = none
  := by
  obtain ⟨w', count, hrun, -, hfind, -, -⟩ :=
    (unused_queue_sweep_exact ⟨19783, 43200, 0⟩ ⟨19773, 43200, 0⟩ (w := orphanWorld) rfl
      (List.pairwise_singleton _ _) (by decide) (by decide)).1 rfl
  refine ⟨w', count, hrun, ?_⟩
  rw [hfind]
  decide +kernel

/-- Four days after the calendar's start there is no instant ten days earlier, and the
sweep halts instead of answering. -/
theorem unused_queue_sweep_halts_at_calendar_start :
  (run ⟨Instant.minDay + 4, 0, 0⟩).run.run orphanWorld = .error Halt.subOverflow
  := run_halts _ (by decide)

end Sweep

end TaskQueue
