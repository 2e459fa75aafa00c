import TaskQueue.Proofs.Service.Stamps

/-!
# What a sweep spares

A sweep deletes a pending queue only after reading its metadata as stale: metadata that is
not a pending queue's, or a `last_used` before the cutoff, ten days before the sweep's
instant.  Once a family was logged ready, the metadata of each of its queues is later than
the bound of the frame (`World.Retains`); a sweep whose cutoff is at most that bound finds
none of them stale, and deletes none of them (`Sweep.run_spares`,
`Background.advance_spares`).

What a sweep keeps for that (`World.Spares`) is proved of each of its computations by a
Hoare triple, as in `Stamps`: besides what every computation keeps, each queue of the family
that the sweep's starting store held is still held.
-/

namespace TaskQueue

open Std.Do Time

set_option mvcgen.warning false

/-- Metadata later than the bound is not stale at a cutoff off any leap second at most the
bound. -/
theorem Stamp.Holds.isStale_eq_false {b : Int} {md : Metadata} (h : Stamp.Holds True b md)
    {cutoff : Instant} (hc : cutoff.Plain) (hb : cutoff.nanos ≤ b) :
  Sweep.isStale cutoff md = false
  := by
  obtain ⟨m, hm, hp, hlate⟩ := h
  have hlt := hlate trivial
  unfold Sweep.isStale
  rw [hm, decide_eq_false_iff_not, hp.lt_iff hc]
  omega

/-! ### What a sweep keeps -/

/-- What a sweep is checked against: a frame, and the store the sweep starts from. -/
structure Stamp.Sweep where
  frame : Stamp.Frame
  start : Store

/-- What a sweep keeps of a world: what every computation keeps, the family logged ready at
least `readies` times, and each queue of the family that the starting store held still
held. -/
structure World.Spares (G : Stamp.Sweep) (w : World) : Prop where
  retains : w.Retains G.frame
  ready : G.frame.readies ≤ w.logs.count (Pending.readyEvent G.frame.family)
  held : ∀ n ∈ G.frame.shards, (G.start.find? n).isSome → (w.store.find? n).isSome

namespace World.Spares

variable {G : Stamp.Sweep} {w : World}

theorem frame {w' : World} (h : w.Spares G) (hs : w'.settings = w.settings)
    (hl : w'.link = w.link) (hn : w'.now = w.now) (hst : w'.store = w.store)
    (hlogs : w'.logs = w.logs) :
  w'.Spares G
  := ⟨h.retains.frame hs hl hn hst hlogs, hlogs ▸ h.ready, hst ▸ h.held⟩

/-- A call of the store keeps what a sweep keeps when it writes metadata as every
computation may, and leaves each held queue of the family held. -/
theorem call (h : w.Spares G) {c : Store.Call} {a : Except Fault Store.Answer} {s : Store}
    (hc : c.perform w.store = .ok (a, s))
    (hwrite : ∀ n md, c.writes? = some (n, md) → n ∈ G.frame.shards →
      Stamp.Holds True G.frame.bound md)
    (hheld : ∀ n ∈ G.frame.shards, (w.store.find? n).isSome → (s.find? n).isSome) :
  { w with store := s }.Spares G
  := ⟨h.retains.call hc hwrite, h.ready, fun n hn hs => hheld n hn (h.held n hn hs)⟩

/-- Logging keeps what a sweep keeps: the log only grows. -/
theorem log (h : w.Spares G) (e : LogEvent) (he : Stamp.Ready G.frame e w) :
  { w with logs := w.logs ++ [e] }.Spares G
  := ⟨h.retains.log e he, by simp only [List.count_append]; have := h.ready; omega, h.held⟩

/-- No queue of the family is stale at a cutoff off any leap second at most the bound. -/
theorem isStale_eq_false (h : w.Spares G) {cutoff : Instant} (hc : cutoff.Plain)
    (hb : cutoff.nanos ≤ G.frame.bound) {n : String} (hn : n ∈ G.frame.shards)
    {q : StoredQueue} (hq : w.store.find? n = some q) :
  Sweep.isStale cutoff q.metadata = false
  := (h.retains.holds_of_le h.ready hn hq).isStale_eq_false hc hb

/-- So a queue whose metadata is stale at such a cutoff is none of the family's. -/
theorem not_mem_of_isStale (h : w.Spares G) {cutoff : Instant} (hc : cutoff.Plain)
    (hb : cutoff.nanos ≤ G.frame.bound) {n : String} {q : StoredQueue}
    (hq : w.store.find? n = some q) (hs : Sweep.isStale cutoff q.metadata = true) :
  n ∉ G.frame.shards
  := fun hn => by rw [h.isStale_eq_false hc hb hn hq] at hs; cases hs

end World.Spares

/-! ### Calls of the store -/

section Triples

variable {G : Stamp.Sweep}

/-- A call of the store keeps what a sweep keeps when, where `Q` holds, it writes no
metadata and leaves each held queue of the family held. -/
theorem Run.perform_spares {α : Type}
    (inMemory : Store → Instant → Except Halt (Except Fault α × Store))
    (request : Gateway.Request) (read : String → Except Fault α) (call : Instant → Store.Call) (answer : α → Store.Answer)
    (hcall : ∀ s now, (call now).perform s = Store.answering answer <$> inMemory s now)
    (hnone : ∀ now, (call now).writes? = none) (Q : World → Prop)
    (hheld : ∀ w, Q w → ∀ r s, inMemory w.store w.now = .ok (r, s) →
      ∀ n ∈ G.frame.shards, (w.store.find? n).isSome → (s.find? n).isSome) :
    ⦃fun w => ⌜w.Spares G ∧ Q w⌝⦄ Run.perform inMemory request read ⦃⇓? _ w => ⌜w.Spares G⌝⦄
  := by
  mvcgen [Run.perform]
  case vc2.h_2 _ hw _ _ _ =>
    -- a call through a gateway changes nothing
    exact hw.1
  rename_i w hw hlink
  cases hm : inMemory w.store w.now with
  | error h =>
    rw [Run.ofHalting_error]
    mvcgen
  | ok p =>
    rw [Run.ofHalting_ok]
    mvcgen
    exact hw.1.call (c := call w.now) (by rw [hcall, hm]; rfl)
      (fun n md h => by rw [hnone] at h; cases h) (hheld w hw.2 p.1 p.2 hm)

/-- Deleting a queue that is none of the family's keeps what a sweep keeps. -/
@[local spec]
theorem Run.deleteQueue_spares (n : String) :
    ⦃fun w => ⌜w.Spares G ∧ n ∉ G.frame.shards⌝⦄ Run.deleteQueue n
      ⦃⇓? _ w => ⌜w.Spares G⌝⦄
  := Run.perform_spares _ _ _ (fun _ => .deleteQueue n) (fun _ => .done) (fun _ _ => rfl)
    (fun _ => rfl) _ fun w hn r s hm n' hn' h => by
      rcases Store.deleteQueue_eq_ok_iff.1 hm with ⟨-, rfl, -⟩ | ⟨-, ⟨-, -, rfl⟩ | ⟨-, -, rfl⟩⟩
      · simpa using h
      · have hne : n' ≠ n := fun he => hn (he ▸ hn')
        simpa [hne] using h
      · simpa using h

@[local spec]
theorem Run.listQueues_spares (stem : String) (marker : Option String) (withMetadata : Bool) :
    ⦃fun w => ⌜w.Spares G⌝⦄ Run.listQueues stem marker withMetadata ⦃⇓? _ w => ⌜w.Spares G⌝⦄
  := by
  intro w hw
  exact Run.perform_spares _ _ _ (fun _ => .listQueues stem marker withMetadata) .page
    (fun _ _ => rfl) (fun _ => rfl) (fun _ => True) (fun w _ r s hm n _ h => by
      rcases Store.listQueues_eq_ok_iff.1 hm with ⟨-, rfl, -⟩ | ⟨-, -, rfl⟩ <;> simpa using h)
    w ⟨hw, trivial⟩

/-- Reading a queue's properties keeps what a sweep keeps, and answers the metadata the
store holds for the queue. -/
@[local spec]
theorem Run.getMetadata_spares (n : String) :
    ⦃fun w => ⌜w.Spares G⌝⦄ Run.getMetadata n
      ⦃⇓? r w => ⌜w.Spares G ∧ ∀ props, r = .ok props →
        ∃ q, w.store.find? n = some q ∧ q.metadata = props.metadata⌝⦄
  := by
  mvcgen [Run.getMetadata, Run.perform, -Run.getMetadata_kept]
  case vc2.h_2 _ hw _ _ hgw =>
    -- a sweep's calls go to the store
    exact absurd hw.retains.link (by simp [hgw])
  rename_i w hw hlink
  cases hm : w.store.getMetadata w.now n with
  | error h =>
    rw [Run.ofHalting_error]
    mvcgen
  | ok p =>
    rw [Run.ofHalting_ok]
    mvcgen
    obtain ⟨r, s⟩ := p
    have hc : (Store.Call.getMetadata w.now n).perform w.store =
        .ok (Store.answering .properties (r, s)) := by
      rw [Store.Call.perform, hm]
      rfl
    rcases Store.getMetadata_eq_ok_iff.1 hm with
      ⟨rfl, rfl, -⟩ | ⟨-, ⟨-, rfl, rfl⟩ | ⟨q, hq, rfl, rfl⟩⟩
    · exact ⟨hw.call hc (fun _ _ h => by cases h) fun n' _ h => by simpa using h,
        fun _ h => by cases h⟩
    · exact ⟨hw.call hc (fun _ _ h => by cases h) fun n' _ h => by simpa using h,
        fun _ h => by cases h⟩
    · -- the read drops expired messages and keeps the metadata
      refine ⟨hw.call hc (fun _ _ h => by cases h) fun n' _ h => ?_, fun props h => ?_⟩
      · by_cases hn : n' = n <;> simp_all
      · simp only [Except.mapError, Except.ok.injEq] at h
        subst h
        exact ⟨q.purge w.now, by simp, rfl⟩

/-! ### Logs, reports and the caches -/

@[local spec]
theorem Run.log_spares (e : LogEvent) :
    ⦃fun w => ⌜w.Spares G ∧ Stamp.Ready G.frame e w⌝⦄ Run.log e ⦃⇓? _ w => ⌜w.Spares G⌝⦄
  := by
  mvcgen [Run.log, -Run.log_kept]
  rename_i h _
  exact h.1.log e h.2

@[local spec]
theorem Run.report_spares (e : QueueError) :
    ⦃fun w => ⌜w.Spares G⌝⦄ Run.report e ⦃⇓? _ w => ⌜w.Spares G⌝⦄
  := by
  mvcgen [Run.report, -Run.report_kept]
  rename_i w h _
  by_cases hr : w.logReports = true
  · exact (h.log _ fun he => absurd he (Run.reportEvent_ne_readyEvent e _)).frame rfl rfl rfl
      rfl (if_pos hr)
  · exact h.frame rfl rfl rfl rfl (if_neg hr)

@[local spec]
theorem Run.resetFamilies_spares :
    ⦃fun w => ⌜w.Spares G⌝⦄ Run.resetFamilies ⦃⇓? _ w => ⌜w.Spares G⌝⦄
  := by
  mvcgen [Run.resetFamilies, Run.logPending, -Run.resetFamilies_kept, -Run.log_kept]
  all_goals grind [Stamp.Ready, Pending.readyEvent, World.Spares.frame]

theorem Run.ofHalting_spares {α : Type} (r : Except Halt α) :
    ⦃fun w => ⌜w.Spares G⌝⦄ Run.ofHalting r ⦃⇓? a w => ⌜w.Spares G ∧ r = .ok a⌝⦄
  := by
  cases r with
  | error h => rw [Run.ofHalting_error]; mvcgen
  | ok a => rw [Run.ofHalting_ok]; mvcgen

/-! ### The sweep -/

/-- Reading a queue's properties as an attempt answers the metadata the store holds for
it. -/
@[local spec]
theorem Attempt.ofRun_getMetadata_spares (n : String) :
    ⦃fun w => ⌜w.Spares G⌝⦄ Attempt.ofRun (Run.getMetadata n)
      ⦃post⟨fun props w => ⌜w.Spares G ∧
          ∃ q, w.store.find? n = some q ∧ q.metadata = props.metadata⌝,
        fun _ w => ⌜w.Spares G⌝, fun _ => ⌜True⌝⟩⦄
  := by
  intro w hw
  rw [Attempt.wp_apply]
  have hrun : (Attempt.ofRun (Run.getMetadata n)).run.run w = (Run.getMetadata n).run w := rfl
  have hend := Run.getMetadata_spares n w hw
  rw [Run.wp_apply] at hend
  rw [hrun]
  rcases h : (Run.getMetadata n).run w with (e | ⟨(e | props), w'⟩) <;> simp only [h] at hend
  · trivial
  · exact hend.1
  · exact ⟨hend.1, hend.2 props rfl⟩

variable {cutoff : Instant}

/-- A listed queue that a sweep deletes was read again as stale, so it is none of the
family's. -/
@[local spec]
theorem Sweep.deleteIfUnused_spares (hc : cutoff.Plain) (hb : cutoff.nanos ≤ G.frame.bound)
    (q : Listing) :
    ⦃fun w => ⌜w.Spares G⌝⦄ Sweep.deleteIfUnused cutoff q
      ⦃post⟨fun _ w => ⌜w.Spares G⌝, fun _ w => ⌜w.Spares G⌝, fun _ => ⌜True⌝⟩⦄
  := by
  mvcgen [Sweep.deleteIfUnused, -Sweep.deleteIfUnused_kept,
    -Attempt.ofRun_getMetadata_kept, -Run.log_kept, -Run.deleteQueue_kept]
  all_goals grind [World.Spares.not_mem_of_isStale, Stamp.Ready, Pending.readyEvent]

@[local spec]
theorem Sweep.sweepPage_spares (hc : cutoff.Plain) (hb : cutoff.nanos ≤ G.frame.bound)
    (qs : List Listing) :
    ⦃fun w => ⌜w.Spares G⌝⦄ Sweep.sweepPage cutoff qs ⦃⇓? _ w => ⌜w.Spares G⌝⦄
  := by
  induction qs with
  | nil => mvcgen [Sweep.sweepPage, -Sweep.sweepPage_kept]
  | cons q qs ih =>
    mvcgen [Sweep.sweepPage, ih, -Sweep.sweepPage_kept,
      -Sweep.deleteIfUnused_kept, -Run.report_kept]

@[local spec]
theorem Sweep.sweepPages_spares (hc : cutoff.Plain) (hb : cutoff.nanos ≤ G.frame.bound)
    (stem : String) (fuel : Nat) (marker : Option String) :
    ⦃fun w => ⌜w.Spares G⌝⦄ Sweep.sweepPages stem cutoff fuel marker
      ⦃post⟨fun _ w => ⌜w.Spares G⌝, fun _ w => ⌜w.Spares G⌝, fun _ => ⌜True⌝⟩⦄
  := by
  induction fuel generalizing marker with
  | zero => mvcgen [Sweep.sweepPages, -Sweep.sweepPages_kept]
  | succ fuel ih =>
    mvcgen [Sweep.sweepPages, ih, -Sweep.sweepPages_kept,
      -Run.listQueues_kept, -Sweep.sweepPage_kept]

/-- A sweep at an instant off any leap second, at most ten days after the bound, keeps
what a sweep keeps: its cutoff is off any leap second and at most the bound. -/
@[local spec]
theorem Sweep.run_spares {now : Instant} (hu : now.Plain)
    (hb : now.nanos ≤ G.frame.bound + unusedMaxAge.nanos) :
    ⦃fun w => ⌜w.Spares G⌝⦄ Sweep.run now
      ⦃post⟨fun _ w => ⌜w.Spares G⌝, fun _ w => ⌜w.Spares G⌝, fun _ => ⌜True⌝⟩⦄
  := by
  mvcgen [Sweep.run, Run.ofHalting_spares, -Sweep.run_kept,
    -Sweep.sweepPages_kept, -Run.log_kept]
  case vc3.hc =>
    rename_i h
    exact (hu.minus h.2).1
  case vc4.hb =>
    -- the cutoff is ten days before the sweep's instant
    rename_i h
    have := (hu.minus h.2).2
    omega
  case vc5.post.success.pre =>
    rename_i h
    exact h.1
  all_goals grind [Stamp.Ready, Pending.readyEvent]

/-! ### The background loops -/

/-- A pass of the sweeping loop at a clock at most ten days after the bound keeps what a
sweep keeps; a pass that halts changes nothing. -/
theorem Background.sweepPass_spares_spec :
    ⦃fun w => ⌜w.Spares G ∧ w.now.nanos ≤ G.frame.bound + unusedMaxAge.nanos⌝⦄
      Background.sweepPass ⦃⇓ _ w => ⌜w.Spares G⌝⦄
  := by
  mvcgen [Background.sweepPass]
  · rename_i hw r w' hrun _
    have hw' : w'.Spares G := by
      have hend := Attempt.of_triple
        (Sweep.run_spares hw.1.retains.clock.plain hw.2) hw.1 hrun
      cases r <;> exact hend
    -- the pass logs its outcome, which is no ready event
    dsimp +zetaDelta only
    cases r <;> exact hw'.log _ (by simp [Stamp.Ready, Pending.readyEvent])
  · rename_i hw _ _
    exact hw.1

theorem Background.sweepPass_spares {w w' : World} {alive : Bool}
    (hw : w.Spares G) (hnow : w.now.nanos ≤ G.frame.bound + unusedMaxAge.nanos)
    (h : (Background.sweepPass w : Id (Bool × World)) = (alive, w')) :
  w'.Spares G
  := by
  have hpass := Background.sweepPass_spares_spec w ⟨hw, hnow⟩
  rw [wp_state_apply, h] at hpass
  exact hpass

@[local spec]
theorem Background.stop_spares (bg : Background) :
    ⦃fun w => ⌜w.Spares G⌝⦄ bg.stop ⦃⇓? _ w => ⌜w.Spares G⌝⦄
  := by
  mvcgen [Background.stop, -Background.stop_kept, -Run.log_kept]
  all_goals grind [Stamp.Ready, Pending.readyEvent]

/-- Moving the loops' clock keeps what a sweep keeps, when the world's clock is at most ten
days after the bound. -/
theorem Background.advance_spares (bg : Background) (ms : Nat) :
    ⦃fun w => ⌜w.Spares G ∧ w.now.nanos ≤ G.frame.bound + unusedMaxAge.nanos⌝⦄ bg.advance ms
      ⦃⇓? _ w => ⌜w.Spares G⌝⦄
  := by
  mvcgen [Background.advance, -Background.advance_kept,
    -Run.resetFamilies_kept]
  all_goals grind [Background.sweepPass_spares]

end Triples

end TaskQueue
