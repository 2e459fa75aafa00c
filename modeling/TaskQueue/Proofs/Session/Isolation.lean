import TaskQueue.Proofs.Session.Steps
import TaskQueue.Proofs.Shards

/-!
# Runs of a session keep the expiration queues apart

`expiration_queues_isolated` says it of one operation at a time; this module says it of
whole runs.  Once every family the service remembers has its own queue names
(`World.FamiliesSound`), the pending calls of the service reach the store only on shards of
the stem, the queues whose names start with `{stem}-`: an ensure answers the family's own
names and creates or refreshes only them, a publish puts on the shard of the task's
priority, a poll gets from the shard of the priority asked, and a count reads the
properties of the family's shards.  A sweep lists and deletes under the same prefix.  Each
is a Hoare triple over `Kept` whose queues are any set holding the shards.

A session step that reaches the store only through them (`Step.throughShards`) calls only
shards (`Session.step_callsOn_shards`), and so does a run of such steps
(`Session.Reaches.callsOn_shards`), since the families stay sound along it.  Under settings
that validate no expiration queue is a shard, so such a run leaves each expiration queue as
it was, and the ready list with it (`Session.Reaches.expiration_queues_untouched`).
-/

namespace TaskQueue

open Std.Do Time

set_option mvcgen.warning false

/-! ### The names of a family -/

/-- Every queue of a family is a shard of its stem. -/
theorem startsWith_of_mem_familyNames {stem : String} {p : ProvisionerId} {wt : WorkerType}
    {n : String} (hn : n ∈ familyNames stem p wt) :
    n.startsWith (shardPrefix stem) = true
  := by
  obtain ⟨r, -, rfl⟩ := List.mem_map.1 hn
  exact shardName_startsWith stem p wt r

/-- A poll looks its priority up among the family's queues paired with the priorities, and
finds the priority's shard. -/
theorem lookup_zip_familyNames (stem : String) (p : ProvisionerId) (wt : WorkerType)
    (r : Priority) :
    (Priority.all.zip (familyNames stem p wt)).lookup r = some (shardName stem p wt r)
  := by
  rw [zip_familyNames]
  cases r <;> rfl

theorem mem_of_lookup_eq_some {α β : Type} [BEq α] [LawfulBEq α] {l : List (α × β)} {k : α}
    {v : β} (h : l.lookup k = some v) :
    (k, v) ∈ l
  := by
  induction l with
  | nil => cases h
  | cons e l ih =>
    obtain ⟨k', v'⟩ := e
    by_cases hk : k = k'
    · subst hk
      simp only [List.lookup_cons_self, Option.some.injEq] at h
      subst h
      exact List.mem_cons_self
    · have hb : (k == k') = false := beq_eq_false_iff_ne.mpr hk
      simp only [List.lookup_cons, hb] at h
      exact .tail _ (ih h)

namespace Kept

variable {t : ExpirationKind → Prop} {N : String → Prop} {w₀ w : World}

/-- A computation keeps every remembered family's names the family's own. -/
theorem familiesSound (h : Kept t N w₀ w) (h₀ : w₀.FamiliesSound) : w.FamiliesSound
  := (World.Steady.of_kept h).familiesSound h₀

/-- So the names a family is remembered under are its own names under the stem. -/
theorem lookup_families (h : Kept t N w₀ w) (h₀ : w₀.FamiliesSound) {k : FamilyKey}
    {names : List String} (hk : w.families.lookup k = some names) :
    names = familyNames w₀.settings.stem k.provisionerId k.workerType
  := by
  rw [← h.settings]
  exact h.familiesSound h₀ _ (mem_of_lookup_eq_some hk)

end Kept

/-! ### The pending calls reach only shards -/

section Shards

variable {t : ExpirationKind → Prop} {N : String → Prop} (w₀ : World) (h₀ : w₀.FamiliesSound)
  (hN : ∀ n, n.startsWith (shardPrefix w₀.settings.stem) = true → N n)
include h₀ hN

/-- An ensure answers the family's own names, and calls only them. -/
theorem Pending.ensureFamily_shards (k : FamilyKey) :
    ⦃fun w => ⌜Kept t N w₀ w⌝⦄ Pending.ensureFamily k
      ⦃post⟨fun names w => ⌜Kept t N w₀ w ∧
          names = familyNames w₀.settings.stem k.provisionerId k.workerType⌝,
        fun _ w => ⌜Kept t N w₀ w⌝, fun _ => ⌜True⌝⟩⦄
  := by
  mvcgen [Pending.ensureFamily, Run.logPending, -Pending.ensureFamily_kept]
  all_goals grind -ring -linarith [Kept.trans, Kept.refl, Kept.settings, Kept.familiesSound,
    Kept.add_family, Kept.lookup_families, startsWith_of_mem_familyNames]

theorem Pending.queues_shards (k : FamilyKey) :
    ⦃fun w => ⌜Kept t N w₀ w⌝⦄ Pending.queues k
      ⦃post⟨fun qs w => ⌜Kept t N w₀ w ∧
          qs = Priority.all.zip (familyNames w₀.settings.stem k.provisionerId k.workerType)⌝,
        fun _ w => ⌜Kept t N w₀ w⌝, fun _ => ⌜True⌝⟩⦄
  := by
  mvcgen [Pending.queues, Pending.ensureFamily_shards, -Pending.queues_kept,
    -Pending.ensureFamily_kept]
  all_goals grind -ring -linarith [Kept.trans, Kept.refl, Kept.settings, Kept.familiesSound]

/-- A publish puts on the shard of the task's priority. -/
theorem Pending.publish_shards (task : TaskRef) (runId : UInt32) :
    ⦃fun w => ⌜Kept t N w₀ w⌝⦄ Pending.publish task runId
      ⦃post⟨fun _ w => ⌜Kept t N w₀ w⌝, fun _ w => ⌜Kept t N w₀ w⌝, fun _ => ⌜True⌝⟩⦄
  := by
  mvcgen [Pending.publish, Attempt.ofExcept_eq, Run.logPending, Pending.ensureFamily_shards,
    -Pending.publish_kept, -Pending.ensureFamily_kept]
  all_goals grind -ring -linarith [Kept.trans, Kept.refl, Kept.settings, Kept.familiesSound,
    familyNames_getElem?, shardName_startsWith]

/-- A poll of a shard gets from it, and ensures the family again when it is missing. -/
theorem Pending.poll_shards (k : FamilyKey) (priority : Priority) {queue : String}
    (hq : queue.startsWith (shardPrefix w₀.settings.stem) = true) (count : Nat) :
    ⦃fun w => ⌜Kept t N w₀ w⌝⦄ Pending.poll k priority queue count
      ⦃post⟨fun _ w => ⌜Kept t N w₀ w⌝, fun _ w => ⌜Kept t N w₀ w⌝, fun _ => ⌜True⌝⟩⦄
  := by
  mvcgen [Pending.poll, Pending.readHints_kept, Run.logPending, Pending.ensureFamily_shards,
    -Pending.poll_kept, -Pending.ensureFamily_kept]
  -- the ensure after the get runs three computations on, in the world they left
  all_goals grind -ring -linarith [→ Kept.trans, Kept.refl, Kept.settings, Kept.familiesSound]

/-- Taking a count reads the properties of the family's shards. -/
theorem Pending.refreshCount_shards (k : FamilyKey) :
    ⦃fun w => ⌜Kept t N w₀ w⌝⦄ Pending.refreshCount k
      ⦃post⟨fun _ w => ⌜Kept t N w₀ w⌝, fun _ w => ⌜Kept t N w₀ w⌝, fun _ => ⌜True⌝⟩⦄
  := by
  mvcgen [Pending.refreshCount, Attempt.ofExcept_eq, Run.getMetadata_mapM_kept,
    Pending.ensureFamily_shards, -Pending.refreshCount_kept, -Pending.ensureFamily_kept]
  all_goals grind -ring -linarith [Kept.trans, Kept.refl, Kept.settings, Kept.familiesSound,
    startsWith_of_mem_familyNames]

theorem Pending.count_shards (k : FamilyKey) :
    ⦃fun w => ⌜Kept t N w₀ w⌝⦄ Pending.count k
      ⦃post⟨fun _ w => ⌜Kept t N w₀ w⌝, fun _ w => ⌜Kept t N w₀ w⌝, fun _ => ⌜True⌝⟩⦄
  := by
  mvcgen [Pending.count, Run.logPending, Pending.refreshCount_shards, -Pending.count_kept,
    -Pending.refreshCount_kept]
  all_goals grind -ring -linarith [Kept.trans, Kept.refl, Kept.settings, Kept.familiesSound]

/-- Ending the spawned count refreshes reads the properties of their families' shards. -/
theorem Pending.finishSpawned_shards {w : World} (hw : Kept t N w₀ w) :
    Kept t N w₀ (Pending.finishSpawned.run w).2
  := Pending.finishSpawned_preserves (Kept t N w₀)
    (fun k _ _ _ hw hrun =>
      Attempt.kept_of_triple w₀ (Pending.refreshCount_shards w₀ h₀ hN k) hw hrun)
    (fun _ _ _ hw => (Kept.records_iff ..).2 hw) (fun _ _ hw => (Kept.records_iff ..).2 hw) hw

/-- A pending poll step looks the family's queues up, then polls the priority's shard. -/
theorem Session.queuesThenPoll_shards (k : FamilyKey) (priority : Priority) (count : Nat) :
    ⦃fun w => ⌜Kept t N w₀ w⌝⦄
      (do
        let qs ← Pending.queues k
        Pending.poll k priority ((qs.lookup priority).getD "") count)
      ⦃post⟨fun _ w => ⌜Kept t N w₀ w⌝, fun _ w => ⌜Kept t N w₀ w⌝, fun _ => ⌜True⌝⟩⦄
  := by
  mvcgen [Pending.queues_shards, Pending.poll_shards, -Pending.queues_kept, -Pending.poll_kept]
  all_goals grind -ring -linarith [Kept.trans, Kept.refl, Kept.settings, Kept.familiesSound,
    lookup_zip_familyNames, shardName_startsWith]

end Shards

/-! ### A step and a run -/

/-- Whether a step reaches the store only through the pending queues and the sweep, or not
at all: every step but an ensure of a queue by name, the steps of the expiration queues, a
removal or a release of a held message, a failure rule and the direct steps on the store. -/
def Step.throughShards : Step → Bool
  | .ensureQueue .. | .putClaim .. | .putDeadline .. | .putResolved .. | .pollNotices _
  | .remove _ | .release _ | .failNext .. | .rawCreate .. | .rawDeleteQueue _ | .rawPut ..
  | .rawGet .. | .rawDeleteMessage .. | .rawUpdate .. | .rawGetMetadata _ | .rawSetMetadata ..
  | .rawList .. => false
  | _ => true

/-- Such a step is of no expiration kind. -/
theorem Step.kind?_of_throughShards {st : Step} (h : st.throughShards = true) : st.kind? = none
  := by
  cases st <;> first | rfl | cases h

namespace Session

variable {α : Type} {s s' : Session} {st : Step} {o : Outcome} {rs : List QueueError}
  {tr : List (Step × Outcome)}

/-- An attempt that keeps every set of queues holding the shards, run as a step. -/
theorem callsOn_of_attempt {x : Attempt α} {reply : α → Reply}
    (hx : ∀ N : String → Prop,
      (∀ n, n.startsWith (shardPrefix s.world.settings.stem) = true → N n) →
      ⦃fun w => ⌜Kept (fun _ => False) N s.world w⌝⦄ x
        ⦃post⟨fun _ w => ⌜Kept (fun _ => False) N s.world w⌝,
          fun _ w => ⌜Kept (fun _ => False) N s.world w⌝, fun _ => ⌜True⌝⟩⦄)
    (h : s.attempt x reply = .ok (o, s')) :
    Store.CallsOn (·.startsWith (shardPrefix s.world.settings.stem) = true)
      s.world.store s'.world.store
  := by
  obtain ⟨r, hrun, -⟩ := attempt_eq_ok h
  exact (Attempt.kept_of_triple s.world (hx _ fun _ hn => hn) (.refl _) hrun).store

/-- A computation that keeps every set of queues, run as a step. -/
theorem callsOn_of_exec {r : Run α} {a : α}
    (hx : ∀ N : String → Prop,
      (∀ n, n.startsWith (shardPrefix s.world.settings.stem) = true → N n) →
      ⦃fun w => ⌜Kept (fun _ => False) N s.world w⌝⦄ r
        ⦃⇓? _ w => ⌜Kept (fun _ => False) N s.world w⌝⦄)
    (h : s.exec r = .ok (a, s')) :
    Store.CallsOn (·.startsWith (shardPrefix s.world.settings.stem) = true)
      s.world.store s'.world.store
  := by
  obtain ⟨hrun, -⟩ := exec_eq_ok h
  exact (Run.kept_of_triple s.world (hx _ fun _ hn => hn) (.refl _) hrun).store

/-- A step that reaches the store only through the pending queues and the sweep calls it
only on shards of the stem, once every remembered family has its own names. -/
theorem perform_callsOn_shards (hst : st.throughShards = true) (hw : s.world.FamiliesSound)
    (h : s.perform st = .ok (o, s')) :
    Store.CallsOn (·.startsWith (shardPrefix s.world.settings.stem) = true)
      s.world.store s'.world.store
  := by
  cases st
  case advance ms =>
    obtain ⟨t, -, h⟩ := Instant.plus_bind_eq_ok.1 h
    cases h
    exact .refl _
  case setTime t =>
    cases h
    exact .refl _
  case now =>
    cases h
    exact .refl _
  case ensureFamily k =>
    obtain ⟨r, hrun, -⟩ := attempt_eq_ok h
    have hend := Attempt.of_triple (Pending.ensureFamily_shards (t := fun _ => False) s.world hw
      (fun _ hn => hn) k) (.refl _) hrun
    cases r with
    | ok names => exact hend.1.store
    | error e => exact hend.store
  case putPending task runId =>
    exact callsOn_of_attempt (fun _ hN => Pending.publish_shards s.world hw hN task runId) h
  case pendingQueues k =>
    obtain ⟨r, hrun, -⟩ := attempt_eq_ok h
    have hend := Attempt.of_triple (Pending.queues_shards (t := fun _ => False) s.world hw
      (fun _ hn => hn) k) (.refl _) hrun
    cases r with
    | ok qs => exact hend.1.store
    | error e => exact hend.store
  case pollPending k priority count =>
    obtain ⟨⟨r, s₁⟩, hx, h⟩ := except_bind_eq_ok.1 h
    have hw' : s'.world = s₁.world := by
      cases r <;> (cases h; rfl)
    rw [hw']
    obtain ⟨hrun, -⟩ := exec_eq_ok hx
    exact (Attempt.kept_of_triple s.world
      (queuesThenPoll_shards (t := fun _ => False) s.world hw (fun _ hn => hn) k priority count)
      (.refl _) hrun).store
  case count k =>
    obtain ⟨s₁, hx, rfl⟩ := perform_count_eq_ok h
    obtain ⟨r, hrun, -⟩ := attempt_eq_ok hx
    -- the count, then the refreshes it spawned, each reading its family's shards
    have h₁ := Attempt.kept_of_triple s.world
      (Pending.count_shards (t := fun _ => False) s.world hw (fun _ hn => hn) k) (.refl _) hrun
    exact (Pending.finishSpawned_shards s.world hw (fun _ hn => hn) h₁).store
  case resetCache =>
    obtain ⟨⟨_, s₁⟩, hx, h⟩ := except_bind_eq_ok.1 h
    cases h
    exact callsOn_of_exec (fun _ _ => Run.resetFamilies_kept _) hx
  case sweep at_ =>
    exact callsOn_of_attempt (fun _ hN => Sweep.run_kept s.world hN _) h
  case describeHandle hr =>
    simp only [perform] at h
    rcases withHandle_eq_ok h with rfl | ⟨n, held, h⟩
    · exact .refl _
    · cases h
      exact .refl _
  case requestShutdown =>
    simp only [perform] at h
    split at h <;> (cases h; exact .refl _)
  case startLoops =>
    simp only [perform] at h
    split at h
    · cases h
      exact .refl _
    · obtain ⟨⟨_, s₁⟩, hx, h⟩ := except_bind_eq_ok.1 h
      cases h
      exact (callsOn_of_exec (fun _ _ => Background.start_kept _ s.loops) hx :)
  case stop =>
    simp only [perform] at h
    split at h
    · cases h
      exact .refl _
    · obtain ⟨⟨_, s₁⟩, hx, h⟩ := except_bind_eq_ok.1 h
      cases h
      -- the stop signal is given first, then the loops are stopped
      obtain ⟨hrun, -⟩ := exec_eq_ok hx
      exact (Run.kept_of_triple (t := fun _ => False) _ (stopService_kept _ _) (.refl _) hrun).store
  case tick ms =>
    simp only [perform] at h
    split at h
    · cases h
    · obtain ⟨⟨_, s₁⟩, hx, h⟩ := except_bind_eq_ok.1 h
      cases h
      exact (callsOn_of_exec (fun _ hN => Background.advance_kept _ hN s.loops ms) hx :)
  case dropService =>
    simp only [perform] at h
    split at h <;> (cases h; exact .refl _)
  case sweepOnce =>
    exact callsOn_of_attempt (fun _ hN => Sweep.run_kept s.world hN _) h
  case loopsWithStopSignal =>
    obtain ⟨⟨_, s₁⟩, hx, h⟩ := except_bind_eq_ok.1 h
    cases h
    exact callsOn_of_exec (fun _ _ => stoppedLoops_kept _) hx
  case opCounts =>
    cases h
    exact .refl _
  case queueNames =>
    cases h
    exact .refl _
  case queueExists q =>
    cases h
    exact .refl _
  -- the other steps reach the store otherwise
  all_goals cases hst

/-- A whole step: the loops it may stop after its work call nothing. -/
theorem step_callsOn_shards (hst : st.throughShards = true) (hw : s.world.FamiliesSound)
    (h : s.step st = .ok (o, rs, s')) :
    Store.CallsOn (·.startsWith (shardPrefix s.world.settings.stem) = true)
      s.world.store s'.world.store
  := by
  obtain ⟨s₁, hp, hs⟩ := step_eq_ok h
  -- the work is done with a fresh report list, on the same store
  have h₁ : Store.CallsOn (·.startsWith (shardPrefix s.world.settings.stem) = true)
      s.world.store s₁.world.store :=
    perform_callsOn_shards (s := { s with world := { s.world with reports := [] } }) hst hw hp
  rcases hs with hw' | ⟨loops, hrun⟩
  · rw [hw']
    exact h₁
  · exact h₁.trans (Run.kept_of_triple (t := fun _ => False) _ (Background.stop_kept _ _)
      (.refl _) hrun).store

/-- A run of steps that reach the store only through the pending queues and the sweep
calls it only on shards of the stem, once every remembered family has its own names; the
families stay so along the run. -/
theorem Reaches.callsOn_shards (h : Reaches s tr s') (hw : s.world.FamiliesSound)
    (htr : ∀ x ∈ tr, x.1.throughShards = true) :
    Store.CallsOn (·.startsWith (shardPrefix s.world.settings.stem) = true)
      s.world.store s'.world.store
  := by
  induction h with
  | refl => exact .refl _
  | step hs _ ih =>
    have h₁ := step_steady hs
    have hrest := ih (h₁.familiesSound hw) fun x hx => htr x (.tail _ hx)
    rw [h₁.settings] at hrest
    exact (step_callsOn_shards (htr _ (.head _)) hw hs).trans hrest

/-- A run of steps of no expiration kind leaves every kind as ready as it was. -/
theorem Reaches.ready_iff (h : Reaches s tr s') (htr : ∀ x ∈ tr, x.1.kind? = none)
    (k : ExpirationKind) :
    k ∈ s'.world.ready ↔ k ∈ s.world.ready
  := by
  induction h with
  | refl => exact Iff.rfl
  | @step s s₁ s' st o rs tr hs _ ih =>
    have hnone : st.kind? = none := htr _ (.head _)
    have hk : st.kind? ≠ some k := by simp [hnone]
    exact (ih fun x hx => htr x (.tail _ hx)).trans ((step_steady hs).ready k hk)

/-- Under settings that validate, a run of a session whose steps reach the store only
through the pending queues and the sweep, from a world whose remembered families have
their own names, calls the store only on the shards of the stem: it leaves every
expiration queue as it was, and every kind as ready as it was. -/
theorem Reaches.expiration_queues_untouched (h : Reaches s tr s')
    (hv : s.world.settings.validate = .ok ()) (hw : s.world.FamiliesSound)
    (htr : ∀ x ∈ tr, x.1.throughShards = true) :
    Store.CallsOn (·.startsWith (shardPrefix s.world.settings.stem) = true)
        s.world.store s'.world.store ∧
      (∀ k, s'.world.store.find? (s.world.settings.expirationQueue k) =
        s.world.store.find? (s.world.settings.expirationQueue k)) ∧
      ∀ k, k ∈ s'.world.ready ↔ k ∈ s.world.ready
  := by
  have hcalls := h.callsOn_shards hw htr
  refine ⟨hcalls, fun k => hcalls.find?_eq ?_, h.ready_iff fun x hx =>
    Step.kind?_of_throughShards (htr x hx)⟩
  -- an expiration queue is no shard
  simp [Settings.expirationQueue_startsWith_eq_false hv k]

/-- Runs the steps in turn, answering each step with its outcome, and the last session. -/
def steps (s : Session) : List Step → Except Halt (List (Step × Outcome) × Session)
  | [] => .ok ([], s)
  | st :: sts => do
    let (o, _, s₁) ← s.step st
    let (tr, s') ← s₁.steps sts
    pure ((st, o) :: tr, s')

/-- Running steps in turn is a run of them. -/
theorem reaches_of_steps {sts : List Step} (h : s.steps sts = .ok (tr, s')) :
    Reaches s tr s' ∧ tr.map Prod.fst = sts
  := by
  induction sts generalizing s tr with
  | nil =>
    cases h
    exact ⟨.refl _, rfl⟩
  | cons st sts ih =>
    obtain ⟨⟨o, rs, s₁⟩, hs, h⟩ := except_bind_eq_ok.1 h
    obtain ⟨⟨tr₁, s₂⟩, hr, h⟩ := except_bind_eq_ok.1 h
    cases h
    obtain ⟨hreach, hmap⟩ := ih hr
    exact ⟨.step hs hreach, by rw [List.map_cons, hmap]⟩

/-- A claim notice put at noon on 1 March 2024 under the default settings creates the claim
queue; a publish of a task due at 13:00, a poll of its shard, a count of its family and a
sweep after it leave that queue as it was. -/
theorem pending_run_keeps_claim_queue :
    ∃ o rs s₁ tr s', (start Settings.default ⟨19783, 43200, 0⟩ 5000 false none).step
        (.putClaim ⟨"t1"⟩ 1 ⟨19783, 46800, 0⟩) = .ok (o, rs, s₁) ∧
      s₁.steps
        [.putPending ⟨⟨"t1"⟩, ⟨"p1", by decide⟩, ⟨"w1", by decide⟩, ⟨19783, 46800, 0⟩, .high⟩ 1,
          .pollPending ⟨⟨"p1", by decide⟩, ⟨"w1", by decide⟩⟩ .high 1,
          .count ⟨⟨"p1", by decide⟩, ⟨"w1", by decide⟩⟩, .sweepOnce] = .ok (tr, s') ∧
      (s₁.world.store.find? Settings.default.claimQueue).isSome ∧
      s'.world.store.find? Settings.default.claimQueue =
        s₁.world.store.find? Settings.default.claimQueue
  := by
  -- the claim step answers with the claim queue there, and the four steps after it answer
  have hok : (((start Settings.default ⟨19783, 43200, 0⟩ 5000 false none).step
      (.putClaim ⟨"t1"⟩ 1 ⟨19783, 46800, 0⟩)).toOption.any fun p =>
        (p.2.2.world.store.find? Settings.default.claimQueue).isSome &&
          (p.2.2.steps
            [.putPending ⟨⟨"t1"⟩, ⟨"p1", by decide⟩, ⟨"w1", by decide⟩, ⟨19783, 46800, 0⟩, .high⟩ 1,
              .pollPending ⟨⟨"p1", by decide⟩, ⟨"w1", by decide⟩⟩ .high 1,
              .count ⟨⟨"p1", by decide⟩, ⟨"w1", by decide⟩⟩, .sweepOnce]).isOk) = true := by
    decide +kernel
  generalize hsts : ([.putPending ⟨⟨"t1"⟩, ⟨"p1", by decide⟩, ⟨"w1", by decide⟩, ⟨19783, 46800, 0⟩,
      .high⟩ 1, .pollPending ⟨⟨"p1", by decide⟩, ⟨"w1", by decide⟩⟩ .high 1,
      .count ⟨⟨"p1", by decide⟩, ⟨"w1", by decide⟩⟩, .sweepOnce] : List Step) = sts at hok ⊢
  cases h₀ : (start Settings.default ⟨19783, 43200, 0⟩ 5000 false none).step
      (.putClaim ⟨"t1"⟩ 1 ⟨19783, 46800, 0⟩) with
  | error e =>
    rw [h₀] at hok
    cases hok
  | ok p =>
    obtain ⟨o, rs, s₁⟩ := p
    rw [h₀] at hok
    simp only [Except.toOption, Option.any_some, Bool.and_eq_true] at hok
    obtain ⟨hclaim, hrun⟩ := hok
    cases h : s₁.steps sts with
    | error e =>
      rw [h] at hrun
      cases hrun
    | ok q =>
      obtain ⟨tr, s'⟩ := q
      obtain ⟨hreach, hmap⟩ := reaches_of_steps h
      -- a fresh session remembers no family, and the claim step remembers none either
      have hw : s₁.world.FamiliesSound :=
        (step_steady h₀).familiesSound fun _ he => nomatch he
      have htr : ∀ x ∈ tr, x.1.throughShards = true := by
        intro x hx
        have hst : x.1 ∈ sts := hmap ▸ List.mem_map_of_mem hx
        rw [← hsts] at hst
        simp only [List.mem_cons, List.not_mem_nil, or_false] at hst
        rcases hst with h | h | h | h <;> rw [h] <;> rfl
      have hsettings : s₁.world.settings = Settings.default := (step_steady h₀).settings
      have huntouched := hreach.expiration_queues_untouched
        (hsettings ▸ Settings.default_validate) hw htr
      have hkept := huntouched.2.1 .claim
      rw [hsettings] at hkept
      exact ⟨o, rs, s₁, tr, s', rfl, h, hclaim, hkept⟩

end Session

end TaskQueue
