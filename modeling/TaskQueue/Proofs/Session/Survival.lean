import TaskQueue.Proofs.Service.Sparing
import TaskQueue.Proofs.Session.Steps

/-!
# Recently ensured families survive the sweep

An ensure of a pending queue family that misses the cache makes sure of each of the
family's seven queues, writing the clock as `last_used` where the metadata is not
23 hours fresh; a sweep deletes a queue only when its metadata does not read back or its
`last_used` is more than ten days before the sweep's instant.  So once an ensure that
missed the cache succeeded at the clock `t`, no sweep at an instant up to ten days less
23 hours after `t` deletes a queue of the family (`recently_ensured_family_survives_sweep`).
That holds over every run from a fresh session on the in-memory store, with failures
injected at will, whose steps write no metadata directly, and whose clock moves back neither
before the start nor, after the ensure, before `t`, and reads instants off any leap second,
of a year of four digits.

The run is cut in three: before the ensure, every queue of the family carries metadata
later than 23 hours before the start; the ensure's step logs the family ready, once its
queues were refreshed, so after it they carry metadata later than 23 hours before `t`; and
a sweep whose cutoff is at most that bound spares them (`Sweep.run_spares`).  Each part is
`World.Retains` carried step by step (`Session.Reaches.retains`).
-/

namespace TaskQueue

open Std.Do Time

set_option mvcgen.warning false

/-! ### What a step says of the clock and the store -/

/-- The instant a step moved the clock to, as its outcome answers it. -/
def Step.clockMove : Step × Outcome → Option Instant
  | (.advance _, .reply (.instant t)) => some t
  | (.setTime _, .reply (.instant t)) => some t
  | _ => none

/-- Whether a step writes metadata to the store directly. -/
def Step.writesRawMetadata : Step → Bool
  | .rawCreate .. => true
  | .rawSetMetadata .. => true
  | _ => false

/-- The instant a step sweeps at, the clock being `now`: the one a sweep names, or else the
clock; a tick of the loops sweeps at the clock when the sweeping loop is due. -/
def Step.sweepsAt (now : Instant) : Step → Option Instant
  | .sweep at_ => some (at_.getD now)
  | .sweepOnce => some now
  | .tick _ => some now
  | _ => none

/-! ### What every step keeps -/

namespace World.Retains

variable {F : Stamp.Frame} {w : World}

/-- Moving the clock to an instant the argument works with keeps what the computations
keep. -/
theorem move (h : w.Retains F) {t : Instant} (hc : Stamp.Clock F.bound t) :
  { w with now := t }.Retains F
  := ⟨h.settings, h.link, h.valid, hc, h.shards⟩

/-- A store that holds the same queues, as a failure rule added leaves it, keeps what the
computations keep. -/
theorem of_find? (h : w.Retains F) {s : Store} (hs : ∀ n, s.find? n = w.store.find? n) :
  { w with store := s }.Retains F
  := ⟨h.settings, h.link, h.valid, h.clock, fun n hn q hq => h.shards n hn q (by
    rw [← hs n]
    exact hq)⟩

/-- A direct call of the store that writes no metadata keeps what the computations keep. -/
theorem direct (h : w.Retains F) {β : Type}
    (inMemory : Store → Instant → Except Halt (Except Fault β × Store)) (c : Store.Call)
    (answer : β → Store.Answer)
    (hcall : c.perform w.store = Store.answering answer <$> inMemory w.store w.now)
    (hnone : c.writes? = none) {r : Except Fault β} {s : Store}
    (hm : inMemory w.store w.now = .ok (r, s)) :
  { w with store := s }.Retains F
  := h.call (by rw [hcall, hm]; rfl) fun _ _ hc => by rw [hnone] at hc; cases hc

/-- Before the family is logged ready `r` times, the metadata of its queues need only read
back: what the computations keep then holds for any bound the clock is 23 hours past. -/
theorem rebase (h : w.Retains F) {b : Int} (hc : Stamp.Clock b w.now) {r : Nat}
    (hr : w.logs.count (Pending.readyEvent F.family) < r) :
  w.Retains { F with bound := b, readies := r }
  := ⟨h.settings, h.link, h.valid, hc, fun n hn q hq => by
    obtain ⟨m, hm, hp, -⟩ := h.shards n hn q hq
    exact ⟨m, hm, hp, fun hle => absurd hle (Nat.not_le.2 hr)⟩⟩

/-- Once the family was logged ready `readies` times, its queues' metadata is later than the
bound for good, whatever is logged after. -/
theorem settle (h : w.Retains F) (hg : F.readies ≤ w.logs.count (Pending.readyEvent F.family)) :
  w.Retains { F with readies := 0 }
  := ⟨h.settings, h.link, h.valid, h.clock, fun _ hn _ hq =>
    (h.holds_of_le hg hn hq).mono fun _ => trivial⟩

/-- A sweep from the current store starts from what it keeps. -/
theorem spares (h : w.Retains F) (hg : F.readies ≤ w.logs.count (Pending.readyEvent F.family)) :
  w.Spares ⟨F, w.store⟩
  := ⟨h, hg, fun _ _ hs => hs⟩

end World.Retains

/-- An instant off any leap second, of a year of four digits, at least `b` nanoseconds after
the epoch is one the argument works with for the bound 23 hours before `b`. -/
theorem Stamp.Clock.of_le {b : Int} {t : Instant} (ht : t.Plain)
    (hy : 0 ≤ t.date.1 ∧ t.date.1 ≤ 9999) (h : b ≤ t.nanos) :
  Stamp.Clock (b - metadataRefreshAge.nanos) t
  := ⟨ht, hy, by omega⟩

/-- What a computation's triple promises holds after any of its runs that ends. -/
theorem Run.of_triple {α : Type} {P Q : World → Prop} {x : Run α} {w w' : World} {a : α}
    (hx : ⦃fun w => ⌜P w⌝⦄ x ⦃⇓? _ w => ⌜Q w⌝⦄) (hw : P w) (h : x.run w = .ok (a, w')) :
  Q w'
  := by
  have hwp := hx w hw
  rw [Run.wp_apply, h] at hwp
  exact hwp

/-- What an attempt's triple promises on both outcomes holds after any of its runs that
ends. -/
theorem Attempt.of_triple_both {α : Type} {P Q : World → Prop} {x : Attempt α} {w w' : World}
    {r : Except QueueError α}
    (hx : ⦃fun w => ⌜P w⌝⦄ x ⦃post⟨fun _ w => ⌜Q w⌝, fun _ w => ⌜Q w⌝, fun _ => ⌜True⌝⟩⦄)
    (hw : P w) (h : x.run.run w = .ok (r, w')) :
  Q w'
  := by
  have hend := Attempt.of_triple hx hw h
  cases r <;> exact hend

/-- Ending the spawned count refreshes keeps what the computations keep. -/
theorem World.Retains.finishSpawned {F : Stamp.Frame} {w : World} (hw : w.Retains F) :
    (Pending.finishSpawned.run w).2.Retains F
  := Pending.finishSpawned_preserves (·.Retains F)
    (fun k _ _ _ hw hrun => Attempt.of_triple_both (Pending.refreshCount_retains k) hw hrun)
    (fun _ _ _ hw => hw.log _ fun he =>
      absurd he (Pending.ne_readyEvent _ (by simp [Pending.refreshFailedEvent])))
    (fun _ _ hw => hw.frame rfl rfl rfl rfl rfl) hw

namespace Session

variable {α : Type} {F : Stamp.Frame} {s s' : Session}

section Composite

/-- A pending poll step ensures the family, then polls the queue of the priority. -/
theorem queuesThenPoll_retains (k : FamilyKey) (priority : Priority) (count : Nat) :
    ⦃fun w => ⌜w.Retains F⌝⦄
      (do
        let qs ← Pending.queues k
        Pending.poll k priority ((qs.lookup priority).getD "") count)
      ⦃post⟨fun _ w => ⌜w.Retains F⌝, fun _ w => ⌜w.Retains F⌝, fun _ => ⌜True⌝⟩⦄
  := by
  mvcgen [Pending.queues_retains, Pending.poll_retains, -Pending.queues_kept,
    -Pending.poll_kept]

/-- Stopping the service stops its loops and logs that it stopped. -/
theorem stopService_retains (b : Background) :
    ⦃fun w => ⌜w.Retains F⌝⦄
      (do
        let loops ← b.stop
        Run.log ⟨.info, Background.serviceTarget, "queue service stopped", []⟩
        pure loops)
      ⦃⇓? _ w => ⌜w.Retains F⌝⦄
  := by
  mvcgen [Background.stop_retains, Run.log_retains, -Background.stop_kept, -Run.log_kept]
  all_goals grind [Stamp.Ready, Pending.readyEvent]

/-- Loops started with the stop signal given only log that they stopped, or halt. -/
theorem stoppedLoops_retains :
    ⦃fun w => ⌜w.Retains F⌝⦄ Background.runStopped ⦃⇓? _ w => ⌜w.Retains F⌝⦄
  := by
  mvcgen [Background.runStopped, Run.log_retains, -Run.log_kept]
  all_goals grind [Stamp.Ready, Pending.readyEvent]

end Composite

section Triples

variable {P Q : World → Prop}

theorem of_attempt {x : Attempt α} {reply : α → Reply} {o : Outcome}
    (hx : ⦃fun w => ⌜P w⌝⦄ x ⦃post⟨fun _ w => ⌜Q w⌝, fun _ w => ⌜Q w⌝, fun _ => ⌜True⌝⟩⦄)
    (h : s.attempt x reply = .ok (o, s')) (hw : P s.world) :
  Q s'.world
  := by
  obtain ⟨r, hrun, -⟩ := attempt_eq_ok h
  exact Attempt.of_triple_both hx hw hrun

theorem of_exec {r : Run α} {a : α} (hx : ⦃fun w => ⌜P w⌝⦄ r ⦃⇓? _ w => ⌜Q w⌝⦄)
    (h : s.exec r = .ok (a, s')) (hw : P s.world) :
  Q s'.world
  := Run.of_triple hx hw (exec_eq_ok h).1

theorem of_exec_run {x : Attempt α} {r : Except QueueError α}
    (hx : ⦃fun w => ⌜P w⌝⦄ x ⦃post⟨fun _ w => ⌜Q w⌝, fun _ w => ⌜Q w⌝, fun _ => ⌜True⌝⟩⦄)
    (h : s.exec x.run = .ok (r, s')) (hw : P s.world) :
  Q s'.world
  := Attempt.of_triple_both hx hw (exec_eq_ok h).1

end Triples

/-- Every step that writes no metadata directly keeps what the computations keep, when the
clock it moves to is one the argument works with. -/
theorem perform_retains {st : Step} {o : Outcome} (h : s.perform st = .ok (o, s'))
    (hw : s.world.Retains F) (hraw : st.writesRawMetadata = false)
    (hclock : ∀ t ∈ Step.clockMove (st, o), Stamp.Clock F.bound t) :
  s'.world.Retains F
  := by
  cases st with
  | advance ms =>
    obtain ⟨t, -, h⟩ := Instant.plus_bind_eq_ok.1 h
    cases h
    exact hw.move (hclock t rfl)
  | setTime t =>
    cases h
    exact hw.move (hclock t rfl)
  | now =>
    cases h
    exact hw
  | ensureFamily k => exact of_attempt (Pending.ensureFamily_retains k) h hw
  | ensureQueue q p wt => exact of_attempt (Pending.ensureQueue_retains q p wt) h hw
  | putPending task runId => exact of_attempt (Pending.publish_retains task runId) h hw
  | pendingQueues k => exact of_attempt (Pending.queues_retains k) h hw
  | pollPending k priority count =>
    obtain ⟨⟨r, s₁⟩, hx, h⟩ := except_bind_eq_ok.1 h
    have hs : s'.world = s₁.world := by
      cases r <;> (cases h; rfl)
    rw [hs]
    exact of_exec_run (queuesThenPoll_retains k priority count) hx hw
  | count k =>
    obtain ⟨s₁, hx, rfl⟩ := perform_count_eq_ok h
    exact World.Retains.finishSpawned (of_attempt (Pending.count_retains k) hx hw)
  | resetCache =>
    obtain ⟨⟨_, s₁⟩, hx, h⟩ := except_bind_eq_ok.1 h
    cases h
    exact of_exec Run.resetFamilies_retains hx hw
  | sweep at_ => exact of_attempt (Sweep.run_retains _) h hw
  | putClaim taskId runId takenUntil =>
    exact of_attempt (Expiration.putClaim_retains taskId runId takenUntil) h hw
  | putDeadline taskId groupId schedulerId deadline =>
    exact of_attempt
      (Expiration.putDeadline_retains taskId groupId schedulerId deadline) h hw
  | putResolved taskId groupId schedulerId resolution =>
    exact of_attempt
      (Expiration.putResolved_retains taskId groupId schedulerId resolution) h hw
  | pollNotices kind =>
    obtain ⟨⟨r, s₁⟩, hx, h⟩ := except_bind_eq_ok.1 h
    have hs : s'.world = s₁.world := by
      cases r <;> (cases h; rfl)
    rw [hs]
    exact of_exec_run (Expiration.poll_retains kind) hx hw
  | remove hr =>
    simp only [perform] at h
    rcases withHandle_eq_ok h with rfl | ⟨n, held, h⟩
    · exact hw
    · exact of_attempt (Lease.remove_retains _) h hw
  | release hr =>
    simp only [perform] at h
    rcases withHandle_eq_ok h with rfl | ⟨n, held, h⟩
    · exact hw
    · cases held with
      | hint hint => exact of_attempt (Lease.release_retains _) h hw
      | notice _ =>
        cases h
        exact hw
  | describeHandle hr =>
    simp only [perform] at h
    rcases withHandle_eq_ok h with rfl | ⟨n, held, h⟩
    · exact hw
    · cases h
      exact hw
  | requestShutdown =>
    simp only [perform] at h
    split at h <;> cases h
    · exact hw
    · exact hw.frame rfl rfl rfl rfl rfl
  | startLoops =>
    simp only [perform] at h
    split at h
    · cases h
      exact hw
    · obtain ⟨⟨_, s₁⟩, hx, h⟩ := except_bind_eq_ok.1 h
      cases h
      exact (of_exec (Background.start_retains _) hx hw :)
  | stop =>
    simp only [perform] at h
    split at h
    · cases h
      exact hw
    · obtain ⟨⟨_, s₁⟩, hx, h⟩ := except_bind_eq_ok.1 h
      cases h
      -- the stop signal is given first, then the loops are stopped
      exact (of_exec (stopService_retains _) hx (hw.frame rfl rfl rfl rfl rfl) :)
  | tick ms =>
    simp only [perform] at h
    split at h
    · cases h
    · obtain ⟨⟨_, s₁⟩, hx, h⟩ := except_bind_eq_ok.1 h
      cases h
      exact (of_exec (Background.advance_retains _ ms) hx hw :)
  | dropService =>
    simp only [perform] at h
    split at h <;> cases h
    · exact hw
    · exact hw.frame rfl rfl rfl rfl rfl
  | sweepOnce => exact of_attempt (Sweep.run_retains _) h hw
  | loopsWithStopSignal =>
    obtain ⟨⟨_, s₁⟩, hx, h⟩ := except_bind_eq_ok.1 h
    cases h
    exact of_exec stoppedLoops_retains hx hw
  | failNext op queue times =>
    cases h
    exact hw.of_find? fun _ => rfl
  | opCounts =>
    cases h
    exact hw
  | queueNames =>
    cases h
    exact hw
  | queueExists q =>
    cases h
    exact hw
  | rawCreate q metadata => cases hraw
  | rawDeleteQueue q =>
    simp only [perform] at h
    obtain ⟨r, hm, hs⟩ := direct_eq_ok h
    rw [hs]
    exact hw.direct (fun st _ => st.deleteQueue q) (.deleteQueue q) _ rfl rfl hm
  | rawPut q text visibility ttl =>
    simp only [perform] at h
    obtain ⟨r, hm, hs⟩ := direct_eq_ok h
    rw [hs]
    exact hw.direct (fun st now => st.putMessage now q text visibility ttl)
      (.putMessage s.world.now q text visibility ttl) _ rfl rfl hm
  | rawGet q visibility maxCount =>
    obtain ⟨⟨o₁, s₁⟩, hx, h⟩ := except_bind_eq_ok.1 h
    simp only at h
    obtain ⟨r, hm, hs⟩ := direct_eq_ok hx
    have hs' : s'.world = s₁.world := by
      split at h <;> (cases h; rfl)
    rw [hs', hs]
    exact hw.direct (fun st now => st.getMessages now q visibility maxCount)
      (.getMessages s.world.now q visibility maxCount) _ rfl rfl hm
  | rawDeleteMessage q m =>
    simp only [perform] at h
    split at h
    · cases h
      exact hw
    · obtain ⟨r, hm, hs⟩ := direct_eq_ok h
      rw [hs]
      exact hw.direct (fun st now => st.deleteMessage now q _ _)
        (.deleteMessage s.world.now q _ _) _ rfl rfl hm
  | rawUpdate q m text visibility =>
    simp only [perform] at h
    split at h
    · cases h
      exact hw
    · obtain ⟨r, hm, hs⟩ := direct_eq_ok h
      rw [hs]
      exact hw.direct (fun st now => st.updateMessage now q text _ _ visibility)
        (.updateMessage s.world.now q text _ _ visibility) _ rfl rfl hm
  | rawGetMetadata q =>
    simp only [perform] at h
    obtain ⟨r, hm, hs⟩ := direct_eq_ok h
    rw [hs]
    exact hw.direct (fun st now => st.getMetadata now q) (.getMetadata s.world.now q) _ rfl rfl hm
  | rawSetMetadata q metadata => cases hraw
  | rawList stem marker withMetadata =>
    simp only [perform] at h
    obtain ⟨r, hm, hs⟩ := direct_eq_ok h
    rw [hs]
    exact hw.direct (fun st _ => st.listQueues stem marker withMetadata)
      (.listQueues stem marker withMetadata) _ rfl rfl hm

variable {st : Step} {o : Outcome} {rs : List QueueError}

/-- A step that writes no metadata directly keeps what the computations keep, when the
clock it moves to is one the argument works with; so does stopping the loops after it. -/
theorem step_retains (h : s.step st = .ok (o, rs, s')) (hw : s.world.Retains F)
    (hraw : st.writesRawMetadata = false)
    (hclock : ∀ t ∈ Step.clockMove (st, o), Stamp.Clock F.bound t) :
  s'.world.Retains F
  := by
  obtain ⟨s₁, hp, hs⟩ := step_eq_ok h
  have h₁ := perform_retains hp (hw.frame rfl rfl rfl rfl rfl) hraw hclock
  rcases hs with hs | ⟨loops, hrun⟩
  · rw [hs]
    exact h₁
  · exact Run.of_triple (Background.stop_retains _) h₁ hrun

/-- A run whose steps write no metadata directly, and move the clock only to instants the
argument works with, keeps what the computations keep. -/
theorem Reaches.retains {tr : List (Step × Outcome)} (h : Reaches s tr s')
    (hw : s.world.Retains F) (hraw : ∀ x ∈ tr, x.1.writesRawMetadata = false)
    (hclock : ∀ x ∈ tr, ∀ t ∈ Step.clockMove x, Stamp.Clock F.bound t) :
  s'.world.Retains F
  := by
  induction h with
  | refl => exact hw
  | step hst _ ih =>
    exact ih (step_retains hst hw (hraw _ List.mem_cons_self) (hclock _ List.mem_cons_self))
      (fun x hx => hraw x (List.mem_cons_of_mem _ hx))
      (fun x hx => hclock x (List.mem_cons_of_mem _ hx))

/-! ### The sweeping step -/

variable {G : Stamp.Sweep} {u : Instant}

/-- A step that sweeps at an instant off any leap second, at most ten days after the bound,
keeps what a sweep keeps. -/
theorem perform_spares (h : s.perform st = .ok (o, s')) (hw : s.world.Spares G)
    (hat : st.sweepsAt s.world.now = some u) (hu : u.Plain)
    (hb : u.nanos ≤ G.frame.bound + unusedMaxAge.nanos) :
  s'.world.Spares G
  := by
  cases st with
  | sweep at_ =>
    cases hat
    exact of_attempt (Sweep.run_spares hu hb) h hw
  | sweepOnce =>
    cases hat
    exact of_attempt (Sweep.run_spares hu hb) h hw
  | tick ms =>
    cases hat
    simp only [perform] at h
    split at h
    · cases h
    · obtain ⟨⟨_, s₁⟩, hx, h⟩ := except_bind_eq_ok.1 h
      cases h
      exact (of_exec (Background.advance_spares _ ms) hx ⟨hw, hb⟩ :)
  | _ => cases hat

theorem step_spares (h : s.step st = .ok (o, rs, s')) (hw : s.world.Spares G)
    (hat : st.sweepsAt s.world.now = some u) (hu : u.Plain)
    (hb : u.nanos ≤ G.frame.bound + unusedMaxAge.nanos) :
  s'.world.Spares G
  := by
  obtain ⟨s₁, hp, hs⟩ := step_eq_ok h
  have h₁ := perform_spares hp (hw.frame rfl rfl rfl rfl rfl) hat hu hb
  rcases hs with hs | ⟨loops, hrun⟩
  · rw [hs]
    exact h₁
  · exact Run.of_triple (Background.stop_spares _) h₁ hrun

/-! ### Recently ensured families survive the sweep -/

/-- Once an ensure of the family `k` that missed the cache succeeded at the clock `t`, no
sweep at an instant up to ten days less 23 hours after `t` deletes a queue of the family.

That holds over every run from a fresh session on the in-memory store whose steps write no
metadata directly, whose clock reads instants off any leap second of a year of four digits,
and, after the ensure, moves back before `t` no more.  The ensure is the step from `s₁` that
logs the family ready once more, as an ensure that missed the cache and succeeded does;
`t` is the clock of `s₁`. -/
theorem recently_ensured_family_survives_sweep {σ : Settings} (hσ : σ.validate = .ok ())
    {now₀ : Instant} {pageSize : Nat} {virtualTime : Bool} {k : FamilyKey}
    {tr₁ tr₂ : List (Step × Outcome)} {s₁ s₂ s₃ s₄ : Session} {sw : Step} {o' : Outcome}
    {rs' : List QueueError}
    (h₁ : Reaches (start σ now₀ pageSize virtualTime none) tr₁ s₁)
    (hst : s₁.step st = .ok (o, rs, s₂))
    (hready : s₁.world.logs.count (Pending.readyEvent k) <
      s₂.world.logs.count (Pending.readyEvent k))
    (h₂ : Reaches s₂ tr₂ s₃) (hsw : s₃.step sw = .ok (o', rs', s₄))
    (hat : sw.sweepsAt s₃.world.now = some u) (hu : u.Plain)
    (hlate : u.nanos + metadataRefreshAge.nanos ≤ s₁.world.now.nanos + unusedMaxAge.nanos)
    (hraw : ∀ x ∈ tr₁ ++ (st, o) :: tr₂, x.1.writesRawMetadata = false)
    (hnow₀ : now₀.Plain ∧ 0 ≤ now₀.date.1 ∧ now₀.date.1 ≤ 9999)
    (hread : ∀ x ∈ tr₁ ++ (st, o) :: tr₂, ∀ t ∈ Step.clockMove x,
      t.Plain ∧ 0 ≤ t.date.1 ∧ t.date.1 ≤ 9999)
    (hback : ∀ x ∈ (st, o) :: tr₂, ∀ t ∈ Step.clockMove x, s₁.world.now ≤ t) :
  ∀ n ∈ familyNames σ.stem k.provisionerId k.workerType,
    (s₃.world.store.find? n).isSome → (s₄.world.store.find? n).isSome
  := by
  have hclock : ∀ x ∈ tr₁ ++ (st, o) :: tr₂, ∀ t ∈ Step.clockMove x, ∀ b ≤ t.nanos,
      Stamp.Clock (b - metadataRefreshAge.nanos) t := fun x hx t ht _ hb =>
    Stamp.Clock.of_le (hread x hx t ht).1 (hread x hx t ht).2 hb
  -- before the ensure, any bound below every instant the clock reads will do
  obtain ⟨b, hb⟩ := (insert now₀.nanos
    ((tr₁.filterMap Step.clockMove).map Instant.nanos).toFinset).bddBelow
  have hb₀ : b ≤ now₀.nanos := hb (Finset.mem_insert_self _ _)
  have hb₁ : ∀ x ∈ tr₁, ∀ t ∈ Step.clockMove x, b ≤ t.nanos := fun x hx t ht =>
    hb (Finset.mem_insert_of_mem (List.mem_toFinset.2
      (List.mem_map.2 ⟨t, List.mem_filterMap.2 ⟨x, hx, ht⟩, rfl⟩)))
  let F₀ : Stamp.Frame := ⟨σ, k, b - metadataRefreshAge.nanos, 0⟩
  have hw₀ : (start σ now₀ pageSize virtualTime none).world.Retains F₀ :=
    ⟨rfl, rfl, hσ, Stamp.Clock.of_le hnow₀.1 hnow₀.2 hb₀, fun _ _ _ hq => nomatch hq⟩
  have hw₁ : s₁.world.Retains F₀ := h₁.retains hw₀
    (fun x hx => hraw x (List.mem_append_left _ hx))
    (fun x hx t ht => hclock x (List.mem_append_left _ hx) t ht b (hb₁ x hx t ht))
  -- from the ensure on, the bound is 23 hours before its clock
  have ht := hw₁.clock
  have hc₂ : ∀ x ∈ (st, o) :: tr₂, ∀ t ∈ Step.clockMove x,
      Stamp.Clock (s₁.world.now.nanos - metadataRefreshAge.nanos) t := fun x hx t ht' =>
    hclock x (List.mem_append_right _ hx) t ht' _
      ((ht.plain.le_iff (hread x (List.mem_append_right _ hx) t ht').1).1 (hback x hx t ht'))
  -- the ensure logs the family ready once more, after its queues were refreshed
  have hw₂ := step_retains hst
    (hw₁.rebase (Stamp.Clock.of_le ht.plain ht.year le_rfl) (Nat.lt_succ_self _))
    (hraw _ (List.mem_append_right _ List.mem_cons_self)) (hc₂ _ List.mem_cons_self)
  have hw₃ := h₂.retains (hw₂.settle hready)
    (fun x hx => hraw x (List.mem_append_right _ (List.mem_cons_of_mem _ hx)))
    (fun x hx => hc₂ x (List.mem_cons_of_mem _ hx))
  have hsp := step_spares hsw (hw₃.spares (Nat.zero_le _)) hat hu (by
    show u.nanos ≤ s₁.world.now.nanos - metadataRefreshAge.nanos + unusedMaxAge.nanos
    omega)
  exact fun n hn => hsp.held n hn

/-- An ensure at the epoch, then a sweep at the epoch. -/
theorem ensured_family_survives_sweep_at_epoch :
  ∃ o o' rs rs' s₁ s₂,
    (start Settings.default .epoch 1 false none).step
      (.ensureFamily ⟨⟨"p1", by decide⟩, ⟨"w1", by decide⟩⟩) = .ok (o, rs, s₁) ∧
    (start Settings.default .epoch 1 false none).world.logs.count
        (Pending.readyEvent ⟨⟨"p1", by decide⟩, ⟨"w1", by decide⟩⟩) <
      s₁.world.logs.count (Pending.readyEvent ⟨⟨"p1", by decide⟩, ⟨"w1", by decide⟩⟩) ∧
    s₁.step .sweepOnce = .ok (o', rs', s₂) ∧
    ∀ n ∈ familyNames "pq" ⟨"p1", by decide⟩ ⟨"w1", by decide⟩,
      (s₁.world.store.find? n).isSome → (s₂.world.store.find? n).isSome
  := by
  have hrun : (match (start Settings.default .epoch 1 false none).step
      (.ensureFamily ⟨⟨"p1", by decide⟩, ⟨"w1", by decide⟩⟩) with
    | .ok (_, _, s₁) =>
      decide (0 < s₁.world.logs.count (Pending.readyEvent ⟨⟨"p1", by decide⟩, ⟨"w1", by decide⟩⟩))
        && decide (s₁.world.now = .epoch) && (s₁.step .sweepOnce).isOk
    | .error _ => false) = true := by decide +kernel
  split at hrun
  · next o rs s₁ h₁ =>
    simp only [Bool.and_eq_true, decide_eq_true_eq] at hrun
    obtain ⟨⟨hready, hnow⟩, hsw⟩ := hrun
    cases h₂ : s₁.step .sweepOnce with
    | error => rw [h₂] at hsw; cases hsw
    | ok r =>
      obtain ⟨o', rs', s₂⟩ := r
      have hepoch : Instant.epoch.Plain :=
        ⟨⟨by decide, by decide, by decide, by decide⟩, by decide⟩
      have hu : s₁.world.now.Plain := hnow ▸ hepoch
      have hlate : s₁.world.now.nanos + metadataRefreshAge.nanos ≤
          (start Settings.default .epoch 1 false none).world.now.nanos + unusedMaxAge.nanos := by
        rw [hnow]
        decide
      refine ⟨o, o', rs, rs', s₁, s₂, h₁, hready, h₂, ?_⟩
      exact recently_ensured_family_survives_sweep (σ := Settings.default)
        (k := ⟨⟨"p1", by decide⟩, ⟨"w1", by decide⟩⟩) Settings.default_validate (.refl _) h₁
        hready (.refl _) h₂ rfl hu hlate (by simp [Step.writesRawMetadata])
        ⟨hepoch, by decide, by decide⟩ (by simp [Step.clockMove]) (by simp [Step.clockMove])
  · cases hrun

/-- At the first instant of the year 10000 an ensure writes a `last_used` of five year
digits, which does not read back: a sweep at that very instant finds the seven queues the
ensure just made sure of stale, and deletes them all. -/
theorem ensured_family_swept_in_year_ten_thousand :
  ∃ o o' rs rs' s₁ s₂,
    (start Settings.default ⟨daysFromCivil 10000 1 1, 0, 0⟩ 1 false none).step
      (.ensureFamily ⟨⟨"p1", by decide⟩, ⟨"w1", by decide⟩⟩) = .ok (o, rs, s₁) ∧
    s₁.world.logs.count (Pending.readyEvent ⟨⟨"p1", by decide⟩, ⟨"w1", by decide⟩⟩) = 1 ∧
    s₁.step .sweepOnce = .ok (o', rs', s₂) ∧
    ∀ n ∈ familyNames "pq" ⟨"p1", by decide⟩ ⟨"w1", by decide⟩,
      (s₁.world.store.find? n).isSome ∧ s₂.world.store.find? n = none
  := by
  have hrun : (match (start Settings.default ⟨daysFromCivil 10000 1 1, 0, 0⟩ 1 false none).step
      (.ensureFamily ⟨⟨"p1", by decide⟩, ⟨"w1", by decide⟩⟩) with
    | .ok (_, _, s₁) =>
      decide (s₁.world.logs.count
          (Pending.readyEvent ⟨⟨"p1", by decide⟩, ⟨"w1", by decide⟩⟩) = 1) &&
        match s₁.step .sweepOnce with
        | .ok (_, _, s₂) => (familyNames "pq" ⟨"p1", by decide⟩ ⟨"w1", by decide⟩).all fun n =>
          (s₁.world.store.find? n).isSome && (s₂.world.store.find? n).isNone
        | .error _ => false
    | .error _ => false) = true := by decide +kernel
  split at hrun
  · next o rs s₁ h₁ =>
    rw [Bool.and_eq_true, decide_eq_true_eq] at hrun
    obtain ⟨hready, hsw⟩ := hrun
    split at hsw
    · next o' rs' s₂ h₂ =>
      refine ⟨o, o', rs, rs', s₁, s₂, h₁, hready, h₂, fun n hn => ?_⟩
      simpa using List.all_eq_true.1 hsw n hn
    · cases hsw
  · cases hrun

end Session

end TaskQueue
