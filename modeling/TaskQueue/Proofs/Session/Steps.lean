import TaskQueue.Proofs.Service.Kept

/-!
# What a step of a session does to the service's memory

A session performs steps one after another; each answers an outcome and leaves a new
session, or halts.  This module says once, for every kind of step, what a step may do to
the parts of the world that the service remembers between steps (`World.Steady`):

* the settings and where the calls go stay as they were;
* a family the step remembers is one of the families remembered before, or has the
  family's own queue names under the stem;
* an expiration kind enters the ready list only in a put or poll of that kind
  (`Step.kind?`), and only once a create of the kind's queue answered that the queue was
  created or existed;
* the ready list changes in no other step.

It also says what a failed put or poll leaves: one that failed because its queue was
missing leaves its kind out of the ready list (`Session.step_evicts`), so that the next put
or poll of the kind creates the queue again.

The statements are read off the frame `Kept` that each computation of the service keeps,
through the bridge from triples to runs (`Attempt.kept_of_triple`).
-/

namespace TaskQueue

open Std.Do Time

set_option mvcgen.warning false

/-! ### A failed put or poll of an expiration kind -/

section Evicts

variable {t : ExpirationKind → Prop} {N : String → Prop} (w₀ : World) {kind : ExpirationKind}

/-- An ensure that fails leaves the kind out of the ready list. -/
theorem Expiration.ensureReady_absent (ht : ¬ t kind)
    (hN : N (w₀.settings.expirationQueue kind)) :
    ⦃fun w => ⌜Kept t N w₀ w⌝⦄ Expiration.ensureReady kind
      ⦃post⟨fun _ w => ⌜w.settings = w₀.settings⌝, fun _ w => ⌜kind ∉ w.ready⌝,
        fun _ => ⌜True⌝⟩⦄
  := by
  mvcgen [Expiration.ensureReady, Run.reportNoted, -Expiration.ensureReady_kept]
  -- the kind was not ready when the ensure went on, and nothing after adds it
  all_goals grind [Kept.trans, Kept.refl, → Kept.settings, Kept.ready]

/-- A put that fails because its queue is missing leaves its kind out of the ready list. -/
theorem Expiration.put_evicts (ht : ¬ t kind) (hN : N (w₀.settings.expirationQueue kind))
    (notice : Json) (visibility : Nat) :
    ⦃fun w => ⌜Kept t N w₀ w⌝⦄ Expiration.put kind notice visibility
      ⦃post⟨fun _ _ => ⌜True⌝, fun e w => ⌜e.kind = .queueNotFound → kind ∉ w.ready⌝,
        fun _ => ⌜True⌝⟩⦄
  := by
  mvcgen [Expiration.put, -Expiration.put_kept, Expiration.evict, -Expiration.evict_kept,
    -Expiration.ensureReady_kept, Expiration.ensureReady_absent]
  all_goals grind [Kept.trans, Kept.refl, → Kept.settings]

/-- A poll that fails because its queue is missing leaves its kind out of the ready list. -/
theorem Expiration.poll_evicts (ht : ¬ t kind) (hN : N (w₀.settings.expirationQueue kind)) :
    ⦃fun w => ⌜Kept t N w₀ w⌝⦄ Expiration.poll kind
      ⦃post⟨fun _ _ => ⌜True⌝, fun e w => ⌜e.kind = .queueNotFound → kind ∉ w.ready⌝,
        fun _ => ⌜True⌝⟩⦄
  := by
  mvcgen [Expiration.poll, -Expiration.poll_kept, Expiration.evict, -Expiration.evict_kept,
    -Expiration.ensureReady_kept, Expiration.ensureReady_absent]
  all_goals grind [Kept.trans, Kept.refl, → Kept.settings]

end Evicts

/-- A claim notice is put with the delay until `takenUntil`. -/
theorem Expiration.putClaim_run (taskId : TaskId) (runId : UInt32) (takenUntil : Instant)
    (w : World) :
    (Expiration.putClaim taskId runId takenUntil).run.run w =
      (Expiration.put .claim (ClaimNotice.toJson ⟨taskId, runId, takenUntil⟩)
        (delaySecs takenUntil w.now)).run.run w
  := by
  simp [Expiration.putClaim, ExceptT.run_bind, Run.now]

/-- A deadline notice is put with the delay until the deadline and then the configured
delay, both capped. -/
theorem Expiration.putDeadline_run (taskId : TaskId) (groupId schedulerId : String)
    (deadline : Instant) (w : World) :
    (Expiration.putDeadline taskId groupId schedulerId deadline).run.run w =
      (Expiration.put .deadline (DeadlineNotice.toJson ⟨taskId, groupId, schedulerId, deadline⟩)
        (min Expiration.delayCap (delaySecs deadline w.now +
          min Expiration.delayCap ((w.settings.deadlineDelay.millis + 999) / 1000)))).run.run w
  := by
  simp [Expiration.putDeadline, ExceptT.run_bind]

/-! ### The kind of a step -/

/-- The expiration kind a step puts or polls, if it is such a step. -/
def Step.kind? : Step → Option ExpirationKind
  | .putClaim .. => some .claim
  | .putDeadline .. => some .deadline
  | .putResolved .. => some .resolved
  | .pollNotices kind => some kind
  | _ => none

/-! ### What every step keeps -/

/-- What a step keeps of the world, when the ready kinds it may change are `kinds`: the
settings and the link; the ready list, but for those kinds, and a kind enters it only
once its queue's create answered; and every family it remembers anew has the family's
own names. -/
structure World.Steady (kinds : ExpirationKind → Prop) (w w' : World) : Prop where
  settings : w'.settings = w.settings
  link : w'.link = w.link
  ready : ∀ k, ¬ kinds k → (k ∈ w'.ready ↔ k ∈ w.ready)
  created : w.link = .store → ∀ k ∈ w'.ready, k ∉ w.ready →
    Store.Created (w.settings.expirationQueue k) w.store w'.store
  families : ∀ e ∈ w'.families, e ∈ w.families ∨
    e.2 = familyNames w.settings.stem e.1.provisionerId e.1.workerType

/-- Every family the world remembers has the family's own queue names under the stem. -/
def World.FamiliesSound (w : World) : Prop :=
  ∀ e ∈ w.families, e.2 = familyNames w.settings.stem e.1.provisionerId e.1.workerType

namespace World.Steady

variable {t : ExpirationKind → Prop} {N : String → Prop} {w w₁ w' : World}

/-- A step that leaves the ready list and the ensured families as they were. -/
theorem of_same (hs : w'.settings = w.settings) (hl : w'.link = w.link)
    (hr : w'.ready = w.ready) (hf : w'.families = w.families) : Steady t w w'
  := ⟨hs, hl, fun _ _ => by rw [hr], fun _ _ hk hk₀ => absurd (hr ▸ hk) hk₀,
    fun _ he => .inl (hf ▸ he)⟩

theorem of_kept (h : Kept t N w w') : Steady t w w'
  := ⟨h.settings, h.link, h.ready, h.created, h.families⟩

/-- A computation of the service run once the stop signal was given. -/
theorem of_kept_signal {g : Signal} (h : Kept t N { w with signal := g } w') : Steady t w w'
  := ⟨h.settings, h.link, h.ready, h.created, h.families⟩

/-- A steady step keeps every remembered family's names the family's own. -/
theorem familiesSound (h : Steady t w w') (hw : w.FamiliesSound) : w'.FamiliesSound
  := by
  intro e he
  rw [h.settings]
  rcases h.families e he with he | he
  · exact hw e he
  · exact he

/-- What a step keeps does not depend on the reports it starts from. -/
theorem of_reports {r : List QueueError} (h : Steady t { w with reports := r } w') :
    Steady t w w'
  := ⟨h.settings, h.link, h.ready, h.created, h.families⟩

/-- A step followed by a computation that leaves the ready list alone. -/
theorem kept (h : Steady t w w₁) (h' : Kept (fun _ => False) N w₁ w') : Steady t w w'
  := by
  refine ⟨h'.settings.trans h.settings, h'.link.trans h.link,
    fun k hk => (h'.ready k id).trans (h.ready k hk), fun hlink k hk hk₀ => ?_, fun e he => ?_⟩
  · obtain ⟨es, hes⟩ := h'.run
    have hk₁ : k ∈ w₁.ready := (h'.ready k id).1 hk
    exact (h.created hlink k hk₁ hk₀).run_after hes
  · rcases h'.families e he with he | he
    · exact h.families e he
    · exact .inr (by rw [he, h.settings])

end World.Steady

/-! ### Taking a session's steps apart -/

namespace Session

variable {α : Type} {s s' : Session}

theorem except_bind_eq_ok {ε β γ : Type} {x : Except ε β} {f : β → Except ε γ} {c : γ} :
    (x >>= f) = .ok c ↔ ∃ b, x = .ok b ∧ f b = .ok c
  := by
  cases x <;> simp [bind, Except.bind]

theorem exec_eq_ok {r : Run α} {a : α} (h : s.exec r = .ok (a, s')) :
    r.run s.world = .ok (a, s'.world) ∧ s' = { s with world := s'.world }
  := by
  unfold exec at h
  split at h
  · cases h
    exact ⟨by assumption, rfl⟩
  · cases h

/-- An attempt answers its result as a reply, or its error as a failure. -/
theorem attempt_eq_ok {x : Attempt α} {reply : α → Reply} {o : Outcome}
    (h : s.attempt x reply = .ok (o, s')) :
    ∃ r, x.run.run s.world = .ok (r, s'.world) ∧ s' = { s with world := s'.world } ∧
      o = match r with
        | .ok a => .reply (reply a)
        | .error e => .failed e
  := by
  unfold attempt at h
  obtain ⟨⟨r, s₁⟩, hx, h⟩ := except_bind_eq_ok.1 h
  obtain ⟨hrun, hs₁⟩ := exec_eq_ok hx
  cases r <;> (cases h; exact ⟨_, hrun, hs₁, rfl⟩)

theorem direct_eq_ok {β : Type} {call : Store → Instant → Except Halt (Except Fault β × Store)}
    {reply : β → Reply} {o : Outcome} (h : s.direct call reply = .ok (o, s')) :
    ∃ r, call s.world.store s.world.now = .ok (r, s'.world.store) ∧
      s' = { s with world := { s.world with store := s'.world.store } }
  := by
  unfold direct at h
  obtain ⟨⟨r, st⟩, hc, h⟩ := except_bind_eq_ok.1 h
  cases r <;> (cases h; exact ⟨_, hc, rfl⟩)

/-- A count step counts, then ends the refreshes the count spawned. -/
theorem perform_count_eq_ok {k : FamilyKey} {o : Outcome}
    (h : s.perform (.count k) = .ok (o, s')) :
    ∃ s₁, s.attempt (Pending.count k) .number = .ok (o, s₁) ∧
      s' = { s₁ with world := (Pending.finishSpawned.run s₁.world).2 }
  := by
  simp only [perform] at h
  obtain ⟨⟨o₁, s₁⟩, hx, h⟩ := except_bind_eq_ok.1 h
  cases h
  exact ⟨s₁, hx, rfl⟩

/-- A step on a handle uses it, or is refused and changes nothing. -/
theorem withHandle_eq_ok {h : HandleRef}
    {use : Session → Nat → Held → Except Halt (Outcome × Session)} {o : Outcome}
    (hw : s.withHandle h use = .ok (o, s')) :
    s' = s ∨ ∃ n held, use s n held = .ok (o, s')
  := by
  unfold withHandle at hw
  split at hw
  · cases hw
    exact .inl rfl
  · split at hw
    · exact .inr ⟨_, _, hw⟩
    · cases hw
      exact .inl rfl

end Session

/-! ### Every step is steady -/

namespace Session

variable {α : Type} {s s' : Session} {t : ExpirationKind → Prop}

section Composite

variable {N : String → Prop} (w₀ : World)

/-- A pending poll step ensures the family, then polls the queue of the priority. -/
theorem queuesThenPoll_kept (hN : ∀ n, N n) (k : FamilyKey) (priority : Priority)
    (count : Nat) :
    ⦃fun w => ⌜Kept t N w₀ w⌝⦄
      (do
        let qs ← Pending.queues k
        Pending.poll k priority ((qs.lookup priority).getD "") count)
      ⦃post⟨fun _ w => ⌜Kept t N w₀ w⌝, fun _ w => ⌜Kept t N w₀ w⌝, fun _ => ⌜True⌝⟩⦄
  := by
  mvcgen
  all_goals grind [Kept.trans, Kept.refl]

/-- Stopping the service stops its loops and logs that it stopped. -/
theorem stopService_kept (b : Background) :
    ⦃fun w => ⌜Kept t N w₀ w⌝⦄
      (do
        let loops ← b.stop
        Run.log ⟨.info, Background.serviceTarget, "queue service stopped", []⟩
        pure loops)
      ⦃⇓? _ w => ⌜Kept t N w₀ w⌝⦄
  := by
  mvcgen
  all_goals grind [Kept.trans, Kept.refl]

/-- Loops started with the stop signal given only log that they stopped, or halt. -/
theorem stoppedLoops_kept :
    ⦃fun w => ⌜Kept t N w₀ w⌝⦄ Background.runStopped ⦃⇓? _ w => ⌜Kept t N w₀ w⌝⦄
  := by
  mvcgen [Background.runStopped]
  all_goals grind [Kept.trans, Kept.refl]

end Composite

theorem steady_of_exec_run {x : Attempt α} {r : Except QueueError α}
    (hx : ∀ w₀ : World, ⦃fun w => ⌜Kept t (fun _ => True) w₀ w⌝⦄ x
      ⦃post⟨fun _ w => ⌜Kept t (fun _ => True) w₀ w⌝,
        fun _ w => ⌜Kept t (fun _ => True) w₀ w⌝, fun _ => ⌜True⌝⟩⦄)
    (h : s.exec x.run = .ok (r, s')) : s.world.Steady t s'.world
  := by
  obtain ⟨hrun, -⟩ := exec_eq_ok h
  exact .of_kept (Attempt.kept_of_triple s.world (hx s.world) (.refl _) hrun)

theorem steady_of_attempt {x : Attempt α} {reply : α → Reply} {o : Outcome}
    (hx : ∀ w₀ : World, ⦃fun w => ⌜Kept t (fun _ => True) w₀ w⌝⦄ x
      ⦃post⟨fun _ w => ⌜Kept t (fun _ => True) w₀ w⌝,
        fun _ w => ⌜Kept t (fun _ => True) w₀ w⌝, fun _ => ⌜True⌝⟩⦄)
    (h : s.attempt x reply = .ok (o, s')) : s.world.Steady t s'.world
  := by
  obtain ⟨r, hrun, -⟩ := attempt_eq_ok h
  exact .of_kept (Attempt.kept_of_triple s.world (hx s.world) (.refl _) hrun)

theorem steady_of_exec {r : Run α} {a : α}
    (hx : ∀ w₀ : World, ⦃fun w => ⌜Kept t (fun _ => True) w₀ w⌝⦄ r
      ⦃⇓? _ w => ⌜Kept t (fun _ => True) w₀ w⌝⦄)
    (h : s.exec r = .ok (a, s')) : s.world.Steady t s'.world
  := by
  obtain ⟨hrun, -⟩ := exec_eq_ok h
  exact .of_kept (Run.kept_of_triple s.world (hx s.world) (.refl _) hrun)

/-- Every step keeps the steady frame, the ready list changing only for the step's own
kind. -/
theorem perform_steady {st : Step} {o : Outcome} (h : s.perform st = .ok (o, s')) :
    s.world.Steady (st.kind? = some ·) s'.world
  := by
  cases st with
  | advance ms =>
    obtain ⟨t, -, h⟩ := Instant.plus_bind_eq_ok.1 h
    cases h
    exact .of_same rfl rfl rfl rfl
  | setTime t =>
    cases h
    exact .of_same rfl rfl rfl rfl
  | now =>
    cases h
    exact .of_same rfl rfl rfl rfl
  | ensureFamily k =>
    exact steady_of_attempt (fun w₀ => Pending.ensureFamily_kept w₀ (fun _ => trivial) k) h
  | ensureQueue q p wt =>
    exact steady_of_attempt (fun w₀ => Pending.ensureQueue_kept w₀ trivial p wt) h
  | putPending task runId =>
    exact steady_of_attempt (fun w₀ => Pending.publish_kept w₀ (fun _ => trivial) task runId) h
  | pendingQueues k =>
    exact steady_of_attempt (fun w₀ => Pending.queues_kept w₀ (fun _ => trivial) k) h
  | pollPending k priority count =>
    obtain ⟨⟨r, s₁⟩, hx, h⟩ := except_bind_eq_ok.1 h
    have hw : s'.world = s₁.world := by
      cases r <;> (cases h; rfl)
    rw [hw]
    exact steady_of_exec_run
      (fun w₀ => queuesThenPoll_kept w₀ (fun _ => trivial) k priority count) hx
  | count k =>
    obtain ⟨s₁, hx, rfl⟩ := perform_count_eq_ok h
    exact (steady_of_attempt (fun w₀ => Pending.count_kept w₀ (fun _ => trivial) k) hx).kept
      (Pending.finishSpawned_kept s₁.world (fun _ => trivial) (.refl _))
  | resetCache =>
    obtain ⟨⟨_, s₁⟩, hx, h⟩ := except_bind_eq_ok.1 h
    cases h
    exact steady_of_exec (fun w₀ => Run.resetFamilies_kept w₀) hx
  | sweep at_ =>
    exact steady_of_attempt (fun w₀ => Sweep.run_kept w₀ (fun _ _ => trivial) _) h
  | putClaim taskId runId takenUntil =>
    exact steady_of_attempt
      (fun w₀ => Expiration.putClaim_kept w₀ (by exact rfl) trivial taskId runId takenUntil) h
  | putDeadline taskId groupId schedulerId deadline =>
    exact steady_of_attempt
      (fun w₀ => Expiration.putDeadline_kept w₀ (by exact rfl) trivial taskId groupId schedulerId
        deadline) h
  | putResolved taskId groupId schedulerId resolution =>
    exact steady_of_attempt
      (fun w₀ => Expiration.putResolved_kept w₀ (by exact rfl) trivial taskId groupId schedulerId
        resolution) h
  | pollNotices kind =>
    obtain ⟨⟨r, s₁⟩, hx, h⟩ := except_bind_eq_ok.1 h
    have hw : s'.world = s₁.world := by
      cases r <;> (cases h; rfl)
    rw [hw]
    exact steady_of_exec_run (fun w₀ => Expiration.poll_kept w₀ (by exact rfl) trivial) hx
  | remove hr =>
    simp only [perform] at h
    rcases withHandle_eq_ok h with rfl | ⟨n, held, h⟩
    · exact .of_same rfl rfl rfl rfl
    · exact (steady_of_attempt (fun w₀ => Lease.remove_kept w₀ trivial) h :)
  | release hr =>
    simp only [perform] at h
    rcases withHandle_eq_ok h with rfl | ⟨n, held, h⟩
    · exact .of_same rfl rfl rfl rfl
    · cases held with
      | hint hint => exact (steady_of_attempt (fun w₀ => Lease.release_kept w₀ trivial) h :)
      | notice _ =>
        cases h
        exact .of_same rfl rfl rfl rfl
  | describeHandle hr =>
    simp only [perform] at h
    rcases withHandle_eq_ok h with rfl | ⟨n, held, h⟩
    · exact .of_same rfl rfl rfl rfl
    · cases h
      exact .of_same rfl rfl rfl rfl
  | requestShutdown =>
    simp only [perform] at h
    split at h <;> (cases h; exact .of_same rfl rfl rfl rfl)
  | startLoops =>
    simp only [perform] at h
    split at h
    · cases h
      exact .of_same rfl rfl rfl rfl
    · obtain ⟨⟨_, s₁⟩, hx, h⟩ := except_bind_eq_ok.1 h
      cases h
      exact (steady_of_exec (fun w₀ => Background.start_kept w₀ _) hx :)
  | stop =>
    simp only [perform] at h
    split at h
    · cases h
      exact .of_same rfl rfl rfl rfl
    · obtain ⟨⟨_, s₁⟩, hx, h⟩ := except_bind_eq_ok.1 h
      cases h
      -- the stop signal is given first, then the loops are stopped
      obtain ⟨hrun, -⟩ := exec_eq_ok hx
      exact .of_kept_signal (Run.kept_of_triple (N := fun _ => True) _ (stopService_kept _ _)
        (.refl _) hrun)
  | tick ms =>
    simp only [perform] at h
    split at h
    · cases h
    · obtain ⟨⟨_, s₁⟩, hx, h⟩ := except_bind_eq_ok.1 h
      cases h
      exact (steady_of_exec (fun w₀ => Background.advance_kept w₀ (fun _ _ => trivial) _ ms) hx :)
  | dropService =>
    simp only [perform] at h
    split at h <;> (cases h; exact .of_same rfl rfl rfl rfl)
  | sweepOnce =>
    exact steady_of_attempt (fun w₀ => Sweep.run_kept w₀ (fun _ _ => trivial) _) h
  | loopsWithStopSignal =>
    obtain ⟨⟨_, s₁⟩, hx, h⟩ := except_bind_eq_ok.1 h
    cases h
    exact steady_of_exec (fun w₀ => stoppedLoops_kept w₀) hx
  | failNext op queue times =>
    cases h
    exact .of_same rfl rfl rfl rfl
  | opCounts =>
    cases h
    exact .of_same rfl rfl rfl rfl
  | queueNames =>
    cases h
    exact .of_same rfl rfl rfl rfl
  | queueExists q =>
    cases h
    exact .of_same rfl rfl rfl rfl
  | rawCreate q metadata =>
    simp only [perform] at h
    obtain ⟨r, -, hs⟩ := direct_eq_ok h
    rw [hs]
    exact .of_same rfl rfl rfl rfl
  | rawDeleteQueue q =>
    simp only [perform] at h
    obtain ⟨r, -, hs⟩ := direct_eq_ok h
    rw [hs]
    exact .of_same rfl rfl rfl rfl
  | rawPut q text visibility ttl =>
    simp only [perform] at h
    obtain ⟨r, -, hs⟩ := direct_eq_ok h
    rw [hs]
    exact .of_same rfl rfl rfl rfl
  | rawGet q visibility maxCount =>
    obtain ⟨⟨o₁, s₁⟩, hx, h⟩ := except_bind_eq_ok.1 h
    simp only at h
    obtain ⟨r, -, hs⟩ := direct_eq_ok hx
    have hw : s'.world = s₁.world := by
      split at h <;> (cases h; rfl)
    rw [hw, hs]
    exact .of_same rfl rfl rfl rfl
  | rawDeleteMessage q m =>
    simp only [perform] at h
    split at h
    · cases h
      exact .of_same rfl rfl rfl rfl
    · obtain ⟨r, -, hs⟩ := direct_eq_ok h
      rw [hs]
      exact .of_same rfl rfl rfl rfl
  | rawUpdate q m text visibility =>
    simp only [perform] at h
    split at h
    · cases h
      exact .of_same rfl rfl rfl rfl
    · obtain ⟨r, -, hs⟩ := direct_eq_ok h
      rw [hs]
      exact .of_same rfl rfl rfl rfl
  | rawGetMetadata q =>
    simp only [perform] at h
    obtain ⟨r, -, hs⟩ := direct_eq_ok h
    rw [hs]
    exact .of_same rfl rfl rfl rfl
  | rawSetMetadata q metadata =>
    simp only [perform] at h
    obtain ⟨r, -, hs⟩ := direct_eq_ok h
    rw [hs]
    exact .of_same rfl rfl rfl rfl
  | rawList stem marker withMetadata =>
    simp only [perform] at h
    obtain ⟨r, -, hs⟩ := direct_eq_ok h
    rw [hs]
    exact .of_same rfl rfl rfl rfl

end Session

/-! ### A failed put or poll of a kind -/

namespace Session

variable {α : Type} {s s' : Session}

theorem failed_of_attempt {x : Attempt α} {reply : α → Reply} {e : QueueError}
    (h : s.attempt x reply = .ok (.failed e, s')) : x.run.run s.world = .ok (.error e, s'.world)
  := by
  obtain ⟨r, hrun, -, ho⟩ := attempt_eq_ok h
  cases r with
  | ok a => cases ho
  | error e' =>
    cases ho
    exact hrun

/-- A put or poll of a kind that fails because the kind's queue is missing leaves the
kind out of the ready list. -/
theorem perform_evicts {st : Step} {k : ExpirationKind} {e : QueueError}
    (hk : st.kind? = some k) (h : s.perform st = .ok (.failed e, s'))
    (he : e.kind = .queueNotFound) : k ∉ s'.world.ready
  := by
  have hw : Kept (fun _ => False) (fun _ => True) s.world s.world := .refl _
  cases st <;> simp only [Step.kind?, reduceCtorEq, Option.some.injEq] at hk <;> subst hk
  case putClaim taskId runId takenUntil =>
    have hx := failed_of_attempt h
    rw [Expiration.putClaim_run] at hx
    exact Attempt.of_triple (Expiration.put_evicts s.world id trivial _ _) hw hx he
  case putDeadline taskId groupId schedulerId deadline =>
    have hx := failed_of_attempt h
    rw [Expiration.putDeadline_run] at hx
    exact Attempt.of_triple (Expiration.put_evicts s.world id trivial _ _) hw hx he
  case putResolved taskId groupId schedulerId resolution =>
    exact Attempt.of_triple (Expiration.put_evicts s.world id trivial _ _) hw
      (failed_of_attempt h) he
  case pollNotices =>
    obtain ⟨⟨r, s₁⟩, hx, h⟩ := except_bind_eq_ok.1 h
    cases r with
    | ok notices => cases h
    | error e' =>
      cases h
      exact Attempt.of_triple (Expiration.poll_evicts s.world id trivial) hw
        (exec_eq_ok hx).1 he

end Session

/-! ### A whole step -/

namespace Session

variable {s s' : Session} {st : Step} {o : Outcome} {rs : List QueueError}

/-- A step performs its work on the world with a fresh report list, then may stop the
loops. -/
theorem step_eq_ok (h : s.step st = .ok (o, rs, s')) :
    ∃ s₁, { s with world := { s.world with reports := [] } }.perform st = .ok (o, s₁) ∧
      (s'.world = s₁.world ∨ ∃ loops, s₁.loops.stop.run s₁.world = .ok (loops, s'.world))
  := by
  unfold step at h
  obtain ⟨⟨o₁, s₁⟩, hp, h⟩ := except_bind_eq_ok.1 h
  simp only at h
  split at h
  · obtain ⟨⟨loops, s₂⟩, hx, h⟩ := except_bind_eq_ok.1 h
    cases h
    exact ⟨s₁, hp, .inr ⟨loops, (exec_eq_ok hx).1⟩⟩
  · cases h
    exact ⟨_, hp, .inl rfl⟩

/-- Stopping the loops after a step leaves the ready list and the rest of the frame. -/
theorem stop_kept {s₁ : Session} {loops : Background} {w : World}
    (h : s₁.loops.stop.run s₁.world = .ok (loops, w)) :
    Kept (fun _ => False) (fun _ => True) s₁.world w
  := Run.kept_of_triple _ (Background.stop_kept _ _) (.refl _) h

/-- Every step keeps the steady frame, the ready list changing only for its own kind. -/
theorem step_steady (h : s.step st = .ok (o, rs, s')) :
    s.world.Steady (st.kind? = some ·) s'.world
  := by
  obtain ⟨s₁, hp, hs⟩ := step_eq_ok h
  have h₁ : s.world.Steady (st.kind? = some ·) s₁.world := (perform_steady hp).of_reports
  rcases hs with hw | ⟨loops, hrun⟩
  · rw [hw]
    exact h₁
  · exact h₁.kept (stop_kept hrun)

/-- A step of a kind that fails because the kind's queue is missing leaves the kind out
of the ready list. -/
theorem step_evicts {k : ExpirationKind} {e : QueueError} (hk : st.kind? = some k)
    (h : s.step st = .ok (.failed e, rs, s')) (he : e.kind = .queueNotFound) :
    k ∉ s'.world.ready
  := by
  obtain ⟨s₁, hp, hs⟩ := step_eq_ok h
  have h₁ : k ∉ s₁.world.ready := perform_evicts hk hp he
  rcases hs with hw | ⟨loops, hrun⟩
  · rw [hw]
    exact h₁
  · rwa [(stop_kept hrun).ready k id]

end Session

/-! ### Runs of a session -/

namespace Session

/-- `s` reaches `s'` by the steps `tr`, each answered with the outcome beside it. -/
inductive Reaches : Session → List (Step × Outcome) → Session → Prop
  | refl (s : Session) : Reaches s [] s
  | step {s s₁ s' : Session} {st : Step} {o : Outcome} {rs : List QueueError}
      {tr : List (Step × Outcome)} :
      s.step st = .ok (o, rs, s₁) → Reaches s₁ tr s' → Reaches s ((st, o) :: tr) s'

/-- A put or poll of kind `k` that failed because the kind's queue was missing. -/
def FoundMissing (k : ExpirationKind) (x : Step × Outcome) : Prop :=
  x.1.kind? = some k ∧ ∃ e, x.2 = .failed e ∧ e.kind = .queueNotFound

variable {s s' : Session} {tr : List (Step × Outcome)}

/-- A run keeps the settings and where the calls go. -/
theorem Reaches.settings_link (h : Reaches s tr s') :
    s'.world.settings = s.world.settings ∧ s'.world.link = s.world.link
  := by
  induction h with
  | refl => exact ⟨rfl, rfl⟩
  | step hs _ ih =>
    have h₁ := step_steady hs
    exact ⟨ih.1.trans h₁.settings, ih.2.trans h₁.link⟩

/-- A run keeps every remembered family's names the family's own. -/
theorem Reaches.familiesSound (h : Reaches s tr s') (hs : s.world.FamiliesSound) :
    s'.world.FamiliesSound
  := by
  induction h with
  | refl => exact hs
  | step hst _ ih => exact ih ((step_steady hst).familiesSound hs)

/-- A kind ready at the end of a run was ready at its start, or entered the ready list in
a step of the run, of that kind, in which a create of its queue answered that the queue
was created or existed; and no put or poll of the kind after that found its queue
missing. -/
theorem Reaches.ready_created {k : ExpirationKind} (h : Reaches s tr s')
    (hlink : s.world.link = .store) (hk : k ∈ s'.world.ready) :
    (k ∈ s.world.ready ∧ ∀ x ∈ tr, ¬ FoundMissing k x) ∨
    ∃ tr₁ st o tr₂ s₁ s₂ rs, tr = tr₁ ++ (st, o) :: tr₂ ∧ Reaches s tr₁ s₁ ∧
      s₁.step st = .ok (o, rs, s₂) ∧ Reaches s₂ tr₂ s' ∧ st.kind? = some k ∧
      Store.Created (s.world.settings.expirationQueue k) s₁.world.store s₂.world.store ∧
      ∀ x ∈ tr₂, ¬ FoundMissing k x
  := by
  induction h with
  | refl => exact .inl ⟨hk, by simp⟩
  | @step s s₁ s' st o rs tr hs hr ih =>
    have h₁ := step_steady hs
    rcases ih (h₁.link.trans hlink) hk with ⟨hk₁, hclean⟩ | ⟨tr₁, st', o', tr₂, s₂, s₃, rs', rfl,
        hr₁, hs', hr₂, hkind, hc, hclean⟩
    · by_cases hk₀ : k ∈ s.world.ready
      · -- ready before and after the step, so the step found no queue of the kind missing
        refine .inl ⟨hk₀, ?_⟩
        intro x hx
        rcases List.mem_cons.1 hx with rfl | hx
        · rintro ⟨hkind, e, rfl, he⟩
          exact step_evicts hkind hs he hk₁
        · exact hclean x hx
      · -- the kind entered the ready list in this step
        have hkind : st.kind? = some k := by
          by_contra hne
          exact hk₀ ((h₁.ready k hne).1 hk₁)
        exact .inr ⟨[], st, o, tr, s, s₁, rs, rfl, .refl s, hs, hr, hkind,
          h₁.created hlink k hk₁ hk₀, hclean⟩
    · rw [h₁.settings] at hc
      exact .inr ⟨(st, o) :: tr₁, st', o', tr₂, s₂, s₃, rs', rfl, .step hs hr₁, hs', hr₂, hkind,
        hc, hclean⟩

end Session

end TaskQueue
