import TaskQueue.Proofs.Session.Steps
import TaskQueue.Proofs.Pending.Service

/-!
# The service's caches

The service remembers two things between calls: the families it ensured, with the names
of their seven queues, and the expiration kinds whose queue it made sure of.  In every
session reached from a fresh one over the in-memory store, whatever steps were taken
(failure rules armed, queues deleted behind the service, shutdowns), the two caches say
only true things (`caches_sound`):

* a remembered family holds the family's own seven queue names under the stem;
* a kind is ready only after a put or poll of that kind in which the create of the
  kind's queue answered that it was created or existed, with no put or poll of the kind
  since then finding its queue missing;
* an ensure of a remembered family answers from memory, with no call of the store;
* ensures of a family not remembered, one after another and all answering, read the
  properties of each of its seven queues once and create each that was missing.
-/

namespace TaskQueue

namespace Session

open Time

/-- What the service's caches say in a session reached by `tr` from the fresh session
`s₀`. -/
structure CachesSound (s₀ : Session) (tr : List (Step × Outcome)) (s : Session) : Prop where
  families : ∀ k names, (k, names) ∈ s.world.families →
    names = familyNames s₀.world.settings.stem k.provisionerId k.workerType
  ready : ∀ kind ∈ s.world.ready, ∃ tr₁ st o tr₂ s₁ s₂ rs, tr = tr₁ ++ (st, o) :: tr₂ ∧
    Reaches s₀ tr₁ s₁ ∧ s₁.step st = .ok (o, rs, s₂) ∧ Reaches s₂ tr₂ s ∧
    st.kind? = some kind ∧
    Store.Created (s₀.world.settings.expirationQueue kind) s₁.world.store s₂.world.store ∧
    ∀ x ∈ tr₂, ¬ FoundMissing kind x
  cached : ∀ k names, s.world.families.lookup k = some names →
    (Pending.ensureFamily k).run.run s.world =
      pure (.ok (familyNames s₀.world.settings.stem k.provisionerId k.workerType), s.world)
  ensures : ∀ k, s.world.families.lookup k = none →
    ∀ (m : Nat) (ws : Nat → World) (names : Nat → List String), 0 < m → ws 0 = s.world →
    (∀ i < m, (Pending.ensureFamily k).run.run (ws i) = .ok (.ok (names i), ws (i + 1))) →
    (ws m).store.calls .getMetadata = s.world.store.calls .getMetadata + 7 ∧
    (ws m).store.calls .createQueue = s.world.store.calls .createQueue +
      ((familyNames s₀.world.settings.stem k.provisionerId k.workerType).filter
        (fun n => !s.world.store.exists? n)).length

variable {settings : Settings} {now : Instant} {pageSize : Nat} {virtualTime : Bool}

/-- A fresh session over the in-memory store remembers nothing and calls the store. -/
theorem start_world (settings : Settings) (now : Instant) (pageSize : Nat)
    (virtualTime : Bool) :
    (start settings now pageSize virtualTime none).world =
      World.init settings now (Store.empty pageSize) .store
  := rfl

/-- The caches of every session reached from a fresh one over the in-memory store say
only true things. -/
theorem caches_sound {tr : List (Step × Outcome)} {s : Session}
    (h : Reaches (start settings now pageSize virtualTime none) tr s) :
    CachesSound (start settings now pageSize virtualTime none) tr s
  := by
  obtain ⟨hsettings, hlink⟩ := h.settings_link
  simp only [start_world, World.init] at hsettings hlink
  have hsound : s.world.FamiliesSound :=
    h.familiesSound (by simp [start_world, World.init, World.FamiliesSound])
  have hnames : ∀ k names, (k, names) ∈ s.world.families →
      names = familyNames settings.stem k.provisionerId k.workerType := by
    intro k names hk
    rw [← hsettings]
    exact hsound _ hk
  refine ⟨hnames, fun kind hk => ?_, fun k names hl => ?_, ?_⟩
  · -- a fresh session has no ready kind, so each entered in a step of the run
    rcases h.ready_created rfl hk with ⟨hk₀, -⟩ | hc
    · simp [start_world, World.init] at hk₀
    · exact hc
  · obtain ⟨l₁, l₂, hsplit, -⟩ := List.lookup_eq_some_iff.1 hl
    have hmem : (k, names) ∈ s.world.families := by simp [hsplit]
    rw [Pending.ensureFamily_cached hl, hnames k names hmem]
    rfl
  · intro k hk m ws names hm hws hrun
    have hlink₀ : (ws 0).link = .store := by rw [hws]; exact hlink
    have hk₀ : (ws 0).families.lookup k = none := by rw [hws]; exact hk
    rw [start_world, ← hsettings, ← hws]
    exact Pending.ensureFamily_repeated_calls hlink₀ hk₀ hm hrun

/-- A session in which a family was ensured at the epoch, under the default settings, says
only true things in its caches. -/
theorem caches_sound_after_ensure :
  ∃ o rs s₁, (start Settings.default .epoch 1 false none).step
      (.ensureFamily ⟨⟨"p1", by decide⟩, ⟨"w1", by decide⟩⟩) = .ok (o, rs, s₁) ∧
    CachesSound (start Settings.default .epoch 1 false none)
      [(.ensureFamily ⟨⟨"p1", by decide⟩, ⟨"w1", by decide⟩⟩, o)] s₁
  := by
  -- the ensure creates the seven queues of the empty store and answers
  have hok : ((start Settings.default .epoch 1 false none).step
      (.ensureFamily ⟨⟨"p1", by decide⟩, ⟨"w1", by decide⟩⟩)).isOk = true := by decide +kernel
  cases h : (start Settings.default .epoch 1 false none).step
      (.ensureFamily ⟨⟨"p1", by decide⟩, ⟨"w1", by decide⟩⟩) with
  | error => rw [h] at hok; cases hok
  | ok r =>
    obtain ⟨o, rs, s₁⟩ := r
    exact ⟨o, rs, s₁, rfl, caches_sound (.step h (.refl _))⟩

end Session

end TaskQueue
