import Mathlib
import TaskQueue.Session.Perform
import TaskQueue.Proofs.Store.Run
import TaskQueue.Proofs.World

/-!
# What the service's computations keep

Every computation of the service, whatever its calls answer, keeps a frame of the world it
starts from (`Kept`): the settings, where its calls go, the clock and the stop signal stay
as they are; the store moves only by calls of its nine operations (`Store.Run`), each on a
queue the computation may call, so the others are left as they were; an ensured family is only
ever remembered under its own seven names; and the ready list changes only for the
expiration kinds the computation acts on.  The relation is a preorder, and each operation
of the service is proved to keep it by a Hoare triple (`@[spec]`), so that `mvcgen`
carries it through every caller; a composite operation is then checked once, its
verification conditions closed by transitivity.  An operation states which queues it may
call: one expiration queue, the queues a listing answered, or any.

`Run.wp_apply` and `Attempt.wp_apply` read a triple back as a statement about a run that
ends (`Run.kept_of_triple`, `Attempt.kept_of_triple`), which is how sessions use it.
-/

namespace TaskQueue

open Std.Do Time

set_option mvcgen.warning false

namespace Store

/-- The queue a call acts on; a listing acts on none. -/
def Call.queue? : Call → Option String
  | .createQueue n _ | .deleteQueue n | .putMessage _ n .. | .getMessages _ n ..
  | .deleteMessage _ n .. | .updateMessage _ n .. | .getMetadata _ n | .setMetadata n _ => some n
  | .listQueues .. => none

/-- A call leaves every queue but the one it acts on as it was. -/
theorem Call.perform_find?_of_ne {c : Call} {s s' : Store} {a : Except Fault Answer}
    (h : c.perform s = .ok (a, s')) {n : String} (hn : c.queue? ≠ some n) :
  s'.find? n = s.find? n
  := by
  cases c with
  | createQueue q metadata =>
    obtain ⟨r, hr, -⟩ := map_answering_eq_ok.1 h
    rcases createQueue_eq_ok_iff.1 hr with ⟨-, rfl, -⟩ | ⟨-, ⟨-, -, rfl⟩ | ⟨-, -, rfl⟩⟩ <;>
      simp_all [Call.queue?, eq_comm]
  | deleteQueue q =>
    obtain ⟨r, hr, -⟩ := map_answering_eq_ok.1 h
    rcases deleteQueue_eq_ok_iff.1 hr with ⟨-, rfl, -⟩ | ⟨-, ⟨-, -, rfl⟩ | ⟨-, -, rfl⟩⟩ <;>
      simp_all [Call.queue?, eq_comm]
  | putMessage now q text visibility ttl =>
    obtain ⟨r, hr, -⟩ := map_answering_eq_ok.1 h
    rcases putMessage_eq_ok_iff.1 hr with
      ⟨-, rfl, -⟩ | ⟨-, ⟨-, -, rfl⟩ | ⟨-, -, -, -, -, -, -, rfl⟩⟩ <;>
      simp_all [Call.queue?, eq_comm]
  | getMessages now q visibility maxCount =>
    obtain ⟨r, hr, -⟩ := map_answering_eq_ok.1 h
    rcases getMessages_eq_ok_iff.1 hr with
      ⟨-, rfl, -⟩ | ⟨-, ⟨-, -, rfl⟩ | ⟨-, -, -, -, rfl⟩ | ⟨-, -, -, -, -, -, rfl⟩⟩ <;>
      simp_all [Call.queue?, eq_comm]
  | deleteMessage now q id receipt =>
    obtain ⟨r, hr, -⟩ := map_answering_eq_ok.1 h
    rcases deleteMessage_eq_ok_iff.1 hr with
      ⟨-, rfl, -⟩ | ⟨-, ⟨-, -, rfl⟩ | ⟨-, -, ⟨-, -, -, rfl⟩ | ⟨-, -, -, rfl⟩⟩⟩ <;>
      simp_all [Call.queue?, eq_comm]
  | updateMessage now q text id receipt visibility =>
    obtain ⟨r, hr, -⟩ := map_answering_eq_ok.1 h
    rcases updateMessage_eq_ok_iff.1 hr with
      ⟨-, rfl, -⟩ | ⟨-, ⟨-, -, rfl⟩ | ⟨-, -, ⟨-, -, -, rfl⟩ | ⟨-, -, -, -, -, rfl⟩⟩⟩ <;>
      simp_all [Call.queue?, eq_comm]
  | getMetadata now q =>
    obtain ⟨r, hr, -⟩ := map_answering_eq_ok.1 h
    rcases getMetadata_eq_ok_iff.1 hr with ⟨-, rfl, -⟩ | ⟨-, ⟨-, -, rfl⟩ | ⟨-, -, -, rfl⟩⟩ <;>
      simp_all [Call.queue?, eq_comm]
  | setMetadata q metadata =>
    obtain ⟨r, hr, -⟩ := map_answering_eq_ok.1 h
    rcases setMetadata_eq_ok_iff.1 hr with ⟨-, rfl, -⟩ | ⟨-, ⟨-, -, rfl⟩ | ⟨-, -, -, rfl⟩⟩ <;>
      simp_all [Call.queue?, eq_comm]
  | listQueues stem marker withMetadata =>
    obtain ⟨r, hr, -⟩ := map_answering_eq_ok.1 h
    rcases listQueues_eq_ok_iff.1 hr with ⟨-, rfl, -⟩ | ⟨-, -, rfl⟩ <;> simp

/-- Every queue a listing answers has a name that starts with the stem. -/
theorem startsWith_of_mem_listPage {s : Store} {stem : String} {marker : Option String}
    {withMetadata : Bool} {l : Listing} (hl : l ∈ (s.listPage stem marker withMetadata).queues) :
  l.name.startsWith stem = true
  := by
  simp only [listPage, listable, List.mem_map] at hl
  obtain ⟨⟨n, q⟩, hmem, rfl⟩ := hl
  have := (List.mem_filter.1 (List.mem_of_mem_take hmem)).2
  simp only [Bool.and_eq_true] at this
  exact this.2

/-- A run whose calls all act on other queues than `n` leaves `n` as it was. -/
theorem Run.find?_of_forall_ne {s s' : Store} {es : List Event} (h : Run s es s') {n : String}
    (hn : ∀ e ∈ es, e.call.queue? ≠ some n) :
  s'.find? n = s.find? n
  := by
  induction h with
  | nil => rfl
  | cons hstep _ ih =>
    rw [ih fun e he => hn e (.tail _ he)]
    exact Call.perform_find?_of_ne hstep (hn _ (.head _))

/-- The store goes from `s` to `s'` by calls on the queues `queues` only, and listings. -/
def CallsOn (queues : String → Prop) (s s' : Store) : Prop :=
  ∃ es, Run s es s' ∧ ∀ e ∈ es, ∀ n, e.call.queue? = some n → queues n

namespace CallsOn

variable {queues : String → Prop} {s s₁ s' : Store}

theorem refl (s : Store) : CallsOn queues s s
  := ⟨[], .nil s, fun _ he => nomatch he⟩

theorem trans (h₁ : CallsOn queues s s₁) (h₂ : CallsOn queues s₁ s') : CallsOn queues s s'
  := by
  obtain ⟨es₁, h₁s, h₁N⟩ := h₁
  obtain ⟨es₂, h₂s, h₂N⟩ := h₂
  refine ⟨es₁ ++ es₂, h₁s.append h₂s, fun e he => ?_⟩
  rcases List.mem_append.1 he with he | he
  · exact h₁N e he
  · exact h₂N e he

/-- One call on a queue of `queues`, or a listing. -/
theorem call {c : Call} {a : Except Fault Answer} (hc : c.perform s = .ok (a, s'))
    (hN : ∀ n, c.queue? = some n → queues n) :
    CallsOn queues s s'
  := ⟨[⟨c, a⟩], .cons hc (.nil _), fun e he => by rw [List.mem_singleton.1 he]; exact hN⟩

/-- A queue outside `queues` is left as it was. -/
theorem find?_eq (h : CallsOn queues s s') {n : String} (hn : ¬ queues n) :
    s'.find? n = s.find? n
  := by
  obtain ⟨es, hes, hN⟩ := h
  exact hes.find?_of_forall_ne fun e he hq => hn (hN e he n hq)

end CallsOn

/-- Between `s` and `s'` the store made sure of a queue `n`: a create of `n` answered that
it was created or that it existed already. -/
def Created (n : String) (s s' : Store) : Prop :=
  ∃ s₁ s₂ es₁ es₂ m a, Run s es₁ s₁ ∧ (Call.createQueue n m).perform s₁ = .ok (a, s₂) ∧
    (a = .ok .done ∨ a = .error (.queueAlreadyExists n)) ∧ Run s₂ es₂ s'

namespace Created

variable {n : String} {s s₁ s' : Store} {es : List Event}

theorem run_after (h : Created n s s₁) (h' : Run s₁ es s') : Created n s s'
  := by
  obtain ⟨s₂, s₃, es₁, es₂, m, a, h₁, hc, ha, h₂⟩ := h
  exact ⟨s₂, s₃, es₁, es₂ ++ es, m, a, h₁, hc, ha, h₂.append h'⟩

theorem run_before (h : Run s es s₁) (h' : Created n s₁ s') : Created n s s'
  := by
  obtain ⟨s₂, s₃, es₁, es₂, m, a, h₁, hc, ha, h₂⟩ := h'
  exact ⟨s₂, s₃, es ++ es₁, es₂, m, a, h.append h₁, hc, ha, h₂⟩

end Created

end Store

/-- What a computation of the service keeps of the world `w₀` it starts from, acting on
the expiration kinds `kinds` and calling the store on the queues `queues` only.  A kind
enters the ready list only after a create of its queue answered, when the calls go to
the in-memory store. -/
structure Kept (kinds : ExpirationKind → Prop) (queues : String → Prop) (w₀ w : World) :
    Prop where
  settings : w.settings = w₀.settings
  link : w.link = w₀.link
  now : w.now = w₀.now
  signal : w.signal = w₀.signal
  ready : ∀ k, ¬ kinds k → (k ∈ w.ready ↔ k ∈ w₀.ready)
  created : w₀.link = .store → ∀ k ∈ w.ready, k ∉ w₀.ready →
    Store.Created (w₀.settings.expirationQueue k) w₀.store w.store
  store : Store.CallsOn queues w₀.store w.store
  families : ∀ e ∈ w.families, e ∈ w₀.families ∨
    e.2 = familyNames w₀.settings.stem e.1.provisionerId e.1.workerType

namespace Kept

variable {t : ExpirationKind → Prop} {N : String → Prop} {w₀ w : World}

@[simp]
theorem refl (w : World) : Kept t N w w
  := ⟨rfl, rfl, rfl, rfl, fun _ _ => Iff.rfl, fun _ _ hk hk' => absurd hk hk', .refl _,
    fun _ he => .inl he⟩

/-- A computation keeps where the calls go. -/
theorem link_eq (h : Kept t N w₀ w) : w.link = w₀.link
  := h.link

/-- The store runs from the start of a computation to where it is. -/
theorem run (h : Kept t N w₀ w) : ∃ es, Store.Run w₀.store es w.store
  := by
  obtain ⟨es, hes, -⟩ := h.store
  exact ⟨es, hes⟩

theorem trans {w₁ w₂ : World} (h₁ : Kept t N w₀ w₁) (h₂ : Kept t N w₁ w₂) : Kept t N w₀ w₂ where
  settings := h₂.1.trans h₁.1
  link := h₂.2.trans h₁.2
  now := h₂.3.trans h₁.3
  signal := h₂.4.trans h₁.4
  ready k hk := (h₂.5 k hk).trans (h₁.5 k hk)
  created hlink k hk hk₀ := by
    -- the kind entered in the first part, or in the second
    by_cases hk₁ : k ∈ w₁.ready
    · obtain ⟨es, hes⟩ := h₂.run
      exact (h₁.6 hlink k hk₁ hk₀).run_after hes
    · obtain ⟨es, hes⟩ := h₁.run
      have hc := h₂.6 (h₁.2.trans hlink) k hk hk₁
      rw [h₁.1] at hc
      exact hc.run_before hes
  store := h₁.7.trans h₂.7
  families e he := by
    rcases h₂.8 e he with he | he
    · exact h₁.8 e he
    · exact .inr (by rw [he, h₁.1])

/-- A queue the computation does not call is left as it was. -/
theorem untouched (h : Kept t N w₀ w) {n : String} (hn : ¬ N n) :
    w.store.find? n = w₀.store.find? n
  := h.store.find?_eq hn

/-- Only the fields a computation answers for matter. -/
theorem frame {w' : World} (h : Kept t N w₀ w) (hs : w'.settings = w.settings)
    (hl : w'.link = w.link) (hn : w'.now = w.now) (hsig : w'.signal = w.signal)
    (hr : w'.ready = w.ready) (hst : w'.store = w.store) (hf : w'.families = w.families) :
    Kept t N w₀ w'
  := ⟨hs.trans h.1, hl.trans h.2, hn.trans h.3, hsig.trans h.4, hr ▸ h.5, hr ▸ hst ▸ h.6,
    hst ▸ h.7, hf ▸ h.8⟩

/-- The ids issued, the counts, the reports and the logs are not what a computation keeps. -/
@[simp, grind =]
theorem records_iff (issued : Nat) (counts : List (FamilyKey × CountEntry))
    (spawned : List FamilyKey) (reports : List QueueError) (logs : List LogEvent) :
    Kept t N w₀ { w with issued, counts, spawned, reports, logs } ↔ Kept t N w₀ w
  := ⟨fun h => ⟨h.1, h.2, h.3, h.4, h.5, h.6, h.7, h.8⟩,
    fun h => ⟨h.1, h.2, h.3, h.4, h.5, h.6, h.7, h.8⟩⟩

/-- Nor are they what a computation is measured against. -/
@[simp, grind =]
theorem records_start_iff (issued : Nat) (counts : List (FamilyKey × CountEntry))
    (spawned : List FamilyKey) (reports : List QueueError) (logs : List LogEvent) :
    Kept t N { w₀ with issued, counts, spawned, reports, logs } w ↔ Kept t N w₀ w
  := ⟨fun h => ⟨h.1, h.2, h.3, h.4, h.5, h.6, h.7, h.8⟩,
    fun h => ⟨h.1, h.2, h.3, h.4, h.5, h.6, h.7, h.8⟩⟩

/-- Adding a kind the computation may touch to the ready list, once a create of its queue
answered, keeps what it keeps. -/
theorem add_ready (h : Kept t N w₀ w) {k : ExpirationKind} (hk : t k)
    (hc : w₀.link = .store → k ∉ w₀.ready →
      Store.Created (w₀.settings.expirationQueue k) w₀.store w.store) :
    Kept t N w₀ { w with ready := w.ready ++ [k] }
  := by
  refine ⟨h.1, h.2, h.3, h.4, fun k' hk' => ?_, fun hlink k' hk' hk₀ => ?_, h.7, h.8⟩
  · have hne : k' ≠ k := fun he => hk' (he ▸ hk)
    simp only [List.mem_append, List.mem_singleton, hne, or_false]
    exact h.5 k' hk'
  · rcases List.mem_append.1 hk' with hk' | hk'
    · exact h.6 hlink k' hk' hk₀
    · rw [List.mem_singleton.1 hk'] at hk₀ ⊢
      exact hc hlink hk₀

/-- A kind added to the ready list after a create of its queue answered, in the middle of
a computation, keeps what the computation keeps. -/
theorem add_created {w₁ w₂ : World} {k : ExpirationKind} (h₁ : Kept t N w₀ w₁)
    (h₂ : Kept t N w₁ w₂)
    (hc : w₁.link = .store → Store.Created (w₁.settings.expirationQueue k) w₁.store w₂.store)
    (h : Kept t N w₂ w) (hk : t k) :
    Kept t N w₀ { w with ready := w.ready ++ [k] }
  := by
  refine (h₁.trans (h₂.trans h)).add_ready hk fun hlink _ => ?_
  obtain ⟨es₁, hes₁⟩ := h₁.run
  obtain ⟨es₂, hes₂⟩ := h.run
  have hc := hc (h₁.link.trans hlink)
  rw [h₁.settings] at hc
  exact (hc.run_before hes₁).run_after hes₂

/-- Removing a kind the computation may touch from the ready list keeps what it keeps. -/
theorem evict_ready (h : Kept t N w₀ w) {k : ExpirationKind} (hk : t k) :
    Kept t N w₀ { w with ready := w.ready.filter (· != k) }
  := by
  refine ⟨h.1, h.2, h.3, h.4, fun k' hk' => ?_, fun hlink k' hk' hk₀ => ?_, h.7, h.8⟩
  · have hne : k' ≠ k := fun he => hk' (he ▸ hk)
    simp only [List.mem_filter, bne_iff_ne, ne_eq, hne, not_false_eq_true, and_true]
    exact h.5 k' hk'
  · exact h.6 hlink k' (List.mem_filter.1 hk').1 hk₀

/-- A call of the store on a queue the computation may touch, or on none, keeps what it
keeps. -/
theorem call (h : Kept t N w₀ w) {c : Store.Call} {a : Except Fault Store.Answer} {s : Store}
    (hc : c.perform w.store = .ok (a, s)) (hN : ∀ n, c.queue? = some n → N n) :
    Kept t N w₀ { w with store := s }
  := ⟨h.1, h.2, h.3, h.4, h.5,
    fun hlink k hk hk₀ => (h.6 hlink k hk hk₀).run_after (.cons (e := ⟨c, a⟩) hc (.nil _)),
    h.7.trans (.call hc hN), h.8⟩

/-- Forgetting ensured families keeps what a computation keeps. -/
theorem sublist_families {fs : List (FamilyKey × List String)} (h : Kept t N w₀ w)
    (hfs : fs.Sublist w.families) :
    Kept t N w₀ { w with families := fs }
  := ⟨h.1, h.2, h.3, h.4, h.5, h.6, h.7, fun e he => h.8 e (hfs.subset he)⟩

/-- Remembering a family under its own names keeps what a computation keeps. -/
theorem add_family (h : Kept t N w₀ w) {k : FamilyKey} {names : List String}
    (hn : names = familyNames w₀.settings.stem k.provisionerId k.workerType) :
    Kept t N w₀ { w with families := w.families ++ [(k, names)] }
  := by
  refine ⟨h.1, h.2, h.3, h.4, h.5, h.6, h.7, fun e he => ?_⟩
  rcases List.mem_append.1 he with he | he
  · exact h.8 e he
  · rw [List.mem_singleton.1 he]
    exact .inr hn

end Kept

/-! ### Lifting into attempts -/

@[spec]
theorem Attempt.lift_spec {α : Type} (r : Run α)
    (Q : PostCond α (.except QueueError (.arg World (.except Halt .pure)))) :
    ⦃wp⟦r⟧ (fun a => Q.1 a, Q.2.2)⦄ (Attempt.lift r : Attempt α) ⦃Q⦄
  := by
  simp [Triple.iff, Attempt.lift, SPred.entails.refl]

/-- An error answer as a thrown error. -/
theorem Attempt.ofExcept_eq {α : Type} (r : Except QueueError α) :
    Attempt.ofExcept r = match r with
      | .ok a => pure a
      | .error e => throw e
  := by
  cases r <;> rfl

/-- The weakest precondition of a computation in a world is the postcondition of how it
ends. -/
theorem Run.wp_apply {α : Type} (x : Run α) (Q : PostCond α (.arg World (.except Halt .pure)))
    (w : World) :
    wp⟦x⟧ Q w = match x.run w with
      | .ok (a, w') => Q.1 a w'
      | .error h => Q.2.1 h
  := by
  simp only [StateT.run]
  cases h : x w <;> simp only [WP.wp, PredTrans.apply, PredTrans.pushArg, StateT.run, h] <;> rfl

/-- The weakest precondition of an attempt is the postcondition of how it ends. -/
theorem Attempt.wp_apply {α : Type} (x : Attempt α)
    (Q : PostCond α (.except QueueError (.arg World (.except Halt .pure)))) (w : World) :
    wp⟦x⟧ Q w = match x.run.run w with
      | .ok (.ok a, w') => Q.1 a w'
      | .ok (.error e, w') => Q.2.1 e w'
      | .error h => Q.2.2.1 h
  := by
  -- an attempt is its run as a computation answering a result
  let M : PostCond (Except QueueError α) (.arg World (.except Halt .pure)) :=
    (fun r => match r with
      | .ok a => Q.1 a
      | .error e => Q.2.1 e, Q.2.2)
  have h : wp⟦x.run⟧ M = wp⟦x⟧ (fun a => M.1 (.ok a), fun e => M.1 (.error e), M.2) :=
    WP.ExceptT_run x
  have hQ : wp⟦x⟧ Q = wp⟦x.run⟧ M := h.symm
  rw [hQ, Run.wp_apply]
  rcases x.run.run w with (h | ⟨(a | e), w'⟩) <;> rfl

variable {t : ExpirationKind → Prop} {N : String → Prop} (w₀ : World)

theorem Run.ofHalting_ok {α : Type} (a : α) : Run.ofHalting (.ok a) = pure a := rfl

theorem Run.ofHalting_error {α : Type} (h : Halt) :
    (Run.ofHalting (.error h) : Run α) = Run.halt h := rfl

@[spec]
theorem Run.halt_spec {α : Type} (h : Halt) (Q : PostCond α (.arg World (.except Halt .pure))) :
    ⦃fun _ => Q.2.1 h⦄ (Run.halt h : Run α) ⦃Q⦄
  := by
  intro w hw
  exact hw

theorem Run.ofHalting_kept {α : Type} (r : Except Halt α) :
    ⦃fun w => ⌜Kept t N w₀ w⌝⦄ Run.ofHalting r ⦃⇓? _ w => ⌜Kept t N w₀ w⌝⦄
  := by
  cases r with
  | error h => rw [Run.ofHalting_error]; mvcgen
  | ok a => rw [Run.ofHalting_ok]; mvcgen

/-! ### Calls of the store -/

theorem Run.perform_kept {α : Type}
    (inMemory : Store → Instant → Except Halt (Except Fault α × Store))
    (request : Gateway.Request) (read : String → Except Fault α) (call : Instant → Store.Call) (answer : α → Store.Answer)
    (hcall : ∀ s now, (call now).perform s = Store.answering answer <$> inMemory s now)
    (hN : w₀.link = .store → ∀ now n, (call now).queue? = some n → N n) :
    ⦃fun w => ⌜Kept t N w₀ w⌝⦄ Run.perform inMemory request read ⦃⇓? _ w => ⌜Kept t N w₀ w⌝⦄
  := by
  mvcgen [Run.perform]
  rename_i w hw hlink
  cases hm : inMemory w.store w.now with
  | error h =>
    rw [Run.ofHalting_error]
    mvcgen
  | ok p =>
    rw [Run.ofHalting_ok]
    mvcgen
    exact hw.call (c := call w.now) (by rw [hcall, hm]; rfl) (hN (hw.link ▸ hlink) w.now)

/-- A call on the queue `n` answers for `n` only. -/
theorem queue?_eq {n m : String} (h : some n = some m) (hn : N n) : N m
  := Option.some.inj h ▸ hn

/-- A create keeps what a computation keeps; answered by the in-memory store that the queue
was created or existed already, it makes sure of the queue. -/
@[spec]
theorem Run.createQueue_kept {n : String} (hn : N n) (m : Option Metadata) :
    ⦃fun w => ⌜Kept t N w₀ w⌝⦄ Run.createQueue n m
      ⦃⇓? r w => ⌜Kept t N w₀ w ∧ (w₀.link = .store →
        (∀ e, r = .error e → e.kind = .queueAlreadyExists) → Store.Created n w₀.store w.store)⌝⦄
  := by
  mvcgen [Run.createQueue, Run.perform]
  case vc2.h_2 _ hw _ _ hgw =>
    -- through a gateway there is no store to speak of
    exact ⟨hw, fun hlink => absurd (hw.link.trans hlink) (by simp [hgw])⟩
  rename_i w hw hlink
  cases hm : w.store.createQueue n m with
  | error h =>
    rw [Run.ofHalting_error]
    mvcgen
  | ok p =>
    rw [Run.ofHalting_ok]
    mvcgen
    obtain ⟨r, s⟩ := p
    have hc : (Store.Call.createQueue n m).perform w.store = .ok (r.map fun _ => .done, s) := by
      rw [Store.Call.perform, hm]
      rfl
    refine ⟨hw.call hc (fun _ h => queue?_eq h hn), fun _ hr => ?_⟩
    obtain ⟨es, hes⟩ := hw.run
    refine ⟨w.store, s, es, [], m, _, hes, hc, ?_, .nil _⟩
    rcases Store.createQueue_eq_ok_iff.1 hm with ⟨rfl, -, -⟩ | ⟨-, ⟨-, rfl, -⟩ | ⟨-, rfl, -⟩⟩
    · -- an injected failure is transient
      have := hr _ rfl
      rw [Store.injected_kind] at this
      cases this
    · exact .inr rfl
    · exact .inl rfl

/-- A delete keeps what a computation keeps; its queue need only be one the computation
may call when the calls go to the store. -/
@[spec]
theorem Run.deleteQueue_kept {n : String} (hn : w₀.link = .store → N n) :
    ⦃fun w => ⌜Kept t N w₀ w⌝⦄ Run.deleteQueue n ⦃⇓? _ w => ⌜Kept t N w₀ w⌝⦄
  := Run.perform_kept w₀ _ _ _ (fun _ => .deleteQueue n) (fun _ => .done) (fun _ _ => rfl)
    fun hl _ _ h => queue?_eq h (hn hl)

@[spec]
theorem Run.putMessage_kept {n : String} (hn : N n) (text : String) (visibility ttl : Duration) :
    ⦃fun w => ⌜Kept t N w₀ w⌝⦄ Run.putMessage n text visibility ttl ⦃⇓? _ w => ⌜Kept t N w₀ w⌝⦄
  := Run.perform_kept w₀ _ _ _ (fun now => .putMessage now n text visibility ttl) (fun _ => .done)
    (fun _ _ => rfl) fun _ _ _ h => queue?_eq h hn

@[spec]
theorem Run.getMessages_kept {n : String} (hn : N n) (visibility : Duration) (maxCount : Nat) :
    ⦃fun w => ⌜Kept t N w₀ w⌝⦄ Run.getMessages n visibility maxCount ⦃⇓? _ w => ⌜Kept t N w₀ w⌝⦄
  := Run.perform_kept w₀ _ _ _ (fun now => .getMessages now n visibility maxCount) .messages
    (fun _ _ => rfl) fun _ _ _ h => queue?_eq h hn

@[spec]
theorem Run.deleteMessage_kept {n : String} (hn : N n) (id receipt : String) :
    ⦃fun w => ⌜Kept t N w₀ w⌝⦄ Run.deleteMessage n id receipt ⦃⇓? _ w => ⌜Kept t N w₀ w⌝⦄
  := Run.perform_kept w₀ _ _ _ (fun now => .deleteMessage now n id receipt) (fun _ => .done)
    (fun _ _ => rfl) fun _ _ _ h => queue?_eq h hn

@[spec]
theorem Run.updateMessage_kept {n : String} (hn : N n) (text id receipt : String)
    (visibility : Duration) :
    ⦃fun w => ⌜Kept t N w₀ w⌝⦄ Run.updateMessage n text id receipt visibility
      ⦃⇓? _ w => ⌜Kept t N w₀ w⌝⦄
  := Run.perform_kept w₀ _ _ _ (fun now => .updateMessage now n text id receipt visibility) .receipt
    (fun _ _ => rfl) fun _ _ _ h => queue?_eq h hn

/-- Reading a queue's properties keeps what a computation keeps; its queue need only be
one the computation may call when the calls go to the store. -/
@[spec]
theorem Run.getMetadata_kept {n : String} (hn : w₀.link = .store → N n) :
    ⦃fun w => ⌜Kept t N w₀ w⌝⦄ Run.getMetadata n ⦃⇓? _ w => ⌜Kept t N w₀ w⌝⦄
  := Run.perform_kept w₀ _ _ _ (fun now => .getMetadata now n) .properties (fun _ _ => rfl)
    fun hl _ _ h => queue?_eq h (hn hl)

@[spec]
theorem Run.setMetadata_kept {n : String} (hn : N n) (m : Metadata) :
    ⦃fun w => ⌜Kept t N w₀ w⌝⦄ Run.setMetadata n m ⦃⇓? _ w => ⌜Kept t N w₀ w⌝⦄
  := Run.perform_kept w₀ _ _ _ (fun _ => .setMetadata n m) (fun _ => .done) (fun _ _ => rfl)
    fun _ _ _ h => queue?_eq h hn

/-- A listing acts on no queue; the store answers queues whose names start with the stem. -/
@[spec]
theorem Run.listQueues_kept (stem : String) (marker : Option String) (withMetadata : Bool) :
    ⦃fun w => ⌜Kept t N w₀ w⌝⦄ Run.listQueues stem marker withMetadata
      ⦃⇓? r w => ⌜Kept t N w₀ w ∧ ∀ p, r = .ok p → w₀.link = .store →
        ∀ l ∈ p.queues, l.name.startsWith stem⌝⦄
  := by
  mvcgen [Run.listQueues, Run.perform]
  case vc2.h_2 _ hw _ _ hgw =>
    -- a gateway may list any name, but then the calls do not go to the store
    exact ⟨hw, fun _ _ hlink => absurd (hw.link.trans hlink) (by simp [hgw])⟩
  rename_i w hw hlink
  cases hm : w.store.listQueues stem marker withMetadata with
  | error h =>
    rw [Run.ofHalting_error]
    mvcgen
  | ok p =>
    rw [Run.ofHalting_ok]
    mvcgen
    obtain ⟨r, s⟩ := p
    refine ⟨hw.call (c := .listQueues stem marker withMetadata) (a := r.map .page)
      (by rw [Store.Call.perform, hm]; rfl) (fun _ h => by cases h), fun page hpage _ l hl => ?_⟩
    rcases Store.listQueues_eq_ok_iff.1 hm with ⟨rfl, -, -⟩ | ⟨-, rfl, -⟩
    · simp [Except.mapError] at hpage
    · simp only [Except.mapError, Except.ok.injEq] at hpage
      subst hpage
      exact Store.startsWith_of_mem_listPage hl

/-- What a computation keeps holds after any of its runs that ends. -/
theorem Run.kept_of_triple {α : Type} {x : Run α} {w w' : World} {a : α}
    (hx : ⦃fun w => ⌜Kept t N w₀ w⌝⦄ x ⦃⇓? _ w => ⌜Kept t N w₀ w⌝⦄) (hw : Kept t N w₀ w)
    (h : x.run w = .ok (a, w')) : Kept t N w₀ w'
  := by
  have hwp := hx w hw
  rw [Run.wp_apply, h] at hwp
  exact hwp

/-- A triple of an attempt holds of each of its runs that ends, answered or failed. -/
theorem Attempt.of_triple {α : Type} {x : Attempt α} {P : World → Prop}
    {Q : α → World → Prop} {E : QueueError → World → Prop} {w w' : World}
    {r : Except QueueError α}
    (hx : ⦃fun w => ⌜P w⌝⦄ x ⦃post⟨fun a w => ⌜Q a w⌝, fun e w => ⌜E e w⌝, fun _ => ⌜True⌝⟩⦄)
    (hw : P w) (h : x.run.run w = .ok (r, w')) :
    match r with
    | .ok a => Q a w'
    | .error e => E e w'
  := by
  have hwp := hx w hw
  rw [Attempt.wp_apply, h] at hwp
  cases r <;> exact hwp

/-- What an attempt keeps holds after any of its runs that ends, answered or failed. -/
theorem Attempt.kept_of_triple {α : Type} {x : Attempt α} {w w' : World}
    {r : Except QueueError α}
    (hx : ⦃fun w => ⌜Kept t N w₀ w⌝⦄ x
      ⦃post⟨fun _ w => ⌜Kept t N w₀ w⌝, fun _ w => ⌜Kept t N w₀ w⌝, fun _ => ⌜True⌝⟩⦄)
    (hw : Kept t N w₀ w) (h : x.run.run w = .ok (r, w')) : Kept t N w₀ w'
  := by
  have hend := Attempt.of_triple hx hw h
  cases r <;> exact hend

/-- A computation answering a result keeps, as an attempt, what it keeps. -/
theorem Attempt.ofRun_kept {α : Type} {r : Run (Except QueueError α)}
    (hr : ⦃fun w => ⌜Kept t N w₀ w⌝⦄ r ⦃⇓? _ w => ⌜Kept t N w₀ w⌝⦄) :
    ⦃fun w => ⌜Kept t N w₀ w⌝⦄ Attempt.ofRun r
      ⦃post⟨fun _ w => ⌜Kept t N w₀ w⌝, fun _ w => ⌜Kept t N w₀ w⌝, fun _ => ⌜True⌝⟩⦄
  := by
  intro w hw
  rw [Attempt.wp_apply]
  have hrun : (Attempt.ofRun r).run.run w = r.run w := rfl
  rw [hrun]
  rcases h : r.run w with (e | ⟨(a | e), w'⟩)
  · trivial
  · exact Run.kept_of_triple w₀ hr hw h
  · exact Run.kept_of_triple w₀ hr hw h

@[spec]
theorem Attempt.ofRun_getMetadata_kept {n : String} (hn : w₀.link = .store → N n) :
    ⦃fun w => ⌜Kept t N w₀ w⌝⦄ Attempt.ofRun (Run.getMetadata n)
      ⦃post⟨fun _ w => ⌜Kept t N w₀ w⌝, fun _ w => ⌜Kept t N w₀ w⌝, fun _ => ⌜True⌝⟩⦄
  := Attempt.ofRun_kept w₀ (Run.getMetadata_kept w₀ hn)

/-- A total that may halt, as an attempt, keeps what a computation keeps. -/
@[spec]
theorem Attempt.ofRun_ofHalting_kept {α : Type} (r : Except Halt (Except QueueError α)) :
    ⦃fun w => ⌜Kept t N w₀ w⌝⦄ Attempt.ofRun (Run.ofHalting r)
      ⦃post⟨fun _ w => ⌜Kept t N w₀ w⌝, fun _ w => ⌜Kept t N w₀ w⌝, fun _ => ⌜True⌝⟩⦄
  := Attempt.ofRun_kept w₀ (Run.ofHalting_kept w₀ r)

/-! ### Logs, reports and the service's own records -/

@[spec]
theorem Run.log_kept (e : LogEvent) :
    ⦃fun w => ⌜Kept t N w₀ w⌝⦄ Run.log e ⦃⇓? _ w => ⌜Kept t N w₀ w⌝⦄
  := by
  mvcgen [Run.log]
  rename_i h _
  exact h.frame rfl rfl rfl rfl rfl rfl rfl

@[spec]
theorem Run.report_kept (e : QueueError) :
    ⦃fun w => ⌜Kept t N w₀ w⌝⦄ Run.report e ⦃⇓? _ w => ⌜Kept t N w₀ w⌝⦄
  := by
  mvcgen [Run.report]
  rename_i h _
  exact h.frame rfl rfl rfl rfl rfl rfl rfl

@[spec]
theorem Run.nextHintId_kept :
    ⦃fun w => ⌜Kept t N w₀ w⌝⦄ Run.nextHintId ⦃⇓? _ w => ⌜Kept t N w₀ w⌝⦄
  := by
  mvcgen [Run.nextHintId]
  rename_i h
  exact h.frame rfl rfl rfl rfl rfl rfl rfl

@[spec]
theorem Run.evictFamily_kept (k : FamilyKey) :
    ⦃fun w => ⌜Kept t N w₀ w⌝⦄ Run.evictFamily k ⦃⇓? _ w => ⌜Kept t N w₀ w⌝⦄
  := by
  mvcgen [Run.evictFamily]
  rename_i h _
  exact h.sublist_families List.filter_sublist

@[spec]
theorem Run.resetFamilies_kept :
    ⦃fun w => ⌜Kept t N w₀ w⌝⦄ Run.resetFamilies ⦃⇓? _ w => ⌜Kept t N w₀ w⌝⦄
  := by
  mvcgen [Run.resetFamilies, Run.logPending]
  rename_i h _
  exact h.sublist_families (List.nil_sublist _)

@[spec]
theorem Run.now_kept :
    ⦃fun w => ⌜Kept t N w₀ w⌝⦄ Run.now ⦃⇓? _ w => ⌜Kept t N w₀ w⌝⦄
  := by
  mvcgen [Run.now]

/-! ### Pending queues -/

@[spec]
theorem Pending.createQueue_kept {queue : String} (hN : N queue) (desired : Metadata) :
    ⦃fun w => ⌜Kept t N w₀ w⌝⦄ Pending.createQueue queue desired
      ⦃post⟨fun _ w => ⌜Kept t N w₀ w⌝, fun _ w => ⌜Kept t N w₀ w⌝, fun _ => ⌜True⌝⟩⦄
  := by
  mvcgen [Pending.createQueue, Run.logPending, Run.reportNoted]
  all_goals grind [Kept.trans, Kept.refl]

@[spec]
theorem Pending.ensureQueue_kept {queue : String} (hN : N queue) (p : ProvisionerId)
    (wt : WorkerType) :
    ⦃fun w => ⌜Kept t N w₀ w⌝⦄ Pending.ensureQueue queue p wt
      ⦃post⟨fun _ w => ⌜Kept t N w₀ w⌝, fun _ w => ⌜Kept t N w₀ w⌝, fun _ => ⌜True⌝⟩⦄
  := by
  mvcgen [Pending.ensureQueue, Run.logPending, Run.reportNoted]
  all_goals grind [Kept.trans, Kept.refl]

@[spec]
theorem Pending.ensureQueues_kept (p : ProvisionerId) (wt : WorkerType) {names : List String}
    (hN : ∀ n ∈ names, N n) :
    ⦃fun w => ⌜Kept t N w₀ w⌝⦄ Pending.ensureQueues p wt names
      ⦃post⟨fun _ w => ⌜Kept t N w₀ w⌝, fun _ w => ⌜Kept t N w₀ w⌝, fun _ => ⌜True⌝⟩⦄
  := by
  induction names with
  | nil => mvcgen [Pending.ensureQueues]
  | cons q qs ih =>
    mvcgen [Pending.ensureQueues, ih]
    all_goals grind [Kept.trans, Kept.refl]

@[spec]
theorem Pending.ensureFamily_kept (hN : ∀ n, N n) (k : FamilyKey) :
    ⦃fun w => ⌜Kept t N w₀ w⌝⦄ Pending.ensureFamily k
      ⦃post⟨fun _ w => ⌜Kept t N w₀ w⌝, fun _ w => ⌜Kept t N w₀ w⌝, fun _ => ⌜True⌝⟩⦄
  := by
  mvcgen [Pending.ensureFamily, Run.logPending]
  all_goals grind [Kept.trans, Kept.refl, Kept.add_family, Kept.settings]

@[spec]
theorem Pending.queues_kept (hN : ∀ n, N n) (k : FamilyKey) :
    ⦃fun w => ⌜Kept t N w₀ w⌝⦄ Pending.queues k
      ⦃post⟨fun _ w => ⌜Kept t N w₀ w⌝, fun _ w => ⌜Kept t N w₀ w⌝, fun _ => ⌜True⌝⟩⦄
  := by
  mvcgen [Pending.queues]
  all_goals grind [Kept.trans, Kept.refl]

@[spec]
theorem Pending.publish_kept (hN : ∀ n, N n) (task : TaskRef) (runId : UInt32) :
    ⦃fun w => ⌜Kept t N w₀ w⌝⦄ Pending.publish task runId
      ⦃post⟨fun _ w => ⌜Kept t N w₀ w⌝, fun _ w => ⌜Kept t N w₀ w⌝, fun _ => ⌜True⌝⟩⦄
  := by
  mvcgen [Pending.publish, Attempt.ofExcept_eq, Run.logPending]
  all_goals grind [Kept.trans, Kept.refl]

theorem Pending.readHints_kept (priority : Priority) (queue : String) (ms : List RawMessage) :
    ⦃fun w => ⌜Kept t N w₀ w⌝⦄ Pending.readHints priority queue ms ⦃⇓? _ w => ⌜Kept t N w₀ w⌝⦄
  := by
  induction ms with
  | nil => mvcgen [Pending.readHints]
  | cons m ms ih =>
    mvcgen [Pending.readHints, ih, Run.logPending]
    all_goals grind [Kept.trans, Kept.refl]

@[spec]
theorem Pending.poll_kept (hN : ∀ n, N n) (k : FamilyKey) (priority : Priority) (queue : String)
    (count : Nat) :
    ⦃fun w => ⌜Kept t N w₀ w⌝⦄ Pending.poll k priority queue count
      ⦃post⟨fun _ w => ⌜Kept t N w₀ w⌝, fun _ w => ⌜Kept t N w₀ w⌝, fun _ => ⌜True⌝⟩⦄
  := by
  mvcgen [Pending.poll, Pending.readHints_kept, Run.logPending]
  all_goals grind [Kept.trans, Kept.refl]

theorem Run.getMetadata_mapM_kept {names : List String} (hN : ∀ n ∈ names, N n) :
    ⦃fun w => ⌜Kept t N w₀ w⌝⦄ names.mapM Run.getMetadata ⦃⇓? _ w => ⌜Kept t N w₀ w⌝⦄
  := by
  induction names with
  | nil => mvcgen
  | cons n ns ih =>
    simp only [List.mapM_cons]
    mvcgen [ih]
    all_goals grind [Kept.trans, Kept.refl]

@[spec]
theorem Pending.refreshCount_kept (hN : ∀ n, N n) (k : FamilyKey) :
    ⦃fun w => ⌜Kept t N w₀ w⌝⦄ Pending.refreshCount k
      ⦃post⟨fun _ w => ⌜Kept t N w₀ w⌝, fun _ w => ⌜Kept t N w₀ w⌝, fun _ => ⌜True⌝⟩⦄
  := by
  mvcgen [Pending.refreshCount, Attempt.ofExcept_eq, Run.getMetadata_mapM_kept]
  all_goals grind [Kept.trans, Kept.refl]

@[spec]
theorem Pending.count_kept (hN : ∀ n, N n) (k : FamilyKey) :
    ⦃fun w => ⌜Kept t N w₀ w⌝⦄ Pending.count k
      ⦃post⟨fun _ w => ⌜Kept t N w₀ w⌝, fun _ w => ⌜Kept t N w₀ w⌝, fun _ => ⌜True⌝⟩⦄
  := by
  mvcgen [Pending.count, Run.logPending]
  all_goals grind [Kept.trans, Kept.refl]

/-! ### Leases -/

@[spec]
theorem Lease.finish_kept (l : Lease) (operation : String) (r : Except QueueError Unit) :
    ⦃fun w => ⌜Kept t N w₀ w⌝⦄ l.finish operation r
      ⦃post⟨fun _ w => ⌜Kept t N w₀ w⌝, fun _ w => ⌜Kept t N w₀ w⌝, fun _ => ⌜True⌝⟩⦄
  := by
  mvcgen [Lease.finish]
  all_goals grind [Kept.trans, Kept.refl]

@[spec]
theorem Lease.remove_kept {l : Lease} (hN : N l.queue) :
    ⦃fun w => ⌜Kept t N w₀ w⌝⦄ l.remove
      ⦃post⟨fun _ w => ⌜Kept t N w₀ w⌝, fun _ w => ⌜Kept t N w₀ w⌝, fun _ => ⌜True⌝⟩⦄
  := by
  mvcgen [Lease.remove]
  all_goals grind [Kept.trans, Kept.refl]

@[spec]
theorem Lease.release_kept {l : Lease} (hN : N l.queue) :
    ⦃fun w => ⌜Kept t N w₀ w⌝⦄ l.release
      ⦃post⟨fun _ w => ⌜Kept t N w₀ w⌝, fun _ w => ⌜Kept t N w₀ w⌝, fun _ => ⌜True⌝⟩⦄
  := by
  mvcgen [Lease.release]
  all_goals grind [Kept.trans, Kept.refl]

/-! ### Expiration queues -/

section Expiration

variable {kind : ExpirationKind}

@[spec]
theorem Expiration.ensureReady_kept (hk : t kind) (hN : N (w₀.settings.expirationQueue kind)) :
    ⦃fun w => ⌜Kept t N w₀ w⌝⦄ Expiration.ensureReady kind
      ⦃post⟨fun _ w => ⌜Kept t N w₀ w⌝, fun _ w => ⌜Kept t N w₀ w⌝, fun _ => ⌜True⌝⟩⦄
  := by
  mvcgen [Expiration.ensureReady, Run.reportNoted]
  -- the kind is added once the create answered that the queue was created or existed
  case vc10.isFalse.isFalse.post.success.h_1.post.success _ hw₁ _ _ _ _ _ hr _ hc _ _ hlog _ =>
    dsimp +zetaDelta only
    exact Kept.add_created hw₁ hc.1 (hc.2 · fun e he => by simp at he) hlog hk
  case vc11.isFalse.isFalse.post.success.h_2.isTrue _ hw₁ _ _ _ _ _ e hr he _ hc _ =>
    dsimp +zetaDelta only
    exact Kept.add_created hw₁ hc.1 (hc.2 · fun e' he' => by simp_all) (.refl _) hk
  all_goals grind [Kept.trans, Kept.refl, → Kept.settings]

@[spec]
theorem Expiration.evict_kept (hk : t kind) :
    ⦃fun w => ⌜Kept t N w₀ w⌝⦄ Expiration.evict kind ⦃⇓? _ w => ⌜Kept t N w₀ w⌝⦄
  := by
  mvcgen [Expiration.evict]
  dsimp +zetaDelta only
  exact Kept.evict_ready (by assumption) hk

@[spec]
theorem Expiration.put_kept (hk : t kind) (hN : N (w₀.settings.expirationQueue kind))
    (notice : Json) (visibility : Nat) :
    ⦃fun w => ⌜Kept t N w₀ w⌝⦄ Expiration.put kind notice visibility
      ⦃post⟨fun _ w => ⌜Kept t N w₀ w⌝, fun _ w => ⌜Kept t N w₀ w⌝, fun _ => ⌜True⌝⟩⦄
  := by
  mvcgen [Expiration.put]
  all_goals grind [Kept.trans, Kept.refl, → Kept.settings]

@[spec]
theorem Expiration.putClaim_kept (ht : t .claim) (hN : N (w₀.settings.expirationQueue .claim))
    (taskId : TaskId) (runId : UInt32) (takenUntil : Instant) :
    ⦃fun w => ⌜Kept t N w₀ w⌝⦄ Expiration.putClaim taskId runId takenUntil
      ⦃post⟨fun _ w => ⌜Kept t N w₀ w⌝, fun _ w => ⌜Kept t N w₀ w⌝, fun _ => ⌜True⌝⟩⦄
  := by
  mvcgen [Expiration.putClaim]
  all_goals grind [Kept.trans, Kept.refl]

@[spec]
theorem Expiration.putDeadline_kept (ht : t .deadline) (hN : N (w₀.settings.expirationQueue .deadline))
    (taskId : TaskId) (groupId schedulerId : String) (deadline : Instant) :
    ⦃fun w => ⌜Kept t N w₀ w⌝⦄ Expiration.putDeadline taskId groupId schedulerId deadline
      ⦃post⟨fun _ w => ⌜Kept t N w₀ w⌝, fun _ w => ⌜Kept t N w₀ w⌝, fun _ => ⌜True⌝⟩⦄
  := by
  mvcgen [Expiration.putDeadline]

@[spec]
theorem Expiration.putResolved_kept (ht : t .resolved) (hN : N (w₀.settings.expirationQueue .resolved))
    (taskId : TaskId) (groupId schedulerId : String) (resolution : Resolution) :
    ⦃fun w => ⌜Kept t N w₀ w⌝⦄ Expiration.putResolved taskId groupId schedulerId resolution
      ⦃post⟨fun _ w => ⌜Kept t N w₀ w⌝, fun _ w => ⌜Kept t N w₀ w⌝, fun _ => ⌜True⌝⟩⦄
  := by
  mvcgen [Expiration.putResolved]
  exacts [fun _ _ => ht, fun _ _ => hN]

@[spec]
theorem Expiration.readNotices_kept (queue : String) (ms : List RawMessage) :
    ⦃fun w => ⌜Kept t N w₀ w⌝⦄ Expiration.readNotices kind queue ms
      ⦃⇓? r w => ⌜Kept t N w₀ w ∧ ∀ n ∈ r, n.lease.queue = queue⌝⦄
  := by
  induction ms generalizing w₀ with
  | nil =>
    mvcgen [Expiration.readNotices]
    simpa
  | cons m ms ih =>
    mvcgen [Expiration.readNotices, ih]
    all_goals grind [Kept.trans, Kept.refl]

/-- A poll answers only notices leased from its kind's queue. -/
theorem Expiration.poll_leased (hk : t kind) (hN : N (w₀.settings.expirationQueue kind)) :
    ⦃fun w => ⌜Kept t N w₀ w⌝⦄ Expiration.poll kind
      ⦃post⟨fun r w => ⌜Kept t N w₀ w ∧ ∀ n ∈ r, n.lease.queue = w₀.settings.expirationQueue kind⌝,
        fun _ w => ⌜Kept t N w₀ w⌝, fun _ => ⌜True⌝⟩⦄
  := by
  mvcgen [Expiration.poll]
  all_goals grind [Kept.trans, Kept.refl, → Kept.settings]

@[spec]
theorem Expiration.poll_kept (hk : t kind) (hN : N (w₀.settings.expirationQueue kind)) :
    ⦃fun w => ⌜Kept t N w₀ w⌝⦄ Expiration.poll kind
      ⦃post⟨fun _ w => ⌜Kept t N w₀ w⌝, fun _ w => ⌜Kept t N w₀ w⌝, fun _ => ⌜True⌝⟩⦄
  := by
  intro w hw
  rw [Attempt.wp_apply]
  rcases h : (Expiration.poll kind).run.run w with (e | ⟨(e | r), w'⟩)
  · trivial
  · exact Attempt.of_triple (Expiration.poll_leased w₀ hk hN) hw h
  · exact (Attempt.of_triple (Expiration.poll_leased w₀ hk hN) hw h).1

end Expiration

/-! ### Spawned count refreshes -/

section Spawned

variable (P : World → Prop)

/-- What every refresh that ends and every logged warning keep, a spawned refresh keeps,
whether it ends, fails or halts. -/
theorem Pending.runRefresh_preserves {k : FamilyKey}
    (hrefresh : ∀ w r w', P w → ((Pending.refreshCount k).run).run w = .ok (r, w') → P w')
    (hlog : ∀ w e, P w → P { w with logs := w.logs ++ [Pending.refreshFailedEvent k e] })
    {w : World} (hw : P w) :
    P ((Pending.runRefresh k).run w).2
  := by
  unfold Pending.runRefresh
  rcases h : ((refreshCount k).run).run w with _ | ⟨_ | _, w'⟩ <;>
    simp only [StateT.run_bind, StateT.run_get, pure_bind, h, StateT.run_set, StateT.run_pure]
  · -- a refresh that halts leaves the world as it was
    exact hw
  · exact hlog _ _ (hrefresh w _ w' hw h)
  · exact hrefresh w _ w' hw h

theorem Pending.finishRefresh_preserves {k : FamilyKey}
    (hrefresh : ∀ w r w', P w → ((Pending.refreshCount k).run).run w = .ok (r, w') → P w')
    (hlog : ∀ w e, P w → P { w with logs := w.logs ++ [Pending.refreshFailedEvent k e] })
    (hspawned : ∀ w l, P w → P { w with spawned := l }) {w : World} (hw : P w) :
    P ((Pending.finishRefresh k).run w).2
  := by
  unfold Pending.finishRefresh
  simp only [StateT.run_bind, StateT.run_get, pure_bind]
  split
  · simp only [StateT.run_bind, StateT.run_set, pure_bind]
    exact Pending.runRefresh_preserves P hrefresh hlog (hspawned _ _ hw)
  · exact hw

/-- What every refresh that ends, every logged warning and every change of the spawned
refreshes keep, ending the spawned refreshes keeps. -/
theorem Pending.finishSpawned_preserves
    (hrefresh : ∀ k w r w', P w → ((Pending.refreshCount k).run).run w = .ok (r, w') → P w')
    (hlog : ∀ k w e, P w → P { w with logs := w.logs ++ [Pending.refreshFailedEvent k e] })
    (hspawned : ∀ w l, P w → P { w with spawned := l }) {w : World} (hw : P w) :
    P (Pending.finishSpawned.run w).2
  := by
  unfold Pending.finishSpawned
  simp only [StateT.run_bind, StateT.run_get, pure_bind]
  -- the refreshes end one by one, each in the world the one before left
  generalize w.spawned = ks
  induction ks generalizing w with
  | nil => exact hw
  | cons k ks ih =>
    show P (((Pending.finishRefresh k >>= fun _ => ks.forM Pending.finishRefresh).run w).2)
    simp only [StateT.run_bind]
    exact ih (Pending.finishRefresh_preserves P (hrefresh k) (hlog k) hspawned hw)

end Spawned

/-- Ending the spawned count refreshes keeps what a computation keeps. -/
theorem Pending.finishSpawned_kept (hN : ∀ n, N n) {w : World} (hw : Kept t N w₀ w) :
    Kept t N w₀ (Pending.finishSpawned.run w).2
  := Pending.finishSpawned_preserves (Kept t N w₀)
    (fun k _ _ _ hw hrun => Attempt.kept_of_triple w₀ (Pending.refreshCount_kept w₀ hN k) hw hrun)
    (fun _ _ _ hw => (Kept.records_iff ..).2 hw) (fun _ _ hw => (Kept.records_iff ..).2 hw) hw

/-! ### The sweep and the background loops -/

@[spec]
theorem Sweep.deleteIfUnused_kept (cutoff : Instant) {q : Listing}
    (hN : w₀.link = .store → N q.name) :
    ⦃fun w => ⌜Kept t N w₀ w⌝⦄ Sweep.deleteIfUnused cutoff q
      ⦃post⟨fun _ w => ⌜Kept t N w₀ w⌝, fun _ w => ⌜Kept t N w₀ w⌝, fun _ => ⌜True⌝⟩⦄
  := by
  mvcgen [Sweep.deleteIfUnused]
  all_goals grind [Kept.trans, Kept.refl, → Kept.link_eq]

@[spec]
theorem Sweep.sweepPage_kept (cutoff : Instant) {qs : List Listing}
    (hN : w₀.link = .store → ∀ q ∈ qs, N q.name) :
    ⦃fun w => ⌜Kept t N w₀ w⌝⦄ Sweep.sweepPage cutoff qs ⦃⇓? _ w => ⌜Kept t N w₀ w⌝⦄
  := by
  induction qs generalizing w₀ with
  | nil => mvcgen [Sweep.sweepPage]
  | cons q qs ih =>
    mvcgen [Sweep.sweepPage, ih]
    all_goals grind [Kept.trans, Kept.refl, → Kept.link_eq]

@[spec]
theorem Sweep.sweepPages_kept {stem : String} (hN : ∀ n, n.startsWith stem = true → N n)
    (cutoff : Instant) (fuel : Nat) (marker : Option String) :
    ⦃fun w => ⌜Kept t N w₀ w⌝⦄ Sweep.sweepPages stem cutoff fuel marker
      ⦃post⟨fun _ w => ⌜Kept t N w₀ w⌝, fun _ w => ⌜Kept t N w₀ w⌝, fun _ => ⌜True⌝⟩⦄
  := by
  induction fuel generalizing w₀ marker with
  | zero => mvcgen [Sweep.sweepPages]
  | succ fuel ih =>
    mvcgen [Sweep.sweepPages, ih]
    all_goals grind [Kept.trans, Kept.refl, → Kept.link_eq]

@[spec]
theorem Sweep.run_kept
    (hN : ∀ n, n.startsWith (shardPrefix w₀.settings.stem) = true → N n) (now : Instant) :
    ⦃fun w => ⌜Kept t N w₀ w⌝⦄ Sweep.run now
      ⦃post⟨fun _ w => ⌜Kept t N w₀ w⌝, fun _ w => ⌜Kept t N w₀ w⌝, fun _ => ⌜True⌝⟩⦄
  := by
  mvcgen [Sweep.run, Run.ofHalting_kept]
  case vc6.hN w hw _ _ _ _ =>
    -- the sweep lists under the prefix of the settings it reads, which are kept
    intro n hn
    exact hN n (by rw [← hw.settings]; exact hn)
  all_goals grind [Kept.trans, Kept.refl]

/-- A pass of the sweeping loop keeps what the sweep keeps; a pass that halts changes
nothing. -/
theorem Background.sweepPass_spec
    (hN : ∀ n, n.startsWith (shardPrefix w₀.settings.stem) = true → N n) :
    ⦃fun w => ⌜Kept t N w₀ w⌝⦄ Background.sweepPass ⦃⇓ _ w => ⌜Kept t N w₀ w⌝⦄
  := by
  mvcgen [Background.sweepPass]
  -- a sweep that ends keeps the frame; logging its outcome does too
  rename_i hw _ _ hrun _
  exact (Kept.records_iff ..).2 (Attempt.kept_of_triple w₀ (Sweep.run_kept w₀ hN _) hw hrun)

/-- The weakest precondition of a computation on a world that cannot fail is the
postcondition of its result. -/
theorem wp_state_apply {α : Type} (x : StateT World Id α) (Q : PostCond α (.arg World .pure))
    (w : World) : wp⟦x⟧ Q w = Q.1 (x w).1 (x w).2 := rfl

/-- A pass of the sweeping loop keeps what the sweep keeps. -/
theorem Background.sweepPass_kept
    (hN : ∀ n, n.startsWith (shardPrefix w₀.settings.stem) = true → N n) {w w' : World}
    {alive : Bool} (hw : Kept t N w₀ w)
    (h : (Background.sweepPass w : Id (Bool × World)) = (alive, w')) : Kept t N w₀ w'
  := by
  have hpass := Background.sweepPass_spec w₀ hN w hw
  rw [wp_state_apply, h] at hpass
  exact hpass

@[spec]
theorem Background.start_kept (b : Background) :
    ⦃fun w => ⌜Kept t N w₀ w⌝⦄ b.start ⦃⇓? _ w => ⌜Kept t N w₀ w⌝⦄
  := by
  mvcgen [Background.start]
  all_goals grind [Kept.trans, Kept.refl]

@[spec]
theorem Background.stop_kept (b : Background) :
    ⦃fun w => ⌜Kept t N w₀ w⌝⦄ b.stop ⦃⇓? _ w => ⌜Kept t N w₀ w⌝⦄
  := by
  mvcgen [Background.stop]
  all_goals grind [Kept.trans, Kept.refl]

@[spec]
theorem Background.advance_kept
    (hN : ∀ n, n.startsWith (shardPrefix w₀.settings.stem) = true → N n) (b : Background)
    (ms : Nat) :
    ⦃fun w => ⌜Kept t N w₀ w⌝⦄ b.advance ms ⦃⇓? _ w => ⌜Kept t N w₀ w⌝⦄
  := by
  mvcgen [Background.advance]
  -- the sweeping loop's pass keeps the frame
  all_goals try have := Background.sweepPass_kept w₀ hN (by assumption) (by assumption)
  all_goals grind [Kept.trans, Kept.refl]

end TaskQueue
