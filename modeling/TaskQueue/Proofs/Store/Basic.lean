import Mathlib
import TaskQueue.Store.Calls
import TaskQueue.Proofs.Instant

/-!
# The table of queues

A store keeps its queues in a list of named entries.  Setting a queue (`Store.put`) and
removing one (`Store.erase`) act on one name and leave every other name's queue as it was
(`find?_put`, `find?_erase`), and both keep the names in strictly increasing order, the
order a listing walks (`Sorted`, `Sorted.put`, `Sorted.erase`).

Counting a call (`Store.enter`) and drawing an id or a receipt (`Store.nextId`,
`Store.nextReceipt`) change only the counters, so they leave the table alone.  A call that
no failure rule matches is let through (`enter_of_consume`).

A duration the store adds to an instant is the duration itself when it fits a span
(`storeSpan_ofSeconds`), and never negative (`storeSpan_nonneg`).
-/

namespace TaskQueue

open Time

namespace Store

/-! ### Setting and removing queues -/

theorem lookup_cons_ite (l : List (String × StoredQueue)) (k k' : String)
    (v : StoredQueue) :
  ((k, v) :: l).lookup k' = if k' = k then some v else l.lookup k'
  := by
  by_cases h : k' = k
  · subst h
    simp
  · simp [List.lookup, beq_eq_false_iff_ne.mpr h, h]

theorem lookup_insertQueue (l : List (String × StoredQueue)) (k : String) (v : StoredQueue)
    (k' : String) :
  (insertQueue l k v).lookup k' = if k' = k then some v else l.lookup k'
  := by
  induction l with
  | nil => simp [insertQueue, lookup_cons_ite]
  | cons p rest ih =>
    obtain ⟨k₀, v₀⟩ := p
    unfold insertQueue
    by_cases hlt : k < k₀
    · rw [if_pos hlt, lookup_cons_ite]
    · by_cases hk : k = k₀
      · -- the queue of that name is replaced
        subst hk
        rw [if_neg hlt, if_pos rfl, lookup_cons_ite, lookup_cons_ite]
        by_cases he : k' = k <;> simp [he]
      · -- the new queue goes after `k₀`, a different name
        rw [if_neg hlt, if_neg hk, lookup_cons_ite, ih, lookup_cons_ite]
        by_cases he : k' = k
        · subst he
          simp [hk]
        · simp [he]

@[simp]
theorem find?_put (s : Store) (n : String) (q : StoredQueue) (n' : String) :
  (s.put n q).find? n' = if n' = n then some q else s.find? n'
  := lookup_insertQueue s.queues n q n'

@[simp]
theorem find?_erase (s : Store) (n n' : String) :
  (s.erase n).find? n' = if n' = n then none else s.find? n'
  := by
  unfold erase find?
  generalize s.queues = l
  induction l with
  | nil => simp
  | cons p rest ih =>
    obtain ⟨k, v⟩ := p
    by_cases hk : k = n
    · subst hk
      simp only [List.filter_cons, bne_self_eq_false, Bool.false_eq_true, if_false, ih,
        lookup_cons_ite]
      by_cases he : n' = k <;> simp [he]
    · simp only [List.filter_cons, bne_iff_ne, ne_eq, hk, not_false_eq_true, if_true,
        lookup_cons_ite, ih]
      by_cases he : n' = n
      · subst he
        simp [Ne.symm hk]
      · simp [he]

@[simp]
theorem put_issuedIds (s : Store) (n : String) (q : StoredQueue) :
  (s.put n q).issuedIds = s.issuedIds
  := rfl

@[simp]
theorem put_issuedReceipts (s : Store) (n : String) (q : StoredQueue) :
  (s.put n q).issuedReceipts = s.issuedReceipts
  := rfl

theorem put_rules (s : Store) (n : String) (q : StoredQueue) :
  (s.put n q).rules = s.rules
  := rfl

@[simp]
theorem erase_issuedIds (s : Store) (n : String) :
  (s.erase n).issuedIds = s.issuedIds
  := rfl

@[simp]
theorem erase_issuedReceipts (s : Store) (n : String) :
  (s.erase n).issuedReceipts = s.issuedReceipts
  := rfl

theorem insertQueue_insertQueue (l : List (String × StoredQueue)) (k : String)
    (v v' : StoredQueue) :
  insertQueue (insertQueue l k v) k v' = insertQueue l k v'
  := by
  induction l with
  | nil => simp [insertQueue]
  | cons p rest ih =>
    obtain ⟨k₀, v₀⟩ := p
    unfold insertQueue
    by_cases hlt : k < k₀
    · simp [insertQueue, hlt]
    · by_cases hk : k = k₀
      · subst hk
        simp [insertQueue]
      · simp [insertQueue, hlt, hk, ih]

/-- Setting a queue twice keeps the second. -/
@[simp]
theorem put_put (s : Store) (n : String) (q q' : StoredQueue) :
  (s.put n q).put n q' = s.put n q'
  := by
  simp [put, insertQueue_insertQueue]

/-- Only the table of a store tells its queues. -/
@[simp]
theorem find?_mk (qs : List (String × StoredQueue)) (ids receipts : Nat)
    (calls : Operation → Nat) (rules : List FailureRule) (pageSize : Nat) (n : String) :
  (Store.mk qs ids receipts calls rules pageSize).find? n = qs.lookup n
  := rfl

@[simp]
theorem lookup_queues (s : Store) (n : String) :
  s.queues.lookup n = s.find? n
  := rfl

theorem exists?_iff (s : Store) (n : String) :
  s.exists? n = true ↔ ∃ q, s.find? n = some q
  := by
  simp [exists?, Option.isSome_iff_exists]

/-! ### Sorted names -/

/-- The names of the table are strictly increasing. -/
def Sorted (s : Store) : Prop :=
  s.names.Pairwise (· < ·)

theorem names_insertQueue_mem (l : List (String × StoredQueue)) (k : String)
    (v : StoredQueue) (x : String) :
  x ∈ (insertQueue l k v).map (·.1) ↔ x = k ∨ x ∈ l.map (·.1)
  := by
  induction l with
  | nil => simp [insertQueue]
  | cons p rest ih =>
    obtain ⟨k₀, v₀⟩ := p
    unfold insertQueue
    split_ifs with hlt hk
    · simp
    · subst hk
      simp
    · simp only [List.map_cons, List.mem_cons, ih]
      tauto

theorem pairwise_insertQueue {l : List (String × StoredQueue)} (k : String) (v : StoredQueue)
    (h : (l.map (·.1)).Pairwise (· < ·)) :
  ((insertQueue l k v).map (·.1)).Pairwise (· < ·)
  := by
  induction l with
  | nil => simp [insertQueue]
  | cons p rest ih =>
    obtain ⟨k₀, v₀⟩ := p
    rw [List.map_cons, List.pairwise_cons] at h
    obtain ⟨hhead, hrest⟩ := h
    unfold insertQueue
    split_ifs with hlt hk
    · -- the new name goes first: it is below `k₀`, so below all the rest
      simp only [List.map_cons, List.pairwise_cons, List.mem_cons]
      refine ⟨?_, hhead, hrest⟩
      rintro x (rfl | hx)
      · exact hlt
      · exact lt_trans hlt (hhead x hx)
    · subst hk
      simpa using And.intro hhead hrest
    · -- the new name goes after `k₀`, which is below it
      have hgt : k₀ < k := lt_of_le_of_ne (not_lt.1 hlt) (Ne.symm hk)
      simp only [List.map_cons, List.pairwise_cons]
      refine ⟨?_, ih hrest⟩
      intro x hx
      rcases (names_insertQueue_mem rest k v x).1 hx with rfl | hx
      · exact hgt
      · exact hhead x hx

theorem Sorted.put {s : Store} (h : s.Sorted) (n : String) (q : StoredQueue) :
  (s.put n q).Sorted
  := pairwise_insertQueue n q h

theorem Sorted.erase {s : Store} (h : s.Sorted) (n : String) :
  (s.erase n).Sorted
  := by
  unfold Sorted names Store.erase at *
  exact h.sublist (List.filter_sublist.map _)

/-! ### Tables with increasing names

A table whose names increase is determined by what each name finds.
-/

section Table

variable {l l₁ l₂ : List (String × StoredQueue)}

/-- In a table with increasing names, each entry is what its name finds. -/
theorem lookup_of_mem (hl : (l.map (·.1)).Pairwise (· < ·)) {e : String × StoredQueue}
    (he : e ∈ l) :
  l.lookup e.1 = some e.2
  := by
  induction l with
  | nil => simp at he
  | cons p rest ih =>
    obtain ⟨k, v⟩ := p
    rw [List.map_cons, List.pairwise_cons] at hl
    rcases List.mem_cons.1 he with rfl | he
    · simp
    · -- a later entry has a larger name than the head
      have hne : e.1 ≠ k := ne_of_gt (hl.1 e.1 (List.mem_map_of_mem he))
      rw [lookup_cons_ite, if_neg hne]
      exact ih hl.2 he

/-- A name below all the names of a table finds nothing. -/
theorem lookup_eq_none_of_lt {n : String} (h : ∀ m ∈ l.map (·.1), n < m) :
  l.lookup n = none
  := by
  rw [List.lookup_eq_none_iff]
  intro p hp
  simpa using ne_of_lt (h p.1 (List.mem_map_of_mem hp))

/-- Filtering a table by names keeps what the kept names find. -/
theorem lookup_filter (P : String → Bool) (n : String) :
  (l.filter fun e => P e.1).lookup n = if P n then l.lookup n else none
  := by
  induction l with
  | nil => simp
  | cons p rest ih =>
    obtain ⟨k, v⟩ := p
    by_cases hk : P k
    · simp only [List.filter_cons, hk, if_true]
      rw [lookup_cons_ite, lookup_cons_ite, ih]
      by_cases hn : n = k
      · subst hn
        simp [hk]
      · simp [hn]
    · simp only [List.filter_cons, hk, Bool.false_eq_true, if_false]
      rw [ih, lookup_cons_ite]
      by_cases hn : n = k
      · subst hn
        simp [hk]
      · simp [hn]

/-- Two tables with increasing names that find the same under every name are equal. -/
theorem eq_of_lookup_eq (h₁ : (l₁.map (·.1)).Pairwise (· < ·))
    (h₂ : (l₂.map (·.1)).Pairwise (· < ·)) (h : ∀ n, l₁.lookup n = l₂.lookup n) :
  l₁ = l₂
  := by
  induction l₁ generalizing l₂ with
  | nil =>
    cases l₂ with
    | nil => rfl
    | cons p r =>
      have hp := h p.1
      rw [lookup_of_mem h₂ List.mem_cons_self] at hp
      simp at hp
  | cons p₁ r₁ ih =>
    cases l₂ with
    | nil =>
      have hp := h p₁.1
      rw [lookup_of_mem h₁ List.mem_cons_self] at hp
      simp at hp
    | cons p₂ r₂ =>
      obtain ⟨k₁, v₁⟩ := p₁
      obtain ⟨k₂, v₂⟩ := p₂
      rw [List.map_cons, List.pairwise_cons] at h₁ h₂
      -- the first names are the least, so the heads are one entry
      have hk : k₁ = k₂ := by
        by_contra hne
        rcases lt_or_gt_of_ne hne with hlt | hlt
        · have hp := h k₁
          rw [lookup_cons_ite, if_pos rfl, lookup_cons_ite, if_neg hne,
            lookup_eq_none_of_lt fun m hm => lt_trans hlt (h₂.1 m hm)] at hp
          simp at hp
        · have hp := h k₂
          rw [lookup_cons_ite, if_neg (Ne.symm hne), lookup_cons_ite, if_pos rfl,
            lookup_eq_none_of_lt fun m hm => lt_trans hlt (h₁.1 m hm)] at hp
          simp at hp
      subst hk
      have hv : v₁ = v₂ := by simpa [lookup_cons_ite] using h k₁
      subst hv
      congr 1
      apply ih h₁.2 h₂.2
      intro n
      by_cases hn : n = k₁
      · subst hn
        rw [lookup_eq_none_of_lt h₁.1, lookup_eq_none_of_lt h₂.1]
      · simpa [lookup_cons_ite, hn] using h n

end Table

/-! ### Counting calls and drawing ids -/

@[simp]
theorem consume_nil (op : Operation) (queue : String) :
  FailureRule.consume op queue [] = none
  := rfl

/-- Counting a call changes the call counts and, when a rule fires, the rules; nothing
else. -/
theorem enter_snd (s : Store) (op : Operation) (queue : String) :
  (s.enter op queue).2 = { s with
    calls := fun o => if o = op then s.calls o + 1 else s.calls o,
    rules := (FailureRule.consume op queue s.rules).getD s.rules }
  := by
  unfold enter
  dsimp only
  cases FailureRule.consume op queue s.rules <;> rfl

/-- Counting a call adds one to its operation's count. -/
theorem enter_calls (s : Store) (op : Operation) (queue : String) (o : Operation) :
  (s.enter op queue).2.calls o = if o = op then s.calls o + 1 else s.calls o
  := by
  rw [enter_snd]

@[simp]
theorem put_calls (s : Store) (n : String) (q : StoredQueue) :
  (s.put n q).calls = s.calls
  := rfl

@[simp]
theorem enter_queues (s : Store) (op : Operation) (queue : String) :
  (s.enter op queue).2.queues = s.queues
  := by
  rw [enter_snd]

@[simp]
theorem enter_issuedIds (s : Store) (op : Operation) (queue : String) :
  (s.enter op queue).2.issuedIds = s.issuedIds
  := by
  rw [enter_snd]

@[simp]
theorem enter_issuedReceipts (s : Store) (op : Operation) (queue : String) :
  (s.enter op queue).2.issuedReceipts = s.issuedReceipts
  := by
  rw [enter_snd]

@[simp]
theorem enter_pageSize (s : Store) (op : Operation) (queue : String) :
  (s.enter op queue).2.pageSize = s.pageSize
  := by
  rw [enter_snd]

@[simp]
theorem find?_enter (s : Store) (op : Operation) (queue n : String) :
  (s.enter op queue).2.find? n = s.find? n
  := by
  rw [enter_snd]
  rfl

/-- With no failure rule, counting a call leaves none. -/
theorem enter_rules_nil {s : Store} (h : s.rules = []) (op : Operation) (queue : String) :
  (s.enter op queue).2.rules = []
  := by
  rw [enter_snd, h]
  rfl

/-- A call that no rule matches is let through. -/
theorem enter_of_consume {s : Store} {op : Operation} {queue : String}
    (h : FailureRule.consume op queue s.rules = none) :
  s.enter op queue = (.ok (), (s.enter op queue).2)
  := by
  unfold enter
  simp [h]

/-- A call that a rule matches fails with the injected fault. -/
theorem enter_of_consume_some {s : Store} {op : Operation} {queue : String}
    {rules : List FailureRule} (h : FailureRule.consume op queue s.rules = some rules) :
  s.enter op queue = (.error (injected op queue), (s.enter op queue).2)
  := by
  unfold enter
  simp [h]

@[simp]
theorem nextId_snd (s : Store) :
  s.nextId.2 = { s with issuedIds := s.issuedIds + 1 }
  := rfl

@[simp]
theorem nextReceipt_snd (s : Store) :
  s.nextReceipt.2 = { s with issuedReceipts := s.issuedReceipts + 1 }
  := rfl

theorem need_eq (s : Store) (name : String) :
  s.need name = match s.find? name with
    | some q => .ok q
    | none => .error (.queueNotFound name)
  := rfl

end Store

/-! ### Durations the store adds -/

/-- Whole seconds that fit a span are added as they are. -/
theorem Time.Duration.storeSpan_ofSeconds {n : Nat} (h : n ≤ 9223372036854775) :
  (Duration.ofSeconds n).storeSpan = Span.ofSeconds n
  := by
  unfold Duration.storeSpan Duration.toSpan?
  rw [if_pos]
  · rfl
  · simp only [Duration.seconds, Duration.ofSeconds, Span.maxNanos, Span.maxMillis,
      nanosPerSecond]
    omega

/-- The store never adds a negative span. -/
theorem Time.Duration.storeSpan_nonneg (d : Duration) :
  0 ≤ d.storeSpan.nanos
  := by
  unfold Duration.storeSpan Duration.toSpan?
  split_ifs
  · simp
  · simp [Span.ofDays, Span.ofSeconds, nanosPerSecond]

end TaskQueue
