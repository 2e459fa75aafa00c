import TaskQueue.Proofs.Service.Reporting
import Mathlib

/-!
# Error contexts are ordered maps

`withContext` keeps the context of a `QueueError` as an ordered map: setting a key that is
there replaces its value in place, setting a new key adds it last.  Every error built from a
kind and a message, from a fault, and by setting keys on those has distinct keys
(`QueueError.Built.nodup_keys`).  Setting any list of pairs onto such an error, one after
the other (`withContext_fold_ordered_map`), keeps its keys where they were, adds the new keys
after them in the order they first occur, and leaves each key with the last value written
for it; `contextValue?` and `render` read that list.  This is what lets the layers of the
service set `queue` and `note` again on an error they pass on: the first writer fixes where
a key is shown, the last one what it shows.

One `Context.set` is described by its keys (`keys_set`) and its values (`get?_set`); a fold
of sets follows by induction over the pairs (`keys_foldl_set`, `get?_foldl_set`).
-/

namespace TaskQueue

namespace Context

private theorem removeAll_append_singleton (l ks : List String) (k : String) :
  l.removeAll (ks ++ [k]) = (l.removeAll ks).filter (fun b => !b == k)
  := by
  simp only [List.removeAll, List.filter_filter]
  apply List.filter_congr
  intro x _
  by_cases h : x = k <;> simp [h]

/-- The keys of a context, in order. -/
def keys (c : Context) : List String :=
  c.map Prod.fst

@[simp]
theorem keys_nil :
  keys [] = []
  := rfl

@[simp]
theorem keys_cons (k v : String) (c : Context) :
  keys ((k, v) :: c) = k :: c.keys
  := rfl

/-- Setting a key keeps the keys when it is one of them, and adds it last otherwise. -/
theorem keys_set (c : Context) (k v : String) :
  (c.set k v).keys = if k ∈ c.keys then c.keys else c.keys ++ [k]
  := by
  induction c with
  | nil => simp [Context.set]
  | cons kv c ih =>
    obtain ⟨k', v'⟩ := kv
    by_cases h : k' = k
    · simp [Context.set, h]
    · have h' : k ≠ k' := Ne.symm h
      simp only [Context.set, h, if_false, keys_cons, ih, List.mem_cons, h', false_or]
      split <;> simp

theorem nodup_keys_set {c : Context} (h : c.keys.Nodup) (k v : String) :
  (c.set k v).keys.Nodup
  := by
  rw [keys_set]
  split
  · exact h
  · rename_i hk
    rw [← List.concat_eq_append, List.nodup_concat]
    exact ⟨hk, h⟩

/-- In a context with distinct keys, a key has a value exactly when the context holds the
pair of the two. -/
theorem get?_eq_some_iff {c : Context} (h : c.keys.Nodup) {k v : String} :
  c.get? k = some v ↔ (k, v) ∈ c
  := by
  induction c with
  | nil => simp [Context.get?]
  | cons kv c ih =>
    obtain ⟨k', v'⟩ := kv
    rw [keys_cons, List.nodup_cons] at h
    rw [get?_cons]
    by_cases hk : k' = k
    · subst hk
      have hnot : (k', v) ∉ c := fun hm => h.1 (List.mem_map_of_mem (f := Prod.fst) hm)
      simp [hnot, eq_comm]
    · simp [hk, ih h.2, Ne.symm hk]

/-! ### Setting pairs one after the other -/

/-- The keys after setting pairs one after the other: the keys held before, then the new
keys in the order they first occur. -/
theorem keys_foldl_set (c : Context) (ps : List (String × String)) :
  (ps.foldl (fun c kv => c.set kv.1 kv.2) c).keys
    = c.keys ++ ((ps.map Prod.fst).removeAll c.keys).eraseDups
  := by
  induction ps generalizing c with
  | nil => simp [List.removeAll]
  | cons kv ps ih =>
    obtain ⟨k, v⟩ := kv
    rw [List.foldl_cons, ih, keys_set]
    by_cases hk : k ∈ c.keys
    · simp [hk, List.removeAll]
    · -- a new key goes after the old ones, and its later occurrences are dropped
      rw [if_neg hk, removeAll_append_singleton]
      simp [List.removeAll, hk, List.eraseDups_cons]

theorem nodup_keys_foldl_set {c : Context} (h : c.keys.Nodup) (ps : List (String × String)) :
  (ps.foldl (fun c kv => c.set kv.1 kv.2) c).keys.Nodup
  := by
  induction ps generalizing c with
  | nil => exact h
  | cons kv ps ih => exact ih (nodup_keys_set h kv.1 kv.2)

/-- After setting pairs one after the other, a key has the last value set for it, or else
the value it had. -/
theorem get?_foldl_set (c : Context) (ps : List (String × String)) (k : String) :
  (ps.foldl (fun c kv => c.set kv.1 kv.2) c).get? k = (ps.reverse.lookup k).or (c.get? k)
  := by
  induction ps generalizing c with
  | nil => simp
  | cons kv ps ih =>
    obtain ⟨k', v'⟩ := kv
    rw [List.foldl_cons, ih, get?_set, List.reverse_cons, List.lookup_append, Option.or_assoc]
    by_cases h : k' = k
    · subst h
      simp [List.lookup]
    · simp [List.lookup, h, beq_false_of_ne (Ne.symm h)]

end Context

namespace QueueError

/-- The errors a caller can build: of a kind with a message, from a fault, and by setting
a context key on one of these. -/
inductive Built : QueueError → Prop
  | make (kind : ErrorKind) (message : String) : Built (make kind message)
  | ofFault (f : Fault) : Built (ofFault f)
  | withContext {e : QueueError} (h : Built e) (key value : String) :
      Built (e.withContext key value)

theorem Built.nodup_keys {e : QueueError} (h : e.Built) :
  e.context.keys.Nodup
  := by
  induction h with
  | make => exact List.nodup_nil
  | ofFault f =>
    cases hq : f.queue? <;> simp [QueueError.ofFault, hq, QueueError.withContext, Context.set]
  | withContext _ k v ih => exact Context.nodup_keys_set ih k v

/-- Setting pairs one after the other changes only the context, as setting them on the
context does. -/
theorem foldl_withContext (e : QueueError) (ps : List (String × String)) :
  ps.foldl (fun e kv => e.withContext kv.1 kv.2) e
    = { e with context := ps.foldl (fun c kv => c.set kv.1 kv.2) e.context }
  := by
  induction ps generalizing e with
  | nil => rfl
  | cons kv ps ih => exact ih (e.withContext kv.1 kv.2)

/-- The text of an error: its message and kind, then ` key=value` for each entry. -/
theorem render_eq (e : QueueError) :
  e.render = e.message ++ " (kind: " ++ e.kind.name ++ ")" ++
    String.join (e.context.map fun kv => " " ++ kv.1 ++ "=" ++ kv.2)
  := by
  rw [render]
  generalize e.message ++ " (kind: " ++ e.kind.name ++ ")" = init
  generalize e.context = c
  -- `render` appends each entry to the text so far: induction over the entries, that text free
  induction c generalizing init with
  | nil => simp
  | cons kv c ih =>
    rw [List.foldl_cons, ih]
    simp only [List.map_cons, String.join_cons, String.append_assoc]

/-- `e'` is `e` with the pairs `ps` set one after the other, read as an ordered map: its
keys are distinct, those of `e` in their places and then the new ones in the order they
first occur; each key holds the last value written for it, by `ps` or else by `e`; and
`contextValue?` and `render` read that list. -/
structure OrderedUpdate (e : QueueError) (ps : List (String × String)) (e' : QueueError) :
    Prop where
  nodup : e'.context.keys.Nodup
  keys : e'.context.keys
    = e.context.keys ++ ((ps.map Prod.fst).removeAll e.context.keys).eraseDups
  mem_iff : ∀ k v, (k, v) ∈ e'.context ↔ (ps.reverse.lookup k).or (e.contextValue? k) = some v
  contextValue? : ∀ k, e'.contextValue? k = (ps.reverse.lookup k).or (e.contextValue? k)
  render : e'.render = e.message ++ " (kind: " ++ e.kind.name ++ ")" ++
    String.join (e'.context.map fun kv => " " ++ kv.1 ++ "=" ++ kv.2)

end QueueError

/-- Every error a caller can build keeps its context as an ordered map, whatever pairs are
then set on it one after the other. -/
theorem withContext_fold_ordered_map {e : QueueError} (he : e.Built)
    (ps : List (String × String)) :
  e.OrderedUpdate ps (ps.foldl (fun e kv => e.withContext kv.1 kv.2) e)
  := by
  rw [QueueError.foldl_withContext]
  have hnodup := Context.nodup_keys_foldl_set he.nodup_keys ps
  have hvalue := Context.get?_foldl_set e.context ps
  refine ⟨hnodup, Context.keys_foldl_set e.context ps, ?_, hvalue, QueueError.render_eq _⟩
  intro k v
  rw [← Context.get?_eq_some_iff hnodup]
  exact Eq.congr_left (hvalue k)

/-- An error of a missing queue, passed on with a note, then with another queue and a
second note. -/
theorem fault_context_ordered_update :
  (QueueError.ofFault (.queueNotFound "q1")).Built ∧
  (QueueError.ofFault (.queueNotFound "q1")).OrderedUpdate
    [("note", "first"), ("queue", "q2"), ("note", "second")]
    ([("note", "first"), ("queue", "q2"), ("note", "second")].foldl
      (fun e kv => e.withContext kv.1 kv.2) (QueueError.ofFault (.queueNotFound "q1")))
  := ⟨.ofFault _, withContext_fold_ordered_map (.ofFault _) _⟩

example :
  (((QueueError.validation "bad task").withContext "queue" "q1").withContext "note" "first"
    |>.withContext "note" "second").render = "bad task (kind: validation) queue=q1 note=second"
  := by decide

end TaskQueue
