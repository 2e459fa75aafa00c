import TaskQueue.Proofs.Names
import TaskQueue.Proofs.Pending.Service
import TaskQueue.Proofs.Service.Isolation
import Mathlib

/-!
# Shard names are injective

A shard name is its stem followed by 52 characters: a hyphen, the 24-character digest of
the provisioner id, a hyphen, the digest of the worker type, a hyphen and the priority's
tag.  Since that tail has a fixed length, a shard name gives back its stem, whatever
hyphens the stem holds, and its three parts (`shardName_eq_shardName`).  So where the
digests of the identifiers in use do not collide, two queues share a name only when they
are the queue of one stem, family and priority (`shard_names_injective`).
-/

namespace TaskQueue

/-- The 52 characters after the stem of a shard name. -/
theorem shardName_tail_length (p : ProvisionerId) (wt : WorkerType) (r : Priority) :
  ('-' :: ((hashIdentifier p.val).toList ++ '-' ::
    ((hashIdentifier wt.val).toList ++ ['-', r.tag]))).length = 52
  := by
  simp [hashIdentifier_length]

/-- Equal shard names have one stem, equal digests and one priority. -/
theorem shardName_eq_shardName {stem₁ stem₂ : String} {p₁ p₂ : ProvisionerId}
    {w₁ w₂ : WorkerType} {r₁ r₂ : Priority}
    (h : shardName stem₁ p₁ w₁ r₁ = shardName stem₂ p₂ w₂ r₂) :
  stem₁ = stem₂ ∧ hashIdentifier p₁.val = hashIdentifier p₂.val ∧
    hashIdentifier w₁.val = hashIdentifier w₂.val ∧ r₁ = r₂
  := by
  have hl := congrArg String.toList h
  rw [shardName_toList, shardName_toList] at hl
  -- the tails have one length, so the stems are cut at one place
  obtain ⟨hstem, htail⟩ := List.append_inj' hl
    ((shardName_tail_length p₁ w₁ r₁).trans (shardName_tail_length p₂ w₂ r₂).symm)
  simp only [List.cons.injEq, true_and] at htail
  obtain ⟨hp, htail⟩ := List.append_inj htail
    ((hashIdentifier_length p₁.val).trans (hashIdentifier_length p₂.val).symm)
  simp only [List.cons.injEq, true_and] at htail
  obtain ⟨hw, htag⟩ := List.append_inj htail
    ((hashIdentifier_length w₁.val).trans (hashIdentifier_length w₂.val).symm)
  simp only [List.cons.injEq, true_and, and_true] at htag
  exact ⟨String.toList_inj.1 hstem, String.toList_inj.1 hp, String.toList_inj.1 hw,
    Priority.tag_injective htag⟩

/-- The queue of a priority in a family comes with the priority, in the polling order. -/
theorem zip_familyNames (stem : String) (p : ProvisionerId) (wt : WorkerType) :
  Priority.all.zip (familyNames stem p wt) = Priority.all.map fun r => (r, shardName stem p wt r)
  := by
  simp [familyNames, Priority.all]

/-- Shard naming is injective: equal shard names have one stem, equal digests and one
priority, and every shard name starts with its stem's prefix.  So when the digests of the
identifiers in use do not collide, two queues of different (provisioner id, worker type,
priority) triples never share a name, and a family's seven queues have distinct names, the
queue of each priority at its index, in the polling order. -/
theorem shard_names_injective (stem₁ stem₂ : String) (p₁ p₂ : ProvisionerId)
    (w₁ w₂ : WorkerType) (r₁ r₂ : Priority) :
  (shardName stem₁ p₁ w₁ r₁ = shardName stem₂ p₂ w₂ r₂ →
      stem₁ = stem₂ ∧ hashIdentifier p₁.val = hashIdentifier p₂.val ∧
        hashIdentifier w₁.val = hashIdentifier w₂.val ∧ r₁ = r₂) ∧
    (shardName stem₁ p₁ w₁ r₁).startsWith (shardPrefix stem₁) = true ∧
    ((hashIdentifier p₁.val = hashIdentifier p₂.val → p₁ = p₂) →
      (hashIdentifier w₁.val = hashIdentifier w₂.val → w₁ = w₂) →
      (p₁, w₁, r₁) ≠ (p₂, w₂, r₂) → shardName stem₁ p₁ w₁ r₁ ≠ shardName stem₁ p₂ w₂ r₂) ∧
    ((familyNames stem₁ p₁ w₁).length = 7 ∧ (familyNames stem₁ p₁ w₁).Nodup ∧
      (∀ r, (familyNames stem₁ p₁ w₁)[r.index]? = some (shardName stem₁ p₁ w₁ r)) ∧
      Priority.all.zip (familyNames stem₁ p₁ w₁) =
        Priority.all.map fun r => (r, shardName stem₁ p₁ w₁ r))
  := by
  refine ⟨shardName_eq_shardName, shardName_startsWith stem₁ p₁ w₁ r₁, ?_,
    familyNames_length stem₁ p₁ w₁, familyNames_nodup stem₁ p₁ w₁,
    familyNames_getElem? stem₁ p₁ w₁, zip_familyNames stem₁ p₁ w₁⟩
  intro hp hw hne heq
  obtain ⟨-, hph, hwh, hr⟩ := shardName_eq_shardName heq
  exact hne (by rw [hp hph, hw hwh, hr])

/-- Under the stem `pq`, the highest and the lowest queue of one family have different
names. -/
theorem highest_and_lowest_shards_differ :
  shardName "pq" ⟨"p1", by decide⟩ ⟨"w1", by decide⟩ .highest ≠
    shardName "pq" ⟨"p1", by decide⟩ ⟨"w1", by decide⟩ .lowest
  := (shard_names_injective "pq" "pq" ⟨"p1", by decide⟩ ⟨"p1", by decide⟩ ⟨"w1", by decide⟩
    ⟨"w1", by decide⟩ .highest .lowest).2.2.1 (fun _ => rfl) (fun _ => rfl) (by decide)

end TaskQueue
