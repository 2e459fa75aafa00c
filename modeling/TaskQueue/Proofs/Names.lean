import TaskQueue.Proofs.Base32
import Mathlib

/-!
# Shard names and the rules of queue names

A shard name is its stem, then three parts each after a hyphen: the digest of the
provisioner id, the digest of the worker type, and the priority's tag.  A digest is 24
characters of `[a-z2-7]` (`hashIdentifier_length`, `isLowerAlnum_of_mem_hashIdentifier`)
and a tag is a digit, so a shard name is 52 bytes longer than its stem
(`utf8ByteSize_shardName`), and past the stem every hyphen stands between a letter or digit
and another.

Under a stem that validates, a shard name therefore meets every rule of queue names but
the hyphen rules, which it meets exactly when the stem does not end with a hyphen and has
no two in a row (`isQueueName_shardName`).  The stem check does not ask for that: `pq-`
validates, and every shard name under it starts with `pq--`
(`hyphen_ended_stem_names_refused`).
-/

namespace TaskQueue

/-! ### Digests -/

namespace Base32

theorem isLowerAlnum_digit {v : Nat} (hv : v < 32) :
  isLowerAlnum (digit v) = true
  := by
  have key : ∀ v < 32, isLowerAlnum (digit v) = true := by decide
  exact key v hv

/-- Base32 text is lowercase letters and digits. -/
theorem isLowerAlnum_of_mem_encode {bs : List UInt8} {c : Char} (hc : c ∈ encode bs) :
  isLowerAlnum c = true
  := by
  rw [encode_eq, List.mem_map] at hc
  obtain ⟨i, -, rfl⟩ := hc
  exact isLowerAlnum_digit (fiveBits_lt bs _)

end Base32

theorem isLowerAlnum_of_mem_hashIdentifier {s : String} {c : Char}
    (hc : c ∈ (hashIdentifier s).toList) :
  isLowerAlnum c = true
  := by
  rw [hashIdentifier, String.toList_ofList] at hc
  exact Base32.isLowerAlnum_of_mem_encode hc

/-- A digest starts with a letter or digit and has no hyphen. -/
theorem hashIdentifier_cons (s : String) :
  ∃ c cs, (hashIdentifier s).toList = c :: cs ∧ ∀ d ∈ c :: cs, d ≠ '-'
  := by
  have hlen := hashIdentifier_length s
  have hne : ∀ d ∈ (hashIdentifier s).toList, d ≠ '-' := by
    intro d hd hdash
    have := isLowerAlnum_of_mem_hashIdentifier hd
    rw [hdash] at this
    exact absurd this (by decide)
  cases hl : (hashIdentifier s).toList with
  | nil => simp [hl] at hlen
  | cons c cs =>
    rw [hl] at hne
    exact ⟨c, cs, rfl, hne⟩

theorem Priority.isDigit_tag (r : Priority) :
  r.tag.isDigit = true
  := by
  cases r <;> decide

/-! ### Lengths -/

/-- A character of a queue name is one byte long. -/
theorem utf8Size_of_isNameChar {c : Char} (h : isNameChar c = true) :
  c.utf8Size = 1
  := by
  rw [Char.utf8Size_eq_one_iff]
  simp only [isNameChar, isLowerAlnum, Char.isLower, Char.isDigit, Bool.or_eq_true,
    Bool.and_eq_true, decide_eq_true_eq, beq_iff_eq] at h
  rcases h with (⟨-, h⟩ | ⟨-, h⟩) | rfl
  · exact Nat.le_trans h (by decide)
  · exact Nat.le_trans h (by decide)
  · decide

/-- A text of queue-name characters has one byte per character. -/
theorem utf8Len_of_forall_isNameChar {l : List Char} (h : ∀ c ∈ l, isNameChar c = true) :
  String.utf8Len l = l.length
  := by
  induction l with
  | nil => rfl
  | cons c l ih =>
    rw [String.utf8Len_cons, ih fun d hd => h d (.tail _ hd),
      utf8Size_of_isNameChar (h c (.head _)), List.length_cons]

theorem isNameChar_of_isLowerAlnum {c : Char} (h : isLowerAlnum c = true) :
  isNameChar c = true
  := by
  simp [isNameChar, h]

theorem utf8ByteSize_hashIdentifier (s : String) :
  (hashIdentifier s).utf8ByteSize = 24
  := by
  rw [← String.utf8Len_toList, utf8Len_of_forall_isNameChar fun c hc =>
    isNameChar_of_isLowerAlnum (isLowerAlnum_of_mem_hashIdentifier hc), hashIdentifier_length]

/-! ### Shard names -/

section Shard

variable (stem : String) (p : ProvisionerId) (wt : WorkerType) (r : Priority)

/-- The characters of a shard name: the stem, then the two digests and the tag, each after
a hyphen. -/
theorem shardName_toList :
  (shardName stem p wt r).toList =
    stem.toList ++ '-' :: ((hashIdentifier p.val).toList ++ '-' ::
      ((hashIdentifier wt.val).toList ++ ['-', r.tag]))
  := by
  simp [shardName]

/-- A shard name has the characters of queue names when its stem has. -/
theorem shardName_all_isNameChar (hall : stem.toList.all isNameChar = true) :
  (shardName stem p wt r).toList.all isNameChar = true
  := by
  have hhash : ∀ s, (hashIdentifier s).toList.all isNameChar = true := fun s =>
    List.all_eq_true.2 fun c hc =>
      isNameChar_of_isLowerAlnum (isLowerAlnum_of_mem_hashIdentifier hc)
  have htagc : isNameChar r.tag = true := by simp [isNameChar, isLowerAlnum, r.isDigit_tag]
  have hdash : isNameChar '-' = true := rfl
  simp [shardName_toList, hall, hhash, htagc, hdash]

/-- A shard name is 52 bytes longer than its stem: three hyphens, two digests of 24
characters and the tag. -/
theorem utf8ByteSize_shardName :
  (shardName stem p wt r).utf8ByteSize = stem.utf8ByteSize + 52
  := by
  have htag : r.tag.toString.utf8ByteSize = 1 := by cases r <;> decide
  simp only [shardName, String.utf8ByteSize_append, utf8ByteSize_hashIdentifier, htag]
  rfl

/-- Two hyphens in a row in a joined list stand in one part, or across the seam. -/
theorem hasDoubleHyphen_append (l₁ l₂ : List Char) :
  hasDoubleHyphen (l₁ ++ l₂) =
    (hasDoubleHyphen l₁ || hasDoubleHyphen l₂ ||
      (l₁.getLast? == some '-' && l₂.head? == some '-'))
  := by
  induction l₁ with
  | nil => simp [hasDoubleHyphen]
  | cons c l ih =>
    -- the first pair of a list is checked by itself, then the rest from its second element
    cases l with
    | nil =>
      cases l₂ with
      | nil => simp [hasDoubleHyphen]
      | cons d l₂ =>
        by_cases hc : c = '-' <;> by_cases hd : d = '-' <;> simp_all [hasDoubleHyphen]
    | cons d l =>
      by_cases hc : c = '-' <;> by_cases hd : d = '-' <;> simp_all [hasDoubleHyphen]

/-- A list without hyphens has no two in a row. -/
theorem hasDoubleHyphen_of_forall_ne {l : List Char} (h : ∀ c ∈ l, c ≠ '-') :
  hasDoubleHyphen l = false
  := by
  induction l with
  | nil => rfl
  | cons c l ih =>
    have hc := h c (.head _)
    cases l with
    | nil => simp [hasDoubleHyphen]
    | cons d l =>
      rw [hasDoubleHyphen.eq_2]
      · exact ih fun c hc => h c (.tail _ hc)
      · intro t
        simp_all

/-- A shard name has two hyphens in a row exactly when its stem has them, or ends with
one. -/
theorem hasDoubleHyphen_shardName :
  hasDoubleHyphen (shardName stem p wt r).toList =
    (hasDoubleHyphen stem.toList || stem.toList.getLast? == some '-')
  := by
  obtain ⟨c, cs, hp, hpn⟩ := hashIdentifier_cons p.val
  obtain ⟨d, ds, hw, hwn⟩ := hashIdentifier_cons wt.val
  have htag : r.tag ≠ '-' := fun h => absurd (h ▸ r.isDigit_tag) (by decide)
  have hA := hasDoubleHyphen_of_forall_ne hpn
  have hB := hasDoubleHyphen_of_forall_ne hwn
  have hAl : (c :: cs).getLast? ≠ some '-' := fun h => hpn _ (List.mem_of_getLast? h) rfl
  have hBl : (d :: ds).getLast? ≠ some '-' := fun h => hwn _ (List.mem_of_getLast? h) rfl
  have hT : hasDoubleHyphen ['-', r.tag] = false := by simp [hasDoubleHyphen, htag]
  -- past the stem, every hyphen is followed by a digest's first character or the tag
  have htail : hasDoubleHyphen ('-' :: ((c :: cs) ++ '-' :: ((d :: ds) ++ ['-', r.tag]))) =
      false := by
    rw [show '-' :: ((c :: cs) ++ '-' :: ((d :: ds) ++ ['-', r.tag])) =
      ['-'] ++ ((c :: cs) ++ (['-'] ++ ((d :: ds) ++ ['-', r.tag]))) from rfl]
    simp only [hasDoubleHyphen_append, hA, hB, hT, List.getLast?_singleton, List.head?_cons,
      List.head?_append]
    simp [hasDoubleHyphen, hAl, hBl, hpn c (.head _), hwn d (.head _)]
  rw [shardName_toList, hp, hw, hasDoubleHyphen_append, htail]
  simp

variable {stem}

/-- A shard name under a stem passes every rule of queue names but the hyphen rules on its
own: what decides is whether the stem holds two hyphens in a row or ends with one. -/
theorem isQueueName_shardName (h : isStem stem = true) :
  isQueueName (shardName stem p wt r) =
    !(hasDoubleHyphen stem.toList || stem.toList.getLast? == some '-')
  := by
  simp only [isStem, Bool.and_eq_true, decide_eq_true_eq] at h
  obtain ⟨⟨⟨hpos, hsize⟩, hhead⟩, hall⟩ := h
  have hne : stem.toList ≠ [] := by
    intro hnil
    rw [hnil] at hhead
    exact absurd hhead (by decide)
  have htag : r.tag ≠ '-' := fun h => absurd (h ▸ r.isDigit_tag) (by decide)
  have hlast : (shardName stem p wt r).toList.getLast? = some r.tag := by
    have hsplit : (shardName stem p wt r).toList = (stem.toList ++ '-' ::
        ((hashIdentifier p.val).toList ++ '-' :: ((hashIdentifier wt.val).toList ++ ['-']))) ++
        [r.tag] := by
      simp [shardName_toList]
    rw [hsplit, List.getLast?_concat]
  have hfirst : (shardName stem p wt r).toList.head? = stem.toList.head? := by
    rw [shardName_toList, List.head?_append_of_ne_nil _ hne]
  unfold isQueueName
  rw [utf8ByteSize_shardName, hasDoubleHyphen_shardName, hlast, hfirst, hhead,
    shardName_all_isNameChar stem p wt r hall]
  -- a stem of one to six bytes gives a name of 53 to 58
  have h3 : 3 ≤ stem.utf8ByteSize + 52 := by omega
  have h63 : stem.utf8ByteSize + 52 ≤ 63 := by omega
  simp [h3, h63, htag]

/-- Under a stem that validates, a shard name has at most 58 characters, one byte each,
and the queue service accepts it exactly when the stem has no two hyphens in a row and
does not end with one. -/
theorem shard_names_accepted_iff (h : validateStem stem = .ok ()) :
  (shardName stem p wt r).length = (shardName stem p wt r).utf8ByteSize ∧
    (shardName stem p wt r).utf8ByteSize ≤ 58 ∧
    (validateQueueName (shardName stem p wt r) = .ok () ↔
      hasDoubleHyphen stem.toList = false ∧ stem.toList.getLast? ≠ some '-')
  := by
  have hstem : isStem stem = true := by
    unfold validateStem at h
    split at h
    · assumption
    · cases h
  have hparts := hstem
  simp only [isStem, Bool.and_eq_true, decide_eq_true_eq] at hparts
  obtain ⟨⟨⟨-, hsize⟩, -⟩, hall⟩ := hparts
  refine ⟨?_, by rw [utf8ByteSize_shardName]; omega, ?_⟩
  · rw [← String.length_toList, ← String.utf8Len_toList, utf8Len_of_forall_isNameChar
      (List.all_eq_true.1 (shardName_all_isNameChar stem p wt r hall))]
  · unfold validateQueueName
    rw [isQueueName_shardName p wt r hstem]
    cases hasDoubleHyphen stem.toList <;> cases hl : stem.toList.getLast? == some '-' <;>
      simp_all

end Shard

/-- Under the default stem `pq`, the highest shard of `p1` and `w1` is a queue name of at
most 58 bytes. -/
theorem pq_shard_names_accepted :
  validateStem "pq" = .ok () ∧
    ((shardName "pq" ⟨"p1", by decide⟩ ⟨"w1", by decide⟩ .highest).length =
        (shardName "pq" ⟨"p1", by decide⟩ ⟨"w1", by decide⟩ .highest).utf8ByteSize ∧
      (shardName "pq" ⟨"p1", by decide⟩ ⟨"w1", by decide⟩ .highest).utf8ByteSize ≤ 58 ∧
      (validateQueueName (shardName "pq" ⟨"p1", by decide⟩ ⟨"w1", by decide⟩ .highest) =
          .ok () ↔
        hasDoubleHyphen "pq".toList = false ∧ "pq".toList.getLast? ≠ some '-'))
  := by
  have hv : validateStem "pq" = .ok () := by rw [validateStem, if_pos (by decide)]
  exact ⟨hv, shard_names_accepted_iff _ _ _ hv⟩

/-- The stem `pq-` validates, yet no queue name starts as its shard names do, with `pq--`. -/
theorem hyphen_ended_stem_names_refused :
  validateStem "pq-" = .ok () ∧
    validateQueueName (shardName "pq-" ⟨"p1", by decide⟩ ⟨"w1", by decide⟩ .highest) ≠ .ok ()
  := by
  have hstem : isStem "pq-" = true := by decide
  refine ⟨by rw [validateStem, if_pos hstem], fun h => ?_⟩
  unfold validateQueueName at h
  rw [isQueueName_shardName _ _ _ hstem] at h
  exact absurd h (by decide)

end TaskQueue
