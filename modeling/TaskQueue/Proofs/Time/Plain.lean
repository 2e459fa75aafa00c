import TaskQueue.Proofs.Instant

/-!
# Instants off a leap second

Off a leap second an instant is a count of nanoseconds since the epoch (`Instant.nanos`).
Instants then compare as their counts (`Plain.lt_iff`, `Plain.le_iff`), the span from one to
another is the difference of their counts (`Plain.since_nanos`), and a move by a span adds
the span to the count and lands off a leap second again (`Plain.add?`).

A leap second is where all three fail: `hh:mm:60.5` comes after `hh:mm:59.9` and before
`hh:mm+1:00.0` in the order of instants, yet a move or a difference counts it as a second of
its own only when it crosses it.
-/

namespace TaskQueue.Time.Instant

/-- An instant a clock can read that is not in a leap second. -/
structure Plain (t : Instant) : Prop where
  valid : t.Valid
  nano_lt : t.nano < nanosPerSecond

/-- The nanoseconds from the epoch to an instant, a leap second's extra nanoseconds counted
into the second before it. -/
def nanos (t : Instant) : Int :=
  (t.day * 86400 + t.second) * nanosPerSecond + t.nano

variable {a b t r : Instant} {d : Span}

namespace Plain

/-- Off a leap second, the order of instants is the order of their counts. -/
theorem lt_iff (ha : a.Plain) (hb : b.Plain) :
  a < b ↔ a.nanos < b.nanos
  := by
  have ha₁ := ha.valid.second_lt
  have hb₁ := hb.valid.second_lt
  have ha₂ := ha.nano_lt
  have hb₂ := hb.nano_lt
  rw [Instant.lt_iff]
  unfold nanos
  simp only [nanosPerSecond] at *
  omega

theorem le_iff (ha : a.Plain) (hb : b.Plain) :
  a ≤ b ↔ a.nanos ≤ b.nanos
  := by
  rw [le_iff_not_lt, hb.lt_iff ha]
  omega

/-- Off a leap second, the span from `b` to `a` is the difference of their counts. -/
theorem since_nanos (ha : a.Plain) (hb : b.Plain) :
  (a.since b).nanos = a.nanos - b.nanos
  := by
  have ha₂ := ha.nano_lt
  have hb₂ := hb.nano_lt
  unfold since nanos
  -- neither instant is a leap second, so the seconds are not adjusted
  split_ifs <;> simp only [nanosPerSecond, Nat.cast_ofNat] at * <;> omega

/-- A move of an instant off a leap second adds the span to its count, and lands off a leap
second. -/
theorem add? (ht : t.Plain) (h : t.add? d = some r) :
  r.Plain ∧ r.nanos = t.nanos + d.nanos
  := by
  have hr := add?_valid ht.valid h
  obtain ⟨rfl, -⟩ := add?_eq_some h
  have hn := ht.nano_lt
  rcases shiftTime_cases t.second d ht.valid.nano_lt with ⟨h1, -⟩ | ⟨-, -, h2, h3⟩
  · exact absurd h1 (by omega)
  · -- off a leap second the move counts from the instant itself
    unfold startNanos at h3
    rw [if_neg (by omega)] at h3
    refine ⟨⟨hr, h2⟩, ?_⟩
    unfold nanos
    simp only [nanosPerSecond, Nat.cast_ofNat] at h3 ⊢
    omega

/-- A move back by a span takes the span off the count. -/
theorem sub? (ht : t.Plain) (h : t.sub? d = some r) :
  r.Plain ∧ r.nanos = t.nanos - d.nanos
  := by
  obtain ⟨hr, hn⟩ := ht.add? h
  exact ⟨hr, by rw [hn]; rfl⟩

/-- A move back that does not halt takes the span off the count. -/
theorem minus (ht : t.Plain) (h : t.minus d = .ok r) :
  r.Plain ∧ r.nanos = t.nanos - d.nanos
  := by
  unfold Instant.minus at h
  split at h
  · next r' hr =>
    cases h
    exact ht.sub? hr
  · cases h

end Plain

end TaskQueue.Time.Instant
