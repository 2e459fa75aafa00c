import TaskQueue.Halt
import Mathlib.Tactic.SplitIfs
import Mathlib.Data.Nat.Cast.Defs

/-!
# Instants: validity, order and moves

An instant of the calendar type is *valid* (`Instant.Valid`): it falls on a day of the
calendar, its second is one of the day, and its nanoseconds go past `10⁹` only on a leap
second, which is always the second 59 of a minute.  Every instant a clock reads is valid,
and `Instant.add?` keeps validity (`add?_valid`).

The order of instants is lexicographic in day, second and nanosecond (`lt_iff`), so it is a
strict order, total on its complement (`lt_trans`, `le_trans`, `lt_of_lt_of_le`, …).  Moving
a valid instant by nothing leaves it where it is (`add?_zero`), and moving it forward never
takes it back (`le_of_add?`).  The one fact about the move that all of these rest on is
`shiftTime_cases`: a move either stays inside a leap second, or lands on a second of the
day whose nanoseconds are below `10⁹`, at a distance equal to the span from where the move
counts its start.
-/

namespace TaskQueue.Time

/-! ### Spans -/

/-- The nanoseconds beyond the whole seconds of a span lie strictly between `-10⁹` and
`10⁹`, and whole seconds and nanoseconds together are the span. -/
theorem Span.subsecNanos_bounds (d : Span) :
  -(nanosPerSecond : Int) < d.subsecNanos ∧ d.subsecNanos < nanosPerSecond ∧
    d.wholeSeconds * nanosPerSecond + d.subsecNanos = d.nanos
  := by
  refine ⟨Int.lt_tmod_of_pos _ (by decide), Int.tmod_lt_of_pos _ (by decide), ?_⟩
  have h := Int.tmod_add_tdiv_mul d.nanos nanosPerSecond
  simp only [Span.wholeSeconds, Span.subsecNanos] at h ⊢
  omega

/-- A span that is not negative has no negative part. -/
theorem Span.parts_nonneg {d : Span} (hd : 0 ≤ d.nanos) :
  0 ≤ d.wholeSeconds ∧ 0 ≤ d.subsecNanos
  := ⟨Int.tdiv_nonneg hd (by decide), Int.tmod_nonneg _ hd⟩

namespace Instant

/-! ### Order -/

theorem lt_iff {a b : Instant} :
  a < b ↔ a.day < b.day ∨ (a.day = b.day ∧ (a.second < b.second ∨
    (a.second = b.second ∧ a.nano < b.nano)))
  := by
  show a.before b = true ↔ _
  simp [before]

theorem le_iff_not_lt {a b : Instant} :
  a ≤ b ↔ ¬ b < a
  := by
  show b.before a = false ↔ ¬ b.before a = true
  simp

theorem lt_irrefl (a : Instant) :
  ¬ a < a
  := by
  rw [lt_iff]
  omega

theorem le_refl (a : Instant) :
  a ≤ a
  := le_iff_not_lt.2 (lt_irrefl a)

theorem lt_trans {a b c : Instant} (hab : a < b) (hbc : b < c) :
  a < c
  := by
  rw [lt_iff] at *
  omega

theorem lt_of_lt_of_le {a b c : Instant} (hab : a < b) (hbc : b ≤ c) :
  a < c
  := by
  rw [le_iff_not_lt, lt_iff] at hbc
  rw [lt_iff] at *
  omega

theorem lt_of_le_of_lt {a b c : Instant} (hab : a ≤ b) (hbc : b < c) :
  a < c
  := by
  rw [le_iff_not_lt, lt_iff] at hab
  rw [lt_iff] at *
  omega

theorem le_trans {a b c : Instant} (hab : a ≤ b) (hbc : b ≤ c) :
  a ≤ c
  := by
  rw [le_iff_not_lt, lt_iff] at *
  omega

theorem le_of_lt {a b : Instant} (hab : a < b) :
  a ≤ b
  := le_iff_not_lt.2 fun hba => lt_irrefl a (lt_trans hab hba)

/-- No time passes from an instant to itself. -/
theorem since_self (t : Instant) :
  t.since t = Span.zero
  := by
  unfold Instant.since
  simp only [gt_iff_lt, Nat.lt_irrefl, false_and, if_false, Int.sub_self, Int.zero_mul, Int.add_zero]
  rfl

/-! ### Valid instants -/

/-- An instant a clock can read: a day of the calendar, a second of the day, and
nanoseconds that reach `10⁹` only on a leap second, the second 59 of its minute. -/
structure Valid (t : Instant) : Prop where
  inCalendar : t.inCalendar = true
  second_lt : t.second < 86400
  nano_lt : t.nano < 2 * nanosPerSecond
  leap : nanosPerSecond ≤ t.nano → t.second % 60 = 59

/-- Where a move of the time of day counts from, in nanoseconds of the day: a leap second
is left forward from its own second and backward from the second after it. -/
def startNanos (second nano : Nat) (d : Span) : Int :=
  if nanosPerSecond ≤ nano then
    (if 0 < d.wholeSeconds ∨ (0 < d.subsecNanos ∧ 2 * nanosPerSecond - d.subsecNanos ≤ nano)
      then (second : Int) else second + 1) * nanosPerSecond + nano - nanosPerSecond
  else (second : Int) * nanosPerSecond + nano

/-- A move of the time of day either stays inside a leap second, or lands on a second
of the day with fewer than `10⁹` nanoseconds, days carried, at the span's distance from
`startNanos`. -/
theorem shiftTime_cases (second : Nat) {nano : Nat} (d : Span)
    (hn : nano < 2 * nanosPerSecond) :
  (nanosPerSecond ≤ nano ∧ d.wholeSeconds = 0 ∧
      ¬(0 < d.subsecNanos ∧ 2 * nanosPerSecond - d.subsecNanos ≤ nano) ∧
      shiftTime second nano d = (second, (nano + d.subsecNanos).toNat, 0)) ∨
    (¬(nanosPerSecond ≤ nano ∧ d.wholeSeconds = 0 ∧
        ¬(0 < d.subsecNanos ∧ 2 * nanosPerSecond - d.subsecNanos ≤ nano)) ∧
      (shiftTime second nano d).1 < 86400 ∧ (shiftTime second nano d).2.1 < nanosPerSecond ∧
      (((shiftTime second nano d).2.2 * 86400 + (shiftTime second nano d).1) * nanosPerSecond +
        (shiftTime second nano d).2.1 : Int) = startNanos second nano d + d.nanos)
  := by
  obtain ⟨hb, hb', he⟩ := Span.subsecNanos_bounds d
  unfold shiftTime startNanos
  generalize d.wholeSeconds = s at *
  generalize d.subsecNanos = f at *
  simp only [nanosPerSecond, Nat.cast_ofNat] at *
  by_cases hA : 1000000000 ≤ nano ∧ s = 0 ∧ ¬(0 < f ∧ 2000000000 - f ≤ nano)
  · left
    refine ⟨hA.1, hA.2.1, hA.2.2, ?_⟩
    simp only [ge_iff_le, gt_iff_lt]
    rw [if_pos (by omega)]
  · right
    refine ⟨hA, ?_⟩
    simp only [ge_iff_le, gt_iff_lt]
    rw [if_neg (by omega)]
    -- the remaining conditions only choose where the move counts from and the carry
    by_cases hL : 1000000000 ≤ nano
    · simp only [hL, if_true]
      split_ifs <;> dsimp only <;> omega
    · simp only [hL, if_false]
      split_ifs <;> dsimp only <;> omega

/-- The instant a move gives, from the parts `shiftTime` gives. -/
theorem add?_eq_some {t r : Instant} {d : Span} (h : t.add? d = some r) :
  r = ⟨t.day + (shiftTime t.second t.nano d).2.2, (shiftTime t.second t.nano d).1,
    (shiftTime t.second t.nano d).2.1⟩ ∧ r.inCalendar = true
  := by
  unfold add? at h
  generalize shiftTime t.second t.nano d = p at h ⊢
  obtain ⟨second, nano, days⟩ := p
  dsimp only at h
  split_ifs at h with hc
  cases h
  exact ⟨rfl, hc⟩

/-- A move keeps an instant valid. -/
theorem add?_valid {t r : Instant} {d : Span} (ht : t.Valid) (h : t.add? d = some r) :
  r.Valid
  := by
  obtain ⟨rfl, hcal⟩ := add?_eq_some h
  have hb := Span.subsecNanos_bounds d
  have hs := ht.second_lt
  have hn := ht.nano_lt
  have hl := ht.leap
  rcases shiftTime_cases t.second d ht.nano_lt with ⟨h1, -, h3, h4⟩ | ⟨-, h1, h2, -⟩
  · -- inside a leap second: the second stays, the nanoseconds stay below `2·10⁹`
    rw [h4] at hcal ⊢
    refine ⟨hcal, hs, ?_, fun _ => hl h1⟩
    simp only [nanosPerSecond] at *
    omega
  · refine ⟨hcal, h1, ?_, ?_⟩ <;> dsimp only <;> omega

/-- Moving a valid instant by nothing leaves it where it is. -/
theorem add?_zero {t : Instant} (ht : t.Valid) :
  t.add? Span.zero = some t
  := by
  have hw : Span.zero.wholeSeconds = 0 := rfl
  have hf : Span.zero.subsecNanos = 0 := rfl
  have hs := ht.second_lt
  have hkeep : shiftTime t.second t.nano Span.zero = (t.second, t.nano, 0) := by
    rcases shiftTime_cases t.second Span.zero ht.nano_lt with
      ⟨-, -, -, h4⟩ | ⟨hA, h1, h2, h3⟩
    · rw [h4, hf]
      rfl
    · -- off a leap second, the move by nothing counts from the instant itself
      unfold startNanos at h3
      rw [hw, hf] at hA h3
      generalize shiftTime t.second t.nano Span.zero = p at *
      obtain ⟨a, b, c⟩ := p
      have hparts : a = t.second ∧ b = t.nano ∧ c = 0 := by
        split_ifs at h3 <;> simp only [nanosPerSecond, Span.zero, true_and] at * <;> omega
      obtain ⟨rfl, rfl, rfl⟩ := hparts
      rfl
  unfold add?
  rw [hkeep]
  simp [ht.inCalendar]

/-- Moving a valid instant forward never takes it back. -/
theorem le_of_add? {t r : Instant} {d : Span} (ht : t.Valid) (hd : 0 ≤ d.nanos)
    (h : t.add? d = some r) :
  t ≤ r
  := by
  obtain ⟨rfl, -⟩ := add?_eq_some h
  obtain ⟨hw, hf⟩ := Span.parts_nonneg hd
  have hb := Span.subsecNanos_bounds d
  have hs := ht.second_lt
  rw [le_iff_not_lt, lt_iff]
  rcases shiftTime_cases t.second d ht.nano_lt with ⟨-, -, -, h4⟩ | ⟨-, h1, h2, h3⟩
  · rw [h4]
    dsimp only
    omega
  · -- the move counts from no earlier than the instant itself, less a leap second left
    -- forward, which the span then makes up
    unfold startNanos at h3
    simp only [nanosPerSecond] at *
    split_ifs at h3 <;> omega

/-! ### Moves that halt -/

section Plus

variable {α : Type} {t r : Instant} {d : Span}

theorem plus_eq_ok :
  t.plus d = .ok r ↔ t.add? d = some r
  := by
  unfold plus
  cases t.add? d <;> simp

@[simp]
theorem plus_bind_eq_ok {f : Instant → Except Halt α} {v : α} :
  (t.plus d >>= f) = .ok v ↔ ∃ r, t.add? d = some r ∧ f r = .ok v
  := by
  unfold plus
  cases t.add? d <;> simp [bind, Except.bind]

@[simp]
theorem map_plus_eq_ok {f : Instant → α} {v : α} :
  (f <$> t.plus d) = .ok v ↔ ∃ r, t.add? d = some r ∧ f r = v
  := by
  unfold plus
  cases t.add? d <;> simp [Functor.map, Except.map]

end Plus

end Instant

end TaskQueue.Time
