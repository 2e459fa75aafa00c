import TaskQueue.Service.Pending
import Mathlib.Tactic.Ring

/-!
# How long the service waits

A pending hint lives, and a claim notice stays hidden, for `remainingSecs target now`
seconds: the span from `now` to `target` truncated to whole milliseconds, then rounded up
to whole seconds, and at least one.  The truncation to milliseconds comes first, so a
target less than a millisecond ahead counts as passed, and a timer may end up to a
millisecond before its target: the seconds answered always lie strictly between the span
less a millisecond and the span plus a second (`remainingSecs_bounds`).  A deadline
notice waits `delaySecs` and the configured delay rounded up to whole seconds, both
capped at `2⁶⁴ − 1` seconds; uncapped, it too ends at most a millisecond early.
-/

namespace TaskQueue

open Time

/-! ### Milliseconds of a span -/

/-- The whole milliseconds of a span are positive exactly when it is at least a
millisecond long. -/
theorem Span.toMillis_pos_iff (d : Span) :
  0 < d.toMillis ↔ 1000000 ≤ d.nanos
  := by
  unfold Span.toMillis
  rcases Int.le_total 0 d.nanos with h0 | h0
  · rw [Int.tdiv_eq_ediv_of_nonneg h0]
    omega
  · -- a negative span truncates toward zero, to no whole millisecond
    have hneg : d.nanos.tdiv 1000000 = -((-d.nanos).tdiv 1000000) := by
      rw [Int.neg_tdiv, Int.neg_neg]
    have := Int.tdiv_nonneg (a := -d.nanos) (b := 1000000) (by omega) (by norm_num)
    omega

/-- A span of at least a millisecond lies within a millisecond above its whole
milliseconds. -/
theorem Span.toMillis_bounds {d : Span} (h : 1000000 ≤ d.nanos) :
  d.toMillis * 1000000 ≤ d.nanos ∧ d.nanos < d.toMillis * 1000000 + 1000000
  := by
  unfold Span.toMillis
  rw [Int.tdiv_eq_ediv_of_nonneg (by omega)]
  omega

/-! ### Remaining seconds -/

section Remaining

variable {target now : Instant}

/-- No seconds remain once the target is less than a millisecond ahead. -/
theorem remainingSecs_eq_none_iff :
  remainingSecs target now = none ↔ (target.since now).nanos < 1000000
  := by
  have hpos := Span.toMillis_pos_iff (target.since now)
  dsimp only [remainingSecs]
  split_ifs with h <;> simp <;> omega

/-- Otherwise they are the whole milliseconds ahead, rounded up to seconds. -/
theorem remainingSecs_eq_some {s : Nat} (h : remainingSecs target now = some s) :
  1000000 ≤ (target.since now).nanos ∧
    s = ((target.since now).toMillis.toNat + 999) / 1000
  := by
  have hpos := Span.toMillis_pos_iff (target.since now)
  dsimp only [remainingSecs] at h
  split_ifs at h with hms
  simp only [Option.some.injEq] at h
  refine ⟨by omega, ?_⟩
  omega

/-- The seconds that remain run out less than a millisecond before the target, and less
than a second after it. -/
theorem remainingSecs_bounds {s : Nat} (h : remainingSecs target now = some s) :
  1 ≤ s ∧ (target.since now).nanos < s * 1000000000 + 1000000 ∧
    s * 1000000000 < (target.since now).nanos + 1000000000
  := by
  obtain ⟨hd, rfl⟩ := remainingSecs_eq_some h
  obtain ⟨hlo, hhi⟩ := Span.toMillis_bounds hd
  omega

/-- A delay is at least a second, and ends less than a millisecond before the target at the
earliest. -/
theorem delaySecs_bounds :
  1 ≤ delaySecs target now ∧
    (target.since now).nanos < delaySecs target now * 1000000000 + 1000000
  := by
  unfold delaySecs
  cases h : remainingSecs target now with
  | none =>
    have := remainingSecs_eq_none_iff.1 h
    simp only [Option.getD_none]
    omega
  | some s =>
    have := remainingSecs_bounds h
    simp only [Option.getD_some]
    omega

end Remaining

end TaskQueue
