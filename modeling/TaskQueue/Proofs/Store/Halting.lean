import Mathlib
import TaskQueue.Proofs.Service.Limits

/-!
# When a call of the store halts

Three calls of the store move the clock forward by a duration they are given: a put by the
message's visibility and by its life, a get by the lease of what it takes, an update by the
message's new visibility.  A duration is moved by as it is when it fits a span, and by the
fallback of 3650 days when it does not (`Duration.storeSpan`); a move past the calendar's last
day halts.

* Each of the three calls halts exactly when it reaches a move that leaves the calendar, and
  halts in no other way (`Store.putMessage_eq_error_iff`, `Store.getMessages_eq_error_iff`,
  `Store.updateMessage_eq_error_iff`).
* From a clock whose year has four digits the fallback always lands, and so does every
  duration of at most `7·10¹²` seconds (`Duration.add?_storeSpan_isSome`).  Every duration
  from `10¹³` seconds up to the longest span leaves the calendar
  (`Duration.add?_storeSpan_eq_none`): those durations fit a span, so the fallback never
  catches them, and a clock's reach is only some `8·10¹²` seconds.

`Store.clock_moves_halt_past_calendar` gathers both.
-/

namespace TaskQueue

open Time

namespace Time.Instant

/-- An instant whose year is not negative falls on a day after the year −401. -/
theorem day_ge_of_year {t : Instant} (hy : 0 ≤ t.date.1) :
  -865565 ≤ t.day
  := by
  have hb := (civilFromDays_year_bounds t.day).2
  unfold date at hy
  omega

/-- A valid instant moved forward by a span leaves the calendar when the span's whole days
alone go past the calendar's last day. -/
theorem add?_eq_none {t : Instant} {d : Span} (ht : t.Valid) (hd : 0 ≤ d.nanos)
    (h : maxDay < t.day + d.nanos / (86400 * nanosPerSecond)) :
  t.add? d = none
  := by
  have hcal := ht.inCalendar
  unfold inCalendar at hcal
  simp only [Bool.and_eq_true, decide_eq_true_eq] at hcal
  unfold add?
  rcases shiftTime_cases t.second d ht.nano_lt with ⟨-, h0, -, h4⟩ | ⟨-, h1, h2, h3⟩
  · -- inside a leap second the span is less than a second, so it holds no whole day
    obtain ⟨-, hlt, hsum⟩ := Span.subsecNanos_bounds d
    rw [h4]
    simp only [nanosPerSecond, Nat.cast_ofNat] at hlt hsum h
    simp only [inCalendar, Bool.and_eq_true, decide_eq_true_eq]
    omega
  · -- the days carried are at least the span's whole days, since the move counts from
    -- within the day
    have hb := startNanos_bounds d ht.second_lt ht.nano_lt
    generalize shiftTime t.second t.nano d = p at h1 h2 h3 ⊢
    obtain ⟨second, nano, days⟩ := p
    simp only [nanosPerSecond, Nat.cast_ofNat] at h1 h2 h3 hb h
    simp only [inCalendar, Bool.and_eq_true, decide_eq_true_eq]
    split_ifs with hin
    · omega
    · rfl

end Time.Instant

namespace Time.Duration

variable {t : Instant} {d : Duration}

theorem toSpan?_isSome_iff :
  d.toSpan?.isSome ↔ (d.nanos : Int) ≤ Span.maxNanos
  := by
  unfold toSpan?
  split_ifs with hc
  · simp only [Option.isSome_some, true_iff]
    exact hc.2
  · -- a duration within the longest span has its whole seconds within it too
    simp only [Option.isSome_none, Bool.false_eq_true, false_iff]
    simp only [seconds, Span.maxNanos, Span.maxMillis, nanosPerSecond, not_and, not_le] at hc ⊢
    omega

theorem storeSpan_of_toSpan?_none (hd : d.toSpan? = none) :
  d.storeSpan = Span.ofDays 3650
  := by
  rw [storeSpan, hd]
  rfl

theorem storeSpan_of_toSpan?_isSome (hd : d.toSpan?.isSome) :
  d.storeSpan = ⟨d.nanos⟩
  := by
  rw [toSpan?_isSome_iff] at hd
  have hsec : d.seconds ≤ 9223372036854775 := by
    simp only [seconds, Span.maxNanos, Span.maxMillis, nanosPerSecond] at hd ⊢
    omega
  unfold storeSpan toSpan?
  rw [if_pos ⟨hsec, hd⟩]
  rfl

/-- From a clock whose year has four digits, the store's move by a duration lands in the
calendar when the duration is past every span, or at most `7·10¹²` seconds. -/
theorem add?_storeSpan_isSome (ht : t.Valid) (hy : t.date.1 ≤ 9999)
    (hd : d.toSpan? = none ∨ d.seconds ≤ 7 * 10 ^ 12) :
  (t.add? d.storeSpan).isSome
  := by
  have hday := Instant.day_le_of_year hy
  have hmax : Instant.maxDay = 95026236 := by decide
  apply Instant.add?_isSome ht (storeSpan_nonneg d)
  rw [hmax]
  rcases hd with hnone | hshort
  · rw [storeSpan_of_toSpan?_none hnone]
    simp only [Span.ofDays, Span.ofSeconds, nanosPerSecond]
    omega
  · have hsome : d.toSpan?.isSome := by
      rw [toSpan?_isSome_iff]
      simp only [seconds, Span.maxNanos, Span.maxMillis, nanosPerSecond] at hshort ⊢
      omega
    rw [storeSpan_of_toSpan?_isSome hsome]
    simp only [seconds, nanosPerSecond] at hshort ⊢
    omega

/-- From a clock whose year is not negative, the store's move by a duration that fits a span
and is at least `10¹³` seconds leaves the calendar. -/
theorem add?_storeSpan_eq_none (ht : t.Valid) (hy : 0 ≤ t.date.1) (hd : d.toSpan?.isSome)
    (hlong : 10 ^ 13 ≤ d.seconds) :
  t.add? d.storeSpan = none
  := by
  have hday := Instant.day_ge_of_year hy
  have hmax : Instant.maxDay = 95026236 := by decide
  rw [storeSpan_of_toSpan?_isSome hd]
  apply Instant.add?_eq_none ht (by simp)
  rw [hmax]
  simp only [seconds, nanosPerSecond] at hlong ⊢
  omega

end Time.Duration

namespace Store

variable {s : Store} {now : Instant} {name : String} {h : Halt}

theorem putMessage_eq_error_iff {text : String} {visibility ttl : Duration} :
  s.putMessage now name text visibility ttl = .error h ↔
    h = .addOverflow ∧ FailureRule.consume .putMessage name s.rules = none ∧
      (s.find? name).isSome ∧
      ((now.add? visibility.storeSpan).isNone ∨ (now.add? ttl.storeSpan).isNone)
  := by
  unfold putMessage
  cases hc : FailureRule.consume .putMessage name s.rules with
  | some rules =>
    rw [enter_of_consume_some hc]
    simp [pure, Except.pure]
  | none =>
    rw [enter_of_consume hc]
    simp only [nextId_snd, nextReceipt_snd, need_eq, find?_mk, enter_queues, lookup_queues]
    cases s.find? name with
    | none => simp [pure, Except.pure]
    | some q =>
      simp only [Instant.plus]
      cases now.add? visibility.storeSpan <;> cases now.add? ttl.storeSpan <;>
        simp [bind, Except.bind, pure, Except.pure, eq_comm]

theorem getMessages_eq_error_iff {visibility : Duration} {maxCount : Nat} :
  s.getMessages now name visibility maxCount = .error h ↔
    h = .addOverflow ∧ FailureRule.consume .getMessages name s.rules = none ∧
      (∃ q, s.find? name = some q ∧ (q.purge now).messages.any (·.isVisible now)) ∧
      (now.add? visibility.storeSpan).isNone
  := by
  unfold getMessages
  cases hc : FailureRule.consume .getMessages name s.rules with
  | some rules =>
    rw [enter_of_consume_some hc]
    simp [pure, Except.pure]
  | none =>
    rw [enter_of_consume hc]
    simp only [need_eq]
    rw [find?_enter]
    cases s.find? name with
    | none => simp [pure, Except.pure]
    | some q =>
      simp only [Instant.plus, Option.some_inj, exists_eq_left']
      generalize q.purge now = p
      cases p.messages.any (·.isVisible now) <;> cases now.add? visibility.storeSpan <;>
        simp [bind, Except.bind, pure, Except.pure, @eq_comm _ _ h]

theorem updateMessage_eq_error_iff {text id receipt : String} {visibility : Duration} :
  s.updateMessage now name text id receipt visibility = .error h ↔
    h = .addOverflow ∧ FailureRule.consume .updateMessage name s.rules = none ∧
      (∃ q, s.find? name = some q ∧ ∃ i, locate name id receipt (q.purge now).messages = .ok i) ∧
      (now.add? visibility.storeSpan).isNone
  := by
  unfold updateMessage
  cases hc : FailureRule.consume .updateMessage name s.rules with
  | some rules =>
    rw [enter_of_consume_some hc]
    simp [pure, Except.pure]
  | none =>
    rw [enter_of_consume hc]
    simp only [nextReceipt_snd, need_eq, find?_mk, lookup_queues, find?_enter]
    cases s.find? name with
    | none => simp [pure, Except.pure]
    | some q =>
      simp only [Instant.plus, Option.some_inj, exists_eq_left']
      generalize q.purge now = p
      cases locate name id receipt p.messages <;> cases now.add? visibility.storeSpan <;>
        simp [bind, Except.bind, pure, Except.pure, @eq_comm _ _ h]

/-- The three calls that move the clock halt exactly when a move leaves the calendar, and in
no other way.  From a clock whose year has four digits that happens for no duration past
every span, which the fallback catches, nor for any duration of at most `7·10¹²` seconds; it
happens for every duration that fits a span and is at least `10¹³` seconds. -/
theorem clock_moves_halt_past_calendar (s : Store) (now : Instant) (name text id receipt : String)
    (visibility ttl : Duration) (maxCount : Nat) (h : Halt) :
  (s.putMessage now name text visibility ttl = .error h ↔
    h = .addOverflow ∧ FailureRule.consume .putMessage name s.rules = none ∧
      (s.find? name).isSome ∧
      ((now.add? visibility.storeSpan).isNone ∨ (now.add? ttl.storeSpan).isNone)) ∧
  (s.getMessages now name visibility maxCount = .error h ↔
    h = .addOverflow ∧ FailureRule.consume .getMessages name s.rules = none ∧
      (∃ q, s.find? name = some q ∧ (q.purge now).messages.any (·.isVisible now)) ∧
      (now.add? visibility.storeSpan).isNone) ∧
  (s.updateMessage now name text id receipt visibility = .error h ↔
    h = .addOverflow ∧ FailureRule.consume .updateMessage name s.rules = none ∧
      (∃ q, s.find? name = some q ∧ ∃ i, locate name id receipt (q.purge now).messages = .ok i) ∧
      (now.add? visibility.storeSpan).isNone) ∧
  (now.Valid → 0 ≤ now.date.1 → now.date.1 ≤ 9999 →
    (visibility.toSpan? = none ∨ visibility.seconds ≤ 7 * 10 ^ 12 →
      (now.add? visibility.storeSpan).isSome) ∧
    (visibility.toSpan?.isSome ∧ 10 ^ 13 ≤ visibility.seconds →
      now.add? visibility.storeSpan = none))
  := by
  refine ⟨putMessage_eq_error_iff, getMessages_eq_error_iff, updateMessage_eq_error_iff, ?_⟩
  intro ht hlo hhi
  exact ⟨Duration.add?_storeSpan_isSome ht hhi,
    fun ⟨hd, hlong⟩ => Duration.add?_storeSpan_eq_none ht hlo hd hlong⟩

/-- At noon of 2024-03-01, a move by `10¹³` seconds leaves the calendar. -/
theorem ten_trillion_seconds_leave_calendar :
  (⟨19783, 43200, 0⟩ : Instant).Valid ∧ 0 ≤ (⟨19783, 43200, 0⟩ : Instant).date.1 ∧
    (⟨19783, 43200, 0⟩ : Instant).date.1 ≤ 9999 ∧
    (⟨19783, 43200, 0⟩ : Instant).add? (Duration.ofSeconds (10 ^ 13)).storeSpan = none
  := by
  have hv : (⟨19783, 43200, 0⟩ : Instant).Valid := ⟨by decide, by decide, by decide, by decide⟩
  have hlo : 0 ≤ (⟨19783, 43200, 0⟩ : Instant).date.1 := by decide
  have hhi : (⟨19783, 43200, 0⟩ : Instant).date.1 ≤ 9999 := by decide
  exact ⟨hv, hlo, hhi, (clock_moves_halt_past_calendar (Store.empty 1) _ "q1" "x" "msg-1"
    "receipt-1" (.ofSeconds (10 ^ 13)) (.ofSeconds 60) 1 .addOverflow).2.2.2 hv hlo hhi |>.2
      ⟨by decide, by decide⟩⟩

/-- A put at noon of 2024-03-01, on a queue just created, of a message visible after `10¹³`
seconds halts. -/
theorem put_visible_after_ten_trillion_seconds_halts :
  ∃ s, (Store.empty 5000).createQueue "q1" none = .ok (.ok (), s) ∧
    s.putMessage ⟨19783, 43200, 0⟩ "q1" "x" (.ofSeconds (10 ^ 13)) (.ofSeconds 60) =
      .error .addOverflow
  := ⟨_, rfl, rfl⟩

end Store

end TaskQueue
