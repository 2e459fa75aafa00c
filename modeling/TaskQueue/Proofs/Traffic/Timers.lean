import Mathlib
import TaskQueue.Proofs.Delays
import TaskQueue.Proofs.Time.Plain
import TaskQueue.Proofs.Store.Halting
import TaskQueue.Proofs.Service.Limits
import TaskQueue.Proofs.Traffic.Notices

/-!
# Timers that end at most a millisecond early

The service waits for an instant by counting whole seconds from its clock: a pending hint
lives, and a claim notice stays hidden, for `remainingSecs target now` seconds, and a deadline
notice for `delaySecs` and the configured delay rounded up to seconds (`Proofs.Delays`).  The
store then compares instants: a message is polled once its visibility has passed, and dropped
once its expiry has.

Off a leap second, where an instant is a count of nanoseconds (`Instant.Plain`), this module
follows those seconds through the store's comparisons.

* A notice is never polled more than a millisecond before it is due (`Notice.DueBy`): a claim
  notice before its claim ends, a deadline notice before its deadline and the configured delay
  have passed.  This holds at every session that notice traffic off leap seconds reaches
  (`TimedRun`, `Reaches.timedRun`, `TimedRun.polls_due`).  A lease only moves a notice's
  visibility later, and a notice whose wait is longer than a span can hold is made visible
  after 3650 days, when its seven days of life are long over: it is never polled at all.
* A publish of a task whose deadline is less than a millisecond ahead puts nothing; otherwise,
  when the deadline's year has four digits, it puts the task's hint, which expires less than a
  millisecond before the deadline at the earliest and less than a second after it
  (`Serving.publishes_until_deadline`).

Early by a millisecond at most, and not on time: the span to the target is cut to whole
milliseconds before it is rounded up to seconds, so a claim taken until half a millisecond past
a second is polled at that second (`claim_polled_before_taken_until`).
-/

namespace TaskQueue

open Time

/-! ### Instants of the calendar as counts -/

/-- Off a leap second, an instant counts the nanoseconds of its whole days, and less than a
day more. -/
theorem Time.Instant.Plain.nanos_day_bounds {t : Instant} (ht : t.Plain) :
  t.day * 86400 * nanosPerSecond ≤ t.nanos ∧ t.nanos < (t.day + 1) * 86400 * nanosPerSecond
  := by
  have hs := ht.valid.second_lt
  have hn := ht.nano_lt
  unfold Instant.nanos
  simp only [nanosPerSecond, Nat.cast_ofNat] at *
  omega

/-- A valid instant falls no sooner than the calendar's first day. -/
theorem Time.Instant.Valid.minDay_le {t : Instant} (ht : t.Valid) :
  Instant.minDay ≤ t.day
  := by
  have hcal := ht.inCalendar
  unfold Instant.inCalendar at hcal
  simp only [Bool.and_eq_true, decide_eq_true_eq] at hcal
  exact hcal.1

/-! ### When a notice is due -/

/-- The instant, in nanoseconds from the epoch, at which a notice is due under the settings:
a claim notice when its claim ends, a deadline notice when its deadline and the configured
delay, in whole milliseconds, have passed.  A resolved notice waits for nothing. -/
def Notice.due? (σ : Settings) : Notice → Option Int
  | .claim n => some n.takenUntil.nanos
  | .deadline n => some (n.deadline.nanos + σ.deadlineDelay.millis * 1000000)
  | .resolved _ => none

/-- The notice is due less than a millisecond after `t`: shown at `t`, it is at most a
millisecond early. -/
def Notice.DueBy (σ : Settings) (t : Instant) (notice : Notice) : Prop :=
  ∀ d ∈ notice.due? σ, d < t.nanos + 1000000

/-- A notice due by an instant is due by every later one. -/
theorem Notice.DueBy.mono {σ : Settings} {t t' : Instant} {notice : Notice}
    (h : notice.DueBy σ t) (ht : t.nanos ≤ t'.nanos) :
  notice.DueBy σ t'
  := fun d hd => by
  have := h d hd
  omega

/-- The instants a step carries are off a leap second: the instant the clock is set to, the
end of a claim and a deadline. -/
def Step.PlainTimes : Step → Prop
  | .setTime t | .putClaim _ _ t | .putDeadline _ _ _ t => t.Plain
  | _ => True

/-- A wait longer than any span is taken as 3650 days. -/
theorem Time.Duration.storeSpan_ofSeconds_of_lt {n : Nat} (h : 9223372036854775 < n) :
  (Duration.ofSeconds n).storeSpan = Span.ofDays 3650
  := by
  apply Duration.storeSpan_of_toSpan?_none
  cases hs : (Duration.ofSeconds n).toSpan? with
  | none => rfl
  | some d =>
    have := Duration.toSpan?_isSome_iff.1 (by rw [hs]; rfl)
    simp only [Duration.ofSeconds, Span.maxNanos, Span.maxMillis, nanosPerSecond] at this
    omega

/-- A notice put at a clock off a leap second, whose own instants are off one, visible and
expiring at the instants the put's moves of the clock give, is due less than a millisecond after
it becomes visible, or expires before it becomes visible. -/
theorem Step.putNotice?_due {σ : Settings} {now v e : Instant} {st : Step} {notice : Notice}
    {visibility : Nat} (hnow : now.Plain) (hp : st.PlainTimes)
    (hn : st.putNotice? σ now = some (notice, visibility))
    (hv : now.add? (Duration.ofSeconds visibility).storeSpan = some v)
    (he : now.add? noticeTtl.storeSpan = some e) :
  notice.DueBy σ v ∨ e ≤ v
  := by
  by_cases hfit : visibility ≤ 9223372036854775
  · -- the wait is a span: the notice becomes visible that many seconds after the clock
    left
    rw [Duration.storeSpan_ofSeconds hfit] at hv
    have hvn : v.nanos = now.nanos + visibility * 1000000000 := by
      rw [(hnow.add? hv).2]
      simp [Span.ofSeconds, nanosPerSecond]
    intro d hd
    cases st with
    | putClaim taskId runId takenUntil =>
      obtain ⟨rfl, rfl⟩ := Prod.mk.inj (Option.some.inj hn.symm)
      have hb : (takenUntil.since now).nanos < delaySecs takenUntil now * 1000000000 + 1000000 :=
        delaySecs_bounds.2
      rw [Instant.Plain.since_nanos hp hnow] at hb
      simp only [Notice.due?, Option.mem_def, Option.some.injEq] at hd
      omega
    | putDeadline taskId groupId schedulerId deadline =>
      obtain ⟨rfl, rfl⟩ := Prod.mk.inj (Option.some.inj hn.symm)
      have hb : (deadline.since now).nanos < delaySecs deadline now * 1000000000 + 1000000 :=
        delaySecs_bounds.2
      rw [Instant.Plain.since_nanos hp hnow] at hb
      simp only [Notice.due?, Option.mem_def, Option.some.injEq] at hd
      -- a wait that fits a span is below the cap, so neither cap applies
      have hcap : Expiration.delayCap = 18446744073709551615 := by decide
      simp only [hcap] at hfit hvn
      omega
    | putResolved taskId groupId schedulerId resolution =>
      obtain ⟨rfl, rfl⟩ := Prod.mk.inj (Option.some.inj hn.symm)
      simp [Notice.due?] at hd
    | _ => cases hn
  · -- a longer wait is taken as 3650 days, past the notice's seven days of life
    right
    rw [Duration.storeSpan_ofSeconds_of_lt (by omega)] at hv
    have hspan : noticeTtl.storeSpan = ⟨604800000000000⟩ := by decide
    rw [hspan] at he
    obtain ⟨hvp, hvn⟩ := hnow.add? hv
    obtain ⟨hep, hen⟩ := hnow.add? he
    rw [Instant.Plain.le_iff hep hvp, hvn, hen]
    simp [Span.ofDays, Span.ofSeconds, nanosPerSecond]

/-! ### What a call does to the visibility of a message -/

namespace Store

variable {s s' s₁ : Store} {now : Instant} {name : String}

/-- The message `m'` is `m` as a call at `now` leaves it: with its text and its expiry, and
with its visibility, or, when `m` was visible, leased until an instant a move forward from
`now` gives. -/
def Deferred (now : Instant) (m m' : StoredMessage) : Prop :=
  m'.text = m.text ∧ m'.expiresAt = m.expiresAt ∧
    (m'.visibleAt = m.visibleAt ∨
      m.visibleAt ≤ now ∧ ∃ d : Span, 0 ≤ d.nanos ∧ now.add? d = some m'.visibleAt)

theorem Deferred.refl (now : Instant) (m : StoredMessage) :
  Deferred now m m
  := ⟨rfl, rfl, .inl rfl⟩

theorem Deferred.trans {m m₁ m' : StoredMessage} (h₁ : Deferred now m m₁)
    (h₂ : Deferred now m₁ m') :
  Deferred now m m'
  := by
  obtain ⟨ht₁, he₁, hv₁⟩ := h₁
  obtain ⟨ht₂, he₂, hv₂⟩ := h₂
  refine ⟨ht₂.trans ht₁, he₂.trans he₁, ?_⟩
  rcases hv₂ with hv₂ | ⟨hle₂, hd₂⟩
  · rcases hv₁ with hv₁ | hl₁
    · exact .inl (hv₂.trans hv₁)
    · exact .inr (hv₂ ▸ hl₁)
  · rcases hv₁ with hv₁ | ⟨hle₁, -⟩
    · exact .inr ⟨hv₁ ▸ hle₂, hd₂⟩
    · exact .inr ⟨hle₁, hd₂⟩

/-- Off a leap second, a message left by a call becomes visible no sooner than it was. -/
theorem Deferred.plain {m m' : StoredMessage} (h : Deferred now m m') (hnow : now.Plain)
    (hm : m.visibleAt.Plain) :
  m'.visibleAt.Plain ∧ m.visibleAt.nanos ≤ m'.visibleAt.nanos ∧ m.visibleAt ≤ m'.visibleAt
  := by
  rcases h.2.2 with hv | ⟨hle, d, hd, hadd⟩
  · rw [hv]
    exact ⟨hm, le_rfl, Instant.le_refl _⟩
  · obtain ⟨hp, hn⟩ := hnow.add? hadd
    have hle' := (Instant.Plain.le_iff hm hnow).1 hle
    have hmono : m.visibleAt.nanos ≤ m'.visibleAt.nanos := by omega
    exact ⟨hp, hmono, (Instant.Plain.le_iff hm hp).2 hmono⟩

/-- Every message `s'` holds under a name is one `s` held under it, as a call at `now` leaves
it, or one that `fresh` accounts for. -/
def Later (now : Instant) (fresh : String → StoredMessage → Prop) (s s' : Store) : Prop :=
  ∀ n m', m' ∈ s'.messagesOf n → (∃ m ∈ s.messagesOf n, Deferred now m m') ∨ fresh n m'

variable {f g : String → StoredMessage → Prop}

theorem Later.of_subset (h : ∀ n, s'.messagesOf n ⊆ s.messagesOf n) :
  Later now f s s'
  := fun _ _ hm => .inl ⟨_, h _ hm, .refl now _⟩

theorem Later.mono (h : Later now f s s') (hfg : ∀ n m', f n m' → g n m') :
  Later now g s s'
  := fun n m' hm => (h n m' hm).imp id (hfg n m')

theorem Later.trans (h₁ : Later now (fun _ _ => False) s s₁) (h₂ : Later now f s₁ s') :
  Later now f s s'
  := by
  intro n m' hm'
  rcases h₂ n m' hm' with ⟨m₁, hm₁, hd₂⟩ | hf
  · rcases h₁ n m₁ hm₁ with ⟨m, hm, hd₁⟩ | hf
    · exact .inl ⟨m, hm, hd₁.trans hd₂⟩
    · exact hf.elim
  · exact .inr hf

theorem Later.of_refreshes {names : List String} (h : Refreshes now names s s') :
  Later now f s s'
  := of_subset fun _ _ hm => h.mem_messagesOf hm

/-- A delete keeps some of the messages, as they were. -/
theorem Later.of_deleteMessage {id receipt : String} {r : Except Fault Unit}
    (h : s.deleteMessage now name id receipt = .ok (r, s')) :
  Later now f s s'
  := by
  refine of_subset fun n m hm => ?_
  rcases deleteMessage_eq_ok_iff.1 h with ⟨-, rfl, -⟩ | ⟨-, ⟨-, -, rfl⟩ |
      ⟨q, hq, ⟨e, -, -, rfl⟩ | ⟨i, -, -, rfl⟩⟩⟩
  · rwa [messagesOf_enter] at hm
  · rwa [messagesOf_enter] at hm
  · rw [messagesOf_put] at hm
    split_ifs at hm with hn
    · subst hn
      rw [messagesOf_of_find? hq]
      exact purge_subset q now hm
    · rwa [messagesOf_enter] at hm
  · rw [messagesOf_put] at hm
    split_ifs at hm with hn
    · subst hn
      rw [messagesOf_of_find? hq]
      exact purge_subset q now (List.mem_of_mem_eraseIdx hm)
    · rwa [messagesOf_enter] at hm

/-- A get keeps the messages, and leases some of those visible now until the lease's end. -/
theorem Later.of_getMessages {visibility : Duration} {maxCount : Nat}
    {r : Except Fault (List RawMessage)}
    (h : s.getMessages now name visibility maxCount = .ok (r, s')) :
  Later now f s s'
  := by
  intro n m' hm'
  left
  rcases getMessages_eq_ok_iff.1 h with ⟨-, rfl, -⟩ | ⟨-, ⟨-, -, rfl⟩ | ⟨q, hq, -, -, rfl⟩ |
      ⟨q, hq, -, leaseEnd, hl, -, rfl⟩⟩
  · rw [messagesOf_enter] at hm'
    exact ⟨m', hm', .refl now _⟩
  · rw [messagesOf_enter] at hm'
    exact ⟨m', hm', .refl now _⟩
  · rw [messagesOf_put] at hm'
    split_ifs at hm' with hn
    · subst hn
      rw [messagesOf_of_find? hq]
      exact ⟨m', purge_subset q now hm', .refl now _⟩
    · rw [messagesOf_enter] at hm'
      exact ⟨m', hm', .refl now _⟩
  · change m' ∈ ((s.enter .getMessages name).2.put name _).messagesOf n at hm'
    rw [messagesOf_put] at hm'
    split_ifs at hm' with hn
    · -- the lease leaves each message as it was, or leases it when visible
      subst hn
      obtain ⟨m, hm, -, htext, hexp, hkeep⟩ :=
        exists_of_forall₂_mem (leaseAll_forall₂ now leaseEnd _ _ _) hm'
      refine ⟨m, by rw [messagesOf_of_find? hq]; exact purge_subset q now hm, htext, hexp, ?_⟩
      rcases hkeep with rfl | ⟨hvis, hva, -⟩
      · exact .inl rfl
      · exact .inr ⟨(StoredMessage.isVisible_iff now m).1 hvis, _,
          Duration.storeSpan_nonneg visibility, hva ▸ hl⟩
    · rw [messagesOf_enter] at hm'
      exact ⟨m', hm', .refl now _⟩

/-- A put on a queue that exists, with no failure armed, keeps the unexpired messages and
appends one, with the put's text, visible and expiring as its moves of the clock say. -/
theorem Later.of_putMessage {text : String} {visibility ttl : Duration} {r : Except Fault Unit}
    (hr : s.rules = []) (hq : s.exists? name = true)
    (h : s.putMessage now name text visibility ttl = .ok (r, s')) :
  Later now (fun n m' => n = name ∧ m'.text = text ∧
    now.add? visibility.storeSpan = some m'.visibleAt ∧
    now.add? ttl.storeSpan = some m'.expiresAt) s s'
  := by
  obtain ⟨visibleAt, expiresAt, hv, he, -, hmsg⟩ := putMessage_messagesOf hr hq h
  intro n m' hm'
  rw [hmsg] at hm'
  split_ifs at hm' with hn
  · subst hn
    rcases List.mem_append.1 hm' with hm' | hm'
    · unfold live at hm'
      exact .inl ⟨m', List.mem_of_mem_filter hm', .refl now _⟩
    · rw [List.mem_singleton.1 hm']
      exact .inr ⟨rfl, rfl, hv, he⟩
  · exact .inl ⟨m', hm', .refl now _⟩

/-- Each message a get answers is one its queue held, unexpired and visible now. -/
theorem getMessages_shown {visibility : Duration} {maxCount : Nat} {got : List RawMessage}
    (h : s.getMessages now name visibility maxCount = .ok (.ok got, s')) {r : RawMessage}
    (hr : r ∈ got) :
  ∃ m ∈ s.messagesOf name, now < m.expiresAt ∧ m.visibleAt ≤ now ∧ m.text = r.text
  := by
  rcases getMessages_eq_ok_iff.1 h with ⟨hr', -, -⟩ | ⟨-, ⟨-, hr', -⟩ | ⟨q, -, -, hr', -⟩ |
      ⟨q, hq, -, leaseEnd, -, hr', -⟩⟩
  · cases hr'
  · cases hr'
  · cases hr'
    cases hr
  · cases hr'
    have hmem : (r.id, r.text) ∈ (((q.purge now).messages.filter (·.isVisible now)).take
        (min (max maxCount 1) maxMessagesPerGet)).map fun m => (m.id, m.text) := by
      rw [← leaseAll_got now leaseEnd s.issuedReceipts]
      exact List.mem_map_of_mem hr
    obtain ⟨m, hm, heq⟩ := List.mem_map.1 hmem
    obtain ⟨hmp, hvis⟩ := List.mem_filter.1 (List.mem_of_mem_take hm)
    obtain ⟨hmq, hlive⟩ := mem_of_mem_purge hmp
    exact ⟨m, (messagesOf_of_find? hq).symm ▸ hmq, hlive,
      (StoredMessage.isVisible_iff now m).1 hvis, (Prod.mk.inj heq).2⟩

end Store

/-! ### What a step of notice traffic does to visibility -/

/-- The message `m'` under the name `n` is the notice the step puts at `now`: on the queue of
its kind, with its text, visible and expiring at the instants the put's moves of the clock
give. -/
def Step.PutsAt (σ : Settings) (now : Instant) (st : Step) (n : String) (m' : StoredMessage) :
    Prop :=
  ∃ notice visibility, st.putNotice? σ now = some (notice, visibility) ∧
    n = σ.expirationQueue notice.kind ∧ m'.text = Codec.encode notice.toJson ∧
    now.add? (Duration.ofSeconds visibility).storeSpan = some m'.visibleAt ∧
    now.add? noticeTtl.storeSpan = some m'.expiresAt

namespace Session

variable {σ : Settings} {s s' : Session} {o : Outcome} {rs : List QueueError}

/-- What a step of notice traffic does to the clock and to when messages become visible: the
clock stays, or moves by an advance's milliseconds, or to the instant it is set to; every
message held after the step was held before, left as a call at the step's clock leaves it, or
is the notice the step put. -/
structure Timed (σ : Settings) (st : Step) (s s' : Session) : Prop where
  later : Store.Later s.world.now (st.PutsAt σ s.world.now) s.world.store s'.world.store
  now : s'.world.now = s.world.now ∨
    (∃ ms, st = .advance ms ∧ s.world.now.add? (Span.ofMillis ms) = some s'.world.now) ∨
    st = .setTime s'.world.now

theorem advance_timed (hs : s.Serving σ) {ms : Int}
    (h : s.step (.advance ms) = .ok (o, rs, s')) :
  Timed σ (.advance ms) s s'
  := by
  rw [step_advance hs] at h
  cases ht : s.world.now.add? (Span.ofMillis ms) with
  | none => simp [Instant.plus, ht, Except.map] at h
  | some t =>
    rw [Instant.plus_eq_ok.2 ht] at h
    cases h
    exact ⟨.of_subset fun _ => List.Subset.refl _, .inr (.inl ⟨ms, rfl, ht⟩)⟩

theorem setTime_timed (hs : s.Serving σ) {t : Instant}
    (h : s.step (.setTime t) = .ok (o, rs, s')) :
  Timed σ (.setTime t) s s'
  := by
  rw [step_setTime hs] at h
  cases h
  exact ⟨.of_subset fun _ => List.Subset.refl _, .inr (.inr rfl)⟩

theorem putNotice_timed (hs : s.Serving σ) {st : Step} {notice : Notice} {visibility : Nat}
    (hn : st.putNotice? σ s.world.now = some (notice, visibility))
    (h : s.step st = .ok (o, rs, s')) :
  Timed σ st s s'
  := by
  obtain ⟨st', rd, logs, he, hput⟩ := step_of_putNotice hs hn
  have hrules : st'.rules = [] := he.refreshes.rules.trans hs.world.rules
  cases hp : st'.putMessage s.world.now (σ.expirationQueue notice.kind)
      (Codec.encode notice.toJson) (.ofSeconds visibility) noticeTtl with
  | error e =>
    rw [hput _ hp] at h
    cases h
  | ok a =>
    rw [hput _ hp] at h
    cases h
    have hput' := Store.Later.of_putMessage hrules
      (he.refreshes.exists_mem _ (List.mem_singleton_self _)) hp
    refine ⟨(Store.Later.of_refreshes he.refreshes).trans (hput'.mono ?_), .inl rfl⟩
    rintro n m' ⟨rfl, htext, hv, hexp⟩
    exact ⟨notice, visibility, hn, rfl, htext, hv, hexp⟩

theorem pollNotices_timed (hs : s.Serving σ) {kind : ExpirationKind}
    (hread : ∀ m ∈ s.world.store.messagesOf (σ.expirationQueue kind),
      ∃ n, Codec.decode (Notice.ofJson? kind) m.text = .ok n)
    (h : s.step (.pollNotices kind) = .ok (o, rs, s')) :
  Timed σ (.pollNotices kind) s s'
  := by
  obtain ⟨st', rd, logs, he, hget, hhalt⟩ := step_pollNotices hs kind
  have hrules : st'.rules = [] := he.refreshes.rules.trans hs.world.rules
  cases hg : st'.getMessages s.world.now (σ.expirationQueue kind) noticeLease
      maxMessagesPerGet with
  | error e =>
    rw [hhalt e hg] at h
    cases h
  | ok p =>
    obtain ⟨r, st''⟩ := p
    obtain ⟨got, rfl⟩ := Store.getMessages_answer hrules
      (he.refreshes.exists_mem _ (List.mem_singleton_self _)) hg
    obtain ⟨ns, hstep, -, -⟩ := hget got st'' hg
      (got_readable (P := fun t => ∃ n, Codec.decode (Notice.ofJson? kind) t = .ok n)
        (fun m hm => hread m (he.refreshes.mem_messagesOf hm)) hg)
    rw [hstep] at h
    cases h
    exact ⟨(Store.Later.of_refreshes he.refreshes).trans (Store.Later.of_getMessages hg),
      .inl rfl⟩

theorem remove_timed (hs : s.Serving σ) {h : HandleRef}
    (hstep : s.step (.remove h) = .ok (o, rs, s')) :
  Timed σ (.remove h) s s'
  := by
  rcases step_remove hs h with ⟨reason, h'⟩ |
      ⟨n, held, -, r, st', hdel, o', reports, logs, h', -⟩
  · rw [h'] at hstep
    cases hstep
    exact ⟨.of_subset fun _ => List.Subset.refl _, .inl rfl⟩
  · rw [h'] at hstep
    cases hstep
    exact ⟨.of_deleteMessage hdel, .inl rfl⟩

/-- Every step of notice traffic from a serving session, whose poll reads what it polls, moves
the clock only as a move of the clock does, and leaves every message it holds visible no
sooner, but the notice it puts. -/
theorem Serving.timed {st : Step} (hs : s.Serving σ) (hx : st.NoticeTraffic)
    (hread : st.Readable σ s.world.store) (h : s.step st = .ok (o, rs, s')) :
  Timed σ st s s'
  := by
  cases hn : st.putNotice? σ s.world.now with
  | some nv => exact putNotice_timed hs hn h
  | none =>
    cases st with
    | advance ms => exact advance_timed hs h
    | setTime t => exact setTime_timed hs h
    | pollNotices kind => exact pollNotices_timed hs hread h
    | remove h' => exact remove_timed hs h
    | putClaim | putDeadline | putResolved => cases hn
    | _ => simp [Step.NoticeTraffic] at hx

/-- Each notice a poll answers reads from a message its queue held, unexpired and visible at
the poll's clock. -/
theorem Serving.polled_shown (hs : s.Serving σ) {kind : ExpirationKind}
    {numbered : List (Nat × PolledNotice)}
    (hread : ∀ m ∈ s.world.store.messagesOf (σ.expirationQueue kind),
      ∃ n, Codec.decode (Notice.ofJson? kind) m.text = .ok n)
    (h : s.step (.pollNotices kind) = .ok (.reply (.notices numbered), rs, s'))
    {x : Nat × PolledNotice} (hx : x ∈ numbered) :
  ∃ m ∈ s.world.store.messagesOf (σ.expirationQueue kind), s.world.now < m.expiresAt ∧
    m.visibleAt ≤ s.world.now ∧ Codec.decode (Notice.ofJson? kind) m.text = .ok x.2.notice
  := by
  obtain ⟨st', rd, logs, he, hget, hhalt⟩ := step_pollNotices hs kind
  have hrules : st'.rules = [] := he.refreshes.rules.trans hs.world.rules
  cases hg : st'.getMessages s.world.now (σ.expirationQueue kind) noticeLease
      maxMessagesPerGet with
  | error e =>
    rw [hhalt e hg] at h
    cases h
  | ok p =>
    obtain ⟨r, st''⟩ := p
    obtain ⟨got, rfl⟩ := Store.getMessages_answer hrules
      (he.refreshes.exists_mem _ (List.mem_singleton_self _)) hg
    obtain ⟨ns, hstep, hmap, hall⟩ := hget got st'' hg
      (got_readable (P := fun t => ∃ n, Codec.decode (Notice.ofJson? kind) t = .ok n)
        (fun m hm => hread m (he.refreshes.mem_messagesOf hm)) hg)
    rw [hstep] at h
    simp only [Except.ok.injEq, Prod.mk.injEq, Outcome.reply.injEq, Reply.notices.injEq] at h
    obtain ⟨rfl, -, -⟩ := h
    -- the notice answered is read from a message the get answered
    have hx₂ := mem_give hx
    obtain ⟨r, hr, hlr⟩ := List.mem_map.1 (hmap ▸ List.mem_map_of_mem hx₂ :
      x.2.lease ∈ _)
    obtain ⟨m, hm, hlive, hvis, htext⟩ := Store.getMessages_shown hg hr
    refine ⟨m, he.refreshes.mem_messagesOf hm, hlive, hvis, ?_⟩
    rw [htext, show r = x.2.lease.message by rw [← hlr]]
    exact hall x.2 hx₂

/-! ### The invariant of notice traffic off leap seconds -/

/-- Every message an expiration queue of the store holds becomes visible at an instant off a
leap second, and is the text of a notice of the queue's kind, with instants a clock can read,
that is due less than a millisecond after the message becomes visible, or that expires before
it becomes visible. -/
def NoticesTimed (σ : Settings) (st : Store) : Prop :=
  ∀ kind, ∀ m ∈ st.messagesOf (σ.expirationQueue kind), m.visibleAt.Plain ∧
    ∃ notice : Notice, notice.kind = kind ∧ notice.Valid ∧ m.text = Codec.encode notice.toJson ∧
      (notice.DueBy σ m.visibleAt ∨ m.expiresAt ≤ m.visibleAt)

/-- Every step of notice traffic reads what it polls from such a store. -/
theorem NoticesTimed.readable {st : Store} (h : NoticesTimed σ st) {x : Step}
    (hx : x.NoticeTraffic) :
  x.Readable σ st
  := by
  cases x with
  | pollNotices kind =>
    intro m hm
    obtain ⟨-, notice, hkind, hvalid, htext, -⟩ := h kind m hm
    refine ⟨notice, ?_⟩
    rw [htext, ← hkind]
    exact Notice.decode_encode notice hvalid
  | pollPending => cases hx
  | _ => trivial

/-- What a run of notice traffic off leap seconds keeps: the session serves its settings, its
clock stays off a leap second, and its notices are timed. -/
structure TimedRun (σ : Settings) (s : Session) : Prop where
  serving : s.Serving σ
  plain : s.world.now.Plain
  timed : NoticesTimed σ s.world.store

section Run

variable (hq : Function.Injective σ.expirationQueue)
include hq

/-- A step of notice traffic off leap seconds keeps the invariant: the clock stays off a leap
second, a message the step leaves becomes visible no sooner, and the notice it puts is due less
than a millisecond after it becomes visible, or expires first. -/
theorem TimedRun.step {st : Step} (hp : TimedRun σ s) (hx : st.NoticeTraffic)
    (hpl : st.PlainTimes) (h : s.step st = .ok (o, rs, s')) :
  TimedRun σ s'
  := by
  have hread := hp.timed.readable hx
  have ht := hp.serving.timed hx hread h
  have hclock : s'.world.now.Plain := by
    rcases ht.now with heq | ⟨ms, -, hadd⟩ | rfl
    · exact heq ▸ hp.plain
    · exact (hp.plain.add? hadd).1
    · exact hpl
  refine ⟨(hp.serving.step (.inr hx) hread h).serving, hclock, fun kind m' hm' => ?_⟩
  rcases ht.later _ m' hm' with ⟨m, hm, hd⟩ | ⟨notice, visibility, hn, hqn, htext, hv, he⟩
  · -- a message the step left becomes visible no sooner, and keeps its expiry
    obtain ⟨hvp, notice, hkind, hvalid, htext, hdue⟩ := hp.timed kind m hm
    obtain ⟨hvp', hmono, hle⟩ := hd.plain hp.plain hvp
    refine ⟨hvp', notice, hkind, hvalid, hd.1.trans htext, ?_⟩
    rcases hdue with hdue | hexp
    · exact .inl (hdue.mono hmono)
    · rw [hd.2.1]
      exact .inr (Instant.le_trans hexp hle)
  · -- the notice the step put, on the queue of its kind
    exact ⟨(hp.plain.add? hv).1, notice, (hq hqn).symm, Step.putNotice?_valid hx hn, htext,
      Step.putNotice?_due hp.plain hpl hn hv he⟩

/-- Every run of notice traffic off leap seconds, from a fresh session over an empty store at
an instant off a leap second, keeps the invariant. -/
theorem Reaches.timedRun {t₀ : Instant} (ht₀ : t₀.Plain) {pageSize : Nat} {virtualTime : Bool}
    {tr : List (Step × Outcome)}
    (h : Reaches (Session.start σ t₀ pageSize virtualTime none) tr s)
    (htr : ∀ x ∈ tr, x.1.NoticeTraffic ∧ x.1.PlainTimes) :
  TimedRun σ s
  := by
  -- the invariant is carried along the run, step by step from its start
  revert htr
  refine Reaches.induction_snoc
    (P := fun tr s => (∀ x ∈ tr, x.1.NoticeTraffic ∧ x.1.PlainTimes) → TimedRun σ s)
    (fun _ => ⟨.start σ ht₀.valid pageSize virtualTime, ht₀, fun _ _ hm => by cases hm⟩) ?_ h
  intro tr s₁ st o rs s₂ _ ih hs htr
  have hlast := htr _ (List.mem_append_right _ (List.mem_singleton_self _))
  exact (ih fun x hx => htr x (List.mem_append_left _ hx)).step hq hlast.1 hlast.2 hs

end Run

/-- A poll at a session of such a run answers each notice at most a millisecond before it is
due: the message it reads was visible and unexpired at the poll's clock, so it did not expire
before it became visible. -/
theorem TimedRun.polls_due (hp : TimedRun σ s) {kind : ExpirationKind}
    {numbered : List (Nat × PolledNotice)}
    (h : s.step (.pollNotices kind) = .ok (.reply (.notices numbered), rs, s')) :
  ∀ x ∈ numbered, x.2.notice.DueBy σ s.world.now
  := by
  intro x hx
  have hread : ∀ m ∈ s.world.store.messagesOf (σ.expirationQueue kind),
      ∃ n, Codec.decode (Notice.ofJson? kind) m.text = .ok n :=
    hp.timed.readable (x := .pollNotices kind) trivial
  obtain ⟨m, hm, hlive, hvis, hdec⟩ := hp.serving.polled_shown hread h hx
  obtain ⟨hvp, notice, hkind, hvalid, htext, hdue⟩ := hp.timed kind m hm
  -- the message reads as the notice it was written from
  rw [htext, ← hkind, Notice.decode_encode notice hvalid] at hdec
  cases hdec
  rcases hdue with hdue | hexp
  · exact hdue.mono ((Instant.Plain.le_iff hvp hp.plain).1 hvis)
  · exact absurd (Instant.lt_of_lt_of_le hlive (Instant.le_trans hexp hvis))
      (Instant.lt_irrefl _)

/-! ### How long a hint lives -/

/-- At a clock off a leap second, a publish of a valid task whose deadline, off a leap second,
is less than a millisecond ahead answers and puts nothing. -/
theorem Serving.drops_within_a_millisecond (hs : s.Serving σ) (hnow : s.world.now.Plain)
    {task : TaskRef} (runId : UInt32) (hvalid : task.validate = .ok ())
    (hd : task.deadline.Plain) (hlate : task.deadline.nanos < s.world.now.nanos + 1000000) :
  ∃ s', s.step (.putPending task runId) = .ok (.reply .unit, [], s') ∧
    ∀ n, Store.Drops s.world.now s.world.store s'.world.store n
  := by
  apply hs.drops_passed runId hvalid
  rw [remainingSecs_eq_none_iff, Instant.Plain.since_nanos hd hnow]
  omega

/-- At a clock off a leap second, a publish of a valid task whose deadline, off a leap second
and in a year of four digits, is a millisecond or more ahead answers and appends the task's
hint to the shard of its priority, visible at once and expiring less than a millisecond before
the deadline at the earliest and less than a second after it. -/
theorem Serving.publishes_until_deadline (hs : s.Serving σ) (hnow : s.world.now.Plain)
    {task : TaskRef} (runId : UInt32) (hvalid : task.validate = .ok ())
    (hd : task.deadline.Plain) (hahead : s.world.now.nanos + 1000000 ≤ task.deadline.nanos)
    (hyear : task.deadline.date.1 ≤ 9999) :
  ∃ s' expiresAt, s.step (.putPending task runId) = .ok (.reply .unit, [], s') ∧
    s'.world.store.messagesOf
        (shardName σ.stem task.provisionerId task.workerType task.priority) =
      s.world.store.live s.world.now
          (shardName σ.stem task.provisionerId task.workerType task.priority) ++
        [⟨Store.idOf (s.world.store.issuedIds + 1), Store.receiptOf
          (s.world.store.issuedReceipts + 1),
          Codec.encode (Pending.publishedHint task runId s.world).toJson, s.world.now,
          expiresAt⟩] ∧
    task.deadline.nanos < expiresAt.nanos + 1000000 ∧
    expiresAt.nanos < task.deadline.nanos + 1000000000
  := by
  have hsince := Instant.Plain.since_nanos hd hnow
  -- a millisecond ahead, seconds remain
  obtain ⟨ttl, hr⟩ : ∃ ttl, remainingSecs task.deadline s.world.now = some ttl := by
    cases h : remainingSecs task.deadline s.world.now with
    | none =>
      have := remainingSecs_eq_none_iff.1 h
      omega
    | some ttl => exact ⟨ttl, rfl⟩
  obtain ⟨-, hlo, hhi⟩ := remainingSecs_bounds hr
  rw [hsince] at hlo hhi
  -- the deadline comes before the year 10000 and the clock after the calendar's first day,
  -- so the seconds fit a span, and the expiry the calendar
  have hday := Instant.day_le_of_year hyear
  have hmin := hnow.valid.minDay_le
  obtain ⟨-, hd₂⟩ := hd.nanos_day_bounds
  obtain ⟨hn₁, -⟩ := hnow.nanos_day_bounds
  have hminDay : Instant.minDay = -96465292 := by decide
  have hmaxDay : Instant.maxDay = 95026236 := by decide
  rw [hminDay] at hmin
  simp only [nanosPerSecond, Nat.cast_ofNat] at hd₂ hn₁
  have hfit : ttl ≤ 9223372036854775 := by omega
  obtain ⟨e, he⟩ := Option.isSome_iff_exists.1 (Instant.add?_isSome hnow.valid
    (d := Span.ofSeconds ttl) (by simp [Span.ofSeconds, nanosPerSecond])
    (by simp only [Span.ofSeconds, nanosPerSecond, hmaxDay, Nat.cast_ofNat]; omega))
  have hen := (hnow.add? he).2
  simp only [Span.ofSeconds, nanosPerSecond, Nat.cast_ofNat] at hen
  obtain ⟨s', hstep, -, hmsgs, -⟩ :=
    hs.publishes runId hvalid hr (by rw [Duration.storeSpan_ofSeconds hfit]; exact he)
  exact ⟨s', e, hstep, hmsgs, by omega, by omega⟩

/-! ### The contract of the service's timers -/

/-- What the service's timers promise at a session: the seconds that remain to a target are
none exactly when it is less than a millisecond ahead, and otherwise end less than a
millisecond before it and less than a second after it; a poll answers each notice at most a
millisecond before it is due; and, at a clock and for deadlines off a leap second, a publish
puts nothing for a deadline less than a millisecond ahead, and otherwise, in a year of four
digits, puts the task's hint, expiring less than a millisecond before the deadline at the
earliest. -/
structure TimersContract (σ : Settings) (s : Session) : Prop where
  remaining (target now : Instant) :
    (remainingSecs target now = none ↔ (target.since now).nanos < 1000000) ∧
    ∀ secs, remainingSecs target now = some secs →
      1 ≤ secs ∧ (target.since now).nanos < secs * 1000000000 + 1000000 ∧
        secs * 1000000000 < (target.since now).nanos + 1000000000
  polled (kind : ExpirationKind) (numbered : List (Nat × PolledNotice)) (rs : List QueueError)
      (s' : Session) :
    s.step (.pollNotices kind) = .ok (.reply (.notices numbered), rs, s') →
    ∀ x ∈ numbered, x.2.notice.DueBy σ s.world.now
  dropped (task : TaskRef) (runId : UInt32) :
    task.validate = .ok () → task.deadline.Plain →
    task.deadline.nanos < s.world.now.nanos + 1000000 →
    ∃ s', s.step (.putPending task runId) = .ok (.reply .unit, [], s') ∧
      ∀ n, Store.Drops s.world.now s.world.store s'.world.store n
  published (task : TaskRef) (runId : UInt32) :
    task.validate = .ok () → task.deadline.Plain →
    s.world.now.nanos + 1000000 ≤ task.deadline.nanos → task.deadline.date.1 ≤ 9999 →
    ∃ s' expiresAt, s.step (.putPending task runId) = .ok (.reply .unit, [], s') ∧
      s'.world.store.messagesOf
          (shardName σ.stem task.provisionerId task.workerType task.priority) =
        s.world.store.live s.world.now
            (shardName σ.stem task.provisionerId task.workerType task.priority) ++
          [⟨Store.idOf (s.world.store.issuedIds + 1), Store.receiptOf
            (s.world.store.issuedReceipts + 1),
            Codec.encode (Pending.publishedHint task runId s.world).toJson, s.world.now,
            expiresAt⟩] ∧
      task.deadline.nanos < expiresAt.nanos + 1000000 ∧
      expiresAt.nanos < task.deadline.nanos + 1000000000

/-- The service's timers end at most a millisecond early: every session that notice traffic off
leap seconds reaches from a fresh session over an empty store, at an instant off a leap second,
under settings that name the expiration queues apart, keeps the contract. -/
theorem timers_end_at_most_a_millisecond_early (σ : Settings)
    (hq : Function.Injective σ.expirationQueue) {t₀ : Instant} (ht₀ : t₀.Plain)
    (pageSize : Nat) (virtualTime : Bool) {tr : List (Step × Outcome)} {s : Session}
    (hrun : Reaches (Session.start σ t₀ pageSize virtualTime none) tr s)
    (htraffic : ∀ x ∈ tr, x.1.NoticeTraffic ∧ x.1.PlainTimes) :
  TimersContract σ s
  := by
  have hp := hrun.timedRun hq ht₀ htraffic
  exact {
    remaining := fun _ _ => ⟨remainingSecs_eq_none_iff, fun _ h => remainingSecs_bounds h⟩
    polled := fun _ _ _ _ h => hp.polls_due h
    dropped := fun _ runId hvalid hd => hp.serving.drops_within_a_millisecond hp.plain runId
      hvalid hd
    published := fun _ runId hvalid hd => hp.serving.publishes_until_deadline hp.plain runId
      hvalid hd }

/-! ### A claim polled before it ends -/

/-- From noon on 1 March 2024 a claim taken until half a millisecond past the next second is put,
and the clock moves a second on: the claim queue holds its notice alone, visible from that
second, as the claim waits one whole second. -/
theorem early_claim_run :
  ∃ s, Reaches (Session.start Settings.default ⟨19783, 43200, 0⟩ 5000 false none)
      [(.putClaim ⟨"t1"⟩ 0 ⟨19783, 43201, 500000⟩, .reply .unit),
        (.advance 1000, .reply (.instant ⟨19783, 43201, 0⟩))] s ∧
    s.world.now = ⟨19783, 43201, 0⟩ ∧
    s.world.store.messagesOf "tq-claim" =
      [⟨Store.idOf 1, Store.receiptOf 1,
        Codec.encode (Notice.claim ⟨⟨"t1"⟩, 0, ⟨19783, 43201, 500000⟩⟩).toJson,
        ⟨19783, 43201, 0⟩, ⟨19790, 43200, 0⟩⟩]
  := by
  have ht₀ : Instant.Valid ⟨19783, 43200, 0⟩ := ⟨by decide, by decide, by decide, by decide⟩
  have hs₀ := Serving.start Settings.default ht₀ 5000 false
  -- the claim's span is cut to 1000 milliseconds: it waits one second
  have hdelay : delaySecs ⟨19783, 43201, 500000⟩ ⟨19783, 43200, 0⟩ = 1 := by decide
  have hn : Step.putNotice? Settings.default ⟨19783, 43200, 0⟩
      (.putClaim ⟨"t1"⟩ 0 ⟨19783, 43201, 500000⟩) =
      some (.claim ⟨⟨"t1"⟩, 0, ⟨19783, 43201, 500000⟩⟩, 1) := by
    rw [← hdelay]
    rfl
  have hv : Instant.add? ⟨19783, 43200, 0⟩ (Duration.ofSeconds 1).storeSpan =
      some ⟨19783, 43201, 0⟩ := by decide
  have he : Instant.add? ⟨19783, 43200, 0⟩ noticeTtl.storeSpan = some ⟨19790, 43200, 0⟩ := by
    decide
  obtain ⟨s₁, hstep₁, hnow₁, -, -, hmsgs₁, -⟩ := hs₀.putsNotice hn hv he
  have hx : Step.NoticeTraffic (.putClaim ⟨"t1"⟩ 0 ⟨19783, 43201, 500000⟩) :=
    ⟨by decide, by decide, by decide, by decide⟩
  have hs₁ := (Serving.step hs₀ (.inr hx) trivial hstep₁).serving
  -- the clock moves a second on, and the store stays
  have hplus : Instant.plus ⟨19783, 43200, 0⟩ (Span.ofMillis 1000) = .ok ⟨19783, 43201, 0⟩ := by
    decide
  have hstep₂ : s₁.step (.advance 1000) = .ok (.reply (.instant ⟨19783, 43201, 0⟩), [],
      { s₁ with world := { s₁.world with now := ⟨19783, 43201, 0⟩, reports := [] } }) := by
    rw [step_advance hs₁, hnow₁]
    show Except.map _ (Instant.plus ⟨19783, 43200, 0⟩ _) = _
    rw [hplus]
    rfl
  exact ⟨_, .step hstep₁ (.step hstep₂ (.refl _)), rfl, hmsgs₁⟩

/-- Every session of that run keeps the contract of the timers. -/
theorem timers_contract_after_early_claim :
  ∃ s, Reaches (Session.start Settings.default ⟨19783, 43200, 0⟩ 5000 false none)
      [(.putClaim ⟨"t1"⟩ 0 ⟨19783, 43201, 500000⟩, .reply .unit),
        (.advance 1000, .reply (.instant ⟨19783, 43201, 0⟩))] s ∧
    TimersContract Settings.default s
  := by
  obtain ⟨s, hrun, -, -⟩ := early_claim_run
  refine ⟨s, hrun, timers_end_at_most_a_millisecond_early Settings.default
    Settings.default_expirationQueue_injective
    ⟨⟨by decide, by decide, by decide, by decide⟩, by decide⟩ 5000 false hrun ?_⟩
  intro x hx
  simp only [List.mem_cons, List.not_mem_nil, or_false] at hx
  rcases hx with rfl | rfl
  · exact ⟨⟨by decide, by decide, by decide, by decide⟩,
      ⟨by decide, by decide, by decide, by decide⟩, by decide⟩
  · exact ⟨trivial, trivial⟩

/-- A claim is polled half a millisecond before it ends: after that run, a poll of the claim
queue answers the claim's notice at 12:00:01, before the claim ends at 12:00:01.0005. -/
theorem claim_polled_before_taken_until :
  ∃ tr s numbered rs s',
    Reaches (Session.start Settings.default ⟨19783, 43200, 0⟩ 5000 false none) tr s ∧
    s.step (.pollNotices .claim) = .ok (.reply (.notices numbered), rs, s') ∧
    ∃ x ∈ numbered, x.2.notice = .claim ⟨⟨"t1"⟩, 0, ⟨19783, 43201, 500000⟩⟩ ∧
      s.world.now < ⟨19783, 43201, 500000⟩
  := by
  obtain ⟨s, hrun, hnow, hq⟩ := early_claim_run
  have ht₀ : Instant.Valid ⟨19783, 43200, 0⟩ := ⟨by decide, by decide, by decide, by decide⟩
  have hp : NoticeRun Settings.default _ _ s :=
    Reaches.noticeRun Settings.default_expirationQueue_injective ht₀ hrun fun x hx => by
      simp only [List.mem_cons, List.not_mem_nil, or_false] at hx
      rcases hx with rfl | rfl
      · exact ⟨by decide, by decide, by decide, by decide⟩
      · trivial
  -- the poll answers the claim's notice alone
  have hl : s.world.now.add? noticeLease.storeSpan = some ⟨19783, 43801, 0⟩ := by
    rw [hnow]
    decide
  obtain ⟨s', numbered, hstep, -, hleased, -, -, -⟩ := hp.polls .claim hl
  have hget : (s.world.store.live s.world.now "tq-claim").filter (·.isVisible s.world.now) =
      s.world.store.messagesOf "tq-claim" := by
    unfold Store.live
    rw [hq, hnow]
    rfl
  rw [show Settings.default.expirationQueue .claim = "tq-claim" from rfl, hget, hq,
    List.take_of_length_le (by decide), List.mapIdx_cons, List.mapIdx_nil] at hleased
  obtain ⟨x, rfl⟩ := List.length_eq_one_iff.1 (by simpa using congrArg List.length hleased)
  -- its notice is read from the claim's message
  obtain ⟨m, hm, -, -, hdec⟩ := hp.serving.polled_shown
    (hp.notices.readable (x := .pollNotices .claim) trivial) hstep (List.mem_singleton_self x)
  rw [show Settings.default.expirationQueue .claim = "tq-claim" from rfl, hq,
    List.mem_singleton] at hm
  subst hm
  have hread : Codec.decode (Notice.ofJson? .claim)
      (Codec.encode (Notice.claim ⟨⟨"t1"⟩, 0, ⟨19783, 43201, 500000⟩⟩).toJson) =
      .ok (Notice.claim ⟨⟨"t1"⟩, 0, ⟨19783, 43201, 500000⟩⟩) :=
    Notice.decode_encode _ ⟨by decide, by decide, by decide, by decide⟩
  rw [hread] at hdec
  refine ⟨_, s, [x], [], s', hrun, hstep, x, List.mem_singleton_self x,
    (Except.ok.inj hdec).symm, ?_⟩
  rw [hnow]
  decide

end Session

end TaskQueue
