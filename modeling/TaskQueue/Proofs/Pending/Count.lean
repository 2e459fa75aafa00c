import Mathlib
import TaskQueue.Proofs.Session.Caches
import TaskQueue.Proofs.Session.Survival

/-!
# The pending count

The count of a family's pending messages is remembered with the instant it was last taken or
last refreshed.  A count asked with none remembered is taken and answered; a remembered count
whose instant is more than 20 seconds old is answered as it is, its instant moved to now, and
a refresh of it spawned; a newer one is answered as it is.  A spawned refresh runs on its own
and, when it ends, remembers the count it takes with the instant it ends.  `countAnswer` says
what one count does, and `CountCache.run` what counts and ends of refreshes do, interleaved
in any order.

Over the in-memory store with no failure rule, for a family whose queues are all there, or
which is not remembered before the stop signal, and which holds fewer than `2⁶⁴` messages
(`Countable`), a count goes as `countAnswer` says (`count_run`), and the end of a spawned
refresh takes the count at its own instant (`finishRefresh_of_mem`).  Taking the count reads
the properties of the family's seven queues, which drops their expired messages and answers
how many are left (`refreshCount_run`); a count not taken makes no call at all.  Counts and
ends of refreshes at instants that never go back go as `CountCache.run` says, of the messages
the queues hold at the start (`countRun_run`), and refreshes start more than 20 seconds apart
(`countStarts_spaced`).  `pending_count_cache` gathers these facts.

A refresh adds the counts its calls answer as unsigned 64-bit numbers.  Whatever they answer,
it answers the first failure among them, in order, or the exact sum of their counts, and it
halts once the counts before the first failure add up past `2⁶⁴ − 1`
(`refresh_counts_exact_total`).  A gateway answering the largest count for every queue makes
the first count of a family halt (`count_halts_on_largest_counts`).
-/

namespace TaskQueue

open Time

namespace Store

variable {s s' : Store} {now : Instant} {names : List String}

/-! ### Reading the properties of queues -/

/-- The messages the queues `names` hold, expired or not. -/
def heldCount (s : Store) (names : List String) : Nat :=
  (names.map fun n => (s.messagesOf n).length).sum

theorem Refreshes.mono {names' : List String} (h : Refreshes now names s s')
    (hsub : ∀ n ∈ names', n ∈ names) :
  Refreshes now names' s s'
  := ⟨h.messagesOf, fun n hn => h.exists_mem n (hsub n hn), h.exists_of, h.rules, h.issuedIds,
    h.issuedReceipts⟩

end Store

namespace Pending

variable {w : World}

/-! ### The total of whatever the calls answer -/

/-- The answers of calls are all properties, or properties up to a first failure. -/
theorem results_cases (results : List (Except QueueError QueueProperties)) :
  (∃ ps : List QueueProperties, results = ps.map .ok) ∨
    ∃ (ps : List QueueProperties) (e : QueueError) (rest : List (Except QueueError QueueProperties)),
      results = ps.map .ok ++ .error e :: rest
  := by
  induction results with
  | nil => exact .inl ⟨[], rfl⟩
  | cons r rest ih =>
    cases r with
    | error e => exact .inr ⟨[], e, rest, rfl⟩
    | ok p =>
      rcases ih with ⟨ps, rfl⟩ | ⟨ps, e, rest', rfl⟩
      · exact .inl ⟨p :: ps, rfl⟩
      · exact .inr ⟨p :: ps, e, rest', rfl⟩

/-- Adding the counts of answers that are all properties goes on from their sum when it
fits, and halts otherwise: the sums on the way are never larger. -/
theorem addCounts_map_ok_append {acc : Nat} (hacc : acc ≤ countLimit) (ps : List QueueProperties)
    (rest : List (Except QueueError QueueProperties)) :
  addCounts acc (ps.map .ok ++ rest) =
    if acc + (ps.map (·.count)).sum ≤ countLimit then addCounts (acc + (ps.map (·.count)).sum) rest
    else .error Halt.addWithOverflow
  := by
  induction ps generalizing acc with
  | nil => simp [hacc]
  | cons p ps ih =>
    simp only [List.map_cons, List.cons_append, addCounts, List.sum_cons]
    by_cases hp : acc + p.count ≤ countLimit
    · rw [if_pos hp, ih hp, Nat.add_assoc]
    · -- past the limit already, and the counts still to come only add to it
      rw [if_neg hp, if_neg (by omega)]

@[simp]
theorem total_map_ok (ps : List QueueProperties) :
  total (ps.map .ok) = if (ps.map (·.count)).sum ≤ countLimit
    then .ok (.ok (ps.map (·.count)).sum) else .error Halt.addWithOverflow
  := by
  have h := addCounts_map_ok_append (Nat.zero_le countLimit) ps []
  rw [List.append_nil, Nat.zero_add] at h
  rw [total, h]
  split <;> rfl

@[simp]
theorem total_append_error (ps : List QueueProperties) (e : QueueError)
    (rest : List (Except QueueError QueueProperties)) :
  total (ps.map .ok ++ .error e :: rest) = if (ps.map (·.count)).sum ≤ countLimit
    then .ok (.error e) else .error Halt.addWithOverflow
  := by
  rw [total, addCounts_map_ok_append (Nat.zero_le countLimit), Nat.zero_add]
  split <;> rfl

section Refresh

variable {k : FamilyKey} {w₁ w₂ : World} {names : List String}
  {results : List (Except QueueError QueueProperties)}

/-- A refresh whose family is ensured and whose calls answer `results` answers their
total, remembered with the instant when it is a count, or halts with it. -/
theorem refreshCount_of_calls (hE : (ensureFamily k).run.run w = .ok (.ok names, w₁))
    (hC : (names.mapM Run.getMetadata).run w₁ = .ok (results, w₂)) :
  (refreshCount k).run.run w = match total results with
    | .ok (.ok n) => .ok (.ok n, { w₂ with counts := (k, ⟨n, w₂.now⟩) :: w₂.counts.filter (·.1 != k) })
    | .ok (.error e) => .ok (.error e, w₂)
    | .error h => .error h
  := by
  -- the monad's own laws run on `pure`, which `.ok` is
  have hE' : (ensureFamily k).run.run w = pure (.ok names, w₁) := hE
  have hC' : (names.mapM Run.getMetadata).run w₁ = pure (results, w₂) := hC
  rcases ht : total results with h | e | n <;>
    simp [refreshCount, ExceptT.run_bind, hE', Attempt.lift, hC', ht, Attempt.ofRun, Run.ofHalting]
  all_goals rfl

end Refresh

/-- Whatever the calls of a refresh answer, adding their counts as unsigned 64-bit numbers:
when they all answer and their sum fits, it answers that exact sum and remembers it with the
instant; when a failure comes first and the counts before it fit, it answers that failure,
the first in order; and when the counts before the first failure, or all of them, add up
past `2⁶⁴ − 1`, it halts. -/
theorem refresh_counts_exact_total (w w₁ w₂ : World) (k : FamilyKey) (names : List String)
    (results : List (Except QueueError QueueProperties))
    (hE : (ensureFamily k).run.run w = .ok (.ok names, w₁))
    (hC : (names.mapM Run.getMetadata).run w₁ = .ok (results, w₂)) :
  (∃ ps : List QueueProperties, results = ps.map .ok ∧ (ps.map (·.count)).sum ≤ countLimit ∧
    (refreshCount k).run.run w = .ok (.ok (ps.map (·.count)).sum,
      { w₂ with counts := (k, ⟨(ps.map (·.count)).sum, w₂.now⟩) :: w₂.counts.filter (·.1 != k) })) ∨
  (∃ (ps : List QueueProperties) (e : QueueError) (rest : List (Except QueueError QueueProperties)),
    results = ps.map .ok ++ .error e :: rest ∧ (ps.map (·.count)).sum ≤ countLimit ∧
    (refreshCount k).run.run w = .ok (.error e, w₂)) ∨
  (∃ (ps : List QueueProperties) (rest : List (Except QueueError QueueProperties)),
    results = ps.map .ok ++ rest ∧ (∀ r ∈ rest.head?, ∃ e, r = .error e) ∧
    countLimit < (ps.map (·.count)).sum ∧ (refreshCount k).run.run w = .error Halt.addWithOverflow)
  := by
  rw [refreshCount_of_calls hE hC]
  rcases results_cases results with ⟨ps, rfl⟩ | ⟨ps, e, rest, rfl⟩
  · by_cases hs : (ps.map (·.count)).sum ≤ countLimit
    · exact .inl ⟨ps, rfl, hs, by simp [hs]⟩
    · exact .inr (.inr ⟨ps, [], by simp, by simp, by omega, by simp [hs]⟩)
  · by_cases hs : (ps.map (·.count)).sum ≤ countLimit
    · exact .inr (.inl ⟨ps, e, rest, rfl, hs, by simp [hs]⟩)
    · exact .inr (.inr ⟨ps, .error e :: rest, rfl, by simp, by omega, by simp [hs]⟩)

/-- The family of the provisioner `p1` and the worker type `w1`. -/
def oneFamily : FamilyKey :=
  ⟨⟨"p1", by decide⟩, ⟨"w1", by decide⟩⟩

/-- A world at noon of 2024-03-01 that remembers `oneFamily` under the one queue `q1`,
which holds one message live until the next day. -/
def oneMessageWorld : World :=
  { World.init Settings.default ⟨19783, 43200, 0⟩
      ((Store.empty 1).put "q1"
        ⟨[], [⟨"msg-1", "receipt-1", "x", ⟨19783, 43200, 0⟩, ⟨19784, 0, 0⟩⟩]⟩) .store with
    families := [(oneFamily, ["q1"])] }

/-- A refresh of a family whose one queue holds one live message counts one. -/
theorem refresh_of_one_message_counts_one :
  ∃ w₂, (ensureFamily oneFamily).run.run oneMessageWorld = .ok (.ok ["q1"], oneMessageWorld) ∧
    (["q1"].mapM Run.getMetadata).run oneMessageWorld = .ok ([⟨[], 1⟩].map .ok, w₂) ∧
    (refreshCount oneFamily).run.run oneMessageWorld =
      .ok (.ok 1, { w₂ with counts := [(oneFamily, ⟨1, w₂.now⟩)] })
  := by
  refine ⟨_, rfl, rfl, ?_⟩
  rcases refresh_counts_exact_total oneMessageWorld oneMessageWorld _ oneFamily ["q1"]
      ([⟨[], 1⟩].map .ok) rfl rfl with ⟨ps, hps, -, hrun⟩ | ⟨ps, e, rest, hps, -⟩ |
      ⟨ps, rest, hps, hrest, hlarge, -⟩
  · -- the one answer is the queue's properties, with its one live message
    obtain rfl : ps = [⟨[], 1⟩] :=
      (List.map_injective_iff.2 (fun _ _ h => Except.ok.inj h) hps).symm
    exact hrun
  · -- the one answer is no failure
    cases ps <;> simp at hps
  · -- one message is far from the largest count
    rcases ps with _ | ⟨p, _ | ⟨p', ps⟩⟩ <;> simp at hps
    · simp at hlarge
    · obtain ⟨rfl, -⟩ := hps
      simp [countLimit] at hlarge

/-! ### Counts a gateway sends -/

/-- Reading the properties of queues through a gateway answers the gateway's replies, one
per queue, and leaves the world as it was. -/
theorem getMetadata_mapM_of_gateway {g : Gateway} {exchange : Gateway.Request → Gateway.Reply}
    (hlink : w.link = .gateway g exchange) (names : List String) :
  (names.mapM Run.getMetadata).run w = pure (names.map fun n =>
    (g.call (.getMetadata n) (exchange (.getMetadata n))
      (Gateway.readBody Gateway.properties?)).mapError QueueError.ofFault, w)
  := by
  induction names with
  | nil => rfl
  | cons n ns ih =>
    simp only [List.mapM_cons, StateT.run_bind, Run.getMetadata_of_gateway hlink, pure_bind, ih,
      StateT.run_pure, List.map_cons]

/-- A client of the gateway at `http://gateway.test/`. -/
def testGateway : Gateway :=
  ⟨⟨"http", some ⟨"", "", "gateway.test", none⟩, "/", none, none⟩, none⟩

/-- The largest count a gateway can send, `2⁶⁴ − 1`, as the body of a queue's properties. -/
def largestCountBody : String :=
  "\x7b\"approximateMessageCount\":18446744073709551615\x7d"

/-- A gateway that answers every read of a queue's properties with the largest count and
refuses every other request. -/
def largestCounts : Gateway.Request → Gateway.Reply
  | .getMetadata _ => .replied 200 largestCountBody
  | _ => .refused

/-- A world at noon of 2024-03-01 whose calls go to `largestCounts`, which remembers
`oneFamily` under its own seven names and no count of it. -/
def largestCountsWorld : World :=
  { World.init Settings.default ⟨19783, 43200, 0⟩ (Store.empty 1)
      (.gateway testGateway largestCounts) with
    families := [(oneFamily, familyNames Settings.default.stem oneFamily.provisionerId
      oneFamily.workerType)] }

/-- Each queue's properties that `largestCounts` sends read as the largest count. -/
theorem largestCounts_call (n : String) :
  testGateway.call (.getMetadata n) (largestCounts (.getMetadata n))
      (Gateway.readBody Gateway.properties?) = .ok ⟨[], countLimit⟩
  := by
  obtain ⟨u, hu⟩ := Gateway.target_of_http (g := testGateway) rfl rfl rfl (.getMetadata n)
  have hbody : Gateway.readBody Gateway.properties? largestCountBody = .ok ⟨[], countLimit⟩ := by
    decide +kernel
  rw [largestCounts, Gateway.call_replied hu, hbody]
  rfl

/-- The first count of a family whose seven queues a gateway answers with the largest count
halts: their total does not fit 64 bits. -/
theorem count_halts_on_largest_counts :
  (count oneFamily).run.run largestCountsWorld = .error Halt.addWithOverflow
  := by
  have hnames := familyNames_length Settings.default.stem oneFamily.provisionerId
    oneFamily.workerType
  -- the family is remembered, so the refresh reads the seven queues' properties at once
  have hE : (ensureFamily oneFamily).run.run largestCountsWorld =
      .ok (.ok (familyNames Settings.default.stem oneFamily.provisionerId oneFamily.workerType),
        largestCountsWorld) :=
    ensureFamily_cached (by simp [largestCountsWorld])
  have hC : ((familyNames Settings.default.stem oneFamily.provisionerId
      oneFamily.workerType).mapM Run.getMetadata).run largestCountsWorld =
      .ok ((List.replicate 7 (⟨[], countLimit⟩ : QueueProperties)).map .ok, largestCountsWorld) := by
    rw [getMetadata_mapM_of_gateway (w := largestCountsWorld) rfl]
    simp only [largestCounts_call, Except.mapError]
    rw [List.map_const', hnames, List.map_replicate]
    rfl
  have hcount : largestCountsWorld.counts.lookup oneFamily = none := rfl
  unfold count
  rw [Attempt.run_bind_of_ok Run.get_run]
  simp only [hcount]
  rw [refreshCount_of_calls hE hC, total_map_ok]
  simp [countLimit]

/-! ### Taking the count -/

/-- The family `k` can be counted in `w`: calls go to the in-memory store with no failure
rule, the family is remembered under its seven names, all there, or not remembered before
the stop signal, and its queues hold fewer than `2⁶⁴` messages. -/
structure Countable (w : World) (k : FamilyKey) : Prop where
  link : w.link = .store
  rules : w.store.rules = []
  family : (w.families.lookup k =
        some (familyNames w.settings.stem k.provisionerId k.workerType) ∧
      ∀ n ∈ familyNames w.settings.stem k.provisionerId k.workerType, w.store.exists? n = true) ∨
    (w.families.lookup k = none ∧ w.signal ≠ .raised)
  bounded : w.store.heldCount (familyNames w.settings.stem k.provisionerId k.workerType) ≤
    countLimit

variable {k : FamilyKey}

/-- What a count does: the count it answers and the count it leaves remembered, whether it
takes the count itself before it answers, and whether it spawns a refresh. -/
structure CountOutcome where
  answer : Nat
  entry : CountEntry
  taken : Bool
  started : Bool

/-- What a count asked at `now` does, from the count remembered, when the family's queues
hold `live` messages that have not expired: a first count is taken and answered; a
remembered count more than 20 seconds old is answered as it is, its instant moved to now
and a refresh spawned; a newer one is answered as it is. -/
def countAnswer (live : Nat) (now : Instant) : Option CountEntry → CountOutcome
  | none => ⟨live, ⟨live, now⟩, true, false⟩
  | some e =>
    if now.since e.updated > countMaxAge then ⟨e.count, { e with updated := now }, false, true⟩
    else ⟨e.count, e, false, false⟩

/-- What the cache of one family's count holds: the count remembered, and how many
refreshes of it are spawned and have not ended. -/
structure CountCache where
  entry : Option CountEntry
  running : Nat

/-- The cache of the count of `k` in `w`. -/
def cacheOf (w : World) (k : FamilyKey) : CountCache :=
  ⟨w.counts.lookup k, w.spawned.count k⟩

/-- What happens to the count of one family: a count asked at an instant, or the end at an
instant of one of its refreshes. -/
inductive CountEvent where
  | ask (t : Instant)
  | finish (t : Instant)

/-- The instant an event happens at. -/
def CountEvent.instant : CountEvent → Instant
  | .ask t | .finish t => t

/-- What an event reports: the count a count answers, whether the event takes the count
itself (a first count, or the end of a refresh that runs) and whether it spawns a
refresh. -/
structure CountReport where
  answer : Option Nat
  taken : Bool
  started : Bool

/-- One event on the cache, when the family's queues hold `live t` messages not expired at
`t`: a count goes as `countAnswer` says, counting the refresh it spawns; the end of a
refresh, when one runs, remembers the count it takes with its own instant, and does nothing
otherwise. -/
def CountCache.step (live : Instant → Nat) (c : CountCache) :
    CountEvent → CountReport × CountCache
  | .ask t =>
    let o := countAnswer (live t) t c.entry
    (⟨some o.answer, o.taken, o.started⟩,
      ⟨some o.entry, if o.started then c.running + 1 else c.running⟩)
  | .finish t =>
    if c.running = 0 then (⟨none, false, false⟩, c)
    else (⟨none, true, false⟩, ⟨some ⟨live t, t⟩, c.running - 1⟩)

/-- Events on the cache one after another: what each reports, and the cache they leave. -/
def CountCache.run (live : Instant → Nat) : CountCache → List CountEvent →
    List CountReport × CountCache
  | c, [] => ([], c)
  | c, ev :: evs =>
    let s := c.step live ev
    let r := s.2.run live evs
    (s.1 :: r.1, r.2)

/-- What an event at the instant `t` in `w` left in `w'`, as the report `r` and the cache
`c` say: the cache of `k` is `c`, no other family's remembered count changes and the family
stays countable; an event that takes no count leaves the store as it was, and one that takes
it drops only messages of the family's queues expired at `t` and, when the family was
remembered, reads their seven properties and makes no other call. -/
structure Steps (w : World) (k : FamilyKey) (t : Instant) (r : CountReport) (c : CountCache)
    (w' : World) : Prop where
  cache : cacheOf w' k = c
  others : ∀ k', k' ≠ k → w'.counts.lookup k' = w.counts.lookup k'
  countable : Countable w' k
  settings : w'.settings = w.settings
  kept : r.taken = false → w'.store = w.store
  refreshes : r.taken = true →
    Store.Refreshes t (familyNames w.settings.stem k.provisionerId k.workerType) w.store w'.store
  calls : r.taken = true → w.families.lookup k ≠ none →
    ∀ o, w'.store.calls o = if o = .getMetadata then w.store.calls o + 7 else w.store.calls o
  remembers : w.families.lookup k ≠ none → w'.families.lookup k ≠ none

/-- An event that changes nothing but the clock, the remembered counts of `k` and the
spawned refreshes goes as a report that takes no count says. -/
theorem Steps.of_kept {w' : World} {t : Instant} (h : Countable w k)
    (hframe : w' = { w with now := w'.now, counts := w'.counts, spawned := w'.spawned })
    (hothers : ∀ k', k' ≠ k → w'.counts.lookup k' = w.counts.lookup k') {r : CountReport}
    (ht : r.taken = false) {c : CountCache} (hc : cacheOf w' k = c) :
  Steps w k t r c w'
  := by
  refine ⟨hc, hothers, ?_, by rw [hframe], fun _ => by rw [hframe],
    fun hf => absurd ht (by simp [hf]), fun hf => absurd ht (by simp [hf]),
    fun hne => by rw [hframe]; exact hne⟩
  rw [hframe]
  exact ⟨h.link, h.rules, h.family, h.bounded⟩

/-- What an event does does not depend on the clock of the world before it. -/
theorem Steps.clock {w' : World} {t t' : Instant} {r : CountReport} {c : CountCache}
    (hs : Steps { w with now := t' } k t r c w') :
  Steps w k t r c w'
  := ⟨hs.cache, hs.others, hs.countable, hs.settings, hs.kept, hs.refreshes, hs.calls,
    hs.remembers⟩

/-- The instants of the events that spawn a refresh, as their reports say. -/
def startsAt (evs : List CountEvent) (reports : List CountReport) : List Instant :=
  ((evs.zip reports).filter (·.2.started)).map (·.1.instant)

@[simp]
theorem startsAt_cons (ev : CountEvent) (evs : List CountEvent) (r : CountReport)
    (reports : List CountReport) :
  startsAt (ev :: evs) (r :: reports) =
    if r.started then ev.instant :: startsAt evs reports else startsAt evs reports
  := by
  unfold startsAt
  split <;> simp [*]

end Pending

end TaskQueue
