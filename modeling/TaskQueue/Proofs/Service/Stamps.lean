import TaskQueue.Proofs.Service.Isolation
import TaskQueue.Proofs.Pending.Service
import TaskQueue.Proofs.Time.Plain
import TaskQueue.Proofs.Time.Text

/-!
# When the queues of a family were last used

A pending queue's metadata records when an ensure of its family last wrote it
(`last_used`).  The only metadata the service ever writes to a pending queue is that of an
ensure at the clock, so a queue's `last_used` only ever moves to the clock.  This module
states what every computation of the service keeps of that (`World.Retains`), and proves it
of each by a Hoare triple, so that `mvcgen` carries it through every caller:

* each queue of a family `k` that the store holds carries metadata that reads back, with a
  `last_used` off any leap second;
* once an ensure of `k` missed the cache and succeeded, which the pending manager logs, that
  `last_used` is later than 23 hours before the clock the ensure ran at: the ensure wrote
  the clock, or found metadata less than 23 hours old.

Both rest on the clock reading an instant off any leap second, of a year of four digits
(`Stamp.Clock`): otherwise `last_used` does not read back as the instant written, or is
compared with the clock across a leap second.  Metadata is read from its three keys alone,
whatever else it holds, and what an ensure writes reads back exactly when the year has four
digits (`QueueMetadata.metadata_read_back`).
-/

namespace TaskQueue

open Std.Do Time

set_option mvcgen.warning false

/-! ### Metadata -/

/-- Pending queue metadata reads back as written, at an instant of a year of four digits. -/
theorem QueueMetadata.ofMetadata?_toMetadata (m : QueueMetadata) (ht : m.lastUsed.Valid)
    (hy : 0 ≤ m.lastUsed.date.1 ∧ m.lastUsed.date.1 ≤ 9999) :
  QueueMetadata.ofMetadata? m.toMetadata = some m
  := by
  simp [QueueMetadata.ofMetadata?, QueueMetadata.toMetadata, Metadata.get?,
    Instant.parseStrict_toOffsetText ht hy]

namespace QueueMetadata

/-- Metadata is read from its three keys alone. -/
theorem ofMetadata?_congr {md md' : Metadata}
    (h : ∀ k ∈ ["last_used", "provisioner_id", "worker_type"], md.get? k = md'.get? k) :
  ofMetadata? md = ofMetadata? md'
  := by
  simp only [List.mem_cons, List.not_mem_nil, or_false, forall_eq_or_imp, forall_eq] at h
  obtain ⟨hl, hp, hw⟩ := h
  simp only [ofMetadata?, hl, hp, hw]

/-- The metadata written for `m` reads back as `m` exactly when the year of `last_used` has
four digits. -/
theorem ofMetadata?_toMetadata_eq (m : QueueMetadata) (hv : m.lastUsed.Valid) :
  ofMetadata? m.toMetadata =
    if 0 ≤ m.lastUsed.date.1 ∧ m.lastUsed.date.1 ≤ 9999 then some m else none
  := by
  split_ifs with hy
  · exact ofMetadata?_toMetadata m hv hy
  · simp [ofMetadata?, toMetadata, Metadata.get?, Instant.parseStrict_toOffsetText_of_year hy]

/-- Metadata that holds the entries written for `m`, with any other keys besides, reads back
as `m`, fractions of a second and leap seconds included, exactly when the year of `last_used`
has four digits; otherwise it does not read at all. -/
theorem metadata_read_back (m : QueueMetadata) (hv : m.lastUsed.Valid) {md : Metadata}
    (hmd : ∀ k ∈ m.toMetadata.map (·.1), md.get? k = m.toMetadata.get? k) :
  ofMetadata? md = if 0 ≤ m.lastUsed.date.1 ∧ m.lastUsed.date.1 ≤ 9999 then some m else none
  := by
  rw [ofMetadata?_congr hmd]
  exact ofMetadata?_toMetadata_eq m hv

/-- Metadata written at the epoch, with a key of its own in front, reads back. -/
theorem metadata_read_back_with_extra_key :
  (⟨"p1", "w1", .epoch⟩ : QueueMetadata).lastUsed.Valid ∧
    (∀ k ∈ (⟨"p1", "w1", .epoch⟩ : QueueMetadata).toMetadata.map (·.1),
      Metadata.get? (("color", "blue") :: (⟨"p1", "w1", .epoch⟩ : QueueMetadata).toMetadata) k =
        (⟨"p1", "w1", .epoch⟩ : QueueMetadata).toMetadata.get? k) ∧
    ofMetadata? (("color", "blue") :: (⟨"p1", "w1", .epoch⟩ : QueueMetadata).toMetadata) =
      some ⟨"p1", "w1", .epoch⟩
  := by
  have hkeys : ∀ k ∈ (⟨"p1", "w1", .epoch⟩ : QueueMetadata).toMetadata.map (·.1),
      Metadata.get? (("color", "blue") :: (⟨"p1", "w1", .epoch⟩ : QueueMetadata).toMetadata) k =
        (⟨"p1", "w1", .epoch⟩ : QueueMetadata).toMetadata.get? k := by
    simp [toMetadata, Metadata.get?]
  refine ⟨Instant.epoch_valid, hkeys, ?_⟩
  rw [metadata_read_back _ Instant.epoch_valid hkeys]
  decide

/-- Metadata written at the first instant of the year 10000 does not read back: its
`last_used` has five year digits and a sign. -/
theorem metadata_unread_in_year_ten_thousand :
  (⟨daysFromCivil 10000 1 1, 0, 0⟩ : Instant).Valid ∧
    ofMetadata? (⟨"p1", "w1", ⟨daysFromCivil 10000 1 1, 0, 0⟩⟩ : QueueMetadata).toMetadata = none
  := by
  have hyear : (⟨daysFromCivil 10000 1 1, 0, 0⟩ : Instant).date.1 = 10000 := by decide
  refine ⟨⟨by decide, by decide, by decide, by decide⟩, ?_⟩
  simp [ofMetadata?, toMetadata, Metadata.get?,
    Instant.parseStrict_toOffsetText_of_year (t := ⟨daysFromCivil 10000 1 1, 0, 0⟩)
      (by rw [hyear]; decide)]

end QueueMetadata

/-- The event the pending manager logs when an ensure of the family `k` missed the cache
and made sure of its seven queues. -/
def Pending.readyEvent (k : FamilyKey) : LogEvent :=
  ⟨.debug, pendingTarget, "pending queue family ready",
    [("provisioner_id", k.provisionerId.val), ("worker_type", k.workerType.val)]⟩

namespace Stamp

/-- Metadata that reads back as a pending queue's, with a `last_used` off any leap second,
and later than `b` nanoseconds after the epoch when `late` holds. -/
def Holds (late : Prop) (b : Int) (md : Metadata) : Prop :=
  ∃ m, QueueMetadata.ofMetadata? md = some m ∧ m.lastUsed.Plain ∧ (late → b < m.lastUsed.nanos)

/-- A clock the argument works with, for the bound `b`: it reads an instant off any leap
second, of a year of four digits, at least 23 hours after `b`. -/
structure Clock (b : Int) (t : Instant) : Prop where
  plain : t.Plain
  year : 0 ≤ t.date.1 ∧ t.date.1 ≤ 9999
  after : b + metadataRefreshAge.nanos ≤ t.nanos

/-- The `last_used` of metadata that holds is off any leap second. -/
theorem Holds.plain {late : Prop} {b : Int} {md : Metadata} (h : Holds late b md) :
  ∀ m, QueueMetadata.ofMetadata? md = some m → m.lastUsed.Plain
  := by
  obtain ⟨m, hm, hp, -⟩ := h
  intro m' hm'
  rw [hm, Option.some_inj] at hm'
  exact hm' ▸ hp

theorem Holds.mono {late late' : Prop} {b : Int} {md : Metadata} (h : Holds late b md)
    (hl : late' → late) :
  Holds late' b md
  := by
  obtain ⟨m, hm, hp, hb⟩ := h
  exact ⟨m, hm, hp, fun h' => hb (hl h')⟩

/-- The metadata an ensure writes at the clock. -/
theorem Clock.holds {b : Int} {t : Instant} (hc : Clock b t) (late : Prop) (p w : String) :
  Holds late b (QueueMetadata.mk p w t).toMetadata
  := by
  refine ⟨_, QueueMetadata.ofMetadata?_toMetadata _ hc.plain.valid hc.year, hc.plain,
    fun _ => ?_⟩
  have := hc.after
  simp only [metadataRefreshAge, Span.ofHours, Span.ofSeconds, nanosPerSecond] at this
  dsimp only
  omega

/-- Metadata that an ensure at the clock finds fresh, with a `last_used` off any leap
second, is less than 23 hours old. -/
theorem Clock.holds_of_isFresh {b : Int} {t : Instant} (hc : Clock b t) {md : Metadata}
    {p : ProvisionerId} {w : WorkerType} (hf : Pending.isFresh md p w t = true)
    (hplain : ∀ m, QueueMetadata.ofMetadata? md = some m → m.lastUsed.Plain) (late : Prop) :
  Holds late b md
  := by
  unfold Pending.isFresh at hf
  split at hf
  · next m hm =>
    simp only [Bool.and_eq_true, decide_eq_true_eq] at hf
    have hsince := hf.2
    have hp := hplain m hm
    rw [show (t.since m.lastUsed < metadataRefreshAge) =
      ((t.since m.lastUsed).nanos < metadataRefreshAge.nanos) from rfl,
      Instant.Plain.since_nanos hc.plain hp] at hsince
    refine ⟨m, hm, hp, fun _ => ?_⟩
    have := hc.after
    omega
  · cases hf

end Stamp

/-! ### What a call writes -/

namespace Store

/-- The queue a call writes metadata to, with the metadata: a create writes its own (none
for empty), a metadata set its own; no other call writes metadata. -/
def Call.writes? : Call → Option (String × Metadata)
  | .createQueue n m => some (n, m.getD [])
  | .setMetadata n m => some (n, m)
  | _ => none

theorem find?_put_eq_some {s : Store} {n n' : String} {q q' : StoredQueue}
    (h : (s.put n q).find? n' = some q') :
  (n' = n ∧ q' = q) ∨ (n' ≠ n ∧ s.find? n' = some q')
  := by
  rw [find?_put] at h
  split_ifs at h with hn
  · exact .inl ⟨hn, (Option.some_inj.1 h).symm⟩
  · exact .inr ⟨hn, h⟩

theorem Call.perform_metadata {c : Call} {s s' : Store} {a : Except Fault Answer}
    (h : c.perform s = .ok (a, s')) {n : String} {q' : StoredQueue} (hq : s'.find? n = some q') :
  (∃ q, s.find? n = some q ∧ q'.metadata = q.metadata) ∨ c.writes? = some (n, q'.metadata)
  := by
  cases c with
  | createQueue name m =>
    obtain ⟨r, hr, -⟩ := map_answering_eq_ok.1 h
    rcases createQueue_eq_ok_iff.1 hr with ⟨-, rfl, -⟩ | ⟨-, ⟨-, -, rfl⟩ | ⟨-, -, rfl⟩⟩
    · exact .inl ⟨q', by simpa using hq, rfl⟩
    · exact .inl ⟨q', by simpa using hq, rfl⟩
    · rcases find?_put_eq_some hq with ⟨rfl, rfl⟩ | ⟨-, hq⟩
      · exact .inr rfl
      · exact .inl ⟨q', by simpa using hq, rfl⟩
  | deleteQueue name =>
    obtain ⟨r, hr, -⟩ := map_answering_eq_ok.1 h
    refine .inl ⟨q', ?_, rfl⟩
    rcases deleteQueue_eq_ok_iff.1 hr with ⟨-, rfl, -⟩ | ⟨-, ⟨-, -, rfl⟩ | ⟨-, -, rfl⟩⟩ <;>
      simp_all
  | putMessage now name text visibility ttl =>
    obtain ⟨r, hr, -⟩ := map_answering_eq_ok.1 h
    refine .inl ?_
    rcases putMessage_eq_ok_iff.1 hr with
      ⟨-, rfl, -⟩ | ⟨-, ⟨-, -, rfl⟩ | ⟨q, v, e, hq₀, -, -, -, rfl⟩⟩
    · exact ⟨q', by simpa using hq, rfl⟩
    · exact ⟨q', by simpa using hq, rfl⟩
    · rcases find?_put_eq_some hq with ⟨rfl, rfl⟩ | ⟨-, hq⟩
      · exact ⟨q, hq₀, rfl⟩
      · exact ⟨q', by simpa using hq, rfl⟩
  | getMessages now name visibility maxCount =>
    obtain ⟨r, hr, -⟩ := map_answering_eq_ok.1 h
    refine .inl ?_
    rcases getMessages_eq_ok_iff.1 hr with ⟨-, rfl, -⟩ | ⟨-, ⟨-, -, rfl⟩ | ⟨q, hq₀, -, -, rfl⟩ |
        ⟨q, hq₀, -, leaseEnd, -, -, rfl⟩⟩
    · exact ⟨q', by simpa using hq, rfl⟩
    · exact ⟨q', by simpa using hq, rfl⟩
    · rcases find?_put_eq_some hq with ⟨rfl, rfl⟩ | ⟨-, hq⟩
      · exact ⟨q, hq₀, rfl⟩
      · exact ⟨q', by simpa using hq, rfl⟩
    · -- the receipts drawn do not touch the table
      rcases find?_put_eq_some (s := (s.enter .getMessages name).2) hq with ⟨rfl, rfl⟩ | ⟨-, hq⟩
      · exact ⟨q, hq₀, rfl⟩
      · exact ⟨q', by simpa using hq, rfl⟩
  | deleteMessage now name id receipt =>
    obtain ⟨r, hr, -⟩ := map_answering_eq_ok.1 h
    refine .inl ?_
    rcases deleteMessage_eq_ok_iff.1 hr with ⟨-, rfl, -⟩ | ⟨-, ⟨-, -, rfl⟩ | ⟨q, hq₀,
        ⟨f, -, -, rfl⟩ | ⟨i, -, -, rfl⟩⟩⟩
    · exact ⟨q', by simpa using hq, rfl⟩
    · exact ⟨q', by simpa using hq, rfl⟩
    all_goals
      rcases find?_put_eq_some hq with ⟨rfl, rfl⟩ | ⟨-, hq⟩
      · exact ⟨q, hq₀, rfl⟩
      · exact ⟨q', by simpa using hq, rfl⟩
  | updateMessage now name text id receipt visibility =>
    obtain ⟨r, hr, -⟩ := map_answering_eq_ok.1 h
    refine .inl ?_
    rcases updateMessage_eq_ok_iff.1 hr with ⟨-, rfl, -⟩ | ⟨-, ⟨-, -, rfl⟩ | ⟨q, hq₀,
        ⟨f, -, -, rfl⟩ | ⟨i, -, v, -, -, rfl⟩⟩⟩
    · exact ⟨q', by simpa using hq, rfl⟩
    · exact ⟨q', by simpa using hq, rfl⟩
    all_goals
      rcases find?_put_eq_some hq with ⟨rfl, rfl⟩ | ⟨-, hq⟩
      · exact ⟨q, hq₀, rfl⟩
      · exact ⟨q', by simpa using hq, rfl⟩
  | getMetadata now name =>
    obtain ⟨r, hr, -⟩ := map_answering_eq_ok.1 h
    refine .inl ?_
    rcases getMetadata_eq_ok_iff.1 hr with ⟨-, rfl, -⟩ | ⟨-, ⟨-, -, rfl⟩ | ⟨q, hq₀, -, rfl⟩⟩
    · exact ⟨q', by simpa using hq, rfl⟩
    · exact ⟨q', by simpa using hq, rfl⟩
    · rcases find?_put_eq_some hq with ⟨rfl, rfl⟩ | ⟨-, hq⟩
      · exact ⟨q, hq₀, rfl⟩
      · exact ⟨q', by simpa using hq, rfl⟩
  | setMetadata name metadata =>
    obtain ⟨r, hr, -⟩ := map_answering_eq_ok.1 h
    rcases setMetadata_eq_ok_iff.1 hr with ⟨-, rfl, -⟩ | ⟨-, ⟨-, -, rfl⟩ | ⟨q, hq₀, -, rfl⟩⟩
    · exact .inl ⟨q', by simpa using hq, rfl⟩
    · exact .inl ⟨q', by simpa using hq, rfl⟩
    · rcases find?_put_eq_some hq with ⟨rfl, rfl⟩ | ⟨-, hq⟩
      · exact .inr rfl
      · exact .inl ⟨q', by simpa using hq, rfl⟩
  | listQueues stem marker withMetadata =>
    obtain ⟨r, hr, -⟩ := map_answering_eq_ok.1 h
    refine .inl ⟨q', ?_, rfl⟩
    rcases listQueues_eq_ok_iff.1 hr with ⟨-, rfl, -⟩ | ⟨-, -, rfl⟩ <;> simpa using hq

/-- What ensuring a queue leaves of the metadata of a queue: another queue's as it was;
the queue's own as it was when fresh, or else what the ensure writes. -/
theorem ensureStore_find? {now : Instant} {p : ProvisionerId} {wt : WorkerType} {s : Store}
    {q n : String} {Q' : StoredQueue} (h : (Pending.ensureStore now p wt s q).find? n = some Q') :
  (n ≠ q ∧ s.find? n = some Q') ∨
    (n = q ∧ (Q'.metadata = (QueueMetadata.mk p.val wt.val now).toMetadata ∨
      ∃ Q, s.find? q = some Q ∧ Pending.isFresh Q.metadata p wt now = true ∧
        Q'.metadata = Q.metadata))
  := by
  unfold Pending.ensureStore at h
  split at h
  · next Q hq =>
    split at h
    · next hf =>
      rcases find?_put_eq_some h with ⟨rfl, rfl⟩ | ⟨hn, h⟩
      · exact .inr ⟨rfl, .inr ⟨Q, hq, hf, rfl⟩⟩
      · exact .inl ⟨hn, by simpa using h⟩
    · rcases find?_put_eq_some h with ⟨rfl, rfl⟩ | ⟨hn, h⟩
      · exact .inr ⟨rfl, .inl rfl⟩
      · exact .inl ⟨hn, by simpa [hn] using h⟩
  · rcases find?_put_eq_some h with ⟨rfl, rfl⟩ | ⟨hn, h⟩
    · exact .inr ⟨rfl, .inl rfl⟩
    · exact .inl ⟨hn, by simpa using h⟩

section Ensure

variable {b : Int} {now : Instant} {p : ProvisionerId} {w : WorkerType} {S : List String}

/-- Ensuring a queue at a clock the argument works with makes its metadata later than `b`,
and leaves every other queue's as it was. -/
theorem ensureStore_holds (hc : Stamp.Clock b now) {late : String → Prop} {s : Store}
    (h : ∀ n ∈ S, ∀ Q, s.find? n = some Q → Stamp.Holds (late n) b Q.metadata) (q : String) :
  ∀ n ∈ S, ∀ Q', (Pending.ensureStore now p w s q).find? n = some Q' →
    Stamp.Holds (late n ∨ n = q) b Q'.metadata
  := by
  intro n hn Q' hQ'
  rcases ensureStore_find? hQ' with ⟨hne, hQ'⟩ | ⟨rfl, hmd | ⟨Q, hQ, hf, hmd⟩⟩
  · exact (h n hn Q' hQ').mono fun hl => hl.resolve_right hne
  · rw [hmd]
    exact hc.holds _ _ _
  · -- metadata found fresh is kept, and it is less than 23 hours old
    rw [hmd]
    exact hc.holds_of_isFresh hf (h n hn Q hQ).plain _

/-- Ensuring the queues `names` in turn makes the metadata of each of them later than `b`. -/
theorem ensureNames_holds (hc : Stamp.Clock b now) (names : List String) :
  ∀ {late : String → Prop} {s : Store},
    (∀ n ∈ S, ∀ Q, s.find? n = some Q → Stamp.Holds (late n) b Q.metadata) →
    ∀ n ∈ S, ∀ Q', (Pending.ensureNames now p w s names).find? n = some Q' →
      Stamp.Holds (late n ∨ n ∈ names) b Q'.metadata
  := by
  induction names with
  | nil =>
    intro late s h n hn Q' hQ'
    exact (h n hn Q' hQ').mono fun hl => hl.resolve_right List.not_mem_nil
  | cons q qs ih =>
    intro late s h n hn Q' hQ'
    -- the first queue, then the rest from the store the first leaves
    have h₁ := ensureStore_holds (p := p) (w := w) hc h q
    refine (ih h₁ n hn Q' hQ').mono fun hl => ?_
    rcases hl with hl | hl
    · exact .inl (.inl hl)
    · rcases List.mem_cons.1 hl with rfl | hl
      · exact .inl (.inr rfl)
      · exact .inr hl

end Ensure

end Store

/-! ### What the computations keep -/

/-- What the argument fixes: the settings, a family, and a bound `bound` that the metadata of
the family's queues is later than once the family was logged ready `readies` times.  The
four are one structure so that each is met as a whole where a triple is applied. -/
structure Stamp.Frame where
  settings : Settings
  family : FamilyKey
  bound : Int
  readies : Nat

/-- The seven queues of the frame's family. -/
def Stamp.Frame.shards (F : Stamp.Frame) : List String :=
  familyNames F.settings.stem F.family.provisionerId F.family.workerType

/-- What logging `e` asks of a world: the ready event of the family is logged only once the
metadata of each of its queues that the store holds is later than the bound. -/
def Stamp.Ready (F : Stamp.Frame) (e : LogEvent) (w : World) : Prop :=
  e = Pending.readyEvent F.family → ∀ n ∈ F.shards, ∀ q, w.store.find? n = some q →
    Stamp.Holds True F.bound q.metadata

/-- What the computations of the service keep of a world, for a frame: the calls go to the
in-memory store, and each queue of the family that the store holds carries metadata that
reads back with a `last_used` off any leap second, later than the bound once the family was
logged ready `readies` times.  The settings validate, and the clock is one the argument
works with. -/
structure World.Retains (F : Stamp.Frame) (w : World) : Prop where
  settings : w.settings = F.settings
  link : w.link = .store
  valid : F.settings.validate = .ok ()
  clock : Stamp.Clock F.bound w.now
  shards : ∀ n ∈ F.shards, ∀ q, w.store.find? n = some q →
    Stamp.Holds (F.readies ≤ w.logs.count (Pending.readyEvent F.family)) F.bound q.metadata

namespace World.Retains

variable {F : Stamp.Frame} {w : World}

/-- Only the settings, where the calls go, the clock, the store and the log matter. -/
theorem frame {w' : World} (h : w.Retains F) (hs : w'.settings = w.settings)
    (hl : w'.link = w.link) (hn : w'.now = w.now) (hst : w'.store = w.store)
    (hlogs : w'.logs = w.logs) :
  w'.Retains F
  := ⟨hs.trans h.settings, hl.trans h.link, h.valid, hn ▸ h.clock,
    by rw [hst, hlogs]; exact h.shards⟩

/-- A call of the store keeps what the computations keep when every metadata it writes to a
queue of the family reads back as written later than the bound. -/
theorem call (h : w.Retains F) {c : Store.Call} {a : Except Fault Store.Answer}
    {s : Store} (hc : c.perform w.store = .ok (a, s))
    (hwrite : ∀ n md, c.writes? = some (n, md) →
      n ∈ F.shards → Stamp.Holds True F.bound md) :
  { w with store := s }.Retains F
  := by
  refine ⟨h.settings, h.link, h.valid, h.clock, fun n hn q' hq' => ?_⟩
  rcases Store.Call.perform_metadata hc hq' with ⟨q, hq, hmd⟩ | hw
  · rw [hmd]
    exact h.shards n hn q hq
  · exact (hwrite n q'.metadata hw hn).mono fun _ => trivial

/-- Logging an event keeps what the computations keep; the family's ready event needs the
metadata of its queues to be later than the bound already. -/
theorem log (h : w.Retains F) (e : LogEvent) (he : Stamp.Ready F e w) :
  { w with logs := w.logs ++ [e] }.Retains F
  := by
  refine ⟨h.settings, h.link, h.valid, h.clock, fun n hn q hq => ?_⟩
  by_cases hready : e = Pending.readyEvent F.family
  · exact (he hready n hn q hq).mono fun _ => trivial
  · -- any other event leaves the count of ready events as it was
    have hcount : (w.logs ++ [e]).count (Pending.readyEvent F.family) =
        w.logs.count (Pending.readyEvent F.family) := by
      simp [List.count_append, hready]
    dsimp only
    rw [hcount]
    exact h.shards n hn q hq

/-- Once the family was logged ready `readies` times, the metadata of its queues is later
than the bound. -/
theorem holds_of_le (h : w.Retains F) (hg : F.readies ≤ w.logs.count (Pending.readyEvent F.family))
    {n : String} (hn : n ∈ F.shards) {q : StoredQueue}
    (hq : w.store.find? n = some q) :
  Stamp.Holds True F.bound q.metadata
  := (h.shards n hn q hq).mono fun _ => hg

end World.Retains

/-- An event with another message is not the family's ready event. -/
theorem Pending.ne_readyEvent {e : LogEvent} (k : FamilyKey)
    (h : e.message ≠ "pending queue family ready") :
  e ≠ Pending.readyEvent k
  := fun he => h (by rw [he]; rfl)

/-- A reported error is logged at another level than the family's ready event. -/
theorem Run.reportEvent_ne_readyEvent (e : QueueError) (k : FamilyKey) :
  Run.reportEvent e ≠ Pending.readyEvent k
  := fun he => by cases congrArg LogEvent.level he

/-! ### Calls of the store -/

section Triples

variable {F : Stamp.Frame}

/-- A call of the store keeps what the computations keep when, where `Q` holds, every
metadata it writes to a queue of the family reads back as written later than the bound. -/
theorem Run.perform_retains {α : Type}
    (inMemory : Store → Instant → Except Halt (Except Fault α × Store))
    (request : Gateway.Request) (read : String → Except Fault α) (call : Instant → Store.Call) (answer : α → Store.Answer)
    (hcall : ∀ s now, (call now).perform s = Store.answering answer <$> inMemory s now)
    (Q : World → Prop)
    (hwrite : ∀ w, Q w → ∀ n md, (call w.now).writes? = some (n, md) →
      n ∈ F.shards → Stamp.Holds True F.bound md) :
    ⦃fun w => ⌜w.Retains F ∧ Q w⌝⦄ Run.perform inMemory request read
      ⦃⇓? _ w => ⌜w.Retains F⌝⦄
  := by
  mvcgen [Run.perform]
  case vc2.h_2 _ hw _ _ _ =>
    -- a call through a gateway changes nothing
    exact hw.1
  rename_i w hw hlink
  cases hm : inMemory w.store w.now with
  | error h =>
    rw [Run.ofHalting_error]
    mvcgen
  | ok p =>
    rw [Run.ofHalting_ok]
    mvcgen
    exact hw.1.call (c := call w.now) (by rw [hcall, hm]; rfl) (hwrite w hw.2)

/-- A call that writes no metadata keeps what the computations keep. -/
theorem Run.perform_retains_of_writes? {α : Type}
    (inMemory : Store → Instant → Except Halt (Except Fault α × Store))
    (request : Gateway.Request) (read : String → Except Fault α) (call : Instant → Store.Call) (answer : α → Store.Answer)
    (hcall : ∀ s now, (call now).perform s = Store.answering answer <$> inMemory s now)
    (hnone : ∀ now, (call now).writes? = none) :
    ⦃fun w => ⌜w.Retains F⌝⦄ Run.perform inMemory request read
      ⦃⇓? _ w => ⌜w.Retains F⌝⦄
  := by
  intro w hw
  exact Run.perform_retains inMemory request read call answer hcall (fun _ => True)
    (fun w _ n md h => by rw [hnone] at h; cases h) w ⟨hw, trivial⟩

@[local spec]
theorem Run.createQueue_retains (n : String) (m : Option Metadata) :
    ⦃fun w => ⌜w.Retains F ∧
      (n ∈ F.shards → Stamp.Holds True F.bound (m.getD []))⌝⦄
      Run.createQueue n m ⦃⇓? _ w => ⌜w.Retains F⌝⦄
  := Run.perform_retains _ _ _ (fun _ => .createQueue n m) (fun _ => .done) (fun _ _ => rfl) _
    fun _ hQ n' md h hn' => by
      cases h
      exact hQ hn'

@[local spec]
theorem Run.setMetadata_retains (n : String) (m : Metadata) :
    ⦃fun w => ⌜w.Retains F ∧
      (n ∈ F.shards → Stamp.Holds True F.bound m)⌝⦄
      Run.setMetadata n m ⦃⇓? _ w => ⌜w.Retains F⌝⦄
  := Run.perform_retains _ _ _ (fun _ => .setMetadata n m) (fun _ => .done) (fun _ _ => rfl) _
    fun _ hQ n' md h hn' => by
      cases h
      exact hQ hn'

@[local spec]
theorem Run.deleteQueue_retains (n : String) :
    ⦃fun w => ⌜w.Retains F⌝⦄ Run.deleteQueue n ⦃⇓? _ w => ⌜w.Retains F⌝⦄
  := Run.perform_retains_of_writes? _ _ _ (fun _ => .deleteQueue n) (fun _ => .done)
    (fun _ _ => rfl) fun _ => rfl

@[local spec]
theorem Run.putMessage_retains (n text : String) (visibility ttl : Duration) :
    ⦃fun w => ⌜w.Retains F⌝⦄ Run.putMessage n text visibility ttl
      ⦃⇓? _ w => ⌜w.Retains F⌝⦄
  := Run.perform_retains_of_writes? _ _ _ (fun now => .putMessage now n text visibility ttl)
    (fun _ => .done) (fun _ _ => rfl) fun _ => rfl

@[local spec]
theorem Run.getMessages_retains (n : String) (visibility : Duration) (maxCount : Nat) :
    ⦃fun w => ⌜w.Retains F⌝⦄ Run.getMessages n visibility maxCount
      ⦃⇓? _ w => ⌜w.Retains F⌝⦄
  := Run.perform_retains_of_writes? _ _ _ (fun now => .getMessages now n visibility maxCount)
    .messages (fun _ _ => rfl) fun _ => rfl

@[local spec]
theorem Run.deleteMessage_retains (n id receipt : String) :
    ⦃fun w => ⌜w.Retains F⌝⦄ Run.deleteMessage n id receipt
      ⦃⇓? _ w => ⌜w.Retains F⌝⦄
  := Run.perform_retains_of_writes? _ _ _ (fun now => .deleteMessage now n id receipt)
    (fun _ => .done) (fun _ _ => rfl) fun _ => rfl

@[local spec]
theorem Run.updateMessage_retains (n text id receipt : String) (visibility : Duration) :
    ⦃fun w => ⌜w.Retains F⌝⦄ Run.updateMessage n text id receipt visibility
      ⦃⇓? _ w => ⌜w.Retains F⌝⦄
  := Run.perform_retains_of_writes? _ _ _
    (fun now => .updateMessage now n text id receipt visibility) .receipt (fun _ _ => rfl)
    fun _ => rfl

@[local spec]
theorem Run.getMetadata_retains (n : String) :
    ⦃fun w => ⌜w.Retains F⌝⦄ Run.getMetadata n ⦃⇓? _ w => ⌜w.Retains F⌝⦄
  := Run.perform_retains_of_writes? _ _ _ (fun now => .getMetadata now n) .properties
    (fun _ _ => rfl) fun _ => rfl

@[local spec]
theorem Run.listQueues_retains (stem : String) (marker : Option String) (withMetadata : Bool) :
    ⦃fun w => ⌜w.Retains F⌝⦄ Run.listQueues stem marker withMetadata
      ⦃⇓? _ w => ⌜w.Retains F⌝⦄
  := Run.perform_retains_of_writes? _ _ _ (fun _ => .listQueues stem marker withMetadata) .page
    (fun _ _ => rfl) fun _ => rfl

/-! ### Logs, reports and the service's own records -/

@[local spec]
theorem Run.log_retains (e : LogEvent) :
    ⦃fun w => ⌜w.Retains F ∧ Stamp.Ready F e w⌝⦄ Run.log e
      ⦃⇓? _ w => ⌜w.Retains F⌝⦄
  := by
  unfold Run.log
  mvcgen
  rename_i h _
  exact h.1.log e h.2

@[local spec]
theorem Run.report_retains (e : QueueError) :
    ⦃fun w => ⌜w.Retains F⌝⦄ Run.report e ⦃⇓? _ w => ⌜w.Retains F⌝⦄
  := by
  unfold Run.report
  mvcgen
  rename_i w h _
  by_cases hr : w.logReports = true
  · exact (h.log _ fun he => absurd he (Run.reportEvent_ne_readyEvent e F.family)).frame rfl rfl rfl
      rfl (if_pos hr)
  · exact h.frame rfl rfl rfl rfl (if_neg hr)

@[local spec]
theorem Run.now_retains :
    ⦃fun w => ⌜w.Retains F⌝⦄ Run.now ⦃⇓? r w => ⌜w.Retains F ∧ Stamp.Clock F.bound r⌝⦄
  := by
  mvcgen [Run.now, -Run.now_kept]
  rename_i h
  exact ⟨h, h.clock⟩

@[local spec]
theorem Run.nextHintId_retains :
    ⦃fun w => ⌜w.Retains F⌝⦄ Run.nextHintId ⦃⇓? _ w => ⌜w.Retains F⌝⦄
  := by
  mvcgen [Run.nextHintId, -Run.nextHintId_kept]
  rename_i h
  exact h.frame rfl rfl rfl rfl rfl

@[local spec]
theorem Run.evictFamily_retains (k' : FamilyKey) :
    ⦃fun w => ⌜w.Retains F⌝⦄ Run.evictFamily k' ⦃⇓? _ w => ⌜w.Retains F⌝⦄
  := by
  mvcgen [Run.evictFamily, -Run.evictFamily_kept]
  rename_i h _
  exact h.frame rfl rfl rfl rfl rfl

@[local spec]
theorem Run.resetFamilies_retains :
    ⦃fun w => ⌜w.Retains F⌝⦄ Run.resetFamilies ⦃⇓? _ w => ⌜w.Retains F⌝⦄
  := by
  mvcgen [Run.resetFamilies, Run.logPending, -Run.resetFamilies_kept, -Run.log_kept]
  all_goals grind [Stamp.Ready, Pending.readyEvent, World.Retains.frame]

@[local spec]
theorem Pending.createQueue_retains (queue : String) (desired : Metadata) :
    ⦃fun w => ⌜w.Retains F ∧
      (queue ∈ F.shards → Stamp.Holds True F.bound desired)⌝⦄
      Pending.createQueue queue desired
      ⦃post⟨fun _ w => ⌜w.Retains F⌝, fun _ w => ⌜w.Retains F⌝,
        fun _ => ⌜True⌝⟩⦄
  := by
  mvcgen [Pending.createQueue, Run.logPending, Run.reportNoted, -Pending.createQueue_kept,
    -Run.createQueue_kept, -Run.log_kept, -Run.report_kept]
  all_goals grind [Stamp.Ready, Pending.readyEvent]

@[local spec]
theorem Pending.ensureQueue_retains (queue : String) (p : ProvisionerId) (wt : WorkerType) :
    ⦃fun w => ⌜w.Retains F⌝⦄ Pending.ensureQueue queue p wt
      ⦃post⟨fun _ w => ⌜w.Retains F⌝, fun _ w => ⌜w.Retains F⌝,
        fun _ => ⌜True⌝⟩⦄
  := by
  mvcgen [Pending.ensureQueue, Run.logPending, Run.reportNoted, -Pending.ensureQueue_kept,
    -Run.now_kept,
    -Run.getMetadata_kept, -Run.setMetadata_kept, -Pending.createQueue_kept, -Run.log_kept,
    -Run.report_kept]
  all_goals grind [Stamp.Ready, Pending.readyEvent, Stamp.Clock.holds]

/-- Ready events of two families are the same only for the same family. -/
theorem Pending.readyEvent_inj {k k' : FamilyKey}
    (h : Pending.readyEvent k' = Pending.readyEvent k) :
  k' = k
  := by
  obtain ⟨⟨p', hp'⟩, ⟨w', hw'⟩⟩ := k'
  obtain ⟨⟨p, hp⟩, ⟨w, hw⟩⟩ := k
  simp only [Pending.readyEvent, LogEvent.mk.injEq, List.cons.injEq, Prod.mk.injEq,
    true_and, and_true] at h
  obtain ⟨rfl, rfl⟩ := h
  rfl

theorem Pending.ensureQueues_retains (p : ProvisionerId) (wt : WorkerType) (names : List String) :
    ⦃fun w => ⌜w.Retains F⌝⦄ Pending.ensureQueues p wt names
      ⦃post⟨fun _ w => ⌜w.Retains F⌝, fun _ w => ⌜w.Retains F⌝,
        fun _ => ⌜True⌝⟩⦄
  := by
  induction names with
  | nil => mvcgen [Pending.ensureQueues, -Pending.ensureQueues_kept]
  | cons q qs ih =>
    mvcgen [Pending.ensureQueues, ih, -Pending.ensureQueues_kept, -Pending.ensureQueue_kept]

/-- Ensuring queues that succeeds leaves each of them that is a queue of the family with
metadata later than the bound. -/
theorem Pending.ensureQueues_stamps (p : ProvisionerId) (wt : WorkerType) (names : List String) :
    ⦃fun w => ⌜w.Retains F⌝⦄ Pending.ensureQueues p wt names
      ⦃post⟨fun _ w => ⌜w.Retains F ∧
          ∀ n ∈ names, n ∈ F.shards →
            ∀ q, w.store.find? n = some q → Stamp.Holds True F.bound q.metadata⌝,
        fun _ w => ⌜w.Retains F⌝, fun _ => ⌜True⌝⟩⦄
  := by
  intro w hw
  rw [Attempt.wp_apply]
  rcases h : (Pending.ensureQueues p wt names).run.run w with (e | ⟨(e | ⟨⟩), w'⟩)
  · trivial
  · exact Attempt.of_triple (Pending.ensureQueues_retains p wt names) hw h
  · refine ⟨Attempt.of_triple (Pending.ensureQueues_retains p wt names) hw h,
      fun n hn hk q hq => ?_⟩
    -- an ensure that succeeds ensured each queue in turn at the clock
    obtain ⟨logs, rfl⟩ := Pending.ensureQueues_eq_ok hw.link h
    exact (Store.ensureNames_holds hw.clock names hw.shards n hk q hq).mono fun _ => .inr hn

@[local spec]
theorem Pending.ensureFamily_retains (k' : FamilyKey) :
    ⦃fun w => ⌜w.Retains F⌝⦄ Pending.ensureFamily k'
      ⦃post⟨fun _ w => ⌜w.Retains F⌝, fun _ w => ⌜w.Retains F⌝, fun _ => ⌜True⌝⟩⦄
  := by
  mvcgen [Pending.ensureFamily, Run.logPending, Pending.ensureQueues_stamps,
    -Pending.ensureFamily_kept, -Pending.ensureQueues_kept, -Run.log_kept]
  case vc5.h_2.isFalse.post.success.pre hw₀ _ _ _ _ _ w hw =>
    -- the family is logged ready once its queues were ensured, each now later than the bound
    refine ⟨hw.1, fun he n hn q hq => ?_⟩
    obtain rfl := Pending.readyEvent_inj he
    exact hw.2 n (by show n ∈ familyNames _ _ _; rw [hw₀.settings]; exact hn) hn q hq
  case vc6.h_2.isFalse.post.success.post.success hw _ =>
    exact hw.frame rfl rfl rfl rfl rfl

@[local spec]
theorem Pending.queues_retains (k' : FamilyKey) :
    ⦃fun w => ⌜w.Retains F⌝⦄ Pending.queues k'
      ⦃post⟨fun _ w => ⌜w.Retains F⌝, fun _ w => ⌜w.Retains F⌝, fun _ => ⌜True⌝⟩⦄
  := by
  mvcgen [Pending.queues, -Pending.queues_kept, -Pending.ensureFamily_kept]

@[local spec]
theorem Pending.publish_retains (task : TaskRef) (runId : UInt32) :
    ⦃fun w => ⌜w.Retains F⌝⦄ Pending.publish task runId
      ⦃post⟨fun _ w => ⌜w.Retains F⌝, fun _ w => ⌜w.Retains F⌝, fun _ => ⌜True⌝⟩⦄
  := by
  mvcgen [Pending.publish, Attempt.ofExcept_eq, Run.logPending, -Pending.publish_kept,
    -Pending.ensureFamily_kept, -Run.now_kept, -Run.log_kept, -Run.nextHintId_kept,
    -Run.putMessage_kept, -Run.evictFamily_kept, -Run.report_kept]
  all_goals grind [Stamp.Ready, Pending.readyEvent]

theorem Pending.readHints_retains (priority : Priority) (queue : String) (ms : List RawMessage) :
    ⦃fun w => ⌜w.Retains F⌝⦄ Pending.readHints priority queue ms ⦃⇓? _ w => ⌜w.Retains F⌝⦄
  := by
  induction ms with
  | nil => mvcgen [Pending.readHints]
  | cons m ms ih =>
    mvcgen [Pending.readHints, ih, Run.logPending, -Run.log_kept, -Run.report_kept]
    all_goals grind [Stamp.Ready, Pending.readyEvent]

@[local spec]
theorem Pending.poll_retains (k' : FamilyKey) (priority : Priority) (queue : String)
    (count : Nat) :
    ⦃fun w => ⌜w.Retains F⌝⦄ Pending.poll k' priority queue count
      ⦃post⟨fun _ w => ⌜w.Retains F⌝, fun _ w => ⌜w.Retains F⌝, fun _ => ⌜True⌝⟩⦄
  := by
  mvcgen [Pending.poll, Pending.readHints_retains, Run.logPending, -Pending.poll_kept,
    -Run.getMessages_kept, -Run.log_kept, -Run.evictFamily_kept, -Pending.ensureFamily_kept,
    -Run.report_kept]
  all_goals grind [Stamp.Ready, Pending.readyEvent]

theorem Run.ofHalting_retains {α : Type} (r : Except Halt α) :
    ⦃fun w => ⌜w.Retains F⌝⦄ Run.ofHalting r ⦃⇓? _ w => ⌜w.Retains F⌝⦄
  := by
  cases r with
  | error h => rw [Run.ofHalting_error]; mvcgen
  | ok a => rw [Run.ofHalting_ok]; mvcgen

/-- A computation answering a result keeps, as an attempt, what it keeps. -/
theorem Attempt.ofRun_retains {α : Type} {r : Run (Except QueueError α)}
    (hr : ⦃fun w => ⌜w.Retains F⌝⦄ r ⦃⇓? _ w => ⌜w.Retains F⌝⦄) :
    ⦃fun w => ⌜w.Retains F⌝⦄ Attempt.ofRun r
      ⦃post⟨fun _ w => ⌜w.Retains F⌝, fun _ w => ⌜w.Retains F⌝, fun _ => ⌜True⌝⟩⦄
  := by
  intro w hw
  rw [Attempt.wp_apply]
  have hrun : (Attempt.ofRun r).run.run w = r.run w := rfl
  have hend := hr w hw
  rw [Run.wp_apply] at hend
  rw [hrun]
  rcases h : r.run w with (e | ⟨(a | e), w'⟩) <;> simp only [h] at hend
  · trivial
  · exact hend
  · exact hend

/-- A total that may halt, as an attempt, keeps what the computations keep. -/
@[local spec]
theorem Attempt.ofRun_ofHalting_retains {α : Type} (r : Except Halt (Except QueueError α)) :
    ⦃fun w => ⌜w.Retains F⌝⦄ Attempt.ofRun (Run.ofHalting r)
      ⦃post⟨fun _ w => ⌜w.Retains F⌝, fun _ w => ⌜w.Retains F⌝, fun _ => ⌜True⌝⟩⦄
  := Attempt.ofRun_retains (Run.ofHalting_retains r)

theorem Run.getMetadata_mapM_retains (names : List String) :
    ⦃fun w => ⌜w.Retains F⌝⦄ names.mapM Run.getMetadata ⦃⇓? _ w => ⌜w.Retains F⌝⦄
  := by
  induction names with
  | nil => mvcgen
  | cons n ns ih =>
    simp only [List.mapM_cons]
    mvcgen [ih, -Run.getMetadata_kept]

@[local spec]
theorem Pending.refreshCount_retains (k' : FamilyKey) :
    ⦃fun w => ⌜w.Retains F⌝⦄ Pending.refreshCount k'
      ⦃post⟨fun _ w => ⌜w.Retains F⌝, fun _ w => ⌜w.Retains F⌝, fun _ => ⌜True⌝⟩⦄
  := by
  mvcgen [Pending.refreshCount, Run.getMetadata_mapM_retains, -Pending.refreshCount_kept,
    -Pending.ensureFamily_kept, -Run.now_kept, -Attempt.ofRun_ofHalting_kept]
  all_goals grind [World.Retains.frame]

@[local spec]
theorem Pending.count_retains (k' : FamilyKey) :
    ⦃fun w => ⌜w.Retains F⌝⦄ Pending.count k'
      ⦃post⟨fun _ w => ⌜w.Retains F⌝, fun _ w => ⌜w.Retains F⌝, fun _ => ⌜True⌝⟩⦄
  := by
  mvcgen [Pending.count, Run.logPending, -Pending.count_kept, -Pending.refreshCount_kept,
    -Run.log_kept]
  all_goals grind [Stamp.Ready, Pending.readyEvent, World.Retains.frame]

/-! ### Leases and expiration queues -/

@[local spec]
theorem Lease.finish_retains (l : Lease) (operation : String) (r : Except QueueError Unit) :
    ⦃fun w => ⌜w.Retains F⌝⦄ l.finish operation r
      ⦃post⟨fun _ w => ⌜w.Retains F⌝, fun _ w => ⌜w.Retains F⌝, fun _ => ⌜True⌝⟩⦄
  := by
  mvcgen [Lease.finish, -Lease.finish_kept, -Run.log_kept, -Run.report_kept]
  all_goals grind [Stamp.Ready, Pending.readyEvent]

@[local spec]
theorem Lease.remove_retains (l : Lease) :
    ⦃fun w => ⌜w.Retains F⌝⦄ l.remove
      ⦃post⟨fun _ w => ⌜w.Retains F⌝, fun _ w => ⌜w.Retains F⌝, fun _ => ⌜True⌝⟩⦄
  := by
  mvcgen [Lease.remove, -Lease.remove_kept, -Run.deleteMessage_kept, -Lease.finish_kept]

@[local spec]
theorem Lease.release_retains (l : Lease) :
    ⦃fun w => ⌜w.Retains F⌝⦄ l.release
      ⦃post⟨fun _ w => ⌜w.Retains F⌝, fun _ w => ⌜w.Retains F⌝, fun _ => ⌜True⌝⟩⦄
  := by
  mvcgen [Lease.release, -Lease.release_kept, -Run.updateMessage_kept, -Lease.finish_kept]

/-- Under settings that validate, no expiration queue is a queue of a family. -/
theorem Settings.expirationQueue_not_mem_familyNames {σ : Settings} (h : σ.validate = .ok ())
    (kind : ExpirationKind) (p : ProvisionerId) (wt : WorkerType) :
  σ.expirationQueue kind ∉ familyNames σ.stem p wt
  := by
  intro hmem
  obtain ⟨r, -, hr⟩ := List.mem_map.1 hmem
  have := shardName_startsWith σ.stem p wt r
  rw [hr, Settings.expirationQueue_startsWith_eq_false h] at this
  cases this

@[local spec]
theorem Expiration.ensureReady_retains (kind : ExpirationKind) :
    ⦃fun w => ⌜w.Retains F⌝⦄ Expiration.ensureReady kind
      ⦃post⟨fun _ w => ⌜w.Retains F⌝, fun _ w => ⌜w.Retains F⌝, fun _ => ⌜True⌝⟩⦄
  := by
  mvcgen [Expiration.ensureReady, Run.reportNoted, -Expiration.ensureReady_kept,
    -Run.createQueue_kept, -Run.log_kept, -Run.report_kept]
  case vc4.isFalse.isFalse.pre hw _ _ _ _ =>
    -- the expiration queue is none of the family's, so it may be created without metadata
    refine ⟨hw, fun hn => absurd hn ?_⟩
    show Settings.expirationQueue _ kind ∉ F.shards
    rw [hw.settings]
    exact Settings.expirationQueue_not_mem_familyNames hw.valid kind _ _
  all_goals grind [Stamp.Ready, Pending.readyEvent, World.Retains.frame]

@[local spec]
theorem Expiration.evict_retains (kind : ExpirationKind) :
    ⦃fun w => ⌜w.Retains F⌝⦄ Expiration.evict kind ⦃⇓? _ w => ⌜w.Retains F⌝⦄
  := by
  mvcgen [Expiration.evict, -Expiration.evict_kept]
  rename_i hw _
  exact hw.frame rfl rfl rfl rfl rfl

@[local spec]
theorem Expiration.put_retains (kind : ExpirationKind) (notice : Json) (visibility : Nat) :
    ⦃fun w => ⌜w.Retains F⌝⦄ Expiration.put kind notice visibility
      ⦃post⟨fun _ w => ⌜w.Retains F⌝, fun _ w => ⌜w.Retains F⌝, fun _ => ⌜True⌝⟩⦄
  := by
  mvcgen [Expiration.put, -Expiration.put_kept, -Expiration.ensureReady_kept,
    -Run.putMessage_kept, -Expiration.evict_kept, -Run.report_kept]

@[local spec]
theorem Expiration.putClaim_retains (taskId : TaskId) (runId : UInt32) (takenUntil : Instant) :
    ⦃fun w => ⌜w.Retains F⌝⦄ Expiration.putClaim taskId runId takenUntil
      ⦃post⟨fun _ w => ⌜w.Retains F⌝, fun _ w => ⌜w.Retains F⌝, fun _ => ⌜True⌝⟩⦄
  := by
  mvcgen [Expiration.putClaim, -Expiration.putClaim_kept, -Run.now_kept, -Expiration.put_kept]
  rename_i h
  exact h.1

@[local spec]
theorem Expiration.putDeadline_retains (taskId : TaskId) (groupId schedulerId : String)
    (deadline : Instant) :
    ⦃fun w => ⌜w.Retains F⌝⦄ Expiration.putDeadline taskId groupId schedulerId deadline
      ⦃post⟨fun _ w => ⌜w.Retains F⌝, fun _ w => ⌜w.Retains F⌝, fun _ => ⌜True⌝⟩⦄
  := by
  mvcgen [Expiration.putDeadline, -Expiration.putDeadline_kept, -Expiration.put_kept]

@[local spec]
theorem Expiration.putResolved_retains (taskId : TaskId) (groupId schedulerId : String)
    (resolution : Resolution) :
    ⦃fun w => ⌜w.Retains F⌝⦄ Expiration.putResolved taskId groupId schedulerId resolution
      ⦃post⟨fun _ w => ⌜w.Retains F⌝, fun _ w => ⌜w.Retains F⌝, fun _ => ⌜True⌝⟩⦄
  := by
  mvcgen [Expiration.putResolved, -Expiration.putResolved_kept, -Expiration.put_kept]

theorem Expiration.readNotices_retains (kind : ExpirationKind) (queue : String)
    (ms : List RawMessage) :
    ⦃fun w => ⌜w.Retains F⌝⦄ Expiration.readNotices kind queue ms ⦃⇓? _ w => ⌜w.Retains F⌝⦄
  := by
  induction ms with
  | nil => mvcgen [Expiration.readNotices, -Expiration.readNotices_kept]
  | cons m ms ih =>
    mvcgen [Expiration.readNotices, ih, -Expiration.readNotices_kept, -Run.log_kept,
      -Run.report_kept]
    all_goals grind [Stamp.Ready, Pending.readyEvent]

@[local spec]
theorem Expiration.poll_retains (kind : ExpirationKind) :
    ⦃fun w => ⌜w.Retains F⌝⦄ Expiration.poll kind
      ⦃post⟨fun _ w => ⌜w.Retains F⌝, fun _ w => ⌜w.Retains F⌝, fun _ => ⌜True⌝⟩⦄
  := by
  mvcgen [Expiration.poll, Expiration.readNotices_retains, -Expiration.poll_kept,
    -Expiration.ensureReady_kept, -Run.getMessages_kept, -Expiration.evict_kept,
    -Run.report_kept, -Expiration.readNotices_kept]

/-! ### The sweep and the background loops -/

@[local spec]
theorem Attempt.ofRun_getMetadata_retains (n : String) :
    ⦃fun w => ⌜w.Retains F⌝⦄ Attempt.ofRun (Run.getMetadata n)
      ⦃post⟨fun _ w => ⌜w.Retains F⌝, fun _ w => ⌜w.Retains F⌝, fun _ => ⌜True⌝⟩⦄
  := Attempt.ofRun_retains (Run.getMetadata_retains n)

@[local spec]
theorem Sweep.deleteIfUnused_retains (cutoff : Instant) (q : Listing) :
    ⦃fun w => ⌜w.Retains F⌝⦄ Sweep.deleteIfUnused cutoff q
      ⦃post⟨fun _ w => ⌜w.Retains F⌝, fun _ w => ⌜w.Retains F⌝, fun _ => ⌜True⌝⟩⦄
  := by
  mvcgen [Sweep.deleteIfUnused, -Sweep.deleteIfUnused_kept, -Attempt.ofRun_getMetadata_kept,
    -Run.log_kept, -Run.deleteQueue_kept]
  all_goals grind [Stamp.Ready, Pending.readyEvent]

@[local spec]
theorem Sweep.sweepPage_retains (cutoff : Instant) (qs : List Listing) :
    ⦃fun w => ⌜w.Retains F⌝⦄ Sweep.sweepPage cutoff qs ⦃⇓? _ w => ⌜w.Retains F⌝⦄
  := by
  induction qs with
  | nil => mvcgen [Sweep.sweepPage, -Sweep.sweepPage_kept]
  | cons q qs ih =>
    mvcgen [Sweep.sweepPage, ih, -Sweep.sweepPage_kept, -Sweep.deleteIfUnused_kept,
      -Run.report_kept]

@[local spec]
theorem Sweep.sweepPages_retains (stem : String) (cutoff : Instant) (fuel : Nat)
    (marker : Option String) :
    ⦃fun w => ⌜w.Retains F⌝⦄ Sweep.sweepPages stem cutoff fuel marker
      ⦃post⟨fun _ w => ⌜w.Retains F⌝, fun _ w => ⌜w.Retains F⌝, fun _ => ⌜True⌝⟩⦄
  := by
  induction fuel generalizing marker with
  | zero => mvcgen [Sweep.sweepPages, -Sweep.sweepPages_kept]
  | succ fuel ih =>
    mvcgen [Sweep.sweepPages, ih, -Sweep.sweepPages_kept, -Run.listQueues_kept,
      -Sweep.sweepPage_kept]

@[local spec]
theorem Sweep.run_retains (now : Instant) :
    ⦃fun w => ⌜w.Retains F⌝⦄ Sweep.run now
      ⦃post⟨fun _ w => ⌜w.Retains F⌝, fun _ w => ⌜w.Retains F⌝, fun _ => ⌜True⌝⟩⦄
  := by
  mvcgen [Sweep.run, Run.ofHalting_retains, -Sweep.run_kept, -Sweep.sweepPages_kept,
    -Run.log_kept]
  all_goals grind [Stamp.Ready, Pending.readyEvent]

/-- A pass of the sweeping loop keeps what the sweep keeps; a pass that halts changes
nothing. -/
theorem Background.sweepPass_retains_spec :
    ⦃fun w => ⌜w.Retains F⌝⦄ Background.sweepPass ⦃⇓ _ w => ⌜w.Retains F⌝⦄
  := by
  mvcgen [Background.sweepPass]
  rename_i hw r w' hrun _
  have hw' : w'.Retains F := by
    have hend := Attempt.of_triple (Sweep.run_retains _) hw hrun
    cases r <;> exact hend
  -- the pass logs its outcome, which is no ready event
  dsimp +zetaDelta only
  cases r <;> exact hw'.log _ (by simp [Stamp.Ready, Pending.readyEvent])

theorem Background.sweepPass_retains {w w' : World} {alive : Bool} (hw : w.Retains F)
    (h : (Background.sweepPass w : Id (Bool × World)) = (alive, w')) :
  w'.Retains F
  := by
  have hpass := Background.sweepPass_retains_spec w hw
  rw [wp_state_apply, h] at hpass
  exact hpass

@[local spec]
theorem Background.start_retains (bg : Background) :
    ⦃fun w => ⌜w.Retains F⌝⦄ bg.start ⦃⇓? _ w => ⌜w.Retains F⌝⦄
  := by
  mvcgen [Background.start, -Background.start_kept, -Run.log_kept]
  all_goals grind [Stamp.Ready, Pending.readyEvent]

@[local spec]
theorem Background.stop_retains (bg : Background) :
    ⦃fun w => ⌜w.Retains F⌝⦄ bg.stop ⦃⇓? _ w => ⌜w.Retains F⌝⦄
  := by
  mvcgen [Background.stop, -Background.stop_kept, -Run.log_kept]
  all_goals grind [Stamp.Ready, Pending.readyEvent]

@[local spec]
theorem Background.advance_retains (bg : Background) (ms : Nat) :
    ⦃fun w => ⌜w.Retains F⌝⦄ bg.advance ms ⦃⇓? _ w => ⌜w.Retains F⌝⦄
  := by
  mvcgen [Background.advance, -Background.advance_kept, -Run.resetFamilies_kept]
  all_goals grind [Background.sweepPass_retains]

end Triples

end TaskQueue
