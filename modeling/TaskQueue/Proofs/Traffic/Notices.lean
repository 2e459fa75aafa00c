import TaskQueue.Proofs.Records
import TaskQueue.Proofs.Traffic.Hints
import Mathlib

/-!
# Publishing, polling and removing expiration notices

Notice traffic (expiration puts, expiration polls, removes through handles, moves of the
clock) run from a fresh session over an empty store, under settings that name the three
expiration queues apart, keeps an invariant (`NoticeRun`): the session serves its settings,
and every message an expiration queue holds is the text of a notice of the queue's kind that
a put of the run published (`NoticesPublished`).

From it, at every session such a run reaches, the next step does what the expiration queues
promise (`NoticeContract`, `notice_traffic_contract`):

* every queue holds its messages in the order they were put;
* a put appends one message to the queue of its notice's kind, and changes no other queue:
  its notice, invisible for the seconds `Step.putNotice?` gives, living seven days;
* a poll answers the first 32 unexpired messages of its queue visible now, in the order they
  were put, each with a fresh handle and a fresh receipt, each the notice a put of the run
  published, of the poll's kind; it leases them until ten minutes later;
* a remove through the handle a poll gave deletes exactly that message, as long as no later
  step answered the message again and every move of the clock since came before its expiry.

The last condition is needed: seven days after its put a notice has expired, and a remove
through the handle of its poll is answered that the message is not found
(`resolved_remove_not_found_after_seven_days`).
-/

namespace TaskQueue

open Time

/-! ### Notices read back -/

/-- The instants a notice carries are ones a clock can read. -/
def Notice.Valid : Notice → Prop
  | .claim n => n.takenUntil.Valid
  | .deadline n => n.deadline.Valid
  | .resolved _ => True

/-- A notice is written as a flat object of strings and numbers. -/
theorem Notice.toJson_flat (notice : Notice) :
  ∃ ms, notice.toJson = .obj ms ∧ ∀ m ∈ ms, Json.Scalar m.2
  := by
  cases notice with
  | claim n =>
    refine ⟨_, rfl, fun m hm => ?_⟩
    simp only [List.mem_cons, List.not_mem_nil, or_false] at hm
    rcases hm with rfl | rfl | rfl <;> constructor
  | deadline n =>
    refine ⟨_, rfl, fun m hm => ?_⟩
    simp only [List.mem_cons, List.not_mem_nil, or_false] at hm
    rcases hm with rfl | rfl | rfl | rfl <;> constructor
  | resolved n =>
    refine ⟨_, rfl, fun m hm => ?_⟩
    simp only [List.mem_cons, List.not_mem_nil, or_false] at hm
    rcases hm with rfl | rfl | rfl | rfl <;> constructor

/-- Reading a notice of its kind from its JSON gives it back. -/
theorem Notice.ofJson?_toJson (notice : Notice) (hv : notice.Valid) :
  Notice.ofJson? notice.kind notice.toJson = some notice
  := by
  cases notice with
  | claim n =>
    simp [Notice.ofJson?, Notice.kind, Notice.toJson, ClaimNotice.ofJson?_toJson n hv]
  | deadline n =>
    simp [Notice.ofJson?, Notice.kind, Notice.toJson, DeadlineNotice.ofJson?_toJson n hv]
  | resolved n =>
    simp [Notice.ofJson?, Notice.kind, Notice.toJson, ResolvedNotice.ofJson?_toJson n]

/-- The text of a notice whose instants a clock can read reads back as the notice, as a
notice of its kind. -/
theorem Notice.decode_encode (notice : Notice) (hv : notice.Valid) :
  Codec.decode (Notice.ofJson? notice.kind) (Codec.encode notice.toJson) = .ok notice
  := by
  obtain ⟨ms, hms, hflat⟩ := notice.toJson_flat
  rw [hms]
  apply Codec.decode_encode_obj _ hflat
  rw [← hms]
  exact notice.ofJson?_toJson hv

/-- A put of notice traffic carries a notice whose instants a clock can read. -/
theorem Step.putNotice?_valid {σ : Settings} {now : Instant} {st : Step} {notice : Notice}
    {visibility : Nat} (hx : st.NoticeTraffic)
    (h : st.putNotice? σ now = some (notice, visibility)) :
  notice.Valid
  := by
  cases st with
  | putClaim taskId runId takenUntil =>
    obtain ⟨rfl, -⟩ := Prod.mk.inj (Option.some.inj h.symm)
    exact hx
  | putDeadline taskId groupId schedulerId deadline =>
    obtain ⟨rfl, -⟩ := Prod.mk.inj (Option.some.inj h.symm)
    exact hx
  | putResolved taskId groupId schedulerId resolution =>
    obtain ⟨rfl, -⟩ := Prod.mk.inj (Option.some.inj h.symm)
    trivial
  | _ => cases h

/-! ### Store calls on a held message -/

namespace Store

variable {s s' : Store} {now : Instant} {name : String}

/-- Each message a get answers is one the queue held unexpired, which the store goes on
holding, leased, with its id and expiry. -/
theorem getMessages_leased {visibility : Duration} {maxCount : Nat} {got : List RawMessage}
    (h : s.getMessages now name visibility maxCount = .ok (.ok got, s')) {r : RawMessage}
    (hr : r ∈ got) :
  ∃ m ∈ s.messagesOf name, now < m.expiresAt ∧
    ∃ m' ∈ s'.messagesOf name, m'.raw = r ∧ m'.id = m.id ∧ m'.expiresAt = m.expiresAt
  := by
  rcases getMessages_eq_ok_iff.1 h with ⟨hr', -, -⟩ | ⟨-, ⟨-, hr', -⟩ | ⟨q, -, -, hr', -⟩ |
      ⟨q, hq, -, leaseEnd, -, hr', rfl⟩⟩
  · cases hr'
  · cases hr'
  · cases hr'
    cases hr
  · cases hr'
    -- the message answered is leased from one the queue held, unexpired
    obtain ⟨m', hm', hraw, -⟩ := leaseAll_got_mem now leaseEnd _ _ _ r hr
    obtain ⟨m, hm, hid, -, hexp, -⟩ :=
      exists_of_forall₂_mem (leaseAll_forall₂ now leaseEnd _ _ _) hm'
    obtain ⟨hmq, hlive⟩ := mem_of_mem_purge hm
    refine ⟨m, by rw [messagesOf_of_find? hq]; exact hmq, hlive, m', ?_, hraw, hid, hexp⟩
    simpa [messagesOf_mk, lookup_queues, getD_map_find?, messagesOf_put, getLease] using hm'

/-- With no failure armed, a delete presenting the id and receipt of a message a sound store
holds unexpired deletes it: its queue keeps its other unexpired messages, and no other queue
changes. -/
theorem deleteMessage_held (hs : s.Sound) (hr : s.rules = []) {m : StoredMessage}
    (hm : m ∈ s.messagesOf name) (hlive : now < m.expiresAt) :
  ∃ s', s.deleteMessage now name m.id m.receipt = .ok (.ok (), s') ∧
    s'.messagesOf name = (s.live now name).filter (·.id != m.id) ∧
    ∀ n ≠ name, s'.messagesOf n = s.messagesOf n
  := by
  -- the queue exists, as it holds the message
  obtain ⟨q, hq⟩ : ∃ q, s.find? name = some q := by
    cases hf : s.find? name with
    | none =>
      rw [messagesOf_of_find?_none hf] at hm
      cases hm
    | some q => exact ⟨q, rfl⟩
  have hlive' : (q.purge now).messages = s.live now name := by
    rw [StoredQueue.purge_messages, ← messagesOf_of_find? hq]
    rfl
  have hmp : m ∈ (q.purge now).messages :=
    mem_purge (mem_of_found hq hm) ((StoredMessage.isLive_iff now m).2 hlive)
  have hd : ((q.purge now).messages.map (·.id)).Nodup := by
    rw [hlive']
    exact (hs.ids_nodup name).sublist (List.filter_sublist.map _)
  -- the first message with the id is this one, which holds the receipt
  obtain ⟨i, hi⟩ : ∃ i, (q.purge now).messages.findIdx? (·.id == m.id) = some i := by
    rw [← Option.isSome_iff_exists, List.findIdx?_isSome]
    exact List.any_eq_true.2 ⟨m, hmp, by simp⟩
  have hloc : locate name m.id m.receipt (q.purge now).messages = .ok i := by
    obtain ⟨hlt, hid, -⟩ := List.findIdx?_eq_some_iff_getElem.1 hi
    have heq : (q.purge now).messages[i] = m :=
      List.inj_on_of_nodup_map hd (List.getElem_mem hlt) hmp (by simpa using hid)
    unfold locate
    rw [hi]
    dsimp only
    rw [List.getElem?_eq_getElem hlt, heq]
    simp
  refine ⟨_, deleteMessage_of_locate (by rw [hr]; rfl) hq hloc, ?_, fun n hn => ?_⟩
  · rw [messagesOf_put, if_pos rfl]
    show (q.purge now).messages.eraseIdx i = _
    rw [eraseIdx_of_findIdx? hd hi, hlive']
  · rw [messagesOf_put, if_neg hn, messagesOf_enter]

/-- A queue that holds a message exists. -/
theorem exists?_of_mem {m : StoredMessage} (hm : m ∈ s.messagesOf name) :
  s.exists? name = true
  := by
  cases hq : s.find? name with
  | none =>
    rw [messagesOf, hq] at hm
    cases hm
  | some q => exact (exists?_iff s name).2 ⟨q, hq⟩

/-- With no failure armed, a delete presenting an id that no unexpired message of an existing
queue holds is answered that the message is not found. -/
theorem deleteMessage_gone (hr : s.rules = []) (hq : s.exists? name = true)
    {id receipt : String}
    (hgone : ∀ m ∈ s.messagesOf name, m.id = id → ¬ now < m.expiresAt) :
  ∃ s', s.deleteMessage now name id receipt = .ok (.error (.messageNotFound name id), s')
  := by
  obtain ⟨q, hfind⟩ := (exists?_iff s name).1 hq
  have hloc : locate name id receipt (q.purge now).messages =
      .error (.messageNotFound name id) := by
    refine locate_notFound.2 fun m hm hid => ?_
    obtain ⟨hmq, hlive⟩ := mem_of_mem_purge hm
    exact hgone m (by rw [messagesOf_of_find? hfind]; exact hmq) hid hlive
  exact ⟨_, deleteMessage_of_locate_error (by rw [hr]; rfl) hfind hloc⟩

end Store

/-- Finishing a lease's call with an error fails with it, its context extended. -/
theorem Lease.finish_error_run (l : Lease) (operation : String) (e : QueueError) (w : World) :
  ∃ e' reports logs, (l.finish operation (.error e)).run.run w =
      .ok (.error e', { w with reports := reports, logs := logs }) ∧ e'.cause = e.cause
  := by
  by_cases he : e.kind = .assertionViolation <;>
    simp [Lease.finish, he, ExceptT.run_bind] <;>
    exact ⟨_, ⟨_, _, rfl⟩, rfl⟩

namespace Session

variable {σ : Settings} {s₀ s s' : Session} {tr : List (Step × Outcome)}

/-! ### Notices published in a run -/

/-- The run `tr` from `s₀` published the notice `notice`: one of its steps, an expiration put
of notice traffic, puts it and answers. -/
def PublishedNotice (σ : Settings) (s₀ : Session) (tr : List (Step × Outcome))
    (notice : Notice) : Prop :=
  ∃ tr₁ tr₂ s₁ s₂ st visibility rs, tr = tr₁ ++ (st, .reply .unit) :: tr₂ ∧
    Reaches s₀ tr₁ s₁ ∧ st.NoticeTraffic ∧ st.putNotice? σ s₁.world.now = some (notice, visibility) ∧
    s₁.step st = .ok (.reply .unit, rs, s₂)

theorem PublishedNotice.snoc {notice : Notice} (h : PublishedNotice σ s₀ tr notice)
    (x : Step × Outcome) :
  PublishedNotice σ s₀ (tr ++ [x]) notice
  := by
  obtain ⟨tr₁, tr₂, s₁, s₂, st, visibility, rs, rfl, h₁, hx, hn, h₂⟩ := h
  exact ⟨tr₁, tr₂ ++ [x], s₁, s₂, st, visibility, rs, by simp, h₁, hx, hn, h₂⟩

/-- A published notice carries instants a clock can read. -/
theorem PublishedNotice.valid {notice : Notice} (h : PublishedNotice σ s₀ tr notice) :
  notice.Valid
  := by
  obtain ⟨_, _, _, _, _, _, _, -, -, hx, hn, -⟩ := h
  exact Step.putNotice?_valid hx hn

/-- Every message an expiration queue of the store `st` holds is the text of a notice of the
queue's kind that the run `tr` from `s₀` published. -/
def NoticesPublished (σ : Settings) (s₀ : Session) (tr : List (Step × Outcome)) (st : Store) :
    Prop :=
  ∀ kind, ∀ m ∈ st.messagesOf (σ.expirationQueue kind), ∃ notice, notice.kind = kind ∧
    m.text = Codec.encode notice.toJson ∧ PublishedNotice σ s₀ tr notice

/-- The notice a message of such a store reads as is one the run published, of the queue's
kind. -/
theorem NoticesPublished.read {st : Store} (h : NoticesPublished σ s₀ tr st)
    {kind : ExpirationKind} {m : StoredMessage} (hm : m ∈ st.messagesOf (σ.expirationQueue kind))
    {notice : Notice} (hd : Codec.decode (Notice.ofJson? kind) m.text = .ok notice) :
  notice.kind = kind ∧ PublishedNotice σ s₀ tr notice
  := by
  obtain ⟨notice', hkind, htext, hpub⟩ := h kind m hm
  rw [htext, ← hkind, Notice.decode_encode notice' hpub.valid] at hd
  cases hd
  exact ⟨hkind, hpub⟩

/-- Every step of notice traffic reads what it polls from such a store. -/
theorem NoticesPublished.readable {st : Store} (h : NoticesPublished σ s₀ tr st) {x : Step}
    (hx : x.NoticeTraffic) :
  x.Readable σ st
  := by
  cases x with
  | pollNotices kind =>
    intro m hm
    obtain ⟨notice, hkind, htext, hpub⟩ := h kind m hm
    refine ⟨notice, ?_⟩
    rw [htext, ← hkind]
    exact Notice.decode_encode notice hpub.valid
  | pollPending => cases hx
  | _ => trivial

/-! ### The invariant of notice traffic -/

/-- What a run `tr` of notice traffic from `s₀` to `s` keeps. -/
structure NoticeRun (σ : Settings) (s₀ : Session) (tr : List (Step × Outcome)) (s : Session) :
    Prop where
  serving : s.Serving σ
  notices : NoticesPublished σ s₀ tr s.world.store

section Run

variable (hq : Function.Injective σ.expirationQueue)
include hq

/-- A step of notice traffic keeps the invariant: a message an expiration queue holds after
it was held before, or is the notice the step put, which goes to the queue of its kind only. -/
theorem NoticeRun.step {st : Step} {o : Outcome} {rs : List QueueError}
    (hp : NoticeRun σ s₀ tr s) (hr : Reaches s₀ tr s) (hx : st.NoticeTraffic)
    (h : s.step st = .ok (o, rs, s')) :
  NoticeRun σ s₀ (tr ++ [(st, o)]) s'
  := by
  have hm := Serving.step hp.serving (.inr hx) (hp.notices.readable hx) h
  refine ⟨hm.serving, fun kind m' hm' => ?_⟩
  rcases hm.news hm' with ⟨m, hm, -, htext, -⟩ | ⟨hput, rfl⟩
  · obtain ⟨notice, hkind, ht, hpub⟩ := hp.notices kind m hm
    exact ⟨notice, hkind, htext ▸ ht, hpub.snoc _⟩
  · -- the step put the message: an expiration put, whose queue names its notice's kind
    cases st with
    | putPending => cases hx
    | _ =>
      obtain ⟨notice, visibility, hn, hqn, ht⟩ := hput
      exact ⟨notice, (hq hqn).symm, ht, tr, [], s, s', _, visibility, rs, rfl, hr, hx, hn, h⟩

/-- Every run of notice traffic from a fresh session keeps the invariant. -/
theorem Reaches.noticeRun {t₀ : Instant} (ht₀ : t₀.Valid) {pageSize : Nat} {virtualTime : Bool}
    (h : Reaches (Session.start σ t₀ pageSize virtualTime none) tr s)
    (htr : ∀ x ∈ tr, x.1.NoticeTraffic) :
  NoticeRun σ (Session.start σ t₀ pageSize virtualTime none) tr s
  := by
  -- the invariant is carried along the run, step by step from its start
  revert htr
  refine Reaches.induction_snoc
    (P := fun tr s => (∀ x ∈ tr, x.1.NoticeTraffic) → NoticeRun σ _ tr s)
    (fun _ => ⟨.start σ ht₀ pageSize virtualTime, fun _ _ hm => by cases hm⟩) ?_ h
  intro tr s₁ st o rs s₂ hr ih hs htr
  refine (ih fun x hx => htr x (List.mem_append_left _ hx)).step hq hr ?_ hs
  exact htr _ (List.mem_append_right _ (List.mem_singleton_self _))

end Run

/-! ### What the next step does -/

/-- An expiration put whose moves of the clock land in the calendar answers and appends its
notice to the queue of its kind, with the next id and receipt, visible after the seconds it
waits and expiring seven days from now; the queue drops its expired messages, no other
queue changes, and no handle is given or used up. -/
theorem Serving.putsNotice (hs : s.Serving σ) {st : Step} {notice : Notice} {visibility : Nat}
    {visibleAt expiresAt : Instant} (hn : st.putNotice? σ s.world.now = some (notice, visibility))
    (hv : s.world.now.add? (Duration.ofSeconds visibility).storeSpan = some visibleAt)
    (he : s.world.now.add? noticeTtl.storeSpan = some expiresAt) :
  ∃ s', s.step st = .ok (.reply .unit, [], s') ∧ s'.world.now = s.world.now ∧
    s'.handles = s.handles ∧ s'.issuedHandles = s.issuedHandles ∧
    s'.world.store.messagesOf (σ.expirationQueue notice.kind) =
      s.world.store.live s.world.now (σ.expirationQueue notice.kind) ++
        [⟨Store.idOf (s.world.store.issuedIds + 1),
          Store.receiptOf (s.world.store.issuedReceipts + 1), Codec.encode notice.toJson,
          visibleAt, expiresAt⟩] ∧
    ∀ n ≠ σ.expirationQueue notice.kind, s'.world.store.messagesOf n = s.world.store.messagesOf n
  := by
  obtain ⟨st', rd, logs, hr, hput⟩ := step_of_putNotice hs hn
  have hrules : st'.rules = [] := hr.refreshes.rules.trans hs.world.rules
  -- both moves of the clock land in the calendar, so the put answers
  obtain ⟨r, st'', hp⟩ := Store.putMessage_answers st' s.world.now
    (σ.expirationQueue notice.kind) (Codec.encode notice.toJson) (by rw [hv]; rfl)
    (by rw [he]; rfl)
  obtain ⟨visibleAt', expiresAt', hva, hea, -, hmsg⟩ :=
    Store.putMessage_messagesOf hrules (hr.refreshes.exists_mem _ (List.mem_singleton_self _)) hp
  rw [hv] at hva
  rw [he] at hea
  cases hva
  cases hea
  refine ⟨_, hput _ hp, rfl, rfl, rfl, ?_, fun n hn => ?_⟩
  · show st''.messagesOf _ = _
    rw [hmsg, if_pos rfl, hr.refreshes.live_eq, hr.refreshes.issuedIds,
      hr.refreshes.issuedReceipts]
  · show st''.messagesOf n = _
    rw [hmsg, if_neg hn, hr.messagesOf]

/-- A poll of an expiration queue, whose lease ends in the calendar, answers the first 32
unexpired messages of the queue visible now, in order, each with the next handle and the next
receipt, each a notice of the poll's kind, leased from the queue, that a put of the run
published; the queue keeps its other unexpired messages, the answered ones leased until the
lease's end, and no other queue changes. -/
theorem NoticeRun.polls (hp : NoticeRun σ s₀ tr s) (kind : ExpirationKind) {leaseEnd : Instant}
    (hl : s.world.now.add? noticeLease.storeSpan = some leaseEnd) :
  ∃ s' numbered, s.step (.pollNotices kind) = .ok (.reply (.notices numbered), [], s') ∧
    numbered.map (·.1) = List.range' (s.issuedHandles + 1) numbered.length ∧
    numbered.map (·.2.lease.message) =
      (((s.world.store.live s.world.now (σ.expirationQueue kind)).filter
          (·.isVisible s.world.now)).take maxMessagesPerGet).mapIdx
        (fun i m => ⟨m.id, Store.receiptOf (s.world.store.issuedReceipts + i + 1), m.text⟩) ∧
    (∀ x ∈ numbered, x.2.lease.queue = σ.expirationQueue kind ∧ x.2.notice.kind = kind ∧
      PublishedNotice σ s₀ tr x.2.notice) ∧
    s'.world.store.messagesOf (σ.expirationQueue kind) =
      (Store.leaseAll s.world.now leaseEnd s.world.store.issuedReceipts
        (s.world.store.live s.world.now (σ.expirationQueue kind)) maxMessagesPerGet).1 ∧
    ∀ n ≠ σ.expirationQueue kind, s'.world.store.messagesOf n = s.world.store.messagesOf n
  := by
  obtain ⟨st, rd, logs, hens, hget, -⟩ := step_pollNotices hp.serving kind
  have hrules : st.rules = [] := hens.refreshes.rules.trans hp.serving.world.rules
  obtain ⟨Q, hQ, hlive⟩ := hens.refreshes.found (List.mem_singleton_self _)
  have hg := Store.getMessages_of_found_eq maxMessagesPerGet hrules hQ hl
  have hread : ∀ m ∈ st.messagesOf (σ.expirationQueue kind),
      ∃ n, Codec.decode (Notice.ofJson? kind) m.text = .ok n := fun m hm =>
    hp.notices.readable (x := .pollNotices kind) trivial m (hens.refreshes.mem_messagesOf hm)
  obtain ⟨ns, hstep, hmap, hall⟩ := hget _ _ hg
    (got_readable (P := fun t => ∃ n, Codec.decode (Notice.ofJson? kind) t = .ok n) hread hg)
  -- the get leases the unexpired messages of the queue, 32 at most
  have hcount : min (max maxMessagesPerGet 1) maxMessagesPerGet = maxMessagesPerGet := by
    decide
  have hR : st.issuedReceipts = s.world.store.issuedReceipts := hens.refreshes.issuedReceipts
  refine ⟨_, _, hstep, by simp [give, List.map_map, Function.comp_def], ?_, fun x hx => ?_, ?_,
    fun n hn => ?_⟩
  · -- the messages answered are those the get leased
    rw [give_map_snd (fun a : PolledNotice => a.lease.message), messages_of_leases hmap,
      Store.leaseAll_got_eq, hcount, hlive, hR]
  · -- each notice answered reads from a message of the queue, a notice the run published
    have hx₂ := mem_give hx
    obtain ⟨r, hr, hlr⟩ := List.mem_map.1 (hmap ▸ List.mem_map_of_mem hx₂ :
      x.2.lease ∈ _)
    obtain ⟨m, hm, -, htext⟩ := (Store.getMessages_got hg).2.2 r hr
    have hdec : Codec.decode (Notice.ofJson? kind) m.text = .ok x.2.notice := by
      rw [htext, show r = x.2.lease.message by rw [← hlr]]
      exact hall x.2 hx₂
    obtain ⟨hkind, hpub⟩ := hp.notices.read (hens.refreshes.mem_messagesOf hm) hdec
    exact ⟨by rw [← hlr], hkind, hpub⟩
  · rw [give_snd]
    show Store.messagesOf (Store.mk _ _ _ _ _ _) _ = _
    simp only [Store.messagesOf_mk, Store.lookup_queues, Store.getD_map_find?,
      Store.messagesOf_put, if_true, Store.getLease]
    rw [hcount, hlive, hR]
  · rw [give_snd]
    show Store.messagesOf (Store.mk _ _ _ _ _ _) n = _
    simp only [Store.messagesOf_mk, Store.lookup_queues, Store.getD_map_find?,
      Store.messagesOf_put, if_neg hn, Store.messagesOf_enter]
    exact hens.messagesOf n

/-- A remove through a live handle whose message the store holds with the handle's receipt,
unexpired, answers and deletes that message: its queue keeps its other unexpired messages, no
other queue changes, and the handle is used up. -/
theorem Serving.removesHeld (hs : s.Serving σ) {i : Nat} {held : Held}
    (hi : (i, held) ∈ s.handles) {m : StoredMessage}
    (hm : m ∈ s.world.store.messagesOf held.lease.queue) (hraw : m.raw = held.lease.message)
    (hlive : s.world.now < m.expiresAt) :
  ∃ s', s.step (.remove (.number i)) = .ok (.reply .unit, [], s') ∧
    s'.world.store.messagesOf held.lease.queue =
      (s.world.store.live s.world.now held.lease.queue).filter (·.id != m.id) ∧
    (∀ n ≠ held.lease.queue, s'.world.store.messagesOf n = s.world.store.messagesOf n) ∧
    (i, held) ∉ s'.handles
  := by
  obtain ⟨r, st', hdel, o, reports, logs, hstep, hok⟩ := step_remove_number hs hi
  obtain ⟨st'', hdel', hmsgs, hothers⟩ :=
    Store.deleteMessage_held hs.world.sound hs.world.rules hm hlive
  rw [← hraw] at hdel
  change s.world.store.deleteMessage _ _ m.id m.receipt = _ at hdel
  rw [hdel'] at hdel
  obtain ⟨rfl, rfl⟩ := Prod.mk.inj (Except.ok.inj hdel)
  obtain ⟨rfl, rfl, rfl⟩ := hok rfl
  exact ⟨_, hstep, hmsgs, hothers, Moved.not_mem_consume⟩

/-- A remove through a live handle whose message an existing queue no longer holds
unexpired fails: the delete is answered that the message is not found. -/
theorem Serving.removeGone (hs : s.Serving σ) {i : Nat} {held : Held}
    (hi : (i, held) ∈ s.handles) (hq : s.world.store.exists? held.lease.queue = true)
    (hgone : ∀ m ∈ s.world.store.messagesOf held.lease.queue,
      m.id = held.lease.message.id → ¬ s.world.now < m.expiresAt) :
  ∃ e rs s', s.step (.remove (.number i)) = .ok (.failed e, rs, s') ∧
    e.cause = some (.messageNotFound held.lease.queue held.lease.message.id)
  := by
  obtain ⟨st', hdel⟩ : ∃ st', s.world.store.deleteMessage s.world.now held.lease.queue
      held.lease.message.id held.lease.message.receipt =
      .ok (.error (.messageNotFound held.lease.queue held.lease.message.id), st') :=
    Store.deleteMessage_gone hs.world.rules hq hgone
  have hrun := Lease.remove_of_delete (w := (s.fresh.consume i).world) hs.world.link hdel
  obtain ⟨e, reports, logs, hfin, hcause⟩ := Lease.finish_error_run held.lease "delete_message"
    (QueueError.ofFault (.messageNotFound held.lease.queue held.lease.message.id))
    { (s.fresh.consume i).world with store := st' }
  have hw := withHandle_number hs.numbers (s := s.fresh) hi fun s n held =>
    (s.consume n).attempt held.lease.remove fun _ => .unit
  have hatt : (s.fresh.consume i).attempt held.lease.remove (fun _ => Reply.unit) = _ :=
    attempt_of_error (hrun.trans hfin)
  refine ⟨e, _, _, step_of_perform (((perform_remove _ _).trans hw).trans hatt) hs.idle, ?_⟩
  rw [hcause]
  rfl

/-! ### A polled notice held until its remove -/

/-- A run splits at any point of its trace. -/
theorem Reaches.split {s₀ s : Session} {tr₁ tr₂ : List (Step × Outcome)}
    (h : Reaches s₀ (tr₁ ++ tr₂) s) :
  ∃ s₁, Reaches s₀ tr₁ s₁ ∧ Reaches s₁ tr₂ s
  := by
  induction tr₁ generalizing s₀ with
  | nil => exact ⟨s₀, .refl _, h⟩
  | cons x tr₁ ih =>
    cases h with
    | step hst hrest =>
      obtain ⟨s₁, h₁, h₂⟩ := ih hrest
      exact ⟨s₁, .step hst h₁, h₂⟩

/-- A run followed by a run is a run. -/
theorem Reaches.append {s₀ s₁ s : Session} {tr₁ tr₂ : List (Step × Outcome)}
    (h₁ : Reaches s₀ tr₁ s₁) (h₂ : Reaches s₁ tr₂ s) :
  Reaches s₀ (tr₁ ++ tr₂) s
  := by
  induction h₁ with
  | refl => exact h₂
  | step hst _ ih => exact .step hst (ih h₂)

/-- A trace from a session tells the session it reaches. -/
theorem Reaches.determ {s₀ s₁ s₂ : Session} {tr : List (Step × Outcome)}
    (h₁ : Reaches s₀ tr s₁) (h₂ : Reaches s₀ tr s₂) :
  s₁ = s₂
  := by
  induction h₁ with
  | refl =>
    cases h₂
    rfl
  | step hst _ ih =>
    cases h₂ with
    | step hst' hrest =>
      rw [hst] at hst'
      simp only [Except.ok.injEq, Prod.mk.injEq] at hst'
      obtain ⟨-, -, rfl⟩ := hst'
      exact ih hrest

/-- The store holds the message of the polled notice `pn` with the receipt it was leased
with, expiring at `e`. -/
def HeldUntil (s : Session) (pn : PolledNotice) (e : Instant) : Prop :=
  ∃ m ∈ s.world.store.messagesOf pn.lease.queue, m.raw = pn.lease.message ∧ m.expiresAt = e

/-- A step made before a notice's expiry, which answers no message with its id and leaves
its handle live, goes on holding it with the handle's receipt: no other handle holds that
receipt. -/
theorem Moved.heldUntil {st : Step} {o : Outcome} (hm : Moved σ st o s s') (hs : s.Serving σ)
    {i : Nat} {pn : PolledNotice} {e : Instant} (hh : HeldUntil s pn e)
    (hi : (i, .notice pn) ∈ s.handles) (hi' : (i, .notice pn) ∈ s'.handles)
    (hnow : s.world.now < e) (ho : ¬ o.Hands pn.lease.message.id) :
  HeldUntil s' pn e
  := by
  obtain ⟨m, hmq, hraw, rfl⟩ := hh
  rcases hm.holds hmq ((StoredMessage.isLive_iff _ m).2 hnow) with hkept |
      ⟨other, hother, hout, hrec⟩ | hhands
  · exact ⟨m, hkept, hraw, rfl⟩
  · -- the handle used up holds the message's receipt: it is this one, which stays live
    have hsame : other = (i, .notice pn) := by
      refine List.inj_on_of_nodup_map hs.receipts hother hi (hrec.trans ?_)
      show m.raw.receipt = pn.lease.message.receipt
      rw [hraw]
    exact absurd (hsame ▸ hi') hout
  · have hid : m.id = pn.lease.message.id := congrArg RawMessage.id hraw
    exact absurd (hid ▸ hhands) ho

section Run

variable (hq : Function.Injective σ.expirationQueue)
include hq

/-- A handle live at the end of a run of notice traffic, numbered by its start, was live at
its start: handles given during the run are numbered after it. -/
theorem NoticeRun.mem_handles_of_later {tr₀ tr₁ : List (Step × Outcome)} {s₁ : Session}
    (hr : Reaches s₀ tr₀ s₁) (hp : NoticeRun σ s₀ tr₀ s₁) (h : Reaches s₁ tr₁ s)
    (htr : ∀ x ∈ tr₁, x.1.NoticeTraffic) {e : Nat × Held} (he : e ∈ s.handles)
    (hle : e.1 ≤ s₁.issuedHandles) :
  e ∈ s₁.handles
  := by
  induction h generalizing tr₀ with
  | refl => exact he
  | step hst _ ih =>
    have hx := htr _ List.mem_cons_self
    have hm := Serving.step hp.serving (.inr hx) (hp.notices.readable hx) hst
    have he₁ := ih (hr.snoc hst) (hp.step hq hr hx hst)
      (fun x hx => htr x (List.mem_cons_of_mem _ hx)) he (hle.trans hm.issuedHandles)
    rcases hm.handles e he₁ with h | h
    · exact h
    · omega

/-- Along a run of notice traffic that answers no message with a polled notice's id, keeps
its handle live and moves the clock only to instants before its expiry, the store goes on
holding the notice's message with the handle's receipt. -/
theorem NoticeRun.heldUntil {tr₀ tr₁ : List (Step × Outcome)} {s₁ : Session}
    (hr : Reaches s₀ tr₀ s₁) (hp : NoticeRun σ s₀ tr₀ s₁) (h : Reaches s₁ tr₁ s)
    (htr : ∀ x ∈ tr₁, x.1.NoticeTraffic) {i : Nat} {pn : PolledNotice} {e : Instant}
    (hh : HeldUntil s₁ pn e) (hnow : s₁.world.now < e) (hle : i ≤ s₁.issuedHandles)
    (hquiet : ∀ x ∈ tr₁, ¬ x.2.Hands pn.lease.message.id)
    (hclock : ∀ x ∈ tr₁, ∀ t, x.2 = .reply (.instant t) → t < e)
    (hi : (i, .notice pn) ∈ s.handles) :
  HeldUntil s pn e ∧ s.world.now < e
  := by
  induction h generalizing tr₀ with
  | refl => exact ⟨hh, hnow⟩
  | @step s₁ s₂ s st o rs tr₁ hst hrest ih =>
    have hx := htr _ List.mem_cons_self
    have hm := Serving.step hp.serving (.inr hx) (hp.notices.readable hx) hst
    have hp₂ := hp.step hq hr hx hst
    -- the handle is live after the step, as it is at the end of the run, and so before it
    have hi₂ := hp₂.mem_handles_of_later hq (hr.snoc hst) hrest
      (fun x hx => htr x (List.mem_cons_of_mem _ hx)) hi (hle.trans hm.issuedHandles)
    have hi₁ : (i, Held.notice pn) ∈ s₁.handles :=
      (hm.handles _ hi₂).resolve_right (Nat.not_lt.2 hle)
    -- the clock stays, or moves to an instant before the expiry
    have hnow₂ : s₂.world.now < e := by
      rcases hm.now with h | h
      · rw [h]
        exact hnow
      · exact hclock _ List.mem_cons_self _ h
    exact ih (hr.snoc hst) hp₂ (fun x hx => htr x (List.mem_cons_of_mem _ hx))
      (hm.heldUntil hp.serving hh hi₁ hi₂ hnow (hquiet _ List.mem_cons_self)) hnow₂
      (hle.trans hm.issuedHandles) (fun x hx => hquiet x (List.mem_cons_of_mem _ hx))
      (fun x hx => hclock x (List.mem_cons_of_mem _ hx)) hi

end Run

/-- A poll that answers a notice gives it a live handle and leases its message: the store
holds it with the handle's receipt and the expiry it had, and it was unexpired at the
poll. -/
theorem NoticeRun.pollHolds (hp : NoticeRun σ s₀ tr s) {kind : ExpirationKind}
    {numbered : List (Nat × PolledNotice)} {rs : List QueueError}
    (hpoll : s.step (.pollNotices kind) = .ok (.reply (.notices numbered), rs, s'))
    {i : Nat} {pn : PolledNotice} (hin : (i, pn) ∈ numbered) {m : StoredMessage}
    (hm : m ∈ s.world.store.messagesOf (σ.expirationQueue kind))
    (hid : m.id = pn.lease.message.id) :
  pn.lease.queue = σ.expirationQueue kind ∧ (i, .notice pn) ∈ s'.handles ∧
    HeldUntil s' pn m.expiresAt ∧ s'.world.now < m.expiresAt ∧ i ≤ s'.issuedHandles
  := by
  obtain ⟨st, rd, logs, hens, hget, hhalt⟩ := step_pollNotices hp.serving kind
  have hrules : st.rules = [] := hens.refreshes.rules.trans hp.serving.world.rules
  cases hg : st.getMessages s.world.now (σ.expirationQueue kind) noticeLease
      maxMessagesPerGet with
  | error e =>
    rw [hhalt e hg] at hpoll
    cases hpoll
  | ok p =>
    obtain ⟨r, st'⟩ := p
    obtain ⟨got, rfl⟩ := Store.getMessages_answer hrules
      (hens.refreshes.exists_mem _ (List.mem_singleton_self _)) hg
    have hread : ∀ m ∈ st.messagesOf (σ.expirationQueue kind),
        ∃ n, Codec.decode (Notice.ofJson? kind) m.text = .ok n := fun m hm =>
      hp.notices.readable (x := .pollNotices kind) trivial m (hens.refreshes.mem_messagesOf hm)
    obtain ⟨ns, hstep, hmap, -⟩ := hget got st' hg
      (got_readable (P := fun t => ∃ n, Codec.decode (Notice.ofJson? kind) t = .ok n) hread hg)
    rw [hstep] at hpoll
    simp only [Except.ok.injEq, Prod.mk.injEq, Outcome.reply.injEq, Reply.notices.injEq] at hpoll
    obtain ⟨rfl, -, rfl⟩ := hpoll
    -- the notice answered leases a message the queue held, unexpired, with the same id
    obtain ⟨r, hr, hlr⟩ := List.mem_map.1 (hmap ▸ List.mem_map_of_mem (mem_give hin) :
      pn.lease ∈ _)
    obtain ⟨m₀, hm₀, hlive, m', hm', hraw, hid', hexp⟩ := Store.getMessages_leased hg hr
    have hsame : m₀ = m := (hp.serving.world.sound.eq_of_id
      (hens.refreshes.mem_messagesOf hm₀) hm (by rw [← hid', hid, ← hlr, ← hraw]; rfl)).2
    subst hsame
    have hq : pn.lease.queue = σ.expirationQueue kind := by rw [← hlr]
    refine ⟨hq, give_mem_handles hin, ⟨m', ?_, by rw [hraw, ← hlr], hexp⟩, hlive, ?_⟩
    · rw [hq]
      exact hm'
    · exact give_le_issued hin

section Run

variable (hq : Function.Injective σ.expirationQueue)
include hq

/-- Through the handle a poll of notice traffic gave, a remove deletes exactly the notice's
message, as long as no later step answered the message and every move of the clock since
came before its expiry: its queue keeps its other unexpired messages, and no other queue
changes. -/
theorem Reaches.removesPolled {t₀ : Instant} (ht₀ : t₀.Valid) {pageSize : Nat}
    {virtualTime : Bool} {tr₁ tr₂ : List (Step × Outcome)} {s₁ s₂ : Session}
    {kind : ExpirationKind} {numbered : List (Nat × PolledNotice)} {rs : List QueueError}
    (h₁ : Reaches (Session.start σ t₀ pageSize virtualTime none) tr₁ s₁)
    (hpoll : s₁.step (.pollNotices kind) = .ok (.reply (.notices numbered), rs, s₂))
    (h₂ : Reaches s₂ tr₂ s)
    (htr : ∀ x ∈ tr₁ ++ (.pollNotices kind, .reply (.notices numbered)) :: tr₂,
      x.1.NoticeTraffic)
    {i : Nat} {pn : PolledNotice} (hin : (i, pn) ∈ numbered) {m : StoredMessage}
    (hm : m ∈ s₁.world.store.messagesOf (σ.expirationQueue kind))
    (hid : m.id = pn.lease.message.id) (hquiet : ∀ x ∈ tr₂, ¬ x.2.Hands m.id)
    (hclock : ∀ x ∈ tr₂, ∀ t, x.2 = .reply (.instant t) → t < m.expiresAt)
    (hi : (i, .notice pn) ∈ s.handles) :
  ∃ s', s.step (.remove (.number i)) = .ok (.reply .unit, [], s') ∧
    s'.world.store.messagesOf (σ.expirationQueue kind) =
      (s.world.store.live s.world.now (σ.expirationQueue kind)).filter (·.id != m.id) ∧
    ∀ n ≠ σ.expirationQueue kind, s'.world.store.messagesOf n = s.world.store.messagesOf n
  := by
  have hp₁ := h₁.noticeRun hq ht₀ fun x hx => htr x (List.mem_append_left _ hx)
  have hp₂ := hp₁.step hq h₁ (by trivial) hpoll
  have hs : s.Serving σ := by
    refine (((h₁.snoc hpoll).append h₂).noticeRun hq ht₀ ?_).serving
    rw [List.append_assoc, List.singleton_append]
    exact htr
  -- the poll leases the message to the handle, and the rest of the run leaves it there
  obtain ⟨hqueue, -, hh, hnow, hle⟩ := hp₁.pollHolds hpoll hin hm hid
  obtain ⟨⟨m', hm', hraw, hexp⟩, hlive⟩ := hp₂.heldUntil hq (h₁.snoc hpoll) h₂
    (fun x hx => htr x (List.mem_append_right _ (List.mem_cons_of_mem _ hx))) hh hnow hle
    (fun x hx => hid ▸ hquiet x hx) hclock hi
  have hid' : m'.id = m.id := (congrArg RawMessage.id hraw).trans hid.symm
  obtain ⟨s', hstep, hmsgs, hothers, -⟩ :=
    hs.removesHeld hi hm' hraw (hexp ▸ hlive)
  refine ⟨s', hstep, ?_, ?_⟩
  · rw [← hqueue, ← hid']
    exact hmsgs
  · rw [← hqueue]
    exact hothers

end Run

/-! ### The contract of notice traffic -/

/-- What the next step does at a session `s` that a run `tr` of notice traffic from `s₀`
reached. -/
structure NoticeContract (σ : Settings) (s₀ : Session) (tr : List (Step × Outcome))
    (s : Session) : Prop where
  ordered : s.world.store.InPutOrder
  put (st : Step) (notice : Notice) (visibility : Nat) (visibleAt expiresAt : Instant) :
    st.putNotice? σ s.world.now = some (notice, visibility) →
    s.world.now.add? (Duration.ofSeconds visibility).storeSpan = some visibleAt →
    s.world.now.add? noticeTtl.storeSpan = some expiresAt →
    ∃ s', s.step st = .ok (.reply .unit, [], s') ∧ s'.world.now = s.world.now ∧
      s'.handles = s.handles ∧ s'.issuedHandles = s.issuedHandles ∧
      s'.world.store.messagesOf (σ.expirationQueue notice.kind) =
        s.world.store.live s.world.now (σ.expirationQueue notice.kind) ++
          [⟨Store.idOf (s.world.store.issuedIds + 1),
            Store.receiptOf (s.world.store.issuedReceipts + 1), Codec.encode notice.toJson,
            visibleAt, expiresAt⟩] ∧
      ∀ n ≠ σ.expirationQueue notice.kind,
        s'.world.store.messagesOf n = s.world.store.messagesOf n
  polled (kind : ExpirationKind) (leaseEnd : Instant) :
    s.world.now.add? noticeLease.storeSpan = some leaseEnd →
    ∃ s' numbered, s.step (.pollNotices kind) = .ok (.reply (.notices numbered), [], s') ∧
      numbered.map (·.1) = List.range' (s.issuedHandles + 1) numbered.length ∧
      numbered.map (·.2.lease.message) =
        (((s.world.store.live s.world.now (σ.expirationQueue kind)).filter
            (·.isVisible s.world.now)).take maxMessagesPerGet).mapIdx
          (fun i m => ⟨m.id, Store.receiptOf (s.world.store.issuedReceipts + i + 1), m.text⟩) ∧
      (∀ x ∈ numbered, x.2.lease.queue = σ.expirationQueue kind ∧ x.2.notice.kind = kind ∧
        PublishedNotice σ s₀ tr x.2.notice) ∧
      s'.world.store.messagesOf (σ.expirationQueue kind) =
        (Store.leaseAll s.world.now leaseEnd s.world.store.issuedReceipts
          (s.world.store.live s.world.now (σ.expirationQueue kind)) maxMessagesPerGet).1 ∧
      ∀ n ≠ σ.expirationQueue kind, s'.world.store.messagesOf n = s.world.store.messagesOf n
  removes (tr₁ tr₂ : List (Step × Outcome)) (s₁ : Session) (kind : ExpirationKind)
      (numbered : List (Nat × PolledNotice)) (i : Nat) (pn : PolledNotice) (m : StoredMessage) :
    tr = tr₁ ++ (.pollNotices kind, .reply (.notices numbered)) :: tr₂ → Reaches s₀ tr₁ s₁ →
    (i, pn) ∈ numbered → m ∈ s₁.world.store.messagesOf (σ.expirationQueue kind) →
    m.id = pn.lease.message.id → (∀ x ∈ tr₂, ¬ x.2.Hands m.id) →
    (∀ x ∈ tr₂, ∀ t, x.2 = .reply (.instant t) → t < m.expiresAt) →
    (i, .notice pn) ∈ s.handles →
    ∃ s', s.step (.remove (.number i)) = .ok (.reply .unit, [], s') ∧
      s'.world.store.messagesOf (σ.expirationQueue kind) =
        (s.world.store.live s.world.now (σ.expirationQueue kind)).filter (·.id != m.id) ∧
      ∀ n ≠ σ.expirationQueue kind, s'.world.store.messagesOf n = s.world.store.messagesOf n

/-- Every session that notice traffic reaches from a fresh session over an empty store, at a
valid instant, under settings that name the three expiration queues apart, keeps the
contract: its next step does what the expiration queues promise. -/
theorem notice_traffic_contract (σ : Settings) (hq : Function.Injective σ.expirationQueue)
    {t₀ : Instant} (ht₀ : t₀.Valid) (pageSize : Nat) (virtualTime : Bool)
    {tr : List (Step × Outcome)} {s : Session}
    (hrun : Reaches (Session.start σ t₀ pageSize virtualTime none) tr s)
    (htraffic : ∀ x ∈ tr, x.1.NoticeTraffic) :
  NoticeContract σ (Session.start σ t₀ pageSize virtualTime none) tr s
  := by
  have hp := hrun.noticeRun hq ht₀ htraffic
  refine ⟨hp.serving.world.ordered, fun _ _ _ _ _ hn => hp.serving.putsNotice hn,
    fun kind _ => hp.polls kind, ?_⟩
  intro tr₁ tr₂ s₁ kind numbered i pn m htr h₁ hin hm hid hquiet hclock hi
  subst htr
  -- the run splits at the poll, whose step it reads off
  obtain ⟨s₁', h₁', hrest⟩ := hrun.split
  obtain rfl := h₁'.determ h₁
  cases hrest with
  | step hpoll h₂ =>
    exact h₁.removesPolled hq ht₀ hpoll h₂ htraffic hin hm hid hquiet hclock hi

/-- The default settings name the three expiration queues apart. -/
theorem Settings.default_expirationQueue_injective :
  Function.Injective Settings.default.expirationQueue
  := by
  intro a b h
  cases a <;> cases b <;> simp_all [Settings.expirationQueue, Settings.default]

/-- From noon on 1 March 2024 under the default settings a put of a resolution answers and
leaves the resolution alone in its queue, visible at once and living seven days; the run is
one of notice traffic. -/
theorem resolved_put_at_noon :
  ∃ s₁, (Session.start Settings.default ⟨19783, 43200, 0⟩ 5000 false none).step
      (.putResolved ⟨"t1"⟩ "g1" "s1" .completed) = .ok (.reply .unit, [], s₁) ∧
    s₁.world.now = ⟨19783, 43200, 0⟩ ∧
    s₁.issuedHandles = (Session.start Settings.default ⟨19783, 43200, 0⟩ 5000 false none).issuedHandles ∧
    s₁.world.store.messagesOf "tq-resolved" =
      [⟨Store.idOf 1, Store.receiptOf 1,
        Codec.encode (Notice.resolved ⟨⟨"t1"⟩, "g1", "s1", .completed⟩).toJson,
        ⟨19783, 43200, 0⟩, ⟨19790, 43200, 0⟩⟩] ∧
    NoticeRun Settings.default (Session.start Settings.default ⟨19783, 43200, 0⟩ 5000 false none)
      [(.putResolved ⟨"t1"⟩ "g1" "s1" .completed, .reply .unit)] s₁
  := by
  have ht₀ : Instant.Valid ⟨19783, 43200, 0⟩ := ⟨by decide, by decide, by decide, by decide⟩
  have hs₀ := Serving.start Settings.default ht₀ 5000 false
  -- the put appends the resolution, visible at once and living seven days, to the empty queue
  have hn : Step.putNotice? Settings.default ⟨19783, 43200, 0⟩
      (.putResolved ⟨"t1"⟩ "g1" "s1" .completed) =
      some (.resolved ⟨⟨"t1"⟩, "g1", "s1", .completed⟩, 0) := rfl
  have hv : Instant.add? ⟨19783, 43200, 0⟩ (Duration.ofSeconds 0).storeSpan =
      some ⟨19783, 43200, 0⟩ := by decide
  have he : Instant.add? ⟨19783, 43200, 0⟩ noticeTtl.storeSpan = some ⟨19790, 43200, 0⟩ := by
    decide
  obtain ⟨s₁, hstep₁, hnow₁, -, hih₁, hmsgs₁, -⟩ := hs₀.putsNotice hn hv he
  refine ⟨s₁, hstep₁, hnow₁, hih₁, hmsgs₁, ?_⟩
  exact Reaches.noticeRun Settings.default_expirationQueue_injective ht₀ (.step hstep₁ (.refl _))
    fun x hx => by
      rw [List.mem_singleton.1 hx]
      trivial

/-- A session in which, from noon on 1 March 2024 under the default settings, a resolution
was put and a poll of resolutions answered keeps the contract. -/
theorem notice_contract_after_put_and_poll :
  ∃ tr s, tr.map Prod.fst = [.putResolved ⟨"t1"⟩ "g1" "s1" .completed, .pollNotices .resolved] ∧
    NoticeContract Settings.default
      (Session.start Settings.default ⟨19783, 43200, 0⟩ 5000 false none) tr s
  := by
  obtain ⟨s₁, hstep₁, hnow₁, -, -, hp₁⟩ := resolved_put_at_noon
  -- the poll that follows answers, its lease ending ten minutes on
  have hl : s₁.world.now.add? noticeLease.storeSpan = some ⟨19783, 43800, 0⟩ := by
    rw [hnow₁]
    decide
  obtain ⟨s₂, _, hstep₂, -⟩ := hp₁.polls .resolved hl
  refine ⟨_, s₂, rfl, notice_traffic_contract Settings.default
    Settings.default_expirationQueue_injective ⟨by decide, by decide, by decide, by decide⟩ 5000
    false (.step hstep₁ (.step hstep₂ (.refl _))) fun x hx => ?_⟩
  simp only [List.mem_cons, List.not_mem_nil, or_false] at hx
  rcases hx with rfl | rfl <;> trivial

/-- Seven days after its put a notice has expired, and the handle of its poll no longer
removes it: from noon on 1 March 2024 a resolution is put, a poll answers it with handle 1,
the clock moves seven days on, and a remove through that handle is answered that the
message is not found. -/
theorem resolved_remove_not_found_after_seven_days :
  ∃ s₁ s₂ s₃ numbered,
    (Session.start Settings.default ⟨19783, 43200, 0⟩ 5000 false none).step
        (.putResolved ⟨"t1"⟩ "g1" "s1" .completed) = .ok (.reply .unit, [], s₁) ∧
    s₁.step (.pollNotices .resolved) = .ok (.reply (.notices numbered), [], s₂) ∧
    numbered.map (·.1) = [1] ∧
    s₂.step (.advance 604800000) = .ok (.reply (.instant ⟨19790, 43200, 0⟩), [], s₃) ∧
    ∃ e rs s₄, s₃.step (.remove (.number 1)) = .ok (.failed e, rs, s₄) ∧
      e.cause = some (.messageNotFound "tq-resolved" (Store.idOf 1))
  := by
  have ht₇ : Instant.Valid ⟨19790, 43200, 0⟩ := ⟨by decide, by decide, by decide, by decide⟩
  obtain ⟨s₁, hstep₁, hnow₁, hih₁, hq₁, hp₁⟩ := resolved_put_at_noon
  have hm₁ := List.mem_singleton_self (⟨Store.idOf 1, Store.receiptOf 1,
    Codec.encode (Notice.resolved ⟨⟨"t1"⟩, "g1", "s1", .completed⟩).toJson,
    ⟨19783, 43200, 0⟩, ⟨19790, 43200, 0⟩⟩ : StoredMessage)
  rw [← hq₁] at hm₁
  -- the poll answers it alone, with handle 1, and the clock stays
  have hl : s₁.world.now.add? noticeLease.storeSpan = some ⟨19783, 43800, 0⟩ := by
    rw [hnow₁]
    decide
  obtain ⟨s₂, numbered, hstep₂, hnums, hleased, -, -, -⟩ := hp₁.polls .resolved hl
  have hm₂ := Serving.step hp₁.serving (.inr (by trivial)) (hp₁.notices.readable (by trivial))
    hstep₂
  have hget : (s₁.world.store.live s₁.world.now "tq-resolved").filter
      (·.isVisible s₁.world.now) = s₁.world.store.messagesOf "tq-resolved" := by
    unfold Store.live
    rw [hq₁, hnow₁]
    rfl
  rw [show Settings.default.expirationQueue .resolved = "tq-resolved" from rfl, hget, hq₁,
    List.take_of_length_le (by decide), List.mapIdx_cons, List.mapIdx_nil] at hleased
  obtain ⟨x, rfl⟩ := List.length_eq_one_iff.1 (by simpa using congrArg List.length hleased)
  have hid : x.2.lease.message.id = Store.idOf 1 := by
    simp only [List.map_cons, List.map_nil, List.cons.injEq, and_true] at hleased
    rw [hleased]
  have hx : x.1 = 1 := by
    simpa [hih₁, Session.start] using hnums
  obtain ⟨hqueue, hi₂, -, -, -⟩ :=
    hp₁.pollHolds hstep₂ (show (1, x.2) ∈ [x] by rw [← hx]; exact List.mem_singleton_self _)
      hm₁ hid.symm
  have hheld : (Held.notice x.2).lease.queue = "tq-resolved" := hqueue
  have hnow₂ : s₂.world.now = s₁.world.now := by
    rcases hm₂.now with h | h
    · exact h
    · cases h
  -- seven days on the message has expired, and the handle's remove does not find it
  have hplus : Instant.plus ⟨19783, 43200, 0⟩ (Span.ofMillis 604800000) =
      .ok ⟨19790, 43200, 0⟩ := by decide
  have hs₃ := hm₂.serving.of_clock ht₇ []
  obtain ⟨e, rs, s₄, hstep₄, hcause⟩ := hs₃.removeGone hi₂
    (by rw [hheld]; exact hm₂.moves.exists_of _ (Store.exists?_of_mem hm₁)) (by
      intro m hm _
      rw [hheld] at hm
      rcases hm₂.news hm with ⟨m₀, hm₀, -, -, hexp⟩ | ⟨-, ho⟩
      · rw [hq₁] at hm₀
        rw [← hexp, List.mem_singleton.1 hm₀]
        show ¬ Instant.before ⟨19790, 43200, 0⟩ ⟨19790, 43200, 0⟩ = true
        decide
      · cases ho)
  refine ⟨s₁, s₂, _, [x], hstep₁, hstep₂, by rw [List.map_singleton, hx], ?_, e, rs, s₄,
    hstep₄, ?_⟩
  · rw [step_advance hm₂.serving, hnow₂, hnow₁]
    show Except.map _ (Instant.plus ⟨19783, 43200, 0⟩ _) = _
    rw [hplus]
    rfl
  · rw [hcause, hheld, ← hid]
    rfl

end Session

end TaskQueue
