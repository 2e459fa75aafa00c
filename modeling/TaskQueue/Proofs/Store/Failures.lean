import Mathlib
import TaskQueue.Proofs.Store.Receipts
import TaskQueue.Proofs.Service.Limits

/-!
# Failed calls and failure rules

A call that fails changes no queue: every queue is still there with its metadata and its
messages, ids, pop receipts, texts and instants unchanged, except that a call made at an
instant may have dropped the messages of its queue that expired at that instant
(`Untouched`, `Call.perform_cases`).  What may change is the count of calls, the failure
rules and the counters of ids and receipts, which some calls draw from before they find out
that their queue is missing.

Failure rules are used up in the order they were added: a call of an operation on a queue
(on the stem, for a listing) fails when a rule for that operation and queue, or for any
queue, has calls left, and then the first such rule loses one (`consume_eq_some_iff`).  So the
calls that rules are for fail while the rules' budgets last (`FailureRule.budget`,
`Run.injected_iff`), and a call that no rule with calls left is for goes exactly as it
would on the store without rules (`Call.perform_withRules`).  `failed_calls_change_nothing`
gathers these facts.
-/

namespace TaskQueue

open Time

/-! ### Rules and their budgets -/

namespace FailureRule

/-- Whether a rule is for calls of `op` on `queue`, whether it has calls left or not. -/
def covers (r : FailureRule) (op : Operation) (queue : String) : Bool :=
  r.op == op && r.queue.all (· == queue)

/-- The calls of `op` on `queue` that the rules still make fail: the calls left to the rules
for them. -/
def budget (op : Operation) (queue : String) (rules : List FailureRule) : Nat :=
  ((rules.filter (·.covers op queue)).map (·.remaining)).sum

variable {op : Operation} {queue : String}

theorem appliesTo_eq_true_iff (r : FailureRule) :
  r.appliesTo op queue = true ↔ r.covers op queue = true ∧ 0 < r.remaining
  := by
  simp only [appliesTo, covers, Bool.and_eq_true, decide_eq_true_eq]
  tauto

@[simp]
theorem budget_nil :
  budget op queue [] = 0
  := rfl

theorem budget_cons (r : FailureRule) (rules : List FailureRule) :
  budget op queue (r :: rules) =
    (if r.covers op queue then r.remaining else 0) + budget op queue rules
  := by
  unfold budget
  cases h : r.covers op queue <;> simp [h]

/-- No rule is used up exactly when no rule for the call has calls left. -/
theorem consume_eq_none_iff {rules : List FailureRule} :
  consume op queue rules = none ↔ ∀ r ∈ rules, r.appliesTo op queue = false
  := by
  induction rules with
  | nil => simp [consume]
  | cons r rs ih =>
    cases hr : r.appliesTo op queue <;> simp [consume, hr, ih]

/-- A rule is used up exactly when a rule for the call has calls left: then the first such
rule loses one call, and the rules before it and after it stay as they were. -/
theorem consume_eq_some_iff {rules rules' : List FailureRule} :
  consume op queue rules = some rules' ↔
    ∃ pre r post, rules = pre ++ r :: post ∧ (∀ x ∈ pre, x.appliesTo op queue = false) ∧
      r.appliesTo op queue = true ∧ rules' = pre ++ { r with remaining := r.remaining - 1 } :: post
  := by
  induction rules generalizing rules' with
  | nil => simp [consume]
  | cons x xs ih =>
    cases hx : x.appliesTo op queue with
    | true =>
      simp only [consume, hx, if_true, Option.some.injEq]
      constructor
      · rintro rfl
        exact ⟨[], x, xs, rfl, by simp, hx, rfl⟩
      · rintro ⟨pre, r, post, hxs, hpre, hr, rfl⟩
        -- the first rule applies, so it is the one used up
        cases pre with
        | nil => simp_all
        | cons y ys =>
          simp only [List.cons_append, List.cons.injEq] at hxs
          obtain ⟨rfl, -⟩ := hxs
          simp [hpre x List.mem_cons_self] at hx
    | false =>
      simp only [consume, hx, Bool.false_eq_true, if_false, Option.map_eq_some_iff]
      constructor
      · rintro ⟨ys, hys, rfl⟩
        obtain ⟨pre, r, post, rfl, hpre, hr, rfl⟩ := ih.1 hys
        refine ⟨x :: pre, r, post, rfl, ?_, hr, rfl⟩
        simp only [List.mem_cons, forall_eq_or_imp]
        exact ⟨hx, hpre⟩
      · rintro ⟨pre, r, post, hxs, hpre, hr, rfl⟩
        cases pre with
        | nil =>
          simp only [List.nil_append, List.cons.injEq] at hxs
          obtain ⟨rfl, -⟩ := hxs
          simp [hr] at hx
        | cons y ys =>
          simp only [List.cons_append, List.cons.injEq] at hxs
          obtain ⟨rfl, rfl⟩ := hxs
          exact ⟨ys ++ { r with remaining := r.remaining - 1 } :: post,
            ih.2 ⟨ys, r, post, rfl, fun z hz => hpre z (.tail _ hz), hr, rfl⟩, rfl⟩

/-- A rule for the call has calls left exactly when the budget for the call is not spent. -/
theorem consume_isSome_iff {rules : List FailureRule} :
  (consume op queue rules).isSome ↔ 0 < budget op queue rules
  := by
  induction rules with
  | nil => simp [consume]
  | cons r rs ih =>
    rw [budget_cons]
    cases hr : r.appliesTo op queue with
    | true =>
      have hc := (appliesTo_eq_true_iff r).1 hr
      simp [consume, hr, hc.1]
      omega
    | false =>
      simp only [consume, hr, Bool.false_eq_true, if_false, Option.isSome_map, ih]
      -- a rule for the call that does not apply has no calls left
      cases hc : r.covers op queue with
      | false => simp
      | true =>
        have : r.remaining = 0 := by
          by_contra hne
          have := (appliesTo_eq_true_iff r).2 ⟨hc, Nat.pos_of_ne_zero hne⟩
          simp [hr] at this
        simp [this]

/-- Using up a rule for a call takes one call from the budget for it. -/
theorem budget_consume {rules rules' : List FailureRule} (h : consume op queue rules = some rules') :
  budget op queue rules' + 1 = budget op queue rules
  := by
  obtain ⟨pre, r, post, rfl, -, hr, rfl⟩ := consume_eq_some_iff.1 h
  have hc := (appliesTo_eq_true_iff r).1 hr
  simp only [budget, List.filter_append, List.filter_cons, List.map_append, List.sum_append]
  have hc' : ({ r with remaining := r.remaining - 1 } : FailureRule).covers op queue =
      r.covers op queue := rfl
  simp only [hc', hc.1, if_true, List.map_cons, List.sum_cons]
  omega

end FailureRule

namespace Store

variable {s s' : Store}

/-! ### Calls and the rules that apply to them -/

/-- The operation of a call. -/
def Call.op : Call → Operation
  | .createQueue .. => .createQueue
  | .deleteQueue .. => .deleteQueue
  | .putMessage .. => .putMessage
  | .getMessages .. => .getMessages
  | .deleteMessage .. => .deleteMessage
  | .updateMessage .. => .updateMessage
  | .getMetadata .. => .getMetadata
  | .setMetadata .. => .setMetadata
  | .listQueues .. => .listQueues

/-- The name failure rules are matched against: the queue of a call, or the stem of a
listing. -/
def Call.target : Call → String
  | .createQueue n _ | .deleteQueue n | .putMessage _ n .. | .getMessages _ n ..
  | .deleteMessage _ n .. | .updateMessage _ n .. | .getMetadata _ n | .setMetadata n _ => n
  | .listQueues stem .. => stem

/-- `s'` holds the queues of `s`, each with its metadata and its messages as they were, except
that a call made at an instant may have dropped messages that had expired at that instant;
and it lists as many queues to a page. -/
structure Untouched (c : Call) (s s' : Store) : Prop where
  queues : ∀ n, s'.find? n = s.find? n ∨
    ∃ now, c.now? = some now ∧ s'.find? n = (s.find? n).map (·.purge now)
  pageSize : s'.pageSize = s.pageSize

theorem Untouched.of_find? {c : Call} (h : ∀ n, s'.find? n = s.find? n)
    (hp : s'.pageSize = s.pageSize) :
  Untouched c s s'
  := ⟨fun n => .inl (h n), hp⟩

/-- Dropping the expired messages of one queue leaves the store untouched. -/
theorem Untouched.purge {c : Call} {t : Store} {now : Instant} {name : String}
    {q : StoredQueue} (hnow : c.now? = some now) (hq : s.find? name = some q)
    (ht : ∀ n, t.find? n = s.find? n) (hp : t.pageSize = s.pageSize) :
  Untouched c s (t.put name (q.purge now))
  := by
  refine ⟨fun n => ?_, hp⟩
  by_cases hn : n = name
  · subst hn
    exact .inr ⟨now, hnow, by simp [hq]⟩
  · exact .inl (by simp [hn, ht])

/-- What an answered call does with the failure rules, and what it leaves when it fails: a
rule fires, the call fails with the injected fault and only the count of calls and the rules
change; or none does, the rules stay, the answer is never the injected fault, and a failure
leaves the store untouched. -/
theorem Call.perform_cases {c : Call} {a : Except Fault Answer}
    (h : c.perform s = .ok (a, s')) :
  (∃ rules, FailureRule.consume c.op c.target s.rules = some rules ∧
      a = .error (injected c.op c.target) ∧ s' = (s.enter c.op c.target).2) ∨
    (FailureRule.consume c.op c.target s.rules = none ∧ s'.rules = s.rules ∧
      a ≠ .error (injected c.op c.target) ∧ ∀ f, a = .error f → Untouched c s s')
  := by
  -- the store a call leaves when no rule fires keeps the rules
  have hkeep : ∀ {op n}, FailureRule.consume op n s.rules = none →
      (s.enter op n).2.rules = s.rules := by
    intro op n hc
    simp [enter_snd, hc]
  have hsame : ∀ op n n', (s.enter op n).2.find? n' = s.find? n' := fun _ _ _ => find?_enter ..
  cases c with
  | createQueue n metadata =>
    obtain ⟨r, hr, rfl⟩ := map_answering_eq_ok.1 h
    rcases createQueue_eq_ok_iff.1 hr with ⟨rfl, rfl, hc⟩ | ⟨hc, ⟨-, rfl, rfl⟩ | ⟨-, rfl, rfl⟩⟩
    · exact .inl ⟨_, Option.get_mem hc, rfl, rfl⟩
    · refine .inr ⟨hc, hkeep hc, by simp [Except.map, injected], fun _ _ => ?_⟩
      exact .of_find? (hsame _ _) (by simp)
    · exact .inr ⟨hc, by simp [put, hkeep hc], by simp [Except.map, injected],
        by simp [Except.map]⟩
  | deleteQueue n =>
    obtain ⟨r, hr, rfl⟩ := map_answering_eq_ok.1 h
    rcases deleteQueue_eq_ok_iff.1 hr with ⟨rfl, rfl, hc⟩ | ⟨hc, ⟨-, rfl, rfl⟩ | ⟨-, rfl, rfl⟩⟩
    · exact .inl ⟨_, Option.get_mem hc, rfl, rfl⟩
    · exact .inr ⟨hc, by simp [erase, hkeep hc], by simp [Except.map, injected],
        by simp [Except.map]⟩
    · refine .inr ⟨hc, hkeep hc, by simp [Except.map, injected], fun _ _ => ?_⟩
      exact .of_find? (hsame _ _) (by simp)
  | putMessage now n text visibility ttl =>
    obtain ⟨r, hr, rfl⟩ := map_answering_eq_ok.1 h
    rcases putMessage_eq_ok_iff.1 hr with
      ⟨rfl, rfl, hc⟩ | ⟨hc, ⟨-, rfl, rfl⟩ | ⟨q, -, -, -, -, -, rfl, rfl⟩⟩
    · exact .inl ⟨_, Option.get_mem hc, rfl, rfl⟩
    · -- the id and the receipt were drawn before the queue was found missing
      refine .inr ⟨hc, hkeep hc, by simp [Except.map, injected], fun _ _ => ?_⟩
      exact .of_find? (fun _ => by simp) (by simp)
    · exact .inr ⟨hc, by simp [put, hkeep hc], by simp [Except.map, injected],
        by simp [Except.map]⟩
  | getMessages now n visibility maxCount =>
    obtain ⟨r, hr, rfl⟩ := map_answering_eq_ok.1 h
    rcases getMessages_eq_ok_iff.1 hr with
      ⟨rfl, rfl, hc⟩ | ⟨hc, ⟨-, rfl, rfl⟩ | ⟨q, -, -, rfl, rfl⟩ | ⟨q, -, -, -, -, rfl, rfl⟩⟩
    · exact .inl ⟨_, Option.get_mem hc, rfl, rfl⟩
    · refine .inr ⟨hc, hkeep hc, by simp [Except.map, injected], fun _ _ => ?_⟩
      exact .of_find? (hsame _ _) (by simp)
    · exact .inr ⟨hc, by simp [put, hkeep hc], by simp [Except.map, injected],
        by simp [Except.map]⟩
    · exact .inr ⟨hc, by simp [put, hkeep hc], by simp [Except.map, injected],
        by simp [Except.map]⟩
  | deleteMessage now n id receipt =>
    obtain ⟨r, hr, rfl⟩ := map_answering_eq_ok.1 h
    rcases deleteMessage_eq_ok_iff.1 hr with
      ⟨rfl, rfl, hc⟩ | ⟨hc, ⟨-, rfl, rfl⟩ | ⟨q, hq, ⟨f, hf, rfl, rfl⟩ | ⟨i, -, rfl, rfl⟩⟩⟩
    · exact .inl ⟨_, Option.get_mem hc, rfl, rfl⟩
    · refine .inr ⟨hc, hkeep hc, by simp [Except.map, injected], fun _ _ => ?_⟩
      exact .of_find? (hsame _ _) (by simp)
    · -- no message with the id, or another receipt: the queue only loses expired messages
      refine .inr ⟨hc, by simp [put, hkeep hc], ?_, fun _ _ => ?_⟩
      · rcases locate_error hf with rfl | rfl <;> simp [Except.map, injected]
      · exact .purge rfl hq (hsame _ _) (by simp)
    · exact .inr ⟨hc, by simp [put, hkeep hc], by simp [Except.map, injected],
        by simp [Except.map]⟩
  | updateMessage now n text id receipt visibility =>
    obtain ⟨r, hr, rfl⟩ := map_answering_eq_ok.1 h
    rcases updateMessage_eq_ok_iff.1 hr with
      ⟨rfl, rfl, hc⟩ | ⟨hc, ⟨-, rfl, rfl⟩ | ⟨q, hq, ⟨f, hf, rfl, rfl⟩ | ⟨i, -, -, -, rfl, rfl⟩⟩⟩
    · exact .inl ⟨_, Option.get_mem hc, rfl, rfl⟩
    · -- the receipt was drawn before the queue was found missing
      refine .inr ⟨hc, hkeep hc, by simp [Except.map, injected], fun _ _ => ?_⟩
      exact .of_find? (fun _ => by simp) (by simp)
    · refine .inr ⟨hc, by simp [put, hkeep hc], ?_, fun _ _ => ?_⟩
      · rcases locate_error hf with rfl | rfl <;> simp [Except.map, injected]
      · exact .purge rfl hq (fun _ => by simp) (by simp)
    · exact .inr ⟨hc, by simp [put, hkeep hc], by simp [Except.map, injected],
        by simp [Except.map]⟩
  | getMetadata now n =>
    obtain ⟨r, hr, rfl⟩ := map_answering_eq_ok.1 h
    rcases getMetadata_eq_ok_iff.1 hr with ⟨rfl, rfl, hc⟩ | ⟨hc, ⟨-, rfl, rfl⟩ | ⟨q, -, rfl, rfl⟩⟩
    · exact .inl ⟨_, Option.get_mem hc, rfl, rfl⟩
    · refine .inr ⟨hc, hkeep hc, by simp [Except.map, injected], fun _ _ => ?_⟩
      exact .of_find? (hsame _ _) (by simp)
    · exact .inr ⟨hc, by simp [put, hkeep hc], by simp [Except.map, injected],
        by simp [Except.map]⟩
  | setMetadata n metadata =>
    obtain ⟨r, hr, rfl⟩ := map_answering_eq_ok.1 h
    rcases setMetadata_eq_ok_iff.1 hr with ⟨rfl, rfl, hc⟩ | ⟨hc, ⟨-, rfl, rfl⟩ | ⟨q, -, rfl, rfl⟩⟩
    · exact .inl ⟨_, Option.get_mem hc, rfl, rfl⟩
    · refine .inr ⟨hc, hkeep hc, by simp [Except.map, injected], fun _ _ => ?_⟩
      exact .of_find? (hsame _ _) (by simp)
    · exact .inr ⟨hc, by simp [put, hkeep hc], by simp [Except.map, injected],
        by simp [Except.map]⟩
  | listQueues stem marker withMetadata =>
    obtain ⟨r, hr, rfl⟩ := map_answering_eq_ok.1 h
    rcases listQueues_eq_ok_iff.1 hr with ⟨rfl, rfl, hc⟩ | ⟨hc, rfl, rfl⟩
    · exact .inl ⟨_, Option.get_mem hc, rfl, rfl⟩
    · exact .inr ⟨hc, hkeep hc, by simp [Except.map, injected], by simp [Except.map]⟩

/-! ### The rules after a call -/

/-- An answered call leaves the rules with one call taken from the first rule for it that has
calls left, when there is one; its answer is the injected fault exactly then, that is, when
the budget of the rules for it is not spent. -/
theorem Call.perform_rules_eq {c : Call} {a : Except Fault Answer}
    (h : c.perform s = .ok (a, s')) :
  s'.rules = (FailureRule.consume c.op c.target s.rules).getD s.rules ∧
    (a = .error (injected c.op c.target) ↔ 0 < FailureRule.budget c.op c.target s.rules)
  := by
  rw [← FailureRule.consume_isSome_iff]
  rcases Call.perform_cases h with ⟨rules, hc, rfl, rfl⟩ | ⟨hc, hr, hne, -⟩
  · simp [hc, enter_snd]
  · simp [hc, hr, hne]

/-- An answered call takes one call from the budget of the rules for it, unless it is spent. -/
theorem Call.perform_budget {c : Call} {a : Except Fault Answer}
    (h : c.perform s = .ok (a, s')) :
  FailureRule.budget c.op c.target s'.rules = FailureRule.budget c.op c.target s.rules - 1
  := by
  rw [(Call.perform_rules_eq h).1]
  cases hc : FailureRule.consume c.op c.target s.rules with
  | some rules =>
    have := FailureRule.budget_consume hc
    simp only [Option.getD_some]
    omega
  | none =>
    -- no rule fires, so the budget was spent already
    have hspent : ¬0 < FailureRule.budget c.op c.target s.rules := by
      rw [← FailureRule.consume_isSome_iff, hc]
      simp
    simp only [Option.getD_none]
    omega

/-- Along a run of calls of one operation on one queue, a call fails by a rule exactly while
the budget the rules held at the start lasts. -/
theorem Run.injected_iff {es : List Event} {op : Operation} {q : String} (hrun : Run s es s')
    (hes : ∀ e ∈ es, e.call.op = op ∧ e.call.target = q) (i : Nat) (hi : i < es.length) :
  es[i].answer = .error (injected op q) ↔ i < FailureRule.budget op q s.rules
  := by
  induction hrun generalizing i with
  | nil => simp at hi
  | @cons s s₁ s' e es hstep _ ih =>
    obtain ⟨rfl, rfl⟩ := hes e List.mem_cons_self
    -- the budget at the next call is the one left by this call
    have hb := Call.perform_budget hstep
    cases i with
    | zero => exact (Call.perform_rules_eq hstep).2
    | succ j =>
      rw [List.getElem_cons_succ,
        ih (fun e' he' => hes e' (.tail _ he')) j (by simpa using hi), hb]
      omega

/-- The store with the failure rules `rules` in place of its own. -/
def withRules (s : Store) (rules : List FailureRule) : Store :=
  { s with rules }

/-- An outcome of a call, with the failure rules of the store it leaves set to `rules`. -/
def restoreRules {α : Type} (rules : List FailureRule) (o : Except Fault α × Store) :
    Except Fault α × Store :=
  (o.1, o.2.withRules rules)

section WithRules

variable {s : Store} {rules : List FailureRule} {now : Instant} {name : String}

theorem createQueue_withRules {metadata : Option Metadata}
    (h : FailureRule.consume .createQueue name s.rules = none)
    (h' : FailureRule.consume .createQueue name rules = none) :
  (s.withRules rules).createQueue name metadata = restoreRules rules <$> s.createQueue name metadata
  := by
  obtain ⟨qs, ids, receipts, calls, rs, ps⟩ := s
  simp only at h
  simp only [withRules, createQueue, enter, h, h', exists?, find?]
  by_cases hq : (qs.lookup name).isSome = true <;>
    simp [hq, restoreRules, withRules, put, pure, Except.pure, Functor.map, Except.map]

theorem deleteQueue_withRules
    (h : FailureRule.consume .deleteQueue name s.rules = none)
    (h' : FailureRule.consume .deleteQueue name rules = none) :
  (s.withRules rules).deleteQueue name = restoreRules rules <$> s.deleteQueue name
  := by
  obtain ⟨qs, ids, receipts, calls, rs, ps⟩ := s
  simp only at h
  simp only [withRules, deleteQueue, enter, h, h', exists?, find?]
  by_cases hq : (qs.lookup name).isSome = true <;>
    simp [hq, restoreRules, withRules, erase, pure, Except.pure, Functor.map, Except.map]

theorem putMessage_withRules {text : String} {visibility ttl : Duration}
    (h : FailureRule.consume .putMessage name s.rules = none)
    (h' : FailureRule.consume .putMessage name rules = none) :
  (s.withRules rules).putMessage now name text visibility ttl =
    restoreRules rules <$> s.putMessage now name text visibility ttl
  := by
  obtain ⟨qs, ids, receipts, calls, rs, ps⟩ := s
  simp only at h
  simp only [withRules, putMessage, enter, h, h', nextId, nextReceipt, need, find?]
  cases qs.lookup name with
  | none => rfl
  | some q =>
    simp only
    cases now.plus visibility.storeSpan <;> cases now.plus ttl.storeSpan <;> rfl

theorem getMessages_withRules {visibility : Duration} {maxCount : Nat}
    (h : FailureRule.consume .getMessages name s.rules = none)
    (h' : FailureRule.consume .getMessages name rules = none) :
  (s.withRules rules).getMessages now name visibility maxCount =
    restoreRules rules <$> s.getMessages now name visibility maxCount
  := by
  obtain ⟨qs, ids, receipts, calls, rs, ps⟩ := s
  simp only at h
  simp only [withRules, getMessages, enter, h, h', need, find?]
  cases qs.lookup name with
  | none => rfl
  | some q =>
    simp only
    split
    · cases now.plus visibility.storeSpan <;> rfl
    · rfl

theorem deleteMessage_withRules {id receipt : String}
    (h : FailureRule.consume .deleteMessage name s.rules = none)
    (h' : FailureRule.consume .deleteMessage name rules = none) :
  (s.withRules rules).deleteMessage now name id receipt =
    restoreRules rules <$> s.deleteMessage now name id receipt
  := by
  obtain ⟨qs, ids, receipts, calls, rs, ps⟩ := s
  simp only at h
  simp only [withRules, deleteMessage, enter, h, h', need, find?]
  cases qs.lookup name with
  | none => rfl
  | some q =>
    simp only
    cases locate name id receipt (q.purge now).messages <;> rfl

theorem updateMessage_withRules {text id receipt : String} {visibility : Duration}
    (h : FailureRule.consume .updateMessage name s.rules = none)
    (h' : FailureRule.consume .updateMessage name rules = none) :
  (s.withRules rules).updateMessage now name text id receipt visibility =
    restoreRules rules <$> s.updateMessage now name text id receipt visibility
  := by
  obtain ⟨qs, ids, receipts, calls, rs, ps⟩ := s
  simp only at h
  simp only [withRules, updateMessage, enter, h, h', nextReceipt, need, find?]
  cases qs.lookup name with
  | none => rfl
  | some q =>
    simp only
    cases locate name id receipt (q.purge now).messages with
    | error => rfl
    | ok i =>
      simp only
      cases now.plus visibility.storeSpan <;> rfl

theorem getMetadata_withRules
    (h : FailureRule.consume .getMetadata name s.rules = none)
    (h' : FailureRule.consume .getMetadata name rules = none) :
  (s.withRules rules).getMetadata now name = restoreRules rules <$> s.getMetadata now name
  := by
  obtain ⟨qs, ids, receipts, calls, rs, ps⟩ := s
  simp only at h
  simp only [withRules, getMetadata, enter, h, h', need, find?]
  cases qs.lookup name <;> rfl

theorem setMetadata_withRules {metadata : Metadata}
    (h : FailureRule.consume .setMetadata name s.rules = none)
    (h' : FailureRule.consume .setMetadata name rules = none) :
  (s.withRules rules).setMetadata name metadata = restoreRules rules <$> s.setMetadata name metadata
  := by
  obtain ⟨qs, ids, receipts, calls, rs, ps⟩ := s
  simp only at h
  simp only [withRules, setMetadata, enter, h, h', need, find?]
  cases qs.lookup name <;> rfl

theorem listQueues_withRules {stem : String} {marker : Option String} {withMetadata : Bool}
    (h : FailureRule.consume .listQueues stem s.rules = none)
    (h' : FailureRule.consume .listQueues stem rules = none) :
  (s.withRules rules).listQueues stem marker withMetadata =
    restoreRules rules <$> s.listQueues stem marker withMetadata
  := by
  obtain ⟨qs, ids, receipts, calls, rs, ps⟩ := s
  simp only at h
  simp only [withRules, listQueues, enter, h, h']
  rfl

end WithRules

theorem answering_restoreRules {α : Type} (f : α → Answer) (rules : List FailureRule)
    (x : Except Halt (Except Fault α × Store)) :
  answering f <$> (restoreRules rules <$> x) = restoreRules rules <$> (answering f <$> x)
  := by
  cases x <;> rfl

/-- A call that no rule with calls left is for goes the same whatever the rules: the rules
are only looked at to let a call fail. -/
theorem Call.perform_withRules {c : Call} {s : Store} {rules : List FailureRule}
    (h : FailureRule.consume c.op c.target s.rules = none)
    (h' : FailureRule.consume c.op c.target rules = none) :
  c.perform (s.withRules rules) = restoreRules rules <$> c.perform s
  := by
  cases c with
  | createQueue n metadata =>
    simp only [Call.op, Call.target] at h h'
    rw [Call.perform, Call.perform, createQueue_withRules h h', answering_restoreRules]
  | deleteQueue n =>
    simp only [Call.op, Call.target] at h h'
    rw [Call.perform, Call.perform, deleteQueue_withRules h h', answering_restoreRules]
  | putMessage now n text visibility ttl =>
    simp only [Call.op, Call.target] at h h'
    rw [Call.perform, Call.perform, putMessage_withRules h h', answering_restoreRules]
  | getMessages now n visibility maxCount =>
    simp only [Call.op, Call.target] at h h'
    rw [Call.perform, Call.perform, getMessages_withRules h h', answering_restoreRules]
  | deleteMessage now n id receipt =>
    simp only [Call.op, Call.target] at h h'
    rw [Call.perform, Call.perform, deleteMessage_withRules h h', answering_restoreRules]
  | updateMessage now n text id receipt visibility =>
    simp only [Call.op, Call.target] at h h'
    rw [Call.perform, Call.perform, updateMessage_withRules h h', answering_restoreRules]
  | getMetadata now n =>
    simp only [Call.op, Call.target] at h h'
    rw [Call.perform, Call.perform, getMetadata_withRules h h', answering_restoreRules]
  | setMetadata n metadata =>
    simp only [Call.op, Call.target] at h h'
    rw [Call.perform, Call.perform, setMetadata_withRules h h', answering_restoreRules]
  | listQueues stem marker withMetadata =>
    simp only [Call.op, Call.target] at h h'
    rw [Call.perform, Call.perform, listQueues_withRules h h', answering_restoreRules]


/-! ### What a failed call leaves, and which calls fail -/

/-- A call that fails leaves every queue with its metadata and its unexpired messages as they
were; the rules let a call fail when a rule for it, the first added that has calls left,
gives up one call, so that calls of one operation on one queue fail exactly while the budget
of the rules for them lasts; and a call that no rule with calls left is for goes as it would
on the store without rules. -/
theorem failed_calls_change_nothing :
  (∀ (c : Call) (s s' : Store) (f : Fault), c.perform s = .ok (.error f, s') → Untouched c s s') ∧
    (∀ (c : Call) (s s' : Store) (a : Except Fault Answer), c.perform s = .ok (a, s') →
      s'.rules = (FailureRule.consume c.op c.target s.rules).getD s.rules ∧
      (a = .error (injected c.op c.target) ↔ 0 < FailureRule.budget c.op c.target s.rules)) ∧
    (∀ (op : Operation) (queue : String) (rules rules' : List FailureRule),
      FailureRule.consume op queue rules = some rules' ↔
        ∃ pre r post, rules = pre ++ r :: post ∧ (∀ x ∈ pre, x.appliesTo op queue = false) ∧
          r.appliesTo op queue = true ∧
          rules' = pre ++ { r with remaining := r.remaining - 1 } :: post) ∧
    (∀ (s s' : Store) (es : List Event) (op : Operation) (q : String), Run s es s' →
      (∀ e ∈ es, e.call.op = op ∧ e.call.target = q) → ∀ (i : Nat) (hi : i < es.length),
        (es[i].answer = .error (injected op q) ↔ i < FailureRule.budget op q s.rules)) ∧
    (∀ (c : Call) (s : Store), FailureRule.consume c.op c.target s.rules = none →
      c.perform s = restoreRules s.rules <$> c.perform (s.withRules []))
  := by
  refine ⟨fun c s s' f h => ?_, fun c s s' a h => Call.perform_rules_eq h,
    fun _ _ _ _ => FailureRule.consume_eq_some_iff,
    fun s s' es op q hrun hes i hi => Run.injected_iff hrun hes i hi, fun c s h => ?_⟩
  · rcases Call.perform_cases h with ⟨-, -, -, rfl⟩ | ⟨-, -, -, hu⟩
    · exact .of_find? (fun _ => find?_enter ..) (by simp)
    · exact hu f rfl
  · -- the store is its own rules put back on the store without rules
    have hs : (s.withRules []).withRules s.rules = s := rfl
    rw [← Call.perform_withRules (s := s.withRules []) rfl h, hs]

/-- A put on a store with no queue fails, and leaves the store untouched. -/
theorem failed_put_changes_nothing :
  ∃ s', (Call.putMessage .epoch "q" "x" ⟨0⟩ ⟨0⟩).perform (Store.empty 1) =
      .ok (.error (.queueNotFound "q"), s') ∧
    Untouched (.putMessage .epoch "q" "x" ⟨0⟩ ⟨0⟩) (Store.empty 1) s'
  := by
  refine ⟨_, rfl, ?_⟩
  exact failed_calls_change_nothing.1 _ _ _ _ rfl

end Store

end TaskQueue
