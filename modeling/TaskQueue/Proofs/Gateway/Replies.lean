import TaskQueue.Gateway
import TaskQueue.Error
import TaskQueue.Proofs.Codec
import Mathlib

/-!
# How replies are classified

A reply to a request is classified in two stages.  The client turns it into a fault
(`Gateway.answer`): a conflict answering a queue creation is an existing queue, the four
known error codes name faults of their own, carrying the request's queue and message id,
and every other failed reply is a bare status with the body's code and text.  The queue
layer then gives the fault a kind (`QueueError.kindOfFault`), where a bare `404` counts as
a missing queue.

Along both stages a missing message is never taken for a missing queue: the kind of a
reply is a missing queue exactly when its code says so, or when no known code is present
and the status is `404` (`reply_classification`).  The error code is read as a record
with one optional field: an object's single `code` member, as a gateway writes it
(`errorCode_render_obj`), but also the one item of an array, which names a fault though
the body has no `code` member (`array_body_names_message_not_found`).
-/

namespace TaskQueue

theorem QueueError.kind_ofFault (f : Fault) :
  (QueueError.ofFault f).kind = QueueError.kindOfFault f
  := by
  unfold QueueError.ofFault
  split <;> rfl

namespace Gateway

/-- The error codes that name a fault of their own. -/
def knownCodes : List String :=
  ["QueueNotFound", "QueueAlreadyExists", "MessageNotFound", "PopReceiptMismatch"]

/-- Whether a request creates a queue, so that a conflict answering it names an existing
queue whatever the body. -/
def Request.isCreation : Request → Bool
  | .createQueue _ => true
  | _ => false

/-! ### The error code of a body -/

/-- A body written as a flat object with one `code` member, as a gateway writes its
errors, is read as that code, whatever other members it has. -/
theorem errorCode_render_obj {ms : List (String × Json)} (hms : ∀ m ∈ ms, Json.Scalar m.2)
    {code : String} (hone : Json.keyCount ms "code" = 1)
    (hcode : Json.lookup ms "code" = some (.str code)) :
  errorCode (Json.obj ms).render = some code
  := by
  rw [errorCode, bytes_toList, Json.parse_render_obj hms]
  simp [hone, hcode, Json.string?]

/-! ### The fault of a reply -/

/-- What a failure can be: the fault a known code names, or a bare status with the body's
code when that code is none of them. -/
theorem failure_cases (status : Nat) (body queue messageId : String) :
  (errorCode body = some "QueueNotFound" ∧
      failure status body queue messageId = .queueNotFound queue) ∨
    (errorCode body = some "QueueAlreadyExists" ∧
      failure status body queue messageId = .queueAlreadyExists queue) ∨
    (errorCode body = some "MessageNotFound" ∧
      failure status body queue messageId = .messageNotFound queue messageId) ∨
    (errorCode body = some "PopReceiptMismatch" ∧
      failure status body queue messageId = .popReceiptMismatch queue messageId) ∨
    (errorCode body ∉ knownCodes.map some ∧
      failure status body queue messageId = .status status (errorCode body) body)
  := by
  unfold failure
  split
  next h => exact .inl ⟨h, rfl⟩
  next h => exact .inr (.inl ⟨h, rfl⟩)
  next h => exact .inr (.inr (.inl ⟨h, rfl⟩))
  next h => exact .inr (.inr (.inr (.inl ⟨h, rfl⟩)))
  next code h₁ h₂ h₃ h₄ =>
    refine .inr (.inr (.inr (.inr ⟨?_, rfl⟩)))
    simp only [knownCodes, List.map_cons, List.map_nil, List.mem_cons, List.not_mem_nil,
      or_false, not_or]
    exact ⟨h₁, h₂, h₃, h₄⟩

theorem answer_eq_ok_iff (r : Request) (status : Nat) (body : String) :
  answer r status body = .ok () ↔ isSuccess status = true
  := by
  unfold answer check
  cases r <;> simp only
  case createQueue q =>
    by_cases h409 : status = 409
    · simp [h409, isSuccess]
    · simp only [h409, if_false]
      split <;> simp_all
  all_goals split <;> simp_all

/-- A conflict answering a queue creation is an existing queue. -/
theorem answer_of_conflict {r : Request} (hr : r.isCreation = true) (body : String) :
  answer r 409 body = .error (.queueAlreadyExists r.queue)
  := by
  cases r <;> simp_all [Request.isCreation, answer, Request.queue]

/-- Every other reply that is not a success is its failure, with the request's queue and
message id. -/
theorem answer_of_not_conflict {r : Request} {status : Nat} {body : String}
    (hc : ¬(r.isCreation = true ∧ status = 409)) (hs : isSuccess status = false) :
  answer r status body = .error (failure status body r.queue r.messageId)
  := by
  have hcheck : check status body r.queue r.messageId =
      .error (failure status body r.queue r.messageId) := by
    simp [check, hs]
  cases r with
  | createQueue q =>
    have h409 : status ≠ 409 := fun h => hc ⟨rfl, h⟩
    simpa [answer, h409, Request.queue, Request.messageId] using hcheck
  | _ => exact hcheck

/-! ### Kinds -/

theorem kindOfFault_status (status : Nat) (code : Option String) (body : String) :
  QueueError.kindOfFault (.status status code body) =
    if status = 404 then .queueNotFound else .transient
  := by
  by_cases h : status = 404
  · subst h
    rfl
  · simp [QueueError.kindOfFault, Fault.isNotFound, h]

/-- Classification of failed replies: a reply is a success exactly when its status is
one; a failed reply's fault is an existing queue for a conflict answering a queue
creation, and otherwise the fault its known code names, with the request's queue (the
stem, for a listing) and message id, or else a bare status with the body's code and text.
Its kind is a missing queue exactly when the code says so or no known code is present and
the status is `404`, a violated assertion exactly for a stale receipt, an existing queue
exactly for that code or a conflict answering a creation, and transient otherwise. -/
theorem reply_classification (r : Request) (status : Nat) (body : String) :
  (answer r status body = .ok () ↔ isSuccess status = true) ∧
    ∀ f, answer r status body = .error f →
      (r.isCreation = true ∧ status = 409 → f = .queueAlreadyExists r.queue) ∧
      (¬(r.isCreation = true ∧ status = 409) →
        (errorCode body = some "QueueNotFound" → f = .queueNotFound r.queue) ∧
        (errorCode body = some "QueueAlreadyExists" → f = .queueAlreadyExists r.queue) ∧
        (errorCode body = some "MessageNotFound" → f = .messageNotFound r.queue r.messageId) ∧
        (errorCode body = some "PopReceiptMismatch" →
          f = .popReceiptMismatch r.queue r.messageId) ∧
        (errorCode body ∉ knownCodes.map some → f = .status status (errorCode body) body)) ∧
      ((QueueError.ofFault f).kind = .queueNotFound ↔
        ¬(r.isCreation = true ∧ status = 409) ∧
          (errorCode body = some "QueueNotFound" ∨
            errorCode body ∉ knownCodes.map some ∧ status = 404)) ∧
      ((QueueError.ofFault f).kind = .assertionViolation ↔
        ¬(r.isCreation = true ∧ status = 409) ∧ errorCode body = some "PopReceiptMismatch") ∧
      ((QueueError.ofFault f).kind = .queueAlreadyExists ↔
        r.isCreation = true ∧ status = 409 ∨ errorCode body = some "QueueAlreadyExists") ∧
      ((QueueError.ofFault f).kind = .transient ↔
        ¬(r.isCreation = true ∧ status = 409) ∧
          (errorCode body = some "MessageNotFound" ∨
            errorCode body ∉ knownCodes.map some ∧ status ≠ 404))
  := by
  refine ⟨answer_eq_ok_iff r status body, ?_⟩
  intro f hf
  have hs : isSuccess status = false := by
    cases h : isSuccess status
    · rfl
    · rw [(answer_eq_ok_iff r status body).2 h] at hf
      cases hf
  by_cases hc : r.isCreation = true ∧ status = 409
  · -- a conflict answering a creation: the body is not read
    obtain ⟨hcr, h409⟩ := hc
    subst h409
    rw [answer_of_conflict hcr] at hf
    cases hf
    simp [QueueError.kind_ofFault, QueueError.kindOfFault, Fault.isNotFound, hcr]
  · rw [answer_of_not_conflict hc hs] at hf
    cases hf
    simp only [hc, not_false_eq_true, true_and, false_or, IsEmpty.forall_iff,
      QueueError.kind_ofFault]
    -- the code decides the fault, and the fault its kind
    rcases failure_cases status body r.queue r.messageId with
      ⟨hcode, hfail⟩ | ⟨hcode, hfail⟩ | ⟨hcode, hfail⟩ | ⟨hcode, hfail⟩ | ⟨hcode, hfail⟩
    case inr.inr.inr.inr =>
      -- no known code: a bare status, a missing queue exactly at `404`
      have hnot := hcode
      simp only [knownCodes, List.map_cons, List.map_nil, List.mem_cons, List.not_mem_nil,
        or_false, not_or] at hnot
      rw [hfail]
      by_cases h404 : status = 404 <;> simp [hcode, hnot, h404, kindOfFault_status]
    all_goals simp [hfail, hcode, knownCodes, QueueError.kindOfFault, Fault.isNotFound]

/-- A `404` that a gateway writes for a missing message, answering a delete of `m1` in `q1`,
is that missing message, of transient kind: not a missing queue. -/
theorem missing_message_reply_is_transient :
  answer (.deleteMessage "q1" "m1" "r1") 404 (Json.obj [("code", .str "MessageNotFound")]).render =
      .error (.messageNotFound "q1" "m1") ∧
    (QueueError.ofFault (.messageNotFound "q1" "m1")).kind = .transient
  := by
  have hcode : errorCode (Json.obj [("code", .str "MessageNotFound")]).render =
      some "MessageNotFound" :=
    errorCode_render_obj (fun m hm => by rw [List.mem_singleton.1 hm]; exact .str _) rfl rfl
  have hnc : ¬((Request.deleteMessage "q1" "m1" "r1").isCreation = true ∧ 404 = 409) := by
    simp [Request.isCreation]
  obtain ⟨hok, herr⟩ := reply_classification (.deleteMessage "q1" "m1" "r1") 404
    (Json.obj [("code", .str "MessageNotFound")]).render
  cases h : answer (.deleteMessage "q1" "m1" "r1") 404
      (Json.obj [("code", .str "MessageNotFound")]).render with
  | ok u => exact absurd (hok.1 h) (by decide)
  | error f =>
    obtain ⟨-, hcodes, -, -, -, hkind⟩ := herr f h
    -- the code names the missing message, with the request's queue and message id
    obtain rfl : f = .messageNotFound "q1" "m1" := (hcodes hnc).2.2.1 hcode
    exact ⟨rfl, hkind.2 ⟨hnc, .inl hcode⟩⟩

/-- A body that is an array of one code names a fault too, though it has no `code`
member: a `404` whose body is `["MessageNotFound"]` is a missing message, whose kind is
transient, and not a bare status counted as a missing queue. -/
theorem array_body_names_message_not_found :
  answer (.getMetadata "q1") 404 "[\"MessageNotFound\"]" = .error (.messageNotFound "q1" "") ∧
    (QueueError.ofFault (.messageNotFound "q1" "")).kind = .transient
  := by
  have hcode : errorCode "[\"MessageNotFound\"]" = some "MessageNotFound" := by
    rw [errorCode, bytes_toList]
    decide +kernel
  refine ⟨?_, rfl⟩
  simp [answer, check, Gateway.failure, hcode, isSuccess, Request.queue, Request.messageId]

end Gateway

end TaskQueue
