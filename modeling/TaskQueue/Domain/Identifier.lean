import TaskQueue.Error
import TaskQueue.Text.Blank

/-!
# Identifiers

Provisioner ids and worker types become parts of queue names, so both are identifiers:
one to 38 bytes of ASCII letters, digits, `_` and `-`.  `ProvisionerId` and `WorkerType`
carry the proof that their text is one, so every value of them is valid.  A `TaskId` is any
text; publishing a task asks it to be a token, non-empty and free of blank and control
characters (`TaskId.isToken`).
-/

namespace TaskQueue

/-- The characters of identifiers: ASCII letters and digits, `_` and `-`. -/
def isIdentifierChar (c : Char) : Bool :=
  c.isAlphanum || c == '_' || c == '-'

/-- One to 38 bytes of identifier characters. -/
def IsIdentifier (s : String) : Prop :=
  0 < s.utf8ByteSize ∧ s.utf8ByteSize ≤ 38 ∧ s.toList.all isIdentifierChar = true

instance (s : String) : Decidable (IsIdentifier s) := by
  unfold IsIdentifier; exact inferInstance

/-- The context key under which a kind of identifier is reported. -/
def identifierContextKey (kind : String) : String :=
  if kind = "provisionerId" then "provisioner_id"
  else if kind = "workerType" then "worker_type"
  else "identifier"

/-- The error for a text that is no identifier of the given kind. -/
def identifierError (kind value : String) : QueueError :=
  (QueueError.invalidIdentifier (kind ++ " must match [A-Za-z0-9_-]\x7b1,38\x7d")).withContext
    (identifierContextKey kind) value

/-- Accepts identifiers; names the kind in the error otherwise. -/
def validateIdentifier (kind value : String) : Except QueueError Unit :=
  if IsIdentifier value then .ok () else .error (identifierError kind value)

/-- A provisioner id: an identifier. -/
structure ProvisionerId where
  val : String
  valid : IsIdentifier val

/-- A worker type: an identifier. -/
structure WorkerType where
  val : String
  valid : IsIdentifier val

instance : DecidableEq ProvisionerId := fun a b =>
  if h : a.val = b.val then isTrue (by cases a; cases b; simp_all)
  else isFalse (by intro e; simp_all)

instance : DecidableEq WorkerType := fun a b =>
  if h : a.val = b.val then isTrue (by cases a; cases b; simp_all)
  else isFalse (by intro e; simp_all)

/-- Reads a provisioner id. -/
def ProvisionerId.parse (s : String) : Except QueueError ProvisionerId :=
  if h : IsIdentifier s then .ok ⟨s, h⟩ else .error (identifierError "provisionerId" s)

/-- Reads a worker type. -/
def WorkerType.parse (s : String) : Except QueueError WorkerType :=
  if h : IsIdentifier s then .ok ⟨s, h⟩ else .error (identifierError "workerType" s)

/-- A task id: any text. -/
structure TaskId where
  val : String
  deriving DecidableEq, Repr

/-- A token: non-empty, without blank or control characters. -/
def TaskId.isToken (t : TaskId) : Bool :=
  !t.val.isEmpty && t.val.toList.all fun c => !(Text.isBlank c || Text.isControl c)

end TaskQueue
