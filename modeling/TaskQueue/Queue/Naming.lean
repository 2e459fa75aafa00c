import TaskQueue.Domain.Identifier
import TaskQueue.Domain.Priority
import TaskQueue.Encoding.Sha256
import TaskQueue.Encoding.Base32

/-!
# Queue names

Each (provisioner id, worker type, priority) has its own queue, a shard of the family of
seven queues of that provisioner id and worker type.  Its name is
`{stem}-{hash p}-{hash w}-{tag}`: the stem that all pending queues share, the digests of
the two identifiers, and the priority's tag.  `hashIdentifier` is the lowercase base32 of
the first 15 bytes of the SHA-256 digest of the identifier's UTF-8 bytes: 24 characters.

The queue service accepts names of 3 to 63 characters of `[a-z0-9-]` that start with a
letter or digit, do not end with `-` and have no `--` (`validateQueueName`).  A stem has 1
to 6 characters of `[a-z0-9-]` and starts with a letter or digit (`validateStem`).
-/

namespace TaskQueue

/-- The 24-character digest of an identifier in queue names. -/
def hashIdentifier (s : String) : String :=
  String.ofList (Base32.encode ((Sha256.digest s.toUTF8.toList).take 15))

/-- The name of the queue of a priority in the family of `p` and `w` under `stem`. -/
def shardName (stem : String) (p : ProvisionerId) (w : WorkerType) (r : Priority) : String :=
  stem ++ "-" ++ hashIdentifier p.val ++ "-" ++ hashIdentifier w.val ++ "-" ++ r.tag.toString

/-- What the names of all pending queues under a stem start with. -/
def shardPrefix (stem : String) : String :=
  stem ++ "-"

/-- The seven queue names of a family, highest priority first. -/
def familyNames (stem : String) (p : ProvisionerId) (w : WorkerType) : List String :=
  Priority.all.map (shardName stem p w)

/-- Lowercase ASCII letters and digits. -/
def isLowerAlnum (c : Char) : Bool :=
  c.isLower || c.isDigit

/-- Characters of queue names. -/
def isNameChar (c : Char) : Bool :=
  isLowerAlnum c || c == '-'

/-- Whether a text is a stem: 1 to 6 bytes of `[a-z0-9-]`, a letter or digit first. -/
def isStem (s : String) : Bool :=
  0 < s.utf8ByteSize && s.utf8ByteSize ≤ 6 && (s.toList.head?.map isLowerAlnum).getD false &&
    s.toList.all isNameChar

/-- Accepts stems. -/
def validateStem (s : String) : Except QueueError Unit :=
  if isStem s then .ok ()
  else .error ((QueueError.validation
    "queue prefix must be 1-6 chars of [a-z0-9-] starting with a letter or digit").withContext
      "prefix" s)

/-- Whether a list of characters has two hyphens in a row. -/
def hasDoubleHyphen : List Char → Bool
  | '-' :: '-' :: _ => true
  | _ :: rest => hasDoubleHyphen rest
  | [] => false

/-- Whether a text is a queue name the service accepts. -/
def isQueueName (s : String) : Bool :=
  3 ≤ s.utf8ByteSize && s.utf8ByteSize ≤ 63 && (s.toList.head?.map isLowerAlnum).getD false &&
    s.toList.getLast? != some '-' && !hasDoubleHyphen s.toList && s.toList.all isNameChar

/-- Accepts queue names. -/
def validateQueueName (s : String) : Except QueueError Unit :=
  if isQueueName s then .ok ()
  else .error ((QueueError.validation "invalid queue name").withContext "queue" s)

end TaskQueue
