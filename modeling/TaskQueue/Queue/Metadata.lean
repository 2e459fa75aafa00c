import TaskQueue.Time.Rfc3339
import TaskQueue.Domain.Identifier

/-!
# Queue metadata

Queues carry metadata: string keys in increasing order, each once.  A pending queue's
metadata says which provisioner id and worker type it serves and when a family ensure last
touched it (`last_used`, written with `+00:00`).  `QueueMetadata.ofMetadata?` reads the
three keys back, ignoring any others, and refuses metadata where one is missing or the
time is not RFC 3339.
-/

namespace TaskQueue

open Time

/-- String pairs with increasing, distinct keys. -/
abbrev Metadata := List (String × String)

namespace Metadata

/-- Sets a key, keeping keys in increasing order. -/
def insert : Metadata → String → String → Metadata
  | [], k, v => [(k, v)]
  | (k', v') :: rest, k, v =>
    if k < k' then (k, v) :: (k', v') :: rest
    else if k = k' then (k, v) :: rest
    else (k', v') :: insert rest k v

/-- The metadata of a list of pairs, a later pair winning over an earlier one. -/
def ofList (kvs : List (String × String)) : Metadata :=
  kvs.foldl (fun m (k, v) => insert m k v) []

/-- The value of a key. -/
def get? (m : Metadata) (k : String) : Option String :=
  (m.find? (·.1 == k)).map (·.2)

end Metadata

/-- What the metadata of a pending queue records. -/
structure QueueMetadata where
  provisionerId : String
  workerType : String
  lastUsed : Instant
  deriving DecidableEq, Repr

namespace QueueMetadata

/-- The metadata of a pending queue. -/
def toMetadata (m : QueueMetadata) : Metadata :=
  [("last_used", m.lastUsed.toOffsetText), ("provisioner_id", m.provisionerId),
    ("worker_type", m.workerType)]

/-- Reads the metadata of a pending queue. -/
def ofMetadata? (m : Metadata) : Option QueueMetadata := do
  let p ← m.get? "provisioner_id"
  let w ← m.get? "worker_type"
  let t ← (m.get? "last_used").bind parseStrict
  some ⟨p, w, t⟩

/-- Whether the metadata names this provisioner id and worker type. -/
def describes (m : QueueMetadata) (p : ProvisionerId) (w : WorkerType) : Bool :=
  m.provisionerId == p.val && m.workerType == w.val

end QueueMetadata

end TaskQueue
