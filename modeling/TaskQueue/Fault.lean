/-!
# Faults of the queue service

A `Fault` is why one call to the underlying queue service failed: a missing or existing
queue, a missing message or a stale pop receipt, an unexpected status, a failed or slow
exchange, an unreadable answer, or an endpoint that cannot be used.  `Fault.message` is
its text.  `Fault.isNotFound` holds for a missing queue and for a bare status 404.
-/

namespace TaskQueue

/-- Why one call to the queue service failed. -/
inductive Fault where
  | queueNotFound (queue : String)
  | queueAlreadyExists (queue : String)
  | messageNotFound (queue messageId : String)
  | popReceiptMismatch (queue messageId : String)
  | status (code : Nat) (label : Option String) (body : String)
  | transport (text : String)
  | timeout
  | invalidResponse (text : String)
  | invalidEndpoint (text : String)
  deriving DecidableEq, Repr

namespace Fault

/-- The text of a fault. -/
def message : Fault → String
  | queueNotFound q => s!"queue {q} does not exist"
  | queueAlreadyExists q => s!"queue {q} already exists"
  | messageNotFound q m => s!"message {m} not found in queue {q}"
  | popReceiptMismatch q m => s!"pop receipt mismatch for message {m} in queue {q}"
  | status code _ body => s!"queue service responded with status {code}: {body}"
  | transport t => s!"transport error: {t}"
  | timeout => "request timed out"
  | invalidResponse t => s!"invalid response: {t}"
  | invalidEndpoint t => s!"invalid queue endpoint: {t}"

/-- A missing queue, named or as a bare status 404. -/
def isNotFound : Fault → Bool
  | queueNotFound _ => true
  | status 404 _ _ => true
  | _ => false

/-- The queue a fault names, if any. -/
def queue? : Fault → Option String
  | queueNotFound q => some q
  | queueAlreadyExists q => some q
  | messageNotFound q _ => some q
  | popReceiptMismatch q _ => some q
  | _ => none

end Fault

end TaskQueue
