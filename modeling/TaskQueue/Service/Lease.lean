import TaskQueue.Service.World

/-!
# Leases

A polled message is held by the pop receipt it was leased with.  Removing it deletes the
message; releasing it makes the message visible again at once, with its text unchanged.
Either needs the receipt to still be current.  A failure names the queue, the message and
the operation; a stale receipt (an assertion violation) is also logged and reported.
-/

namespace TaskQueue

open Time

/-- The target of lease log events. -/
def leaseTarget : String := "taskq_core::queue::lease"

/-- A leased message: its queue and the message with the receipt it was leased with. -/
structure Lease where
  queue : String
  message : RawMessage
  deriving DecidableEq, Repr

namespace Lease

/-- The result of an operation on a leased message, its error named and, for a stale
receipt, reported. -/
def finish (l : Lease) (operation : String) (r : Except QueueError Unit) : Attempt Unit :=
  match r with
  | .ok () => pure ()
  | .error e => do
    let e := ((e.withContext "queue" l.queue).withContext "message_id" l.message.id).withContext
      "operation" operation
    if e.kind = .assertionViolation then
      Run.log ⟨.error, leaseTarget, "pop receipt no longer valid",
        [("queue", l.queue), ("message_id", l.message.id),
          LogEvent.quotedField "operation" operation]⟩
      Run.report e
    throw e

/-- Deletes the leased message. -/
def remove (l : Lease) : Attempt Unit := do
  finish l "delete_message"
    (← Attempt.lift (Run.deleteMessage l.queue l.message.id l.message.receipt))

/-- Makes the leased message visible again at once. -/
def release (l : Lease) : Attempt Unit := do
  let r ← Attempt.lift
    (Run.updateMessage l.queue l.message.text l.message.id l.message.receipt (.ofSeconds 0))
  finish l "update_message" (r.map fun _ => ())

end Lease

end TaskQueue
