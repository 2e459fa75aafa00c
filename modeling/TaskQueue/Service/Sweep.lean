import TaskQueue.Service.Pending

/-!
# Sweeping unused pending queues

A sweep lists every queue whose name starts with `{stem}-`, page by page, with metadata.
A queue is stale when its metadata does not read as a pending queue's or its `last_used`
is more than ten days before the sweep's instant.  A queue stale by its listing is read
again, and deleted only when still stale and empty.  A failure with one queue is
reported and the sweep goes on; a failed listing ends the sweep.  The sweep answers how
many queues it deleted.  It follows the listing until a page has no next marker: the
store's pages are fewer than its queues plus one, and a gateway's listing is followed for
at most `2⁶⁴` pages (`pageBudget`).
-/

namespace TaskQueue

open Time

/-- The target of the sweep's log events. -/
def sweepTarget : String := "taskq_core::queue::gc"

/-- Queues unused for longer than this are swept. -/
def unusedMaxAge : Span := Span.ofDays 10

namespace Sweep

/-- Whether metadata marks a queue as unused since before `cutoff`. -/
def isStale (cutoff : Instant) (metadata : Metadata) : Bool :=
  match QueueMetadata.ofMetadata? metadata with
  | some m => decide (m.lastUsed < cutoff)
  | none => true

/-- Deletes a listed queue if it is stale and empty; answers whether it was deleted. -/
def deleteIfUnused (cutoff : Instant) (q : Listing) : Attempt Bool := do
  if let some listed := q.metadata then
    if !isStale cutoff listed then return false
  let props ← Attempt.ofRun (Run.getMetadata q.name)
  if !isStale cutoff props.metadata then return false
  if 0 < props.count then
    Run.log ⟨.debug, sweepTarget, "stale queue still holds messages",
      [("queue", q.name), ("count", toString props.count)]⟩
    return false
  match ← Attempt.lift (Run.deleteQueue q.name) with
  | .ok () =>
    Run.log ⟨.info, sweepTarget, "deleted unused worker queue", [("queue", q.name)]⟩
    return true
  | .error e => if e.kind = .queueNotFound then return false else throw e

/-- Goes through the queues of one page; answers how many it deleted. -/
def sweepPage (cutoff : Instant) : List Listing → Run Nat
  | [] => pure 0
  | q :: qs => do
    let here ← match ← (deleteIfUnused cutoff q).run with
      | .ok deleted => pure (if deleted then 1 else 0)
      | .error e =>
        Run.report ((e.withContext "queue" q.name).withContext "note"
          "failed to garbage collect queue")
        pure 0
    let rest ← sweepPage cutoff qs
    pure (here + rest)

/-- Goes through the pages from `marker` on, at most `fuel` of them. -/
def sweepPages (stem : String) (cutoff : Instant) : Nat → Option String → Attempt Nat
  | 0, _ => pure 0
  | fuel + 1, marker => do
    let page ← match ← Attempt.lift (Run.listQueues stem marker true) with
      | .ok page => pure page
      | .error e => throw (e.withContext "note" "failed to list queues")
    let here ← Attempt.lift (sweepPage cutoff page.queues)
    match page.nextMarker with
    | some next => pure (here + (← sweepPages stem cutoff fuel (some next)))
    | none => pure here

/-- The most pages a sweep follows: one more than the store's queues, or `2⁶⁴` pages of a
gateway's listing, which a service would follow for as long as it goes on. -/
def pageBudget (w : World) : Nat :=
  match w.link with
  | .store => w.store.queues.length + 1
  | .gateway _ _ => Nat.pow 2 64

/-- Deletes the pending queues unused for more than ten days before `now` that are empty;
answers how many it deleted. -/
def run (now : Instant) : Attempt Nat := do
  let w ← get
  let stem := shardPrefix w.settings.stem
  let cutoff ← Attempt.lift (Run.ofHalting (now.minus unusedMaxAge))
  let deleted ← sweepPages stem cutoff (pageBudget w) none
  Run.log ⟨.info, sweepTarget, "unused worker queue sweep finished",
    [("deleted", toString deleted), ("prefix", stem)]⟩
  pure deleted

end Sweep

end TaskQueue
