import TaskQueue.Store.Basic

/-!
# Calls on the in-memory store

The nine operations of a queue store, each a function of the store and the current
instant.  Every call is first counted and may then fail by an injected rule; after that:

* `putMessage` draws a message id and a pop receipt, then needs the queue;
* `updateMessage` draws a pop receipt, then needs the queue;
* `putMessage`, `getMessages`, `deleteMessage`, `updateMessage` and `getMetadata` drop
  the queue's expired messages (those whose expiry is not after now) before they act;
* `getMessages` leases up to `maxCount` visible messages (clamped to 1..32) in order,
  each with a fresh pop receipt;
* deleting or updating a message needs its current pop receipt;
* `listQueues` lists names after the marker that start with the stem, a page at a time.

A call answers `.error` with the fault, or `.ok`; the store after the call comes with
either.  Moving an instant past the end of the calendar halts.
-/

namespace TaskQueue

open Time

namespace Store

/-- The queue of a name, or the fault that it does not exist. -/
def need (s : Store) (name : String) : Except Fault StoredQueue :=
  match s.find? name with
  | some q => .ok q
  | none => .error (.queueNotFound name)

/-- Creates a queue with its metadata (none for empty). -/
def createQueue (s : Store) (name : String) (metadata : Option Metadata) :
    Except Halt (Except Fault Unit × Store) :=
  match s.enter .createQueue name with
  | (.error f, s) => pure (.error f, s)
  | (.ok (), s) =>
    if s.exists? name then pure (.error (.queueAlreadyExists name), s)
    else pure (.ok (), s.put name ⟨metadata.getD [], []⟩)

/-- Deletes a queue with its messages. -/
def deleteQueue (s : Store) (name : String) : Except Halt (Except Fault Unit × Store) :=
  match s.enter .deleteQueue name with
  | (.error f, s) => pure (.error f, s)
  | (.ok (), s) =>
    if s.exists? name then pure (.ok (), s.erase name)
    else pure (.error (.queueNotFound name), s)

/-- Puts a message, visible after `visibility` and expiring after `ttl`. -/
def putMessage (s : Store) (now : Instant) (name text : String) (visibility ttl : Duration) :
    Except Halt (Except Fault Unit × Store) :=
  match s.enter .putMessage name with
  | (.error f, s) => pure (.error f, s)
  | (.ok (), s) =>
    let (id, s) := s.nextId
    let (receipt, s) := s.nextReceipt
    match s.need name with
    | .error f => pure (.error f, s)
    | .ok q => do
      let q := q.purge now
      let visibleAt ← now.plus visibility.storeSpan
      let expiresAt ← now.plus ttl.storeSpan
      let m : StoredMessage := ⟨id, receipt, text, visibleAt, expiresAt⟩
      pure (.ok (), s.put name { q with messages := q.messages ++ [m] })

/-- Leases the visible messages among `ms`, at most `left` of them, each with the next
receipt; gives the messages after, the leased ones, and the receipts drawn. -/
def leaseAll (now leaseEnd : Instant) (issued : Nat) :
    List StoredMessage → Nat → List StoredMessage × List RawMessage × Nat
  | [], _ => ([], [], issued)
  | m :: ms, left =>
    if 0 < left && m.isVisible now then
      let m' := { m with receipt := "receipt-" ++ toString (issued + 1), visibleAt := leaseEnd }
      let (rest, got, n) := leaseAll now leaseEnd (issued + 1) ms (left - 1)
      (m' :: rest, m'.raw :: got, n)
    else
      let (rest, got, n) := leaseAll now leaseEnd issued ms left
      (m :: rest, got, n)

/-- Gets up to `maxCount` visible messages (clamped to 1..32), leasing each for
`visibility`. -/
def getMessages (s : Store) (now : Instant) (name : String) (visibility : Duration)
    (maxCount : Nat) : Except Halt (Except Fault (List RawMessage) × Store) :=
  let count := min (max maxCount 1) maxMessagesPerGet
  match s.enter .getMessages name with
  | (.error f, s) => pure (.error f, s)
  | (.ok (), s) =>
    match s.need name with
    | .error f => pure (.error f, s)
    | .ok q => do
      let q := q.purge now
      if q.messages.any (·.isVisible now) then
        let leaseEnd ← now.plus visibility.storeSpan
        let (messages, got, issued) := leaseAll now leaseEnd s.issuedReceipts q.messages count
        pure (.ok got, { s.put name { q with messages } with issuedReceipts := issued })
      else pure (.ok [], s.put name q)

/-- The position of a message with its current receipt, or why there is none. -/
def locate (name id receipt : String) (ms : List StoredMessage) : Except Fault Nat :=
  match ms.findIdx? (·.id == id) with
  | none => .error (.messageNotFound name id)
  | some i =>
    if (ms[i]?.map (·.receipt)) == some receipt then .ok i
    else .error (.popReceiptMismatch name id)

/-- Deletes a message given its current pop receipt. -/
def deleteMessage (s : Store) (now : Instant) (name id receipt : String) :
    Except Halt (Except Fault Unit × Store) :=
  match s.enter .deleteMessage name with
  | (.error f, s) => pure (.error f, s)
  | (.ok (), s) =>
    match s.need name with
    | .error f => pure (.error f, s)
    | .ok q =>
      let q := q.purge now
      let s := s.put name q
      match locate name id receipt q.messages with
      | .error f => pure (.error f, s)
      | .ok i => pure (.ok (), s.put name { q with messages := q.messages.eraseIdx i })

/-- Replaces a message's text and makes it visible after `visibility`, given its current
pop receipt; answers the new receipt. -/
def updateMessage (s : Store) (now : Instant) (name text id receipt : String)
    (visibility : Duration) : Except Halt (Except Fault String × Store) :=
  match s.enter .updateMessage name with
  | (.error f, s) => pure (.error f, s)
  | (.ok (), s) =>
    let (fresh, s) := s.nextReceipt
    match s.need name with
    | .error f => pure (.error f, s)
    | .ok q =>
      let q := q.purge now
      let s := s.put name q
      match locate name id receipt q.messages with
      | .error f => pure (.error f, s)
      | .ok i => do
        let visibleAt ← now.plus visibility.storeSpan
        let messages := q.messages.modify i fun m => { m with text, visibleAt, receipt := fresh }
        pure (.ok fresh, s.put name { q with messages })

/-- The metadata of a queue and how many unexpired messages it holds. -/
def getMetadata (s : Store) (now : Instant) (name : String) :
    Except Halt (Except Fault QueueProperties × Store) :=
  match s.enter .getMetadata name with
  | (.error f, s) => pure (.error f, s)
  | (.ok (), s) =>
    match s.need name with
    | .error f => pure (.error f, s)
    | .ok q =>
      let q := q.purge now
      pure (.ok ⟨q.metadata, q.messages.length⟩, s.put name q)

/-- Replaces the metadata of a queue. -/
def setMetadata (s : Store) (name : String) (metadata : Metadata) :
    Except Halt (Except Fault Unit × Store) :=
  match s.enter .setMetadata name with
  | (.error f, s) => pure (.error f, s)
  | (.ok (), s) =>
    match s.need name with
    | .error f => pure (.error f, s)
    | .ok q => pure (.ok (), s.put name { q with metadata })

/-- One page of the queues whose names start with `stem` and come after `marker`. -/
def listQueues (s : Store) (stem : String) (marker : Option String) (withMetadata : Bool) :
    Except Halt (Except Fault ListPage × Store) :=
  match s.enter .listQueues stem with
  | (.error f, s) => pure (.error f, s)
  | (.ok (), s) =>
    let after := s.queues.filter fun (n, _) => marker.all (· < n) && n.startsWith stem
    let listed := (after.take s.pageSize).map fun (n, q) =>
      (⟨n, if withMetadata then some q.metadata else none⟩ : Listing)
    let next := if s.pageSize < after.length then (listed.getLast?.map (·.name)) else none
    pure (.ok ⟨listed, next⟩, s)

end Store

end TaskQueue
