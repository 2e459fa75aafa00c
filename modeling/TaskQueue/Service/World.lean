import TaskQueue.Store.Calls
import TaskQueue.Gateway.Body
import TaskQueue.Settings
import TaskQueue.Error
import TaskQueue.Log
import TaskQueue.Ulid

/-!
# The world of a queue service

A `World` is everything a queue service acts on and remembers: the clock, the in-memory
store, where queue calls go (that store or an HTTP gateway, with how the gateway answers),
the settings, the hint ids issued so far, the service's caches (ready families, pending
counts, ready expiration queues), the count refreshes it spawned that have not ended, the
stop signal, and what it reported and logged.

`Run` computes in a world and may halt; `Attempt` may also fail with a `QueueError`.  The
nine store operations are `Run`s that answer with the operation's result or its fault as
a `QueueError`; through a gateway each is a request whose reply is checked and whose body
the operation reads.
-/

namespace TaskQueue

open Time

/-- Where the service's queue calls go: the in-memory store, or a gateway client and how
the gateway answers each request. -/
inductive Link where
  | store
  | gateway (g : Gateway) (exchange : Gateway.Request → Gateway.Reply)

/-- Where a service built from the settings sends its calls: the in-memory store, or a
gateway client for the endpoint, which no request reaches. -/
def Settings.link (s : Settings) : Except Fault Link :=
  match s.backend with
  | .memory => .ok .store
  | .http => (Gateway.connect s.endpoint s.accessToken).map (.gateway · Gateway.unreachable)

/-- A family: the provisioner id and worker type whose seven pending queues belong
together. -/
structure FamilyKey where
  provisionerId : ProvisionerId
  workerType : WorkerType
  deriving DecidableEq

/-- A remembered pending count and when it was last taken. -/
structure CountEntry where
  count : Nat
  updated : Instant
  deriving DecidableEq, Repr

/-- The three shared expiration queues. -/
inductive ExpirationKind where
  | claim
  | deadline
  | resolved
  deriving DecidableEq, Repr

/-- The name of an expiration kind. -/
def ExpirationKind.name : ExpirationKind → String
  | .claim => "claim"
  | .deadline => "deadline"
  | .resolved => "resolved"

/-- The stop signal: not given yet, given, or gone with the service that held it. -/
inductive Signal where
  | quiet
  | raised
  | closed
  deriving DecidableEq, Repr

/-- Everything a queue service acts on and remembers. -/
structure World where
  now : Instant
  store : Store
  link : Link
  settings : Settings
  issued : Nat
  families : List (FamilyKey × List String)
  counts : List (FamilyKey × CountEntry)
  spawned : List FamilyKey
  ready : List ExpirationKind
  signal : Signal
  reports : List QueueError
  logs : List LogEvent
  logReports : Bool

/-- A computation in a world that may halt. -/
abbrev Run := StateT World (Except Halt)

/-- A computation in a world that may halt or fail. -/
abbrev Attempt := ExceptT QueueError Run

namespace World

/-- A fresh world at an instant, its calls going to `link`. -/
def init (settings : Settings) (now : Instant) (store : Store) (link : Link) : World :=
  ⟨now, store, link, settings, 0, [], [], [], [], .quiet, [], [], false⟩

end World

namespace Run

/-- Halts the computation. -/
def halt {α : Type} (h : Halt) : Run α :=
  StateT.lift (.error h)

/-- A result that may halt. -/
def ofHalting {α : Type} (r : Except Halt α) : Run α :=
  StateT.lift r

/-- The current instant. -/
def now : Run Instant := do
  return (← get).now

/-- Adds an event to the log. -/
def log (e : LogEvent) : Run Unit :=
  modify fun w => { w with logs := w.logs ++ [e] }

/-- The log event of a reported error. -/
def reportEvent (e : QueueError) : LogEvent :=
  { level := .error, target := "taskq_core::impls::error_reporter", message := e.message,
    fields := [("kind", e.kind.name),
      LogEvent.quotedField "queue" ((e.contextValue? "queue").getD ""),
      LogEvent.quotedField "note" ((e.contextValue? "note").getD ""),
      ("context", " ".intercalate (e.context.map fun (k, v) => k ++ "=" ++ v))] }

/-- Reports an error. -/
def report (e : QueueError) : Run Unit :=
  modify fun w => { w with
    reports := w.reports ++ [e],
    logs := if w.logReports then w.logs ++ [reportEvent e] else w.logs }

/-- One call of the queue store: in memory, or as `request` to the gateway, the body of a
success read by `read`. -/
def perform {α : Type} (inMemory : Store → Instant → Except Halt (Except Fault α × Store))
    (request : Gateway.Request) (read : String → Except Fault α) : Run (Except QueueError α) := do
  let w ← get
  match w.link with
  | .store =>
    let (r, s) ← ofHalting (inMemory w.store w.now)
    set { w with store := s }
    pure (r.mapError QueueError.ofFault)
  | .gateway g exchange =>
    pure ((g.call request (exchange request) read).mapError QueueError.ofFault)

/-- Creates a queue. -/
def createQueue (name : String) (metadata : Option Metadata) : Run (Except QueueError Unit) :=
  perform (fun s _ => s.createQueue name metadata) (.createQueue name) fun _ => .ok ()

/-- Deletes a queue. -/
def deleteQueue (name : String) : Run (Except QueueError Unit) :=
  perform (fun s _ => s.deleteQueue name) (.deleteQueue name) fun _ => .ok ()

/-- Puts a message. -/
def putMessage (name text : String) (visibility ttl : Duration) : Run (Except QueueError Unit) :=
  perform (fun s now => s.putMessage now name text visibility ttl) (.putMessage name)
    fun _ => .ok ()

/-- Gets and leases messages. -/
def getMessages (name : String) (visibility : Duration) (maxCount : Nat) :
    Run (Except QueueError (List RawMessage)) :=
  perform (fun s now => s.getMessages now name visibility maxCount)
    (.getMessages name visibility.seconds maxCount) (Gateway.readBody Gateway.messages?)

/-- Deletes a message. -/
def deleteMessage (name id receipt : String) : Run (Except QueueError Unit) :=
  perform (fun s now => s.deleteMessage now name id receipt)
    (.deleteMessage name id receipt) fun _ => .ok ()

/-- Updates a message; answers its new receipt. -/
def updateMessage (name text id receipt : String) (visibility : Duration) :
    Run (Except QueueError String) :=
  perform (fun s now => s.updateMessage now name text id receipt visibility)
    (.updateMessage name id receipt visibility.seconds) (Gateway.readBody Gateway.receipt?)

/-- The properties of a queue. -/
def getMetadata (name : String) : Run (Except QueueError QueueProperties) :=
  perform (fun s now => s.getMetadata now name) (.getMetadata name)
    (Gateway.readBody Gateway.properties?)

/-- Replaces the metadata of a queue. -/
def setMetadata (name : String) (metadata : Metadata) : Run (Except QueueError Unit) :=
  perform (fun s _ => s.setMetadata name metadata) (.setMetadata name) fun _ => .ok ()

/-- One page of a listing. -/
def listQueues (stem : String) (marker : Option String) (withMetadata : Bool) :
    Run (Except QueueError ListPage) :=
  perform (fun s _ => s.listQueues stem marker withMetadata)
    (.listQueues stem marker withMetadata) (Gateway.readBody Gateway.page?)

end Run

namespace Attempt

/-- A `Run` whose answer may be an error, as an attempt. -/
def ofRun {α : Type} (r : Run (Except QueueError α)) : Attempt α :=
  ExceptT.mk r

/-- A `Run` inside an attempt, its answer kept as it is (an error in it does not end the
attempt). -/
def lift {α : Type} (r : Run α) : Attempt α :=
  ExceptT.lift r

/-- A result that may be an error, as an attempt. -/
def ofExcept {α : Type} (r : Except QueueError α) : Attempt α :=
  ExceptT.mk (pure r)

end Attempt

end TaskQueue
