import TaskQueue.Session.Step

/-!
# Sessions

A session holds the world of the service it drives, the service's background loops, how
far the service's life has gone, whether the loops' clock is virtual, the live handles,
and the messages of the last direct get.

`Session.step` performs one step: it starts the step's report list afresh, performs the
step, and lets running loops end when the stop signal was given or the service is gone.
A step that halts ends the session.
-/

namespace TaskQueue

open Time

/-- How far the service's life has gone: running, stopped by a shutdown that waited for
its loops, or dropped without one. -/
inductive Life where
  | running
  | stopped
  | dropped
  deriving DecidableEq, Repr

/-- A session driving one queue service. -/
structure Session where
  world : World
  loops : Background
  life : Life
  virtualTime : Bool
  handles : List (Nat × Held)
  issuedHandles : Nat
  lastGet : List RawMessage

namespace Session

/-- A session at `now` over an empty store listing `pageSize` queues per page, the
service's calls going to the store or, when given, to a gateway that no request reaches. -/
def start (settings : Settings) (now : Instant) (pageSize : Nat) (virtualTime : Bool)
    (gateway : Option Gateway) : Session :=
  let link := match gateway with
    | some g => Link.gateway g Gateway.unreachable
    | none => Link.store
  ⟨World.init settings now (Store.empty pageSize) link, Background.idle, .running, virtualTime,
    [], 0, []⟩

/-- Runs a computation on the session's world. -/
def exec {α : Type} (s : Session) (r : Run α) : Except Halt (α × Session) :=
  match r.run s.world with
  | .ok (a, w) => .ok (a, { s with world := w })
  | .error h => .error h

/-- Runs an attempt on the session's world; its answer becomes a reply. -/
def attempt {α : Type} (s : Session) (a : Attempt α) (reply : α → Reply) :
    Except Halt (Outcome × Session) := do
  let (r, s) ← s.exec a.run
  match r with
  | .ok x => pure (.reply (reply x), s)
  | .error e => pure (.failed e, s)

/-- Gives handles to newly polled messages. -/
def give {α : Type} (s : Session) (items : List α) (hold : α → Held) :
    List (Nat × α) × Session :=
  let numbered := items.zipIdx (s.issuedHandles + 1)
  (numbered.map fun (a, n) => (n, a),
    { s with handles := s.handles ++ numbered.map (fun (a, n) => (n, hold a)),
             issuedHandles := s.issuedHandles + items.length })

/-- The number of the live handle a reference means, or why there is none. -/
def select (s : Session) : HandleRef → Except String Nat
  | .number n =>
    if s.handles.any (·.1 == n) then .ok n else .error ("unknown or used handle " ++ toString n)
  | .first => (s.handles.head?.map (·.1)).elim (.error "no live handle") .ok
  | .last => (s.handles.getLast?.map (·.1)).elim (.error "no live handle") .ok
  | .firstPending =>
    ((s.handles.find? (·.2.isHint)).map (·.1)).elim (.error "no live handle") .ok
  | .lastPending =>
    ((s.handles.reverse.find? (·.2.isHint)).map (·.1)).elim (.error "no live handle") .ok

/-- The message a live handle holds. -/
def held? (s : Session) (n : Nat) : Option Held :=
  s.handles.lookup n

/-- Uses up a handle. -/
def consume (s : Session) (n : Nat) : Session :=
  { s with handles := s.handles.filter (·.1 != n) }

/-- A direct store call on the session's world, its fault as an error. -/
def direct {α : Type} (s : Session)
    (call : Store → Instant → Except Halt (Except Fault α × Store))
    (reply : α → Reply) : Except Halt (Outcome × Session) := do
  let (r, store) ← call s.world.store s.world.now
  let s := { s with world := { s.world with store } }
  match r with
  | .ok x => pure (.reply (reply x), s)
  | .error f => pure (.failed (QueueError.ofFault f), s)

/-- The id and receipt a message reference means, or why there are none. -/
def resolve (s : Session) : MessageRef → Except String (String × String)
  | .exact id receipt => .ok (id, receipt)
  | .fromLastGet i id receipt =>
    match s.lastGet[i]? with
    | some m => .ok (id.getD m.id, receipt.getD m.receipt)
    | none => .error "ref out of range"

end Session

end TaskQueue
