import TaskQueue.Service.World
import TaskQueue.Proofs.Store.Calls

/-!
# Runs in a world

A service's computations run in a `World`: in its store, at its clock.  When the world's
calls go to the in-memory store, a call of the service is the store's call at the world's
instant, its fault turned into a `QueueError`, with the store it leaves put back in the
world and nothing else changed (`Run.perform_of_store`).  Logging and reporting add to
their lists and change nothing else.

These equations let a proof follow a service computation call by call, each step taken
from the store's own statements about its calls.
-/

namespace TaskQueue

open Time

variable {α : Type} {w : World}

namespace Gateway

variable {g : Gateway} {r : Request}

/-- A refused connection fails as `send` says. -/
theorem call_refused (read : String → Except Fault α) :
  g.call r .refused read = .error (g.send r)
  := by
  cases h : g.target r <;> simp [call, send, h]

/-- A reply to a request that can be sent is checked, and the body of a success read. -/
theorem call_replied {u : Url} (h : g.target r = .ok u) (status : Nat) (body : String)
    (read : String → Except Fault α) :
  g.call r (.replied status body) read = (answer r status body).bind fun () => read body
  := by
  simp [call, h]

/-- A client of an `http` base that names a host, with no access token, can send every
request. -/
theorem target_of_http (hhost : g.base.hasHost = true) (hscheme : g.base.scheme = "http")
    (htoken : g.token = none) (r : Request) :
  ∃ u, g.target r = .ok u
  := by
  -- the segments, the query and the credentials change neither the host nor the scheme
  have hbare : (g.base.addSegments r.segments).hasHost = true := hhost
  have hs : (g.url r.segments r.query).scheme = "http" := by
    unfold url
    dsimp only
    split_ifs <;> simp [Url.addSegments, Url.addQuery, Url.withoutUserinfo, hscheme]
  simp [target, hbare, htoken, hs]

end Gateway

namespace Run

/-! ### Calls of the in-memory store -/

theorem perform_of_store (inMemory : Store → Instant → Except Halt (Except Fault α × Store))
    (request : Gateway.Request) (read : String → Except Fault α) {r : Except Fault α} {s : Store}
    (hlink : w.link = .store) (h : inMemory w.store w.now = .ok (r, s)) :
  (perform inMemory request read).run w = pure (r.mapError QueueError.ofFault, { w with store := s })
  := by
  simp only [perform, StateT.run_bind, StateT.run_get, pure_bind, hlink, h]
  rfl

theorem getMetadata_of_store {n : String} {r : Except Fault QueueProperties} {s : Store}
    (hlink : w.link = .store) (h : w.store.getMetadata w.now n = .ok (r, s)) :
  (getMetadata n).run w = pure (r.mapError QueueError.ofFault, { w with store := s })
  := perform_of_store (fun s now => s.getMetadata now n) _ _ hlink h

theorem deleteQueue_of_store {n : String} {r : Except Fault Unit} {s : Store}
    (hlink : w.link = .store) (h : w.store.deleteQueue n = .ok (r, s)) :
  (deleteQueue n).run w = pure (r.mapError QueueError.ofFault, { w with store := s })
  := perform_of_store (fun s _ => s.deleteQueue n) _ _ hlink h

theorem listQueues_of_store {stem : String} {marker : Option String} {withMetadata : Bool}
    {r : Except Fault ListPage} {s : Store}
    (hlink : w.link = .store) (h : w.store.listQueues stem marker withMetadata = .ok (r, s)) :
  (listQueues stem marker withMetadata).run w =
    pure (r.mapError QueueError.ofFault, { w with store := s })
  := perform_of_store (fun s _ => s.listQueues stem marker withMetadata) _ _ hlink h

theorem createQueue_of_store {n : String} {m : Option Metadata} {r : Except Fault Unit}
    {s : Store} (hlink : w.link = .store) (h : w.store.createQueue n m = .ok (r, s)) :
  (createQueue n m).run w = pure (r.mapError QueueError.ofFault, { w with store := s })
  := perform_of_store (fun s _ => s.createQueue n m) _ _ hlink h

theorem setMetadata_of_store {n : String} {m : Metadata} {r : Except Fault Unit} {s : Store}
    (hlink : w.link = .store) (h : w.store.setMetadata n m = .ok (r, s)) :
  (setMetadata n m).run w = pure (r.mapError QueueError.ofFault, { w with store := s })
  := perform_of_store (fun s _ => s.setMetadata n m) _ _ hlink h

theorem putMessage_of_store {n text : String} {visibility ttl : Duration}
    {r : Except Fault Unit} {s : Store} (hlink : w.link = .store)
    (h : w.store.putMessage w.now n text visibility ttl = .ok (r, s)) :
  (putMessage n text visibility ttl).run w =
    pure (r.mapError QueueError.ofFault, { w with store := s })
  := perform_of_store (fun s now => s.putMessage now n text visibility ttl) _ _ hlink h

theorem getMessages_of_store {n : String} {visibility : Duration} {maxCount : Nat}
    {r : Except Fault (List RawMessage)} {s : Store} (hlink : w.link = .store)
    (h : w.store.getMessages w.now n visibility maxCount = .ok (r, s)) :
  (getMessages n visibility maxCount).run w =
    pure (r.mapError QueueError.ofFault, { w with store := s })
  := perform_of_store (fun s now => s.getMessages now n visibility maxCount) _ _ hlink h

theorem deleteMessage_of_store {n id receipt : String} {r : Except Fault Unit} {s : Store}
    (hlink : w.link = .store) (h : w.store.deleteMessage w.now n id receipt = .ok (r, s)) :
  (deleteMessage n id receipt).run w = pure (r.mapError QueueError.ofFault, { w with store := s })
  := perform_of_store (fun s now => s.deleteMessage now n id receipt) _ _ hlink h

theorem updateMessage_of_store {n text id receipt : String} {visibility : Duration}
    {r : Except Fault String} {s : Store} (hlink : w.link = .store)
    (h : w.store.updateMessage w.now n text id receipt visibility = .ok (r, s)) :
  (updateMessage n text id receipt visibility).run w =
    pure (r.mapError QueueError.ofFault, { w with store := s })
  := perform_of_store (fun s now => s.updateMessage now n text id receipt visibility) _ _ hlink h

/-- A call that halts in the store halts the service. -/
theorem perform_halts (inMemory : Store → Instant → Except Halt (Except Fault α × Store))
    (request : Gateway.Request) (read : String → Except Fault α) {e : Halt} (hlink : w.link = .store)
    (h : inMemory w.store w.now = .error e) :
  (perform inMemory request read).run w = .error e
  := by
  simp only [perform, StateT.run_bind, StateT.run_get, pure_bind, hlink, ofHalting, h]
  rfl

/-! ### Calls through a gateway -/

/-- Through a gateway a call is the gateway's answer to its request, and the world stays as
it was. -/
theorem perform_of_gateway (inMemory : Store → Instant → Except Halt (Except Fault α × Store))
    (request : Gateway.Request) (read : String → Except Fault α) {g : Gateway}
    {exchange : Gateway.Request → Gateway.Reply} (hlink : w.link = .gateway g exchange) :
  (perform inMemory request read).run w =
    pure ((g.call request (exchange request) read).mapError QueueError.ofFault, w)
  := by
  simp only [perform, StateT.run_bind, StateT.run_get, pure_bind, hlink]
  rfl

theorem getMetadata_of_gateway {n : String} {g : Gateway}
    {exchange : Gateway.Request → Gateway.Reply} (hlink : w.link = .gateway g exchange) :
  (getMetadata n).run w = pure ((g.call (.getMetadata n) (exchange (.getMetadata n))
    (Gateway.readBody Gateway.properties?)).mapError QueueError.ofFault, w)
  := perform_of_gateway (fun s now => s.getMetadata now n) _ _ hlink

/-! ### The clock -/

@[simp]
theorem now_run :
  now.run w = pure (w.now, w)
  := rfl

/-! ### The world inside an attempt -/

@[simp]
theorem get_run :
  ((get : Attempt World).run).run w = pure (.ok w, w)
  := rfl

@[simp]
theorem modify_run (f : World → World) :
  ((modify f : Attempt PUnit).run).run w = pure (.ok ⟨⟩, f w)
  := rfl


/-! ### Logs and reports -/

@[simp]
theorem log_run (e : LogEvent) :
  (log e).run w = pure ((), { w with logs := w.logs ++ [e] })
  := rfl

@[simp]
theorem report_run (e : QueueError) :
  (report e).run w = pure ((), { w with
    reports := w.reports ++ [e],
    logs := if w.logReports then w.logs ++ [reportEvent e] else w.logs })
  := rfl

end Run

/-- An attempt made of two that answers went through both, the second from the world
the first left. -/
theorem Attempt.run_bind_eq_ok {β : Type} {x : Attempt α} {f : α → Attempt β} {b : β}
    {w' : World} :
  (x >>= f).run.run w = .ok (.ok b, w') ↔
    ∃ a w₁, x.run.run w = .ok (.ok a, w₁) ∧ (f a).run.run w₁ = .ok (.ok b, w')
  := by
  simp only [ExceptT.run_bind, StateT.run_bind]
  rcases hx : x.run.run w with e | ⟨(e | a), w₁⟩
  · simp [bind, Except.bind]
  · simp [bind, Except.bind]
    rintro ⟨⟩
  · simp [bind, Except.bind]

/-- After a first attempt that answers, an attempt made of two runs as the second from the
world the first left. -/
theorem Attempt.run_bind_of_ok {β : Type} {x : Attempt α} {f : α → Attempt β} {a : α}
    {w₁ : World} (h : x.run.run w = .ok (.ok a, w₁)) :
  (x >>= f).run.run w = (f a).run.run w₁
  := by
  simp only [ExceptT.run_bind, StateT.run_bind, h]
  rfl

theorem Attempt.ofExcept_run_ok (a : α) :
  (Attempt.ofExcept (.ok a)).run.run w = .ok (.ok a, w)
  := rfl

end TaskQueue
