import TaskQueue.Service.Sweep

/-!
# Background loops

A service runs two loops once started: one sweeps unused pending queues, the other forgets
the ensured families so that their metadata is written again.  Each loop first fires one
interval after it starts, on a virtual clock in milliseconds.  When the clock moves and
passes a loop's next firing, the loop fires once; its next firing is one interval after
the one it missed, or one interval after now if it is more than 5 ms late.  The loops end
once the stop signal is given or the service is gone.  Each loop runs as a task of its own
and first puts its first firing one interval after the monotonic clock's reading, before it
looks at the stop signal: when that is past the clock's range the task panics and ends,
logging nothing, and the service goes on without it (`start`, `runStopped`).
-/

namespace TaskQueue

open Time

/-- When a loop fires next and how often, in milliseconds of the virtual clock. -/
structure Schedule where
  period : Nat
  due : Nat
  deriving DecidableEq, Repr

namespace Schedule

/-- The schedule after firing at `clock`. -/
def next (s : Schedule) (clock : Nat) : Schedule :=
  if s.due + 5 < clock then { s with due := clock + s.period }
  else { s with due := s.due + s.period }

end Schedule

/-- The background loops of a service: the virtual clock, whether they were started, and
the schedules of those still running. -/
structure Background where
  clock : Nat
  started : Bool
  sweeper : Option Schedule
  resetter : Option Schedule
  deriving DecidableEq, Repr

namespace Background

/-- Loops not started, the virtual clock at zero. -/
def idle : Background := ⟨0, false, none, none⟩

/-- The target of the service's log events. -/
def serviceTarget : String := "taskq_core::app::service"

/-- The whole seconds the host's monotonic clock reads when a loop starts, its time since
boot.  The host is not modelled: the reading is taken to be one second, which decides every
interval as a host does, but those within the host's uptime of `2⁶³ − 1` seconds. -/
def monotonicSecs : Nat := 1

/-- The largest reading of the monotonic clock, whose seconds are a signed 64-bit number. -/
def maxMonotonicSecs : Nat := 9223372036854775807

/-- Whether a loop started with `interval` puts its first firing past the monotonic clock's
range: it does so one interval after the clock's reading, before it looks at the stop
signal. -/
def firstFiringOverflows (interval : Duration) : Bool :=
  decide (maxMonotonicSecs < monotonicSecs + interval.seconds)

/-- Starts both loops, unless they were started before; a loop whose first firing is past
the monotonic clock's range ends at once. -/
def start (b : Background) : Run Background := do
  if b.started then return b
  let s := (← get).settings
  Run.log ⟨.info, serviceTarget, "background loops started",
    [("gc_interval_secs", toString s.gcInterval.seconds),
      ("cache_reset_interval_secs", toString s.cacheResetInterval.seconds)]⟩
  let gc := s.gcInterval.millis
  let reset := s.cacheResetInterval.millis
  let sweeper : Option Schedule :=
    if firstFiringOverflows s.gcInterval then none else some ⟨gc, b.clock + gc⟩
  let resetter : Option Schedule :=
    if firstFiringOverflows s.cacheResetInterval then none else some ⟨reset, b.clock + reset⟩
  pure { b with started := true, sweeper, resetter }

/-- Whether a loop is still running. -/
def running (b : Background) : Bool :=
  b.sweeper.isSome || b.resetter.isSome

/-- Both loops run with the stop signal already given: each puts its first firing one
interval after the monotonic clock's reading, sees the signal, logs that it stopped and
ends.  A loop whose first firing is past the clock's range panics in its own task before
that, which ends it without the log; the caller goes on. -/
def runStopped : Run Unit := do
  let s := (← get).settings
  unless firstFiringOverflows s.gcInterval do
    Run.log ⟨.info, "taskq_core::app::gc_loop", "gc loop stopped", []⟩
  unless firstFiringOverflows s.cacheResetInterval do
    Run.log ⟨.info, "taskq_core::app::cache_reset_loop", "cache reset loop stopped", []⟩

/-- Ends the running loops. -/
def stop (b : Background) : Run Background := do
  if b.sweeper.isSome then Run.log ⟨.info, "taskq_core::app::gc_loop", "gc loop stopped", []⟩
  if b.resetter.isSome then
    Run.log ⟨.info, "taskq_core::app::cache_reset_loop", "cache reset loop stopped", []⟩
  pure { b with sweeper := none, resetter := none }

/-- One pass of the sweeping loop: a sweep at the current instant, its outcome logged.
A pass that halts ends the loop and leaves the world as it was. -/
def sweepPass : StateT World Id Bool := do
  let w ← get
  match ((Sweep.run w.now).run).run w with
  | .ok (r, w') =>
    let event : LogEvent := match r with
      | .ok n =>
        ⟨.info, "taskq_core::app::gc_loop", "gc loop pass finished", [("deleted", toString n)]⟩
      | .error e =>
        ⟨.error, "taskq_core::app::gc_loop", "gc loop pass failed", [("error", e.render)]⟩
    set { w' with logs := w'.logs ++ [event] }
    pure true
  | .error _ => pure false

/-- Moves the virtual clock by `ms`; each running loop whose firing has come fires once. -/
def advance (b : Background) (ms : Nat) : Run Background := do
  let clock := b.clock + ms
  let sweeper ← match b.sweeper with
    | some s =>
      if s.due ≤ clock then do
        let w ← get
        let (alive, w') := sweepPass.run w
        set w'
        pure (if alive then some (s.next clock) else none)
      else pure (some s)
    | none => pure none
  let resetter ← match b.resetter with
    | some s =>
      if s.due ≤ clock then do
        Run.resetFamilies
        pure (some (s.next clock))
      else pure (some s)
    | none => pure none
  pure { b with clock, sweeper, resetter }

end Background

end TaskQueue
