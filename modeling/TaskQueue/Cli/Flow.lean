import TaskQueue.Cli.Args
import TaskQueue.Log.Filter
import TaskQueue.Service.Background
import TaskQueue.Service.Expiration

/-!
# The commands of the program

`Cli.launch` runs the program on its arguments, environment and the wall clock's instant.
What it writes to standard output is a list of lines, each a log event (written only
when the log filter lets it through) or text; what it writes to standard error is text.
A program that serves is a `Cli.Serving`, which lets time pass and takes the interrupt.

* `demo` walks a family of pending queues through publishing, counting, polling,
  releasing and removing, then a claim notice, a resolved notice and a sweep eleven
  days later, on an in-memory store and a clock that it moves itself.
* `sweep` sweeps unused pending queues once, at the wall clock's instant, and writes how
  many it deleted as JSON.
* `serve` starts the background loops and serves until interrupted.

A failure is written as `Error: ` and its context, then the chain of its causes, each
indented, and numbered in a column of five when there are several; usage errors end with
code 2, failures with code 1.
-/

namespace TaskQueue.Cli

open Time

/-- A line of standard output: a log event or text. -/
inductive Line where
  | log (e : LogEvent)
  | text (s : String)
  deriving DecidableEq, Repr

/-- A line without the time stamp that a terminal would show before a log event. -/
def Line.render : Line → String
  | .log e => e.line
  | .text s => s

/-- The running program's world, the filter of its log, and the lines written so far to
standard output and standard error. -/
structure Console where
  world : World
  filter : LogFilter
  out : List Line
  err : List String

namespace Console

/-- Moves the world's new log events to the output, those the filter lets through. -/
def flush (c : Console) : Console :=
  { c with out := c.out ++ (c.world.logs.filter c.filter.allows).map Line.log,
           world := { c.world with logs := [] } }

end Console

/-- A failure of the program: what it was doing, and the chain of causes. -/
structure Failure where
  context : String
  causes : List String
  deriving DecidableEq, Repr

/-- The lines of one cause: its first line after its number (right-aligned in five
columns) or after four blanks, the lines after it indented to match. -/
def causeLines (number : Option Nat) (message : String) : List String :=
  let head := match number with
    | some n => "".pushn ' ' (5 - (toString n).length) ++ toString n ++ ": "
    | none => "    "
  let indent := if number.isSome then "       " else "    "
  match message.splitOn "\n" with
  | [] => []
  | first :: rest => (head ++ first) :: rest.map (indent ++ ·)

/-- The lines of standard error for a failure. -/
def Failure.lines (f : Failure) : List String :=
  (("Error: " ++ f.context).splitOn "\n") ++
    match f.causes with
    | [] => []
    | [c] => ["", "Caused by:"] ++ causeLines none c
    | cs => ["", "Caused by:"] ++ cs.zipIdx.flatMap fun (c, i) => causeLines (some i) c

/-- A computation of the running program. -/
abbrev Script := ExceptT Failure (StateT Console (Except Halt))

namespace Script

/-- Runs an attempt on the program's world; an error ends the program, under `context`
when one is given. -/
def attempt {α : Type} (a : Attempt α) (context : Option String) : Script α := do
  let c ← get
  match a.run.run c.world with
  | .error h => ExceptT.lift (StateT.lift (.error h))
  | .ok (r, w) =>
    set ({ c with world := w }.flush)
    match r with
    | .ok x => pure x
    | .error e =>
      match context with
      | some ctx => throw ⟨ctx, e.chain⟩
      | none => throw ⟨e.render, e.chain.drop 1⟩

/-- Writes text to standard output. -/
def say (s : String) : Script Unit :=
  modify fun c => { c with out := c.out ++ [.text s] }

/-- Adds a log event. -/
def log (e : LogEvent) : Script Unit :=
  modify fun c => { c with world := { c.world with logs := c.world.logs ++ [e] } } |>.flush

/-- Moves the clock. -/
def advance (d : Span) : Script Unit := do
  let c ← get
  match c.world.now.plus d with
  | .ok t => set { c with world := { c.world with now := t } }
  | .error h => ExceptT.lift (StateT.lift (.error h))

/-- Ends the program with a failure. -/
def fail {α : Type} (f : Failure) : Script α :=
  throw f

/-- Runs a computation on the program's world. -/
def exec {α : Type} (r : Run α) : Script α :=
  attempt (Attempt.lift r) none

end Script

/-- What the program wrote and its exit code. -/
structure Output where
  out : List Line
  err : List String
  code : Nat

/-- The output of a failure. -/
def Output.ofFailure (f : Failure) : Output :=
  ⟨[], f.lines, 1⟩

/-- The exit code of a halted program. -/
def haltCode : Nat := 101

/-- The settings of the configuration, or the failure of invalid ones. -/
def configured (config : Config) : Except Failure Settings :=
  config.settings.mapError fun e => ⟨"invalid configuration", e.chain⟩

/-- A service built from the configuration: its settings and where its calls go. -/
def build (config : Config) : Except Failure (Settings × Link) := do
  let s ← configured config
  match s.link with
  | .ok link => pure (s, link)
  | .error f =>
    let client := "failed to create queue client: " ++ f.message
    throw ⟨"failed to build queue service", [client, f.message]⟩

/-- A console for a service that logs its reports, at an instant. -/
def Console.open (settings : Settings) (link : Link) (pageSize : Nat) (now : Instant)
    (filter : LogFilter) : Console :=
  ⟨{ World.init settings now (Store.empty pageSize) link with logReports := true }, filter,
    [], []⟩

/-- Runs a script to its end; `finish` makes the output of a script that succeeded. -/
def Console.runScript {α : Type} (c : Console) (script : Script α)
    (finish : α → Console → Output) : Output :=
  match (script.run.run c) with
  | .error h => ⟨c.out, c.err ++ [h.message], haltCode⟩
  | .ok (.error f, c') => ⟨c'.out, c'.err ++ f.lines, 1⟩
  | .ok (.ok x, c') => finish x c'

/-- The log event of a stopped service. -/
def stoppedEvent : LogEvent := ⟨.info, Background.serviceTarget, "queue service stopped", []⟩

/-- Stops the service: the stop signal is given and it logs that it stopped. -/
def shutdown : Script Unit := do
  Script.exec (modify fun w => { w with signal := .raised })
  Script.log stoppedEvent

/-- The page size of the in-memory store. -/
def defaultPageSize : Nat := 5000

/-- The family the demo walks through. -/
def demoFamily : Except QueueError FamilyKey := do
  pure ⟨← ProvisionerId.parse "demo-provisioner", ← WorkerType.parse "demo-worker"⟩

/-- The tasks the demo publishes, in order. -/
def demoTasks : List (String × Priority) :=
  [("task-low", .low), ("task-highest", .highest), ("task-medium", .medium),
    ("task-medium-2", .medium)]

/-- Polls every queue of a family once; `first` tells whether the next hint is the first
of the demo, which is released rather than removed. -/
def pollOnce (k : FamilyKey) (first : Bool) : List (Priority × String) → Script Bool
  | [] => pure first
  | (priority, queue) :: rest => do
    let hints ← Script.attempt (Pending.poll k priority queue maxMessagesPerGet) none
    let mut first := first
    for h in hints do
      Script.say ("polled " ++ h.hint.taskId.val ++ " run=" ++ toString h.hint.runId.toNat ++
        " priority=" ++ h.priority.name ++ " from " ++ queue)
      if first then
        first := false
        Script.attempt h.lease.release none
        Script.say "  released (claim failed)"
      else
        Script.attempt h.lease.remove none
    pollOnce k first rest

/-- Polls every queue of a family again, removing what comes back. -/
def pollAgain (k : FamilyKey) : List (Priority × String) → Script Unit
  | [] => pure ()
  | (priority, queue) :: rest => do
    let hints ← Script.attempt (Pending.poll k priority queue maxMessagesPerGet) none
    for h in hints do
      Script.say ("redelivered " ++ h.hint.taskId.val ++ " from " ++ queue)
      Script.attempt h.lease.remove none
    pollAgain k rest

/-- Polls an expiration queue, writing and removing each notice. -/
def drain (kind : ExpirationKind) (label : String) : Script Unit := do
  for n in ← Script.attempt (Expiration.poll kind) none do
    Script.say (label ++ Json.render n.notice.toJson)
    Script.attempt n.lease.remove none

/-- The demo's walk through a family, a claim, a resolution and a sweep. -/
def demoScript : Script Unit := do
  let k ← match demoFamily with
    | .ok k => pure k
    | .error e => Script.fail ⟨e.render, e.chain.drop 1⟩
  for (task, priority) in demoTasks do
    let now ← Script.exec Run.now
    let deadline ← Script.exec (Run.ofHalting (now.plus (Span.ofHours 1)))
    let ref : TaskRef := ⟨⟨task⟩, k.provisionerId, k.workerType, deadline, priority⟩
    Script.attempt (Pending.publish ref 0) none
    Script.say ("enqueued " ++ task ++ " (" ++ priority.name ++ ")")
  Script.say ("pending count: " ++ toString (← Script.attempt (Pending.count k) none))
  let queues ← Script.attempt (Pending.queues k) none
  let _ ← pollOnce k true queues
  pollAgain k queues
  let now ← Script.exec Run.now
  let takenUntil ← Script.exec (Run.ofHalting (now.plus (Span.ofMinutes 20)))
  Script.attempt (Expiration.putClaim ⟨"task-highest"⟩ 0 takenUntil) none
  let early ← Script.attempt (Expiration.poll .claim) none
  Script.say ("claim messages before expiry: " ++ toString early.length)
  Script.advance (Span.ofMinutes 21)
  drain .claim "claim expired: "
  Script.attempt (Expiration.putResolved ⟨"task-low"⟩ "demo-group" "demo-scheduler" .completed)
    none
  drain .resolved "resolved: "
  Script.advance (Span.ofDays 11)
  let deleted ← Script.attempt (Sweep.run (← Script.exec Run.now)) none
  let names := (← get).world.store.names
  Script.say ("gc deleted " ++ toString deleted ++ " queues; remaining: [" ++
    ", ".intercalate (names.map Text.quoted) ++ "]")
  shutdown

/-- The `demo` command: the walk on an in-memory store whose clock starts at `now`. -/
def demo (config : Config) (filter : LogFilter) (now : Instant) : Output :=
  match configured config with
  | .error f => .ofFailure f
  | .ok settings =>
    let settings := { settings with backend := .memory }
    (Console.open settings .store defaultPageSize now filter).runScript demoScript
      fun () c => ⟨c.out, c.err, 0⟩

/-- The `sweep` command: one sweep at `now`, the number deleted written as JSON. -/
def sweep (config : Config) (filter : LogFilter) (now : Instant) : Output :=
  match build config with
  | .error f => .ofFailure f
  | .ok (settings, link) =>
    let script : Script Unit := do
      let deleted ← Script.attempt (Sweep.run now) (some "gc sweep failed")
      Script.say (Json.render (.obj [("deleted", .nat deleted)]))
      shutdown
    (Console.open settings link defaultPageSize now filter).runScript script
      fun () c => ⟨c.out, c.err, 0⟩

/-- The target of the program's own log events. -/
def programTarget : String := "taskq"

/-- A service serving: its console and its background loops. -/
structure Serving where
  console : Console
  loops : Background

namespace Serving

/-- Runs a computation on the serving service's world; a halt leaves it as it was. -/
def exec {α : Type} (s : Serving) (r : Run α) (default : α) : α × Serving :=
  match r.run s.console.world with
  | .ok (x, w) => (x, { s with console := { s.console with world := w }.flush })
  | .error _ => (default, s)

/-- When a background loop fires next, in milliseconds since the service started. -/
def nextDue (s : Serving) : Option Nat :=
  match s.loops.sweeper, s.loops.resetter with
  | some a, some b => some (min a.due b.due)
  | some a, none => some a.due
  | none, some b => some b.due
  | none, none => none

/-- Lets `ms` milliseconds pass on the service's clock; the loops fire as they come due. -/
def wait (s : Serving) (ms : Nat) : Serving :=
  let (loops, s) := s.exec (do
    let w ← get
    set { w with now := ← Run.ofHalting (w.now.plus (Span.ofMillis ms)) }
    s.loops.advance ms) s.loops
  { s with loops }

/-- The interrupt: the service logs it, gives the stop signal, and its loops end. -/
def interrupt (s : Serving) : Serving :=
  let (loops, s) := s.exec (do
    Run.log ⟨.info, programTarget, "ctrl-c received, shutting down", []⟩
    modify fun w => { w with signal := .raised }
    let loops ← s.loops.stop
    Run.log stoppedEvent
    pure loops) s.loops
  { s with loops }

end Serving

/-- The `serve` command: a service whose background loops have started. -/
def serve (config : Config) (filter : LogFilter) (now : Instant) : Except Output Serving :=
  match build config with
  | .error f => .error (.ofFailure f)
  | .ok (settings, link) =>
    let c := Console.open settings link defaultPageSize now filter
    let script : Script Background := do
      Script.log ⟨.info, programTarget, "queue service starting",
        [("backend", settings.backend.label), ("prefix", settings.stem)]⟩
      Script.exec (Background.idle.start)
    match script.run.run c with
    | .ok (.ok loops, c) => .ok ⟨c, loops⟩
    | .ok (.error f, c) => .error ⟨c.out, c.err ++ f.lines, 1⟩
    | .error h => .error ⟨c.out, c.err ++ [h.message], haltCode⟩

/-- The filter of the log: the `RUST_LOG` variable when it reads, else the directives of
the level given that read; with the warnings for those that do not. -/
def logFilter (env : Env) (level : String) : LogFilter × List String :=
  match (env.lookup "RUST_LOG").bind LogFilter.parse? with
  | some f => (f, [])
  | none =>
    let (f, bad) := LogFilter.parseLossy level
    (f, bad.map fun (d, e) => "ignoring `" ++ d ++ "`: " ++ e.message)

/-- What the program does with its arguments: it ends with an output, or serves. -/
inductive Launch where
  | done (o : Output)
  | serving (s : Serving)

/-- Runs the program on its arguments and environment at the wall clock's instant `now`. -/
def launch (args : List String) (env : Env) (now : Instant) : Launch :=
  match parse (env.lookup "LOG_LEVEL") args with
  | .help lines => .done ⟨lines.map .text, [], 0⟩
  | .misuse lines => .done ⟨[], lines, 2⟩
  | .run cmd level =>
    let (filter, warnings) := logFilter env level
    let warned := fun (o : Output) => Launch.done { o with err := warnings ++ o.err }
    match Config.load env with
    | .error name =>
      warned (.ofFailure ⟨"failed to read configuration from environment",
        [Config.errorMessage name]⟩)
    | .ok config =>
      match cmd with
      | .demo => warned (demo config filter now)
      | .sweep => warned (sweep config filter now)
      | .serve => match serve config filter now with
        | .ok s => .serving { s with console := { s.console with err := warnings } }
        | .error o => warned o

end TaskQueue.Cli
