import TaskQueue.Queue.Naming
import TaskQueue.Time.Instant

/-!
# Settings

`Settings` holds what a queue service is built from: the stem of pending queue names,
the three expiration queues, the extra delay of deadline notices, the backend and its
endpoint, and the request timeout and loop intervals.

`Settings.validate` checks, in this order: the stem; for the claim, deadline and resolved
queues in turn, the queue-name rules and that the name does not start with the pending
queues' `{stem}-`, which the sweep would delete; a positive request timeout; and positive
loop intervals.

`Config.load` reads settings from an environment map.  Each variable has a default; the
numbers are unsigned 64-bit decimals, a `+` allowed in front, and the backend is `memory` or
`http` in any case with blanks around it.  A variable that does not read names itself in the
error, the first such in the order of the fields.
-/

namespace TaskQueue

open Time

/-- Where queues live: in this process, or behind a REST gateway. -/
inductive Backend where
  | memory
  | http
  deriving DecidableEq, Repr

def Backend.name : Backend → String
  | .memory => "memory"
  | .http => "http"

/-- The name of the constructor, in upper camel case. -/
def Backend.label : Backend → String
  | .memory => "Memory"
  | .http => "Http"

/-- What a queue service is built from. -/
structure Settings where
  stem : String
  claimQueue : String
  deadlineQueue : String
  resolvedQueue : String
  deadlineDelay : Duration
  backend : Backend
  endpoint : String
  accessToken : Option String
  requestTimeout : Duration
  gcInterval : Duration
  cacheResetInterval : Duration

namespace Settings

/-- The settings without any variable set. -/
def default : Settings where
  stem := "pq"
  claimQueue := "tq-claim"
  deadlineQueue := "tq-deadline"
  resolvedQueue := "tq-resolved"
  deadlineDelay := .ofSeconds 600
  backend := .memory
  endpoint := "http://localhost:10001"
  accessToken := none
  requestTimeout := .ofSeconds 30
  gcInterval := .ofSeconds (6 * 3600)
  cacheResetInterval := .ofSeconds (25 * 3600)

/-- What the names of pending queues start with. -/
def gcPrefix (s : Settings) : String := shardPrefix s.stem

/-- The three expiration queues with the variables that name them. -/
def expirationQueues (s : Settings) : List (String × String) :=
  [("CLAIM_QUEUE", s.claimQueue), ("DEADLINE_QUEUE", s.deadlineQueue),
   ("RESOLVED_QUEUE", s.resolvedQueue)]

/-- Checks one expiration queue name. -/
def validateExpirationQueue (s : Settings) (setting name : String) : Except QueueError Unit :=
  match validateQueueName name with
  | .error e => .error (e.withContext "setting" setting)
  | .ok () =>
    if name.startsWith s.gcPrefix then
      .error (((QueueError.validation
        "expiration queue name would be swept by the pending queue GC").withContext "setting"
          setting).withContext "queue" name |>.withContext "prefix" s.stem)
    else .ok ()

/-- The first rule the settings break, if any. -/
def validate (s : Settings) : Except QueueError Unit := do
  validateStem s.stem
  for (setting, name) in s.expirationQueues do
    validateExpirationQueue s setting name
  if s.requestTimeout.isZero then throw (QueueError.validation "request timeout must be positive")
  if s.gcInterval.isZero || s.cacheResetInterval.isZero then
    throw (QueueError.validation "background intervals must be positive")

end Settings

/-- Environment variables by name. -/
abbrev Env := List (String × String)

/-- Reads an unsigned 64-bit decimal, a `+` allowed in front. -/
def parseU64? (s : String) : Option Nat :=
  let ds := match s.toList with
    | '+' :: rest => rest
    | cs => cs
  if !ds.isEmpty && ds.all Char.isDigit then
    let n := ds.foldl (fun acc c => acc * 10 + (c.toNat - 48)) 0
    if n < Nat.pow 2 64 then some n else none
  else none

/-- Reads a backend name. -/
def parseBackend? (s : String) : Option Backend :=
  match (Text.trim s).toList.map Char.toLower with
  | ['m', 'e', 'm', 'o', 'r', 'y'] => some .memory
  | ['h', 't', 't', 'p'] => some .http
  | _ => none

/-- The variables of the environment as read, before validation. -/
structure Config where
  stem : String
  claimQueue : String
  deadlineQueue : String
  resolvedQueue : String
  deadlineDelayMs : Nat
  backend : Backend
  endpoint : String
  accessToken : Option String
  requestTimeoutMs : Nat
  gcIntervalSecs : Nat
  cacheResetIntervalSecs : Nat

/-- The text of a variable, or its default. -/
def Env.text (env : Env) (name default : String) : String :=
  (env.lookup name).getD default

/-- Reads a variable with `parse`, its default when absent; the error is its name. -/
def Env.read {α : Type} (env : Env) (name : String) (parse : String → Option α) (default : α) :
    Except String α :=
  match env.lookup name with
  | none => .ok default
  | some s => match parse s with
    | some a => .ok a
    | none => .error name

namespace Config

/-- The variables the settings are read from. -/
def variableNames : List String :=
  ["QUEUE_PREFIX", "CLAIM_QUEUE", "DEADLINE_QUEUE", "RESOLVED_QUEUE", "DEADLINE_DELAY_MS",
    "QUEUE_BACKEND", "QUEUE_ENDPOINT", "QUEUE_ACCESS_TOKEN", "REQUEST_TIMEOUT_MS",
    "GC_INTERVAL_SECS", "CACHE_RESET_INTERVAL_SECS"]

/-- Reads the variables in the order of the fields. -/
def load (env : Env) : Except String Config := do
  let deadlineDelayMs ← env.read "DEADLINE_DELAY_MS" parseU64? 600000
  let backend ← env.read "QUEUE_BACKEND" parseBackend? .memory
  let requestTimeoutMs ← env.read "REQUEST_TIMEOUT_MS" parseU64? 30000
  let gcIntervalSecs ← env.read "GC_INTERVAL_SECS" parseU64? 21600
  let cacheResetIntervalSecs ← env.read "CACHE_RESET_INTERVAL_SECS" parseU64? 90000
  pure {
    stem := env.text "QUEUE_PREFIX" "pq"
    claimQueue := env.text "CLAIM_QUEUE" "tq-claim"
    deadlineQueue := env.text "DEADLINE_QUEUE" "tq-deadline"
    resolvedQueue := env.text "RESOLVED_QUEUE" "tq-resolved"
    deadlineDelayMs, backend
    endpoint := env.text "QUEUE_ENDPOINT" "http://localhost:10001"
    accessToken := env.lookup "QUEUE_ACCESS_TOKEN"
    requestTimeoutMs, gcIntervalSecs, cacheResetIntervalSecs }

/-- The message of a variable that does not read. -/
def errorMessage (name : String) : String :=
  "Failed to parse environment variable " ++ name

/-- The settings of the variables, validated; an empty access token counts as none. -/
def settings (c : Config) : Except QueueError Settings := do
  let s : Settings := {
    stem := c.stem, claimQueue := c.claimQueue, deadlineQueue := c.deadlineQueue,
    resolvedQueue := c.resolvedQueue, deadlineDelay := .ofMillis c.deadlineDelayMs,
    backend := c.backend, endpoint := c.endpoint,
    accessToken := c.accessToken.filter (!·.isEmpty),
    requestTimeout := .ofMillis c.requestTimeoutMs, gcInterval := .ofSeconds c.gcIntervalSecs,
    cacheResetInterval := .ofSeconds c.cacheResetIntervalSecs }
  s.validate
  pure s

end Config

end TaskQueue
