import TaskQueue.Text.Quote

/-!
# Command-line arguments

The program `taskq` takes an option `--log-level <LOG_LEVEL>` (also from the variable
`LOG_LEVEL`, `info` by default) and one command: `demo`, `sweep`, `serve`, or `help`
with the command names whose help it prints.  `-h` and `--help` print help, at the top
or after a command.  Anything else is a usage error, printed with a usage line and, when
a known name is close enough (Jaro similarity above 0.7), a tip naming it.

The arguments are read in order.  A command name is taken as the command wherever it
stands before `--`, even where `--log-level` waits for its value; the command's own
arguments are read before the value of `--log-level` is taken in.  After `--` every
argument is a value.  Without any argument, and without `LOG_LEVEL`, the program prints
its help as an error.
-/

namespace TaskQueue.Cli

/-- The commands of the program. -/
inductive Command where
  | demo
  | sweep
  | serve
  deriving DecidableEq, Repr

namespace Command

/-- The name of a command. -/
def name : Command → String
  | demo => "demo"
  | sweep => "sweep"
  | serve => "serve"

/-- What a command does, as its help says. -/
def about : Command → String
  | demo => "in-memory backend で一連の流れを動かす"
  | sweep => "GC を 1 回だけ実行する"
  | serve => "バックグラウンドループを起動して Ctrl-C を待つ"

/-- The command of a name. -/
def ofName? : String → Option Command
  | "demo" => some demo
  | "sweep" => some sweep
  | "serve" => some serve
  | _ => none

end Command

/-- What the arguments ask for: run a command with a log level, print help, or report a
usage error. -/
inductive Invocation where
  | run (cmd : Command) (logLevel : String)
  | help (lines : List String)
  | misuse (lines : List String)
  deriving DecidableEq, Repr

/-- What the help of the `help` command says. -/
def helpAbout : String := "Print this message or the help of the given subcommand(s)"

/-- The names a command may be given by, in the order help lists them. -/
def commandNames : List String := ["demo", "sweep", "serve", "help"]

/-- The usage line of the program. -/
def topUsage : String := "taskq [OPTIONS] <COMMAND>"

/-- The help of the program; `logLevel` is the value of `LOG_LEVEL`, if it is set. -/
def topHelp (logLevel : Option String) : List String :=
  ["Task queue layer: pending shards, expiration queues and GC", "",
    "Usage: " ++ topUsage, "", "Commands:",
    "  demo   " ++ Command.demo.about, "  sweep  " ++ Command.sweep.about,
    "  serve  " ++ Command.serve.about, "  help   " ++ helpAbout, "", "Options:",
    "      --log-level <LOG_LEVEL>  RUST_LOG がないときのログレベル [env: LOG_LEVEL=" ++
      logLevel.getD "" ++ "] [default: info]",
    "  -h, --help                   Print help"]

/-- The help of a command. -/
def commandHelp (cmd : Command) : List String :=
  [cmd.about, "", "Usage: taskq " ++ cmd.name, "", "Options:", "  -h, --help  Print help"]

/-- The help of the `help` command. -/
def helpHelp : List String :=
  [helpAbout, "", "Usage: taskq help [COMMAND]...", "", "Arguments:",
    "  [COMMAND]...  Print help for the subcommand(s)"]

/-! ## Similar names -/

/-- Marks the first unmarked character of `b` equal to `c` within `[lo, hi)`. -/
def markMatch (c : Char) (lo hi : Nat) :
    List (Char × Bool) → Nat → Option (List (Char × Bool))
  | [], _ => none
  | (d, used) :: rest, j =>
    if lo ≤ j && j < hi && !used && c == d then some ((d, true) :: rest)
    else ((markMatch c lo hi rest (j + 1)).map ((d, used) :: ·))

/-- The Jaro similarity of two names, in binary floating point: the matched characters'
share of each name and the share of them in order, averaged, summed in that order. -/
def jaro (a b : List Char) : Float :=
  if a.isEmpty && b.isEmpty then 1
  else if a.isEmpty || b.isEmpty then 0
  else
    let range := max a.length b.length / 2 - 1
    let step := fun (acc : List Bool × List (Char × Bool)) (p : Char × Nat) =>
      let (aFlags, bMarks) := acc
      let (c, i) := p
      match markMatch c (i - range) (i + range + 1) bMarks 0 with
      | some marks => (aFlags ++ [true], marks)
      | none => (aFlags ++ [false], bMarks)
    let (aFlags, bMarks) := (a.zipIdx).foldl step ([], b.map (·, false))
    let matchedA := (a.zip aFlags).filterMap fun (c, f) => if f then some c else none
    let matchedB := bMarks.filterMap fun (c, f) => if f then some c else none
    let m := matchedA.length
    let t := ((matchedA.zip matchedB).filter fun (x, y) => x != y).length / 2
    if m = 0 then 0
    else (m.toFloat / a.length.toFloat + m.toFloat / b.length.toFloat +
      (m - t).toFloat / m.toFloat) / 3

/-- The candidates more than 0.7 similar to a name, least similar first, those equally
similar in the order given. -/
def similar (name : String) (candidates : List String) : List String :=
  let scored := candidates.filterMap fun c =>
    let score := jaro name.toList c.toList
    if score > 0.7 then some (c, score) else none
  let insert := fun (acc : List (String × Float)) (x : String × Float) =>
    let (front, back) := acc.span fun (_, s) => s ≤ x.2
    front ++ x :: back
  (scored.foldl insert []).map (·.1)

/-- Quoted names for a tip. -/
def quotedNames (names : List String) : String :=
  ", ".intercalate (names.map fun n => "'" ++ n ++ "'")

/-! ## Usage errors -/

/-- A usage error: the message, tips, the usage line, and, when the command has a help
option, where to read more. -/
def misuseText (message : String) (tips : List String) (usage : Option String)
    (helpOption : Bool) : List String :=
  let usageLines := match usage with
    | some u => ["Usage: " ++ u]
    | none => []
  let body := ["error: " ++ message, ""] ++
    (if tips.isEmpty then [] else tips.map ("  tip: " ++ ·) ++ [""]) ++ usageLines
  if helpOption then body ++ (if usageLines.isEmpty then [] else [""]) ++
    ["For more information, try '--help'."]
  else body

/-- A usage error of a command with a help option. -/
def misuseLines (message : String) (tips : List String) (usage : Option String) : List String :=
  misuseText message tips usage true

/-- The tip for similar names of a kind, if any. -/
def tipFor (kind : String) (names : List String) : List String :=
  match names with
  | [] => []
  | [n] => ["a similar " ++ kind ++ " exists: '" ++ n ++ "'"]
  | ns => ["some similar " ++ kind ++ "s exist: " ++ quotedNames ns]

/-- How the option `--log-level` is written in usage lines. -/
def logLevelUsage : String := "--log-level <LOG_LEVEL>"

/-- A usage line naming the arguments used: the program or command, the arguments, and
what must follow them. -/
def usageWith (bin : String) (used : List String) (tail : String) : String :=
  " ".intercalate (bin :: used ++ (if tail.isEmpty then [] else [tail]))

/-- The error for an argument that no rule takes. -/
def unexpected (arg : String) (tips : List String) (usage : String) : Invocation :=
  .misuse (misuseLines ("unexpected argument '" ++ arg ++ "' found") tips (some usage))

/-- The error for an unknown long option `--name`: the most similar known option is
suggested, and the usage line then names the arguments used with it. -/
def unknownLong (name : String) (longs : List String) (bin : String) (used : List String)
    (tail : String) (plain : String) : Invocation :=
  match (similar name longs).getLast? with
  | some best =>
    let shown := if best == "help" then "--help" else logLevelUsage
    let used := if used.contains shown then used else used ++ [shown]
    unexpected ("--" ++ name) (tipFor "argument" ["--" ++ best]) (usageWith bin used tail)
  | none =>
    unexpected ("--" ++ name) [] (if used.isEmpty then plain else usageWith bin used tail)

/-- The error for a value given to `--help`. -/
def unneededValue (value : String) (usage : String) : Invocation :=
  .misuse (misuseLines ("unexpected value '" ++ value ++
    "' for '--help' found; no more were expected") [] (some usage))

/-- The error for an unknown command name, with a tip when known ones are similar. -/
def unrecognized (name : String) (usage : String) (tips : Bool) : Invocation :=
  .misuse (misuseLines ("unrecognized subcommand '" ++ name ++ "'")
    (if tips then tipFor "subcommand" (similar name commandNames) else []) (some usage))

/-- The error for a command name after `--`. -/
def needlessEscape (name : String) : Invocation :=
  .misuse (misuseLines ("unexpected argument '" ++ name ++ "' found")
    ["subcommand '" ++ name ++ "' exists; to use it, remove the '--' before it"] (some topUsage))

/-- The error for `--log-level` without a value. -/
def missingValue : Invocation :=
  .misuse (misuseLines ("a value is required for '" ++ logLevelUsage ++ "' but none was supplied")
    [] none)

/-- The error for `--log-level` given twice. -/
def givenTwice : Invocation :=
  .misuse (misuseLines ("the argument '" ++ logLevelUsage ++ "' cannot be used multiple times")
    [] (some topUsage))

/-- The error for arguments without a command. -/
def missingCommand : Invocation :=
  .misuse ["error: 'taskq' requires a subcommand but one was not provided",
    "  [subcommands: demo, sweep, serve, help]", "", "Usage: " ++ topUsage, "",
    "For more information, try '--help'."]

/-! ## Reading the arguments -/

/-- An option `--name` or `--name=value`: the name, and the value if attached. -/
def splitLong (arg : String) : String × Option String :=
  match (arg.drop 2).toString.splitOn "=" with
  | [name] => (name, none)
  | name :: rest => (name, some ("=".intercalate rest))
  | [] => ("", none)

/-- The first letter of a cluster of short options `-abc`. -/
def firstShort (arg : String) : Char :=
  (arg.drop 1).toString.front

/-- Reads the arguments of `help`: each must name a command of the one before, and the
help of the last is printed.  `envLevel` is the value of `LOG_LEVEL`, if it is set. -/
def helpArgs (envLevel : Option String) : List String → Invocation
  | [] => .help (topHelp envLevel)
  | a :: rest =>
    match Command.ofName? a with
    | some cmd =>
      match rest with
      | [] => .help (commandHelp cmd)
      | b :: _ => unrecognized b ("taskq " ++ cmd.name) false
    | none =>
      if a == "help" then
        match rest with
        | [] => .help helpHelp
        | b :: _ =>
          -- the help command has no help option of its own
          .misuse (misuseText ("unrecognized subcommand '" ++ b ++ "'") []
            (some "taskq help [COMMAND]...") false)
      else unrecognized a topUsage false

/-- Reads the arguments after a command, which takes only help: `none` when they are
fine.  `escaped` tells whether `--` came before. -/
def commandArgs (cmd : Command) (escaped : Bool) : List String → Option Invocation
  | [] => none
  | a :: rest =>
    let bin := "taskq " ++ cmd.name
    if !escaped && a == "--" then commandArgs cmd true rest
    else if !escaped && a.startsWith "--" then
      match splitLong a with
      | ("help", some v) => some (unneededValue v (usageWith bin ["--help"] ""))
      | ("help", none) => some (.help (commandHelp cmd))
      | (name, _) => some (unknownLong name ["help"] bin [] "" bin)
    else if !escaped && a.startsWith "-" && a != "-" then
      if firstShort a == 'h' then some (.help (commandHelp cmd))
      else some (unexpected ("-" ++ (firstShort a).toString) [] bin)
    else some (unexpected a [] bin)

/-- Where the reading of the top-level arguments stands: the log level given, the value
of a `--log-level` not yet taken in (`some none` while it waits for one), and whether
`--` came. -/
structure Reading where
  level : Option String
  pending : Option (Option String)
  escaped : Bool

/-- Takes in the value of a pending `--log-level`. -/
def Reading.settle (r : Reading) : Except Invocation Reading :=
  match r.pending with
  | none => .ok r
  | some none => .error missingValue
  | some (some v) => if r.level.isSome then .error givenTwice else .ok ⟨some v, none, r.escaped⟩

/-- The arguments used so far, as usage lines name them. -/
def Reading.used (r : Reading) : List String :=
  if r.level.isSome then [logLevelUsage] else []

/-- Reads the arguments before the command.  `envLevel` is the value of `LOG_LEVEL`, if
it is set.  While `--log-level` waits for its value, the next argument that is not an
option or `--` is that value, even when it names a command; after `--`, nothing is. -/
def topArgs (envLevel : Option String) (r : Reading) : List String → Invocation
  | [] =>
    match r.settle with
    | .error e => e
    | .ok r =>
      if r.level.isNone && envLevel.isNone then .misuse (topHelp envLevel) else missingCommand
  | a :: rest =>
    let waiting := !r.escaped && r.pending == some none
    let command := if r.escaped || waiting then none else Command.ofName? a
    if !r.escaped && !waiting && a == "help" then helpArgs envLevel rest
    else match command with
    | some cmd =>
      match commandArgs cmd false rest with
      | some e => e
      | none =>
        match r.settle with
        | .error e => e
        | .ok r => .run cmd (r.level.getD (envLevel.getD "info"))
    | none =>
      if !r.escaped && a == "--" then topArgs envLevel { r with escaped := true } rest
      else if !r.escaped && a.startsWith "--" then
        match splitLong a with
        | ("log-level", value) =>
          match r.settle with
          | .error e => e
          | .ok r =>
            match value with
            | some v =>
              if r.level.isSome then givenTwice
              else topArgs envLevel { r with level := some v } rest
            | none => topArgs envLevel { r with pending := some none } rest
        | ("help", some v) => unneededValue v (usageWith "taskq" (r.used ++ ["--help"]) "<COMMAND>")
        | ("help", none) =>
          match r.settle with
          | .error e => e
          | .ok _ => .help (topHelp envLevel)
        | (name, _) =>
          -- the waiting value is taken in first, so that the usage line names it
          let used := match r.settle with
            | .ok r => r.used
            | .error _ => r.used
          unknownLong name ["log-level", "help"] "taskq" used "<COMMAND>" topUsage
      else if !r.escaped && a.startsWith "-" && a != "-" then
        if firstShort a == 'h' then
          match r.settle with
          | .error e => e
          | .ok _ => .help (topHelp envLevel)
        else unexpected ("-" ++ (firstShort a).toString) [] topUsage
      else if waiting then topArgs envLevel { r with pending := some (some a) } rest
      else if r.escaped && ((Command.ofName? a).isSome || a == "help") then needlessEscape a
      else unrecognized a topUsage true

/-- What the arguments ask for; `envLevel` is the value of `LOG_LEVEL`, if it is set.
Without arguments the help is a usage error. -/
def parse (envLevel : Option String) (args : List String) : Invocation :=
  topArgs envLevel ⟨none, none, false⟩ args

end TaskQueue.Cli
