import Std.Time.DateTime.Timestamp
import TaskQueue.Cli.Flow

/-!
# The command line

`main` runs `Cli.launch` on the arguments, the environment variables the program reads and
the wall clock.  Standard output gets each line as it is written, a log event after the
instant it was written at and its level padded to five characters.  A service that serves
lets its loops fire as real time passes, until standard input ends: that stands for the
interrupt.
-/

namespace TaskQueue.Cli

open Time

/-- The environment variables the program reads. -/
def readVariables : List String := "LOG_LEVEL" :: "RUST_LOG" :: Config.variableNames

/-- The variables the program reads, those that are set. -/
def readEnvironment : IO Env :=
  readVariables.filterMapM fun k => return (← IO.getEnv k).map (k, ·)

/-- The instant of the wall clock. -/
def wallClock : IO Instant := do
  let t ← Std.Time.Timestamp.now
  pure (Instant.ofUnixNanos t.toNanosecondsSinceUnixEpoch.val)

/-- A line as a terminal shows it, written at `now`. -/
def Line.stamped (now : Instant) : Line → String
  | .log e => now.toText ++ " " ++ "".pushn ' ' (5 - e.level.name.length) ++ e.line
  | .text s => s

/-- Writes the lines after the first `written`; answers how many are written. -/
def emit (out : List Line) (written : Nat) : IO Nat := do
  let now ← wallClock
  let stdout ← IO.getStdout
  for l in out.drop written do
    stdout.putStrLn (l.stamped now)
  stdout.flush
  pure out.length

/-- Reads standard input to its end. -/
partial def awaitEnd (stdin : IO.FS.Stream) : IO Unit := do
  let line ← stdin.getLine
  if line.isEmpty then return
  awaitEnd stdin

/-- Serves until the interrupt, the loops firing as real time passes. -/
partial def serveLoop (s : Serving) (interrupt : Task (Except IO.Error Unit))
    (written last : Nat) : IO Unit := do
  let written ← emit s.console.out written
  if ← IO.hasFinished interrupt then
    let _ ← emit s.interrupt.console.out written
  else
    IO.sleep 50
    let clock ← IO.monoMsNow
    serveLoop (s.wait (clock - last)) interrupt written clock

end TaskQueue.Cli

open TaskQueue TaskQueue.Cli

/-- Runs the program; the answer is its exit code. -/
def main (args : List String) : IO UInt32 := do
  let env ← readEnvironment
  let now ← wallClock
  match launch args env now with
  | .done o =>
    let _ ← emit o.out 0
    let stderr ← IO.getStderr
    for l in o.err do
      stderr.putStrLn l
    pure o.code.toUInt32
  | .serving s =>
    let stderr ← IO.getStderr
    for l in s.console.err do
      stderr.putStrLn l
    let interrupt ← IO.asTask (awaitEnd (← IO.getStdin)) Task.Priority.dedicated
    serveLoop s interrupt 0 (← IO.monoMsNow)
    pure 0
