/-
  RateCounter.Main — the program: reads the configuration file, the environment and the clocks,
  and prints what `Cli` says.
-/

import Std.Time.DateTime.Timestamp
import RateCounter.Cli

namespace RateCounter.Main

def readClock : IO Clock := do
  let wall ← Std.Time.Timestamp.now
  let mono ← IO.monoNanosNow
  return ⟨wall.toNanosecondsSinceUnixEpoch.val, mono⟩

def readFile? (path : String) : IO (Option String) :=
  try return some (← IO.FS.readFile path)
  catch _ => return none

/-- The variables of the environment, which the system keeps as `name=value` with a final NUL each. -/
def readVariables : IO (List (String × String)) := do
  let text := (← readFile? "/proc/self/environ").getD ""
  return (text.splitOn "\x00").filterMap fun entry =>
    match entry.splitOn "=" with
    | name :: value :: rest => some (name, "=".intercalate (value :: rest))
    | _ => none

def fail (e : Error) : IO UInt32 := do
  IO.eprintln ("Error: " ++ e.message)
  return 1

/-- Prints a line at every tick until the process is stopped. -/
partial def watch (period : Nat) (g : Cli.Group) : IO UInt32 := do
  let (_, g) := Cli.refresh (← readClock) g
  IO.println ((Cli.reportJson g).print false)
  (← IO.getStdout).flush
  IO.sleep (UInt32.ofNat (period / nanosPerMilli))
  watch period g

def runCommand (g : Cli.Group) : Cli.Command → IO UInt32
  | .watch everySecs => watch (Cli.period everySecs) g
  | command => do
    match Cli.perform (← readClock) command g with
    | .ok line =>
      IO.println (line.print false)
      return 0
    | .error e => fail e

end RateCounter.Main

def main (args : List String) : IO UInt32 := do
  match RateCounter.Cli.parse args with
  | .version =>
    IO.println RateCounter.Cli.versionLine
    return 0
  | .help => return 0
  | .misuse => return 2
  | .run a =>
    let text ← RateCounter.Main.readFile? a.config
    let environment ← RateCounter.Main.readVariables
    match (RateCounter.Cli.configure a text environment).bind RateCounter.Cli.build with
    | .error e => RateCounter.Main.fail e
    | .ok g => RateCounter.Main.runCommand g a.command
