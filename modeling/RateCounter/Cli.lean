/-
  RateCounter.Cli — the command line: a group from a configuration file, and one command on it.

  A command prints one line of JSON; `watch` prints one at every tick. A failure is told by
  its message and the exit code 1, a misuse by the exit code 2. Options override the file
  and the environment.
-/

import RateCounter.Cli.Arguments
import RateCounter.Config.File
import RateCounter.Failover.Report
import RateCounter.Json.Printer
import RateCounter.Registry

namespace RateCounter.Cli

abbrev Group := Failover Registry.Builtin

def versionLine : String := "hivecount 0.1.0"

/-- The configuration of a run, given the text of its file if it is there. -/
def configure (a : Arguments) (text : Option String) (environment : List (String × String)) : Except Error Config :=
  match Config.ofFile a.config text environment with
  | .error e => .error (.configuration e)
  | .ok c =>
    .ok { c with
      logging := { c.logging with format := a.logFormat.getD c.logging.format }
      strategy := a.strategy.getD c.strategy }

/-- The group of a configuration, built with the built-in kinds. -/
def build (c : Config) : Except Error Group := ((Registry.builtin id : Registry Unit Registry.Builtin.State).group c ()).1

/-! ## Commands -/

def operationOf? : Command → Option Operation
  | .increment key windowSecs => some (.increment key (seconds windowSecs))
  | .count key => some (.count key)
  | .resetTime key => some (.resetTime key)
  | .reset key => some (.reset key)
  | _ => none

/-- The line printed for the value of an operation. -/
def valueJson (key : String) : Value → Json
  | .count n => .object [("count", .int n), ("key", .text key)]
  | .resetTime t => .object [("key", .text key), ("reset_at", (t.map fun t => Json.text t.rfc3339).getD .null)]
  | .done => .object [("key", .text key), ("reset", .bool true)]

def operate (clock : Clock) (op : Operation) (g : Group) : Clock × Group × Except Error Value :=
  match (Failover.operate Registry.Builtin).call (g.patience + 1) clock op g with
  | (clock, g, some result) => (clock, g, result)
  | (clock, g, none) => (clock, g, .error (.allBackendsFailed op.name []))

def refresh (clock : Clock) (g : Group) : Clock × Group :=
  let (clock, g, _) := (Failover.refresh Registry.Builtin).call (g.patience + 1) clock () g
  (clock, g)

def statusJson (g : Group) : Json := BackendStatus.mapToJson g.status

/-- The line of a tick. -/
def reportJson (g : Group) : Json := .object [("backends", statusJson g), ("stats", g.stats.toJson)]

def keyOf : Command → String
  | .increment key _ | .count key | .resetTime key | .reset key => key
  | _ => ""

/-- The line that a command other than `watch` prints. -/
def perform (clock : Clock) (command : Command) (g : Group) : Except Error Json :=
  match operationOf? command with
  | some op => (operate clock op g).2.2.map (valueJson (keyOf command))
  | none =>
    let g := (refresh clock g).2
    .ok (if command = .stats then g.stats.toJson else statusJson g)

/-- The time between two ticks, at least a second. -/
def period (everySecs : Nat) : Nat := seconds (max everySecs 1)

/-- The lines of so many ticks, the first of them now. -/
def ticks (period : Nat) : Nat → Clock → Group → List Json
  | 0, _, _ => []
  | n + 1, clock, g =>
    let next := clock.mono + period
    let (clock, g) := refresh clock g
    reportJson g :: ticks period n (clock.waitUntil next) g

/-- How many ticks come before `stop`. -/
def tickCount (period stop : Nat) : Nat := (stop + period - 1) / period

/-! ## Runs -/

structure Outcome where
  exitCode : Nat
  lines : List String
  error : Option String
  deriving DecidableEq, Repr

def Outcome.printed (lines : List String) : Outcome := ⟨0, lines, none⟩

/-- The first line of a message. -/
def firstLine (message : String) : String := String.ofList (message.toList.takeWhile (· != '\n'))

def Outcome.failed (e : Error) : Outcome := ⟨1, [], some (firstLine e.message)⟩

/-- A run of a command on a fresh group; `watch` is stopped after `stop` nanoseconds. -/
def runOn (clock : Clock) (stop : Nat) (command : Command) (g : Group) : Outcome :=
  match command with
  | .watch everySecs =>
    let period := period everySecs
    .printed ((ticks period (tickCount period stop) clock g).map (Json.print false))
  | command =>
    match perform clock command g with
    | .ok line => .printed [line.print false]
    | .error e => .failed e

/-- A run of the command line, from the files and the environment it finds. -/
def run (words : List String) (file : String → Option String) (environment : List (String × String)) (clock : Clock)
    (stop : Nat) : Outcome :=
  match parse words with
  | .version => .printed [versionLine]
  | .help => .printed []
  | .misuse => ⟨2, [], none⟩
  | .run a =>
    match (configure a (file a.config) environment).bind build with
    | .error e => .failed e
    | .ok g => runOn clock stop a.command g

end RateCounter.Cli
