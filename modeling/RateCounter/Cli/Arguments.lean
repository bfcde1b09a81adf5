/-
  RateCounter.Cli.Arguments — what the words of a command line ask for.

  Options for all commands stand before the command, each at most once; an option's value is
  the next word or follows an equals sign. A command takes at most one key, and after `--`
  a key may start with a dash. The first word that asks for help or the version decides, as
  does the first that is wrong.
-/

import RateCounter.Config
import RateCounter.Text.Integer

namespace RateCounter.Cli

inductive Command where
  | increment (key : String) (windowSecs : Nat)
  | count (key : String)
  | resetTime (key : String)
  | reset (key : String)
  | status
  | stats
  | watch (everySecs : Nat)
  deriving DecidableEq, Repr

structure Arguments where
  config : String
  logFormat : Option LogFormat
  strategy : Option Strategy
  command : Command
  deriving DecidableEq, Repr

inductive Invocation where
  | run (a : Arguments)
  | version
  | help
  | misuse
  deriving DecidableEq, Repr

/-! ## Words -/

inductive Word where
  | plain (s : String)
  /-- A name after two dashes, and the value after its equals sign. -/
  | long (name : String) (value : Option String)
  /-- A letter after one dash, and what follows it. -/
  | short (letter : Char) (rest : List Char)
  /-- Two dashes alone. -/
  | onlyPlain
  deriving DecidableEq, Repr

def longWord (cs : List Char) : Word :=
  let name := String.ofList (cs.takeWhile (· != '='))
  match cs.dropWhile (· != '=') with
  | [] => .long name none
  | _ :: value => .long name (some (String.ofList value))

def Word.of (s : String) : Word :=
  match s.toList with
  | ['-', '-'] => .onlyPlain
  | '-' :: '-' :: cs => longWord cs
  | '-' :: c :: cs => .short c cs
  | _ => .plain s

/-- Whether a word can be the value of an option. -/
def isValue (s : String) : Bool :=
  match Word.of s with
  | .plain _ => true
  | _ => false

/-! ## Options of a command -/

/-- What a command takes, and what it was given so far. -/
structure Draft where
  takesKey : Bool
  /-- The name of its numeric option. -/
  option : Option String
  key : Option String
  number : Option Nat
  deriving DecidableEq, Repr

def Draft.addKey (d : Draft) (s : String) : Option Draft :=
  if d.takesKey && d.key.isNone then some { d with key := some s } else none

def Draft.addNumber (d : Draft) (s : String) : Option Draft :=
  if d.number.isNone then (Text.word64? s).map fun n => { d with number := some n } else none

/-- Takes the words after a command; stops early at help or a mistake. -/
def Draft.take : Draft → (onlyPlain : Bool) → List String → Except Invocation Draft
  | d, _, [] => .ok d
  | d, true, s :: rest =>
    match d.addKey s with
    | some d => take d true rest
    | none => .error .misuse
  | d, false, s :: rest =>
    match Word.of s with
    | .onlyPlain => take d true rest
    | .plain s =>
      match d.addKey s with
      | some d => take d false rest
      | none => .error .misuse
    | .short letter _ => .error (if letter = 'h' then .help else .misuse)
    | .long "help" none => .error .help
    | .long name value =>
      if d.option = some name then
        match value, rest with
        | some value, rest =>
          match d.addNumber value with
          | some d => take d false rest
          | none => .error .misuse
        | none, value :: rest =>
          if isValue value then
            match d.addNumber value with
            | some d => take d false rest
            | none => .error .misuse
          else .error .misuse
        | none, [] => .error .misuse
      else .error .misuse

def withKey (make : String → Command) (d : Draft) : Option Command := d.key.map make

/-- What the command of a name takes, and the command it makes of that. -/
def commandNamed? (name : String) : Option (Draft × (Draft → Option Command)) :=
  let key : Draft := ⟨true, none, none, none⟩
  let bare : Draft := ⟨false, none, none, none⟩
  match name with
  | "increment" =>
    some ({ key with option := some "window-secs" }, fun d => d.key.map fun k => .increment k (d.number.getD 60))
  | "count" => some (key, withKey .count)
  | "reset-time" => some (key, withKey .resetTime)
  | "reset" => some (key, withKey .reset)
  | "status" => some (bare, fun _ => some .status)
  | "stats" => some (bare, fun _ => some .stats)
  | "watch" => some ({ bare with option := some "every-secs" }, fun d => some (.watch (d.number.getD 5)))
  | _ => none

/-! ## Options before the command -/

structure Options where
  config : Option String
  logFormat : Option LogFormat
  strategy : Option Strategy
  deriving DecidableEq, Repr

namespace Options

def none : Options := ⟨.none, .none, .none⟩

/-- Sets an option that is not set yet; a path is not empty. -/
def set (o : Options) (name value : String) : Option Options :=
  match name with
  | "config" => if o.config.isNone && !value.isEmpty then some { o with config := some value } else .none
  | "log-format" =>
    if o.logFormat.isNone then (LogFormat.ofName? value).map fun f => { o with logFormat := some f } else .none
  | "strategy" =>
    if o.strategy.isNone then (Strategy.ofName? value).map fun s => { o with strategy := some s } else .none
  | _ => .none

def isName (name : String) : Bool := name = "config" || name = "log-format" || name = "strategy"

end Options

def defaultConfig : String := "hivecount.yaml"

/-- Help on the commands named. -/
def helpOn : List String → Invocation
  | [] => .help
  | [name] => if (commandNamed? name).isSome || name = "help" then .help else .misuse
  | _ => .misuse

def runCommand (o : Options) (name : String) (rest : List String) : Invocation :=
  if name = "help" then helpOn rest
  else
    match commandNamed? name with
    | none => .misuse
    | some (draft, make) =>
      match draft.take false rest with
      | .error other => other
      | .ok draft =>
        match make draft with
        | none => .misuse
        | some command => .run ⟨o.config.getD defaultConfig, o.logFormat, o.strategy, command⟩

/-- The value that stands in the same word as its short option. -/
def attached : List Char → String
  | '=' :: cs => String.ofList cs
  | cs => String.ofList cs

def parseFrom : Options → List String → Invocation
  | _, [] => .misuse
  | o, s :: rest =>
    match Word.of s with
    | .onlyPlain => .misuse
    | .plain name => runCommand o name rest
    | .short 'h' _ => .help
    | .short 'V' _ => .version
    | .short 'c' (c :: cs) =>
      match o.set "config" (attached (c :: cs)) with
      | some o => parseFrom o rest
      | none => .misuse
    | .short 'c' [] =>
      match rest with
      | value :: rest =>
        match (if isValue value then o.set "config" value else none) with
        | some o => parseFrom o rest
        | none => .misuse
      | [] => .misuse
    | .short _ _ => .misuse
    | .long "help" none => .help
    | .long "version" none => .version
    | .long name (some value) =>
      match o.set name value with
      | some o => parseFrom o rest
      | none => .misuse
    | .long name none =>
      match rest with
      | value :: rest =>
        match (if isValue value then o.set name value else none) with
        | some o => parseFrom o rest
        | none => .misuse
      | [] => .misuse

/-- What a command line asks for. -/
def parse (words : List String) : Invocation := parseFrom .none words

end RateCounter.Cli
