/-
  RateCounter.Config — the configuration of a group of backends, and when it is sound.

  The order of the backends is the order of failover. A configuration is sound if it names
  at least one backend, every name and kind is more than blank, names are pairwise
  different, and the threshold and the two timeouts are not zero (`check` tells the first
  thing that is wrong).
-/

import RateCounter.Error
import RateCounter.Strategy
import RateCounter.Text.Blank
import RateCounter.Time

namespace RateCounter

/-- A backend: its name, the kind that is registered for it, and settings for that kind. -/
structure BackendSpec where
  name : String
  kind : String
  settings : Json.Fields
  deriving DecidableEq, Repr

inductive LogFormat where
  | text
  | json
  deriving DecidableEq, Repr

namespace LogFormat

def name : LogFormat → String
  | text => "text"
  | json => "json"

def ofName? (s : String) : Option LogFormat :=
  if s = "text" then some text else if s = "json" then some json else none

theorem ofName?_name (f : LogFormat) : ofName? f.name = some f := by cases f <;> decide

end LogFormat

structure Logging where
  level : String
  format : LogFormat
  deriving DecidableEq, Repr

def Logging.default : Logging := ⟨"info", .text⟩

structure Config where
  backends : List BackendSpec
  strategy : Strategy
  healthCheckIntervalSecs : UInt64
  healthCheckTimeoutMs : UInt64
  failureThreshold : UInt32
  operationTimeoutMs : UInt64
  logging : Logging
  deriving DecidableEq, Repr

namespace Config

/-- These backends under the default rules. -/
def ofBackends (backends : List BackendSpec) : Config := ⟨backends, .firstHealthy, 30, 500, 1, 1000, .default⟩

/-! ## Lengths of time, in nanoseconds -/

def interval (c : Config) : Nat := seconds c.healthCheckIntervalSecs.toNat
def checkTimeout (c : Config) : Nat := millis c.healthCheckTimeoutMs.toNat
def operationTimeout (c : Config) : Nat := millis c.operationTimeoutMs.toNat

/-! ## Soundness -/

/-- Checks the backends in order; `seen` are the names before them. -/
def checkBackends : List String → List BackendSpec → Except ConfigError Unit
  | _, [] => .ok ()
  | seen, b :: rest =>
    if Text.isBlank b.name then .error .blankName
    else if Text.isBlank b.kind then .error (.blankKind b.name)
    else if b.name ∈ seen then .error (.duplicateName b.name)
    else checkBackends (b.name :: seen) rest

/-- Accepts a sound configuration, or tells the first problem. -/
def check (c : Config) : Except ConfigError Unit :=
  if c.backends = [] then .error .noBackends
  else
    match checkBackends [] c.backends with
    | .error e => .error e
    | .ok () =>
      if c.failureThreshold = 0 then .error .zeroThreshold
      else if c.operationTimeoutMs = 0 then .error .zeroOperationTimeout
      else if c.healthCheckTimeoutMs = 0 then .error .zeroCheckTimeout
      else .ok ()

end Config

end RateCounter
