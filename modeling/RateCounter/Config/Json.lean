/-
  RateCounter.Config.Json — configurations as JSON values.

  Types are strict: a whole number is never read from a float or a text, and `null` is no
  value. A structure may also be given as the list of its fields in order, of which the last
  may be missing; an alternative also as `{name: null}`. Written are all fields.
-/

import RateCounter.Config.Format
import RateCounter.Word

namespace RateCounter

namespace Format

/-- A list of values in the order of the names; it may be shorter. -/
def positional? {δ : Type} (names : List String) (items : List δ) : Option (List (String × δ)) :=
  if items.length ≤ names.length then some (names.zip items) else none

def json : Format Json where
  text?
    | .text s => some s
    | _ => none
  word64?
    | .int n => if 0 ≤ n ∧ n < Word.count64 then some (UInt64.ofNat n.toNat) else none
    | _ => none
  word32?
    | .int n => if 0 ≤ n ∧ n < Word.count32 then some (UInt32.ofNat n.toNat) else none
    | _ => none
  list?
    | .list items => some items
    | _ => none
  fields? names
    | .object fields => some fields
    | .list items => positional? names items
    | _ => none
  alternative?
    | .text s => some s
    | .object [(name, .null)] => some name
    | _ => none
  settings?
    | .object fields => some fields
    | _ => none

end Format

namespace Config

def ofJson? (j : Json) : Option Config := ofDocument? Format.json j

def backendToJson (b : BackendSpec) : Json :=
  .object [("kind", .text b.kind), ("name", .text b.name), ("settings", .object b.settings)]

def loggingToJson (l : Logging) : Json := .object [("format", .text l.format.name), ("level", .text l.level)]

def toJson (c : Config) : Json :=
  .object
    [("backends", .list (c.backends.map backendToJson)),
     ("failure_threshold", .int c.failureThreshold.toNat),
     ("health_check_interval_secs", .int c.healthCheckIntervalSecs.toNat),
     ("health_check_timeout_ms", .int c.healthCheckTimeoutMs.toNat),
     ("logging", loggingToJson c.logging),
     ("operation_timeout_ms", .int c.operationTimeoutMs.toNat),
     ("strategy", .text c.strategy.name)]

end Config

end RateCounter
