/-
  RateCounter.Yaml.Token — the tokens of a YAML text.
-/

import RateCounter.Yaml

namespace RateCounter.Yaml

inductive Token where
  | version (major minor : Nat)
  /-- A handle and what it stands for; nothing for a directive that is not known. -/
  | tagHandle (handle meaning : String)
  | documentStart
  | documentEnd
  | blockListStart
  | blockMapStart
  | blockEnd
  | flowListStart
  | flowListEnd
  | flowMapStart
  | flowMapEnd
  | item
  | comma
  | key
  | value
  | reference (name : String)
  | anchor (name : String)
  /-- The handle as written, and the rest of the tag. -/
  | tag (handle suffix : String)
  | scalar (s : Scalar)
  deriving DecidableEq, Repr

end RateCounter.Yaml
