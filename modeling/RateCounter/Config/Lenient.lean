/-
  RateCounter.Config.Lenient — configurations put together from a file and the environment.

  A file in YAML or JSON gives a table of values; the names in it are paths. Environment
  variables whose names start with `HIVECOUNT__`, in any case, override it: what follows is a
  path as well, two underscores standing for a point; their values are texts. A value of the
  wrong type is converted where that makes sense: texts to whole numbers, truth values and
  numbers to texts. Alternatives are taken in any case, and so are names outside lists.
-/

import RateCounter.Config.Path
import RateCounter.Config.Yaml
import RateCounter.Json.Reader
import RateCounter.Word

namespace RateCounter

namespace Lenient

/-! ## Values in a YAML file -/

/-- A whole number of 64 bits: decimal, or after `0x` or `0o`; with a plus in front another sign
    may follow. -/
def integer? (cs : List Char) : Option Int :=
  let prefixed? := match cs with
    | '0' :: 'x' :: digits => Text.signedIn? 16 Word.count63 digits
    | '0' :: 'o' :: digits => Text.signedIn? 8 Word.count63 digits
    | '+' :: digits => Text.signed? Word.count63 digits
    | _ => none
  prefixed?.or (Text.signed? Word.count63 cs)

/-- What a scalar gives: nothing if its tag forbids it. -/
abbrev Loaded := Option Value

/-- A number that is not finite in the words of the format; no file may hold one. -/
def isForbidden (s : String) : Bool := s != ".NaN" && Yaml.isNotFinite s

def ofPlain (s : String) : Value :=
  if s = "" ∨ s = "~" ∨ s = "null" then .null
  else if s = "true" then .bool true
  else if s = "false" then .bool false
  else
    match integer? s.toList with
    | some n => .int n
    | none =>
      match Extended.ofText? s with
      | some x => .float x
      | none => .text s

/-- A scalar that the format's tag of this name says what to be. -/
def ofTagged (name s : String) : Loaded :=
  match name with
  | "bool" => if s = "true" then some (.bool true) else if s = "false" then some (.bool false) else none
  | "int" => (Text.int64? s).map .int
  | "float" => (Extended.ofText? s).map .float
  | "null" => if s = "~" ∨ s = "null" then some .null else none
  | _ => some (.text s)

/-- The value of a scalar, unless the file is refused. -/
def ofScalar? (p : Yaml.Properties) (s : Yaml.Scalar) : Option Loaded :=
  if s.style ≠ .plain then some (some (.text s.text))
  else
    match p.tag? with
    | none => if isForbidden s.text then none else some (some (ofPlain s.text))
    | some t =>
      if t.handle ≠ Yaml.coreHandle then some (some (.text s.text))
      else if t.suffix = "float" ∧ isForbidden s.text then none
      else some (ofTagged t.suffix s.text)

/-- The values that anchors mark so far. -/
abbrev Known := List (Nat × Loaded)

def remember (p : Yaml.Properties) (v : Loaded) (known : Known) : Known :=
  match p.anchor? with
  | some n => (n, v) :: known
  | none => known

inductive Key where
  | text (s : String)
  | number (n : Int)
  deriving DecidableEq, Repr

def Key.name : Key → String
  | text s => s
  | number n => toString n

/-- A key is a text or a whole number. -/
def Key.of? : Value → Option Key
  | .text s => some (text s)
  | .int n => some (number n)
  | _ => none

/-- The entries of keys and values that alternate. A key that is nothing is passed over, and what
    follows takes its place. No key may stand twice. -/
def pairUp? (acc : List (Key × Value)) : Option Value → List Loaded → Option (List (Key × Value))
  | _, [] => some acc.reverse
  | none, v :: rest => pairUp? acc v rest
  | some k, v :: rest =>
    (Key.of? k).bind fun key =>
      if (acc.lookup key).isSome then none else pairUp? ((key, v.getD .null) :: acc) none rest

/-- A number and a text of its digits are different keys, but one name; the later counts. -/
def tableOf (entries : List (Key × Value)) : Value :=
  .table (entries.foldl (fun fields e => put e.1.name e.2 fields) [])

mutual

/-- The value of a node. A reference to a node that it stands in is nothing. -/
def ofYaml? (known : Known) : Yaml → Option (Loaded × Known)
  | .reference n => some ((known.lookup n).getD none, known)
  | .scalar p s => (ofScalar? p s).map fun v => (v, remember p v known)
  | .list p items =>
    (ofItems? known items).map fun (vs, known) =>
      let v := some (.list (vs.map (·.getD .null)))
      (v, remember p v known)
  | .map p entries =>
    (ofEntries? known entries).bind fun (vs, known) =>
      (pairUp? [] none vs).map fun es => (some (tableOf es), remember p (some (tableOf es)) known)

def ofItems? (known : Known) : List Yaml → Option (List Loaded × Known)
  | [] => some ([], known)
  | y :: rest =>
    (ofYaml? known y).bind fun (v, known) => (ofItems? known rest).map fun (vs, known) => (v :: vs, known)

/-- Keys and values in turn. -/
def ofEntries? (known : Known) : List (Yaml × Yaml) → Option (List Loaded × Known)
  | [] => some ([], known)
  | (key, y) :: rest =>
    (ofYaml? known key).bind fun (k, known) =>
    (ofYaml? known y).bind fun (v, known) => (ofEntries? known rest).map fun (vs, known) => (k :: v :: vs, known)

end

/-- The table of a YAML text; a text without a document gives an empty one. -/
def yamlTable? (text : String) : Option Fields :=
  match Yaml.documentOf? .modern text with
  | none => none
  | some none => some []
  | some (some root) =>
    match ofYaml? [] root with
    | some (some (.table fields), _) => some fields
    | _ => none

/-! ## Values in a JSON file -/

mutual

/-- A JSON value; whole numbers of more than 64 bits with a sign are floats. -/
def ofJson : Json → Value
  | .null => .null
  | .bool b => .bool b
  | .int n => if Word.min63 ≤ n ∧ n ≤ Word.max63 then .int n else .float (.ofInt n)
  | .float x => .float (.finite x)
  | .text s => .text s
  | .list items => .list (ofJsonItems items)
  | .object fields => .table (ofJsonFields fields)

def ofJsonItems : List Json → List Value
  | [] => []
  | j :: rest => ofJson j :: ofJsonItems rest

def ofJsonFields : Json.Fields → Fields
  | [] => []
  | (k, j) :: rest => (k, ofJson j) :: ofJsonFields rest

end

def jsonTable? (text : String) : Option Fields :=
  match Json.read? text with
  | some (.object fields) => some (ofJsonFields fields)
  | _ => none

/-! ## Layers -/

def ownVariables : List Char := "hivecount__".toList

/-- The path that an environment variable overrides. -/
def variablePath? (name : String) : Option (List Step) :=
  let name := (Text.lower name).toList
  if ownVariables.isPrefixOf name then
    some (pathOf (".".intercalate ((String.ofList (name.drop ownVariables.length)).splitOn "__")))
  else none

def override (root : Value) (setting : String × String) : Value :=
  match variablePath? setting.1 with
  | none => root
  | some path => enterAt path (.text setting.2) root

/-- The table of a file, overridden by the environment. -/
def layers (file : Fields) (environment : List (String × String)) : Value :=
  environment.foldl override (file.foldl (fun root f => enterAt (pathOf f.1) f.2 root) (.table []))

/-! ## Conversions -/

def wordOfText? (s : String) : Option Nat :=
  if ["true", "on", "yes"].contains (Text.lower s) then some 1
  else if ["false", "off", "no"].contains (Text.lower s) then some 0
  else Text.word64? s

/-- The nearest whole number, a half away from zero, held within 0 … 2^64 − 1. -/
def wordOfFloat : Extended → Nat
  | .finite x =>
    let (n, d) := x.ratio
    if x.negative then 0 else min ((2 * n + d) / (2 * d)) Word.max64
  | .infinite negative => if negative then 0 else Word.max64
  | .notANumber => 0

def word? : Value → Option Nat
  | .int n => if 0 ≤ n then some n.toNat else none
  | .bool b => some b.toNat
  | .text s => wordOfText? s
  | .float x => some (wordOfFloat x)
  | _ => none

mutual

/-- A JSON value; a number that is not finite is null. -/
def toJson : Value → Json
  | .null => .null
  | .bool b => .bool b
  | .int n => .int n
  | .float x => (x.finite?.map Json.float).getD .null
  | .text s => .text s
  | .list items => .list (toJsonItems items)
  | .table fields => .object (toJsonFields [] fields)

def toJsonItems : List Value → List Json
  | [] => []
  | v :: rest => toJson v :: toJsonItems rest

def toJsonFields (acc : Json.Fields) : Fields → Json.Fields
  | [] => acc
  | (k, v) :: rest => toJsonFields (Json.put k (toJson v) acc) rest

end

end Lenient

namespace Format

/-- Of the fields of a structure in a list, those too many are passed over; an alternative may
    also be the name of the only field of a table. -/
def lenient : Format Lenient.Value where
  text?
    | .text s => some s
    | .bool b => some (if b then "true" else "false")
    | .int n => some (toString n)
    | .float x => some x.positional
    | _ => none
  word64? v := (Lenient.word? v).map UInt64.ofNat
  word32? v := ((Lenient.word? v).filter fun n => decide (n < Word.count32)).map UInt32.ofNat
  list?
    | .list items => some items
    | _ => none
  fields? names
    | .table fields => some fields
    | .list items => some (names.zip items)
    | _ => none
  alternative?
    | .text s => some (Text.lower s)
    | .table [(name, _)] => some (Text.lower name)
    | _ => none
  settings?
    | .table fields => some (Lenient.toJsonFields [] fields)
    | .null => some []
    | _ => none

end Format

end RateCounter
