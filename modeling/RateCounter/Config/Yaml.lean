/-
  RateCounter.Config.Yaml — configurations as YAML texts.

  Where a text is expected a scalar is taken as written. A whole number is a plain scalar:
  an optional sign and decimal digits without leading zeros, or digits after `0x`, `0o` or
  `0b`. A missing value is an empty list, mapping or structure, a written null is not. A
  field may stand only once. An alternative may also be the tag of a missing value.

  In settings a plain scalar is whatever it looks like: null, a truth value, a number, or
  else a text; a tag of the format itself says what it has to be, and other tags make it a
  text. A reference stands for the node it names; lists and mappings lie at most 128 deep,
  and references are followed at most 100 times as often as the document has marks.
-/

import RateCounter.Config.Format
import RateCounter.Config.Json
import RateCounter.Decimal.Reader
import RateCounter.Yaml.Document
import RateCounter.Word

namespace RateCounter

namespace Yaml

/-! ## Meanings of scalars -/

def isNull (s : String) : Bool := ["~", "null", "Null", "NULL"].contains s

def truth? (s : String) : Option Bool :=
  if ["true", "True", "TRUE"].contains s then some true
  else if ["false", "False", "FALSE"].contains s then some false
  else none

/-- Digits of which the first is a superfluous zero, after an optional sign. -/
def isZeroPadded (cs : List Char) : Bool :=
  match (Double.splitSign cs).2 with
  | '0' :: d :: rest => (d :: rest).all Char.isDigit
  | _ => false

/-- Digits in the radix that the text announces. -/
def magnitude? : List Char → Option Nat
  | '0' :: 'x' :: cs => Text.naturalIn? 16 cs
  | '0' :: 'o' :: cs => Text.naturalIn? 8 cs
  | '0' :: 'b' :: cs => Text.naturalIn? 2 cs
  | cs => if isZeroPadded cs then none else Text.natural? cs

/-- A whole number without a minus. -/
def natural? : List Char → Option Nat
  | '+' :: cs => magnitude? cs
  | cs => magnitude? cs

def integer? : List Char → Option Int
  | '-' :: cs => (magnitude? cs).map fun n => -(n : Int)
  | cs => (natural? cs).map fun n => (n : Int)

/-- 64 bits, with a sign or without. -/
def isShort (n : Int) : Bool := Word.min63 ≤ n && n < Word.count64

/-- 128 bits, with a sign or without. -/
def isLong (n : Int) : Bool :=
  -(Word.count63 * Word.count64 : Nat) ≤ n && n < (Word.count64 * Word.count64 : Nat)

/-- A number that is not finite; there is no other way to write one. -/
def isNotFinite (s : String) : Bool :=
  [".inf", ".Inf", ".INF", "+.inf", "+.Inf", "+.INF", "-.inf", "-.Inf", "-.INF", ".nan", ".NaN", ".NAN"].contains s

/-- A number with a point or an exponent, or past the range of whole numbers; null if it is not
    finite. -/
def float? (s : String) : Option Json :=
  if isNotFinite s then some .null else (Double.ofText? s).map .float

/-- The value of a plain scalar; whole numbers of 65 to 128 bits are refused. -/
def plainValue? (s : String) : Option Json :=
  if s.isEmpty || isNull s then some .null
  else
    match truth? s with
    | some b => some (.bool b)
    | none =>
      let other := if isZeroPadded s.toList then .text s else (float? s).getD (.text s)
      match integer? s.toList with
      | some n => if isShort n then some (.int n) else if isLong n then none else some other
      | none => some other

/-- A tag that is not resolved any further. -/
def Tag.isLocal (t : Tag) : Bool := t.text.startsWith "!"

/-- The tag of the format itself with this name. -/
def Tag.isCore (t : Tag) (name : String) : Bool := t.text == coreHandle ++ name

def Properties.isLocal (p : Properties) : Bool := p.tag?.any Tag.isLocal

/-- The value of a scalar with its tag. -/
def taggedValue? (t : Tag) (s : String) : Option Json :=
  if t.isLocal then none
  else if t.isCore "bool" then (truth? s).map .bool
  else if t.isCore "int" then ((integer? s.toList).filter isShort).map .int
  else if t.isCore "float" then float? s
  else if t.isCore "null" then if isNull s then some .null else none
  else some (.text s)

/-- The value of a node that is neither a list nor a mapping. -/
def scalarValue? : Yaml → Option Json
  | .scalar p s =>
    match p.tag? with
    | some t => taggedValue? t s.text
    | none => if s.style = .plain then plainValue? s.text else some (.text s.text)
  | _ => none

/-! ## References -/

/-- What the anchors of a document mark, the last first. -/
abbrev Anchors := List (Nat × Yaml)

/-- The node, or what it refers to. -/
def follow? (anchors : Anchors) : Yaml → Option Yaml
  | .reference n => anchors.lookup n
  | y => some y

/-- The same, if a reference may still be followed; and how many still may. -/
def followCounted? (anchors : Anchors) (left : Nat) : Yaml → Option (Yaml × Nat)
  | .reference n => if left = 0 then none else (anchors.lookup n).map fun y => (y, left - 1)
  | y => some (y, left)

def scalarText? : Yaml → Option String
  | .scalar _ s => some s.text
  | _ => none

/-! ## Settings -/

/-- Reads values with a count of references left. -/
abbrev Reads := Nat → Yaml → Option (Json × Nat)

def itemsToJson? (read : Reads) : Nat → List Yaml → Option (List Json × Nat)
  | left, [] => some ([], left)
  | left, y :: rest =>
    (read left y).bind fun (j, left) => (itemsToJson? read left rest).map fun (js, left) => (j :: js, left)

/-- Of two entries with one key the later counts. -/
def entriesToJson? (anchors : Anchors) (read : Reads) :
    Json.Fields → Nat → List (Yaml × Yaml) → Option (Json.Fields × Nat)
  | acc, left, [] => some (acc, left)
  | acc, left, (key, y) :: rest =>
    (followCounted? anchors left key).bind fun (key, left) =>
    (scalarText? key).bind fun name =>
    (read left y).bind fun (j, left) => entriesToJson? anchors read (Json.put name j acc) left rest

/-- A node as a JSON value, lists and mappings at most `depth` deep. -/
def toJson? (anchors : Anchors) : (depth : Nat) → Reads
  | 0, left, y => (followCounted? anchors left y).bind fun (y, left) => (scalarValue? y).map fun j => (j, left)
  | depth + 1, left, y =>
    (followCounted? anchors left y).bind fun (y, left) =>
      match y with
      | .list p items =>
        if p.isLocal then none
        else (itemsToJson? (toJson? anchors depth) left items).map fun (js, left) => (.list js, left)
      | .map p entries =>
        if p.isLocal then none
        else (entriesToJson? anchors (toJson? anchors depth) [] left entries).map fun (fs, left) => (.object fs, left)
      | y => (scalarValue? y).map fun j => (j, left)

/-- How deep lists and mappings may lie. -/
def maxDepth : Nat := 128

/-! ## Fields -/

/-- A whole number from 0 to `max`. -/
def atMost? (max : Nat) : Yaml → Option Nat
  | .scalar p s =>
    if s.style = .plain ∨ (s.style = .literal ∧ p.tag?.any (·.isCore "int")) then
      Text.atMost? max (natural? s.text.toList)
    else none
  | _ => none

/-- A name, or the tag of nothing. -/
def alternative? : Yaml → Option String
  | .scalar p s =>
    if p.isLocal then
      if s.style = .plain && (s.text.isEmpty || isNull s.text) then p.tag?.map fun t => (t.text.drop 1).toString
      else none
    else some s.text
  | _ => none

/-- Entries with the names that their keys are. -/
def named? (anchors : Anchors) : List (Yaml × Yaml) → Option (List (String × Yaml))
  | [] => some []
  | (key, y) :: rest =>
    ((follow? anchors key).bind scalarText?).bind fun name => (named? anchors rest).map ((name, y) :: ·)

/-- Whether two entries name the same of these fields. -/
def repeatsField (names : List String) : List (String × Yaml) → Bool
  | [] => false
  | (name, _) :: rest => (names.contains name && rest.any fun e => e.1 == name) || repeatsField names rest

end Yaml

namespace Format

/-- The settings of a backend lie below four mappings and lists, themselves included. -/
def yaml (anchors : Yaml.Anchors) (references : Nat) : Format Yaml where
  text? y := (Yaml.follow? anchors y).bind Yaml.scalarText?
  word64? y := ((Yaml.follow? anchors y).bind (Yaml.atMost? Word.max64)).map UInt64.ofNat
  word32? y := ((Yaml.follow? anchors y).bind (Yaml.atMost? (Word.count32 - 1))).map UInt32.ofNat
  list? y :=
    match Yaml.follow? anchors y with
    | some (.list _ items) => some items
    | some (.scalar _ s) => if s.isMissing then some [] else none
    | _ => none
  fields? names y :=
    match Yaml.follow? anchors y with
    | some (.map _ entries) => (Yaml.named? anchors entries).filter fun fields => !Yaml.repeatsField names fields
    | some (.scalar _ s) => if s.isMissing then some [] else none
    | _ => none
  alternative? y := (Yaml.follow? anchors y).bind Yaml.alternative?
  settings? y :=
    match Yaml.follow? anchors y with
    | some (.map _ entries) =>
      (Yaml.entriesToJson? anchors (Yaml.toJson? anchors (Yaml.maxDepth - 4)) [] references entries).map
        fun (fields, _) => fields
    | some (.scalar _ s) => if s.isMissing then some [] else none
    | _ => none

end Format

namespace Config

/-- The configuration a YAML text holds, sound or not. -/
def ofYaml? (text : String) : Option Config :=
  match Yaml.documentOf? .classic text with
  | some (some root) => ofDocument? (Format.yaml root.anchors.reverse (100 * root.weight)) root
  | _ => none

/-- Accepts a sound configuration only. -/
def sound (c : Config) : Except ConfigError Config :=
  match c.check with
  | .ok () => .ok c
  | .error e => .error e

/-- Reads a sound configuration from a YAML text. -/
def ofYaml (text : String) : Except ConfigError Config :=
  match ofYaml? text with
  | none => .error (.unreadable "Failed to parse config: ")
  | some c => sound c

end Config

end RateCounter
