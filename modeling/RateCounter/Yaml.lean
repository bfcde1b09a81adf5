/-
  RateCounter.Yaml — documents of the YAML data format.

  A node is a scalar, a list, a mapping or a reference to a node that carries an anchor. A
  scalar keeps its text and the way it is written; what the text means is for the reader of
  the document to say. A missing node is the empty plain scalar. Keys are nodes as well; the
  entries of a mapping stand in the order of the document.
-/

namespace RateCounter

namespace Yaml

inductive Style where
  | plain
  | single
  | double
  | literal
  | folded
  deriving DecidableEq, Repr

structure Scalar where
  style : Style
  text : String
  deriving DecidableEq, Repr

def Scalar.empty : Scalar := ⟨.plain, ""⟩

/-- Nothing is written at all, tags and anchors apart. -/
def Scalar.isMissing (s : Scalar) : Bool := s.style = .plain && s.text.isEmpty

/-- A tag, split after its resolved handle. -/
structure Tag where
  handle : String
  suffix : String
  deriving DecidableEq, Repr

def Tag.text (t : Tag) : String := t.handle ++ t.suffix

/-- The handle of the tags that the format itself defines. -/
def coreHandle : String := "tag:yaml.org,2002:"

/-- What stands before a node. Anchors are numbered. -/
structure Properties where
  anchor? : Option Nat
  tag? : Option Tag
  deriving DecidableEq, Repr

def Properties.none : Properties := ⟨.none, .none⟩

end Yaml

inductive Yaml where
  | scalar (properties : Yaml.Properties) (s : Yaml.Scalar)
  | list (properties : Yaml.Properties) (items : List Yaml)
  | map (properties : Yaml.Properties) (entries : List (Yaml × Yaml))
  | reference (anchor : Nat)
  deriving Repr

namespace Yaml

def missing : Yaml := .scalar .none .empty

instance : Inhabited Yaml := ⟨missing⟩

def properties : Yaml → Properties
  | .scalar p _ | .list p _ | .map p _ => p
  | .reference _ => .none

/-- The anchors in a node with what they mark, in the order in which they are written. -/
def anchorHere (y : Yaml) : List (Nat × Yaml) := (y.properties.anchor?.map fun n => (n, y)).toList

mutual

def anchors : Yaml → List (Nat × Yaml)
  | .list p items => anchorHere (.list p items) ++ anchorsOfItems items
  | .map p entries => anchorHere (.map p entries) ++ anchorsOfEntries entries
  | y => anchorHere y

def anchorsOfItems : List Yaml → List (Nat × Yaml)
  | [] => []
  | y :: rest => anchors y ++ anchorsOfItems rest

def anchorsOfEntries : List (Yaml × Yaml) → List (Nat × Yaml)
  | [] => []
  | (key, value) :: rest => anchors key ++ anchors value ++ anchorsOfEntries rest

end

mutual

/-- How many marks a document with this root has: one for each scalar and reference, two for
    each list and mapping. -/
def weight : Yaml → Nat
  | .list _ items => 2 + weightOfItems items
  | .map _ entries => 2 + weightOfEntries entries
  | _ => 1

def weightOfItems : List Yaml → Nat
  | [] => 0
  | y :: rest => weight y + weightOfItems rest

def weightOfEntries : List (Yaml × Yaml) → Nat
  | [] => 0
  | (key, value) :: rest => weight key + weight value + weightOfEntries rest

end

end Yaml

end RateCounter
