/-
  RateCounter.Config.Path — values put together layer by layer, and the paths into them.

  A path is a name followed by names after points and numbers in brackets, as in
  `backends[0].name`; a negative number counts from the end. What is entered at a path makes
  room for itself: whatever is no table or list on the way is replaced by one, and a list
  grows as far as needed. A table that is entered under a name is merged into the table that
  is there, its names in lower case.
-/

import RateCounter.Decimal.Extended

namespace RateCounter.Lenient

inductive Value where
  | null
  | bool (b : Bool)
  | int (n : Int)
  | float (x : Extended)
  | text (s : String)
  | list (items : List Value)
  | table (fields : List (String × Value))
  deriving Repr

instance : Inhabited Value := ⟨.null⟩

abbrev Fields := List (String × Value)

namespace Value

/-- The fields of a table; anything else has none. -/
def fields : Value → Fields
  | table fields => fields
  | _ => []

/-- The items of a list; anything else has none. -/
def items : Value → List Value
  | list items => items
  | _ => []

end Value

/-- Adds a field, or replaces the one of this name. -/
def put (name : String) (value : Value) : Fields → Fields
  | [] => [(name, value)]
  | (k, v) :: rest => if name = k then (name, value) :: rest else (k, v) :: put name value rest

mutual

/-- Enters a value under a name. A table without fields leaves alone what is there. -/
def enter (name : String) : Value → Fields → Fields
  | .table inner, fields =>
    let name := Text.lower name
    let there := (fields.lookup name).getD (.table [])
    put name (if inner.isEmpty then there else .table (enterAll inner there.fields)) fields
  | value, fields => put (Text.lower name) value fields

def enterAll : Fields → Fields → Fields
  | [], fields => fields
  | (name, value) :: rest, fields => enterAll rest (enter name value fields)

end

/-! ## Paths -/

inductive Step where
  | name (s : String)
  | index (i : Int)
  deriving DecidableEq, Repr

/-- The place of a number in a list of a length, from the end if it is negative. -/
def placeOf (i : Int) (length : Nat) : Nat := if 0 ≤ i then i.toNat else length - i.natAbs

/-- A list with at least so many items. -/
def grown (size : Nat) (items : List Value) : List Value :=
  items ++ List.replicate (size - items.length) .null

/-- Enters a value where a path leads from another. -/
def enterAt : List Step → Value → Value → Value
  | [], _, root => root
  | [.name s], value, root => .table (enter s value root.fields)
  | [.index i], value, root =>
    let k := placeOf i root.items.length
    .list ((grown (k + 1) root.items).set k value)
  | .name s :: path, value, root =>
    .table (put s (enterAt path value ((root.fields.lookup s).getD .null)) root.fields)
  | .index i :: path, value, root =>
    let k := placeOf i root.items.length
    let items := grown (k + 1) root.items
    .list (items.set k (enterAt path value (items.getD k .null)))

/-- The characters of the names in paths. -/
def isStepChar (c : Char) : Bool := c.isAlphanum || c == '_' || c == '-' || c == ' '

def isSpace (c : Char) : Bool := c == ' ' || c == '\t'

/-- A number of 64 bits with its closing bracket, blanks around it, and what follows. -/
def index? (cs : List Char) : Option (Int × List Char) :=
  let cs := cs.dropWhile isSpace
  let (minus, digits) := match cs with
    | '-' :: rest => (['-'], rest)
    | rest => ([], rest)
  (Text.signed? Word.count63 (minus ++ digits.takeWhile Char.isDigit)).bind fun i =>
    match (digits.dropWhile Char.isDigit).dropWhile isSpace with
    | ']' :: rest => some (i, rest)
    | _ => none

def name? (cs : List Char) : Option (String × List Char) :=
  let name := cs.takeWhile isStepChar
  if name.isEmpty then none else some (String.ofList name, cs.dropWhile isStepChar)

/-- The steps after the first name. The fuel is the number of characters. -/
def stepsFrom : Nat → List Char → Option (List Step)
  | _, [] => some []
  | 0, _ => none
  | fuel + 1, '.' :: cs => (name? cs).bind fun (s, rest) => (stepsFrom fuel rest).map (.name s :: ·)
  | fuel + 1, '[' :: cs => (index? cs).bind fun (i, rest) => (stepsFrom fuel rest).map (.index i :: ·)
  | _, _ => none

/-- The path that a text is in lower case; a text of another form is one name. -/
def pathOf (key : String) : List Step :=
  let cs := (Text.lower key).toList
  ((name? cs).bind fun (s, rest) => (stepsFrom rest.length rest).map (.name s :: ·)).getD [.name key]

end RateCounter.Lenient
