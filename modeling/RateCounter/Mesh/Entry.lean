/-
  RateCounter.Mesh.Entry — one node's contribution to the window of a key, and its text.

  An entry is written as `start:end:count`. Accepted are exactly three fields: two signed
  numbers of 64 bits and an unsigned one, each with an optional plus sign and any number
  of leading zeros. Times are milliseconds since the epoch.
-/

import RateCounter.Text.Integer
import RateCounter.Word

namespace RateCounter.Mesh

structure Entry where
  start : Int
  ends : Int
  count : Nat
  deriving DecidableEq, Repr

namespace Entry

def toText (e : Entry) : String := toString e.start ++ ":" ++ toString e.ends ++ ":" ++ toString e.count

/-- The fields between colons; there is always at least one. -/
def fieldsOf : List Char → List (List Char)
  | [] => [[]]
  | c :: cs =>
    if c = ':' then [] :: fieldsOf cs
    else
      match fieldsOf cs with
      | [] => [[c]]
      | field :: rest => (c :: field) :: rest

def ofText? (s : String) : Option Entry :=
  match fieldsOf s.toList with
  | [start, ends, count] =>
    match Text.signed? Word.count63 start, Text.signed? Word.count63 ends, Text.unsigned? Word.max64 count with
    | some start, some ends, some count => some ⟨start, ends, count⟩
    | _, _, _ => none
  | _ => none

end Entry

end RateCounter.Mesh
