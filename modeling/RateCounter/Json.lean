/-
  RateCounter.Json — values of the JSON data format.

  Whole numbers and numbers written with a point or an exponent are told apart. The fields
  of an object are kept in ascending order of their names, each name once (`Json.put`).
-/

import RateCounter.Decimal.Double

namespace RateCounter

inductive Json where
  | null
  | bool (b : Bool)
  | int (n : Int)
  | float (x : Double)
  | text (s : String)
  | list (items : List Json)
  | object (fields : List (String × Json))
  deriving Repr

namespace Json

abbrev Fields := List (String × Json)

/-- Adds or replaces a field, keeping the names in ascending order. -/
def put (name : String) (value : Json) : Fields → Fields
  | [] => [(name, value)]
  | (k, v) :: rest =>
    if name < k then (name, value) :: (k, v) :: rest
    else if name = k then (name, value) :: rest
    else (k, v) :: put name value rest

/-- The object with these fields; of two with one name the later counts. -/
def ofFields (fields : Fields) : Json := object (fields.foldl (fun acc f => put f.1 f.2 acc) [])

def Fields.get? (fields : Fields) (name : String) : Option Json := fields.lookup name

def get? (name : String) : Json → Option Json
  | object fields => fields.lookup name
  | _ => none

mutual

def decEq : (a b : Json) → Decidable (a = b)
  | null, null => isTrue rfl
  | bool a, bool b => if h : a = b then isTrue (by rw [h]) else isFalse (by simp [h])
  | int a, int b => if h : a = b then isTrue (by rw [h]) else isFalse (by simp [h])
  | float a, float b => if h : a = b then isTrue (by rw [h]) else isFalse (by simp [h])
  | text a, text b => if h : a = b then isTrue (by rw [h]) else isFalse (by simp [h])
  | list a, list b =>
    match listDecEq a b with
    | isTrue h => isTrue (by rw [h])
    | isFalse h => isFalse (by simp [h])
  | object a, object b =>
    match fieldsDecEq a b with
    | isTrue h => isTrue (by rw [h])
    | isFalse h => isFalse (by simp [h])
  | null, bool _ | null, int _ | null, float _ | null, text _ | null, list _ | null, object _
  | bool _, null | bool _, int _ | bool _, float _ | bool _, text _ | bool _, list _ | bool _, object _
  | int _, null | int _, bool _ | int _, float _ | int _, text _ | int _, list _ | int _, object _
  | float _, null | float _, bool _ | float _, int _ | float _, text _ | float _, list _ | float _, object _
  | text _, null | text _, bool _ | text _, int _ | text _, float _ | text _, list _ | text _, object _
  | list _, null | list _, bool _ | list _, int _ | list _, float _ | list _, text _ | list _, object _
  | object _, null | object _, bool _ | object _, int _ | object _, float _ | object _, text _
  | object _, list _ => isFalse (by simp)

def listDecEq : (a b : List Json) → Decidable (a = b)
  | [], [] => isTrue rfl
  | [], _ :: _ => isFalse (by simp)
  | _ :: _, [] => isFalse (by simp)
  | x :: xs, y :: ys =>
    match decEq x y, listDecEq xs ys with
    | isTrue h, isTrue hs => isTrue (by rw [h, hs])
    | isFalse h, _ => isFalse (by simp [h])
    | _, isFalse hs => isFalse (by simp [hs])

def fieldsDecEq : (a b : List (String × Json)) → Decidable (a = b)
  | [], [] => isTrue rfl
  | [], _ :: _ => isFalse (by simp)
  | _ :: _, [] => isFalse (by simp)
  | (k, x) :: xs, (l, y) :: ys =>
    if hk : k = l then
      match decEq x y, fieldsDecEq xs ys with
      | isTrue h, isTrue hs => isTrue (by rw [hk, h, hs])
      | isFalse h, _ => isFalse (by simp [h])
      | _, isFalse hs => isFalse (by simp [hs])
    else isFalse (by simp [hk])

end

instance : DecidableEq Json := decEq

instance : Inhabited Json := ⟨null⟩

end Json

end RateCounter
