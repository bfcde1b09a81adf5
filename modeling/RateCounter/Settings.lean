/-
  RateCounter.Settings — reading the free-form settings of a backend.

  Settings are the fields of a JSON object. Each field is looked at in turn, in ascending
  order of the names; the first that is not known or has the wrong type is the problem
  reported. A missing field is reported only if nothing else is wrong. Fields that are left
  out take their defaults.
-/

import RateCounter.Net.Address
import RateCounter.Settings.Problem
import RateCounter.Word

namespace RateCounter.Settings

/-! ## Values -/

/-- A whole number of 64 bits without a sign. -/
def word64 : Json → Except Problem UInt64
  | .int n =>
    if 0 ≤ n ∧ n ≤ Word.max64 then .ok (UInt64.ofNat n.toNat) else .error (.outOfRange n .word64)
  | value => .error (.wrongType value .word64)

def text : Json → Except Problem String
  | .text s => .ok s
  | value => .error (.wrongType value .text)

def texts : Json → Except Problem (List String)
  | .list items => items.mapM text
  | value => .error (.wrongType value .list)

def address : Json → Except Problem Net.Address
  | .text s =>
    match Net.Address.ofText? s with
    | some a => .ok a
    | none => .error .badAddress
  | value => .error (.wrongType value .address)

/-- Nothing where `null` stands. -/
def optional {α : Type} (read : Json → Except Problem α) : Json → Except Problem (Option α)
  | .null => .ok none
  | value => (read value).map some

/-- Reads the fields one after the other into what is known so far. -/
def readFields {α : Type} (field : α → String → Json → Except Problem α) (start : α) (fields : Json.Fields) :
    Except Problem α :=
  fields.foldlM (fun known f => field known f.1 f.2) start

end RateCounter.Settings
