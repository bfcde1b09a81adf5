/-
  RateCounter.Decimal.Extended — floating-point numbers with infinities and the value that is
  no number.

  They are written as digits, or as `inf`, `infinity` or `nan` in any case, after an optional
  sign. Digits past the range stand for an infinity.
-/

import RateCounter.Decimal.Reader
import RateCounter.Text.Lower

namespace RateCounter

inductive Extended where
  | finite (x : Double)
  | infinite (negative : Bool)
  | notANumber
  deriving DecidableEq, Repr

namespace Extended

/-- The number nearest to a whole one. -/
def ofInt (n : Int) : Extended :=
  match Double.nearest (decide (n < 0)) n.natAbs 1 with
  | some x => finite x
  | none => infinite (decide (n < 0))

def ofText? (s : String) : Option Extended :=
  let (negative, word) := Double.splitSign s.toList
  if ["inf", "infinity"].contains (Text.lower (String.ofList word)) then some (infinite negative)
  else if Text.lower (String.ofList word) = "nan" then some notANumber
  else if Double.isNumber s then
    some (match Double.ofText? s with
      | some x => finite x
      | none => infinite negative)
  else none

/-- All digits, without an exponent. -/
def positional : Extended → String
  | finite x => x.positional
  | infinite negative => if negative then "-inf" else "inf"
  | notANumber => "NaN"

/-- The finite number, if it is one. -/
def finite? : Extended → Option Double
  | finite x => some x
  | _ => none

end Extended

end RateCounter
