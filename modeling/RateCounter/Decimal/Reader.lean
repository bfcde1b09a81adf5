/-
  RateCounter.Decimal.Reader — reading floating-point numbers.

  A sign, digits with a point before, between or after them, and an exponent; of all this
  only one digit is required. The number is rounded once. A number past the range is not
  read.
-/

import RateCounter.Decimal.Double
import RateCounter.Text.Integer

namespace RateCounter.Double

/-- Whether the text starts with a minus, and what follows the sign. -/
def splitSign : List Char → Bool × List Char
  | '-' :: cs => (true, cs)
  | '+' :: cs => (false, cs)
  | cs => (false, cs)

/-- The exponent written at the end of a number; 0 if there is none. -/
def exponent? : List Char → Option Int
  | [] => some 0
  | c :: cs =>
    if c = 'e' ∨ c = 'E' then
      let (negative, digits) := splitSign cs
      (Text.natural? digits).map fun n => if negative then -(n : Int) else n
    else none

/-- The digits after a point, and what follows them. -/
def splitFraction : List Char → List Char × List Char
  | '.' :: cs => (cs.takeWhile Char.isDigit, cs.dropWhile Char.isDigit)
  | cs => ([], cs)

/-- The written number: whether it is negative, its digits, and the power of ten they are
    multiplied by. -/
def parts? (s : String) : Option (Bool × Nat × Int) :=
  let (negative, cs) := splitSign s.toList
  let whole := cs.takeWhile Char.isDigit
  let (fraction, rest) := splitFraction (cs.dropWhile Char.isDigit)
  (Text.natural? (whole ++ fraction)).bind fun digits =>
    (exponent? rest).map fun e => (negative, digits, e - fraction.length)

/-- Whether the text is a number, in range or not. -/
def isNumber (s : String) : Bool := (parts? s).isSome

def ofText? (s : String) : Option Double :=
  (parts? s).bind fun (negative, digits, power) =>
    if digits = 0 then some ⟨negative, 0, minExponent⟩
    else if power.natAbs ≤ 100000 then ofDecimal negative digits power
    else if power < 0 then some ⟨negative, 0, minExponent⟩
    else none

end RateCounter.Double
