/-
  RateCounter.Decimal.Double — floating-point numbers of 53 bits and their decimal forms.

  A `Double` is ± mantissa · 2^exponent with the mantissa below 2^53 and the exponent from
  −1074 to 971. A ratio is rounded to the nearest one, an exact half to the even mantissa
  (`nearest`); nothing is returned past the range.

  The digits written for a number are the fewest that round back to it (`shortest`): for
  one digit, two digits, … the two neighbours of the value on that decimal grid are tried,
  and of two that round back the nearer is taken.
-/

namespace RateCounter

structure Double where
  negative : Bool
  mantissa : Nat
  exponent : Int
  deriving DecidableEq, Repr

namespace Double

/-- 2^52, the least mantissa of 53 bits. -/
def leastFull : Nat := 4503599627370496

/-- 2^53. -/
def mantissaCount : Nat := 9007199254740992

def twoTo (k : Nat) : Nat := Nat.pow 2 k
def tenTo (k : Nat) : Nat := Nat.pow 10 k

def minExponent : Int := -1074
def maxExponent : Int := 971

/-- `n / d` to the nearest whole number, a half to the even one. -/
def roundHalfEven (n d : Nat) : Nat :=
  let q := n / d
  let r := n % d
  if 2 * r < d then q else if d < 2 * r then q + 1 else q + q % 2

/-- The ratio `num / den · 2^(-k)` as a fraction of whole numbers. -/
def scaled (num den : Nat) (k : Int) : Nat × Nat :=
  if 0 ≤ k then (num, den * twoTo k.toNat) else (num * twoTo (-k).toNat, den)

/-- The exponent that gives `num / den` a mantissa of 53 bits, or the least one. -/
def fittingExponent (num den : Nat) : Int :=
  let guess : Int := (num.log2 : Int) - den.log2 - 52
  let (n, d) := scaled num den guess
  max minExponent (if n < d * leastFull then guess - 1 else guess)

/-- The number nearest to `± num / den`. -/
def nearest (negative : Bool) (num den : Nat) : Option Double :=
  if num = 0 then some ⟨negative, 0, minExponent⟩
  else
    let k := fittingExponent num den
    let (n, d) := scaled num den k
    let m := roundHalfEven n d
    let (m, k) := if m = mantissaCount then (leastFull, k + 1) else (m, k)
    if maxExponent < k then none else some ⟨negative, m, k⟩

/-- The size of the number as a fraction. -/
def ratio (x : Double) : Nat × Nat :=
  if 0 ≤ x.exponent then (x.mantissa * twoTo x.exponent.toNat, 1)
  else (x.mantissa, twoTo (-x.exponent).toNat)

/-- `± digits · 10^power`, rounded once. -/
def ofDecimal (negative : Bool) (digits : Nat) (power : Int) : Option Double :=
  if 0 ≤ power then nearest negative (digits * tenTo power.toNat) 1
  else nearest negative digits (tenTo (-power).toNat)

/-- The product of two numbers, rounded once. -/
def times (x y : Double) : Option Double :=
  let (a, b) := x.ratio
  let (c, d) := y.ratio
  nearest (x.negative != y.negative) (a * c) (b * d)

/-- The quotient by a number other than zero, rounded once. -/
def dividedBy (x y : Double) : Option Double :=
  let (a, b) := x.ratio
  let (c, d) := y.ratio
  nearest (x.negative != y.negative) (a * d) (b * c)

def powerOfTen (p : Nat) : Option Double := nearest false (tenTo p) 1

/-- `± digits · 10^power` in up to four roundings: the digits, the power of ten (taken out in
    parts of at most 10^308) and each product or quotient are rounded on their own. -/
def ofDecimalInSteps (digits : Double) (power : Int) : Nat → Option Double
  | 0 => some digits
  | fuel + 1 =>
    if power.natAbs ≤ 308 then
      (powerOfTen power.natAbs).bind fun p => if 0 ≤ power then digits.times p else digits.dividedBy p
    else if digits.mantissa = 0 then some digits
    else if 0 ≤ power then none
    else ((powerOfTen 308).bind digits.dividedBy).bind fun x => ofDecimalInSteps x (power + 308) fuel

/-! ## Shortest digits -/

/-- Whether `n / d` rounds to `x`, for a positive mantissa. -/
def roundsBack (x : Double) (n d : Nat) : Bool := nearest x.negative n d == some x

/-- The greatest `p` with `10^p ≤ n / d`, searched downwards from `guess`. -/
def decimalMagnitude (n d : Nat) : Nat → Int → Int
  | 0, p => p
  | fuel + 1, p =>
    let (a, b) := if 0 ≤ p then (n, d * tenTo p.toNat) else (n * tenTo (-p).toNat, d)
    if b ≤ a then p else decimalMagnitude n d fuel (p - 1)

/-- Digits and power of ten: the value is `digits · 10^power`. -/
structure Digits where
  digits : Nat
  power : Int
  deriving DecidableEq, Repr

def Digits.ratio (s : Digits) : Nat × Nat :=
  if 0 ≤ s.power then (s.digits * tenTo s.power.toNat, 1) else (s.digits, tenTo (-s.power).toNat)

/-- The neighbour of `n / d` on the grid of `10^power` that rounds back to `x`, the nearer if both do. -/
def onGrid (x : Double) (n d : Nat) (power : Int) : Option Digits :=
  let (a, b) := if 0 ≤ power then (n, d * tenTo power.toNat) else (n * tenTo (-power).toNat, d)
  let below : Digits := ⟨a / b, power⟩
  let above : Digits := ⟨a / b + 1, power⟩
  let hits (s : Digits) : Bool := s.digits != 0 && x.roundsBack s.ratio.1 s.ratio.2
  match hits below, hits above with
  | true, true =>
    let r := a % b
    if 2 * r < b || (2 * r == b && a / b % 2 == 0) then some below else some above
  | true, false => some below
  | false, true => some above
  | false, false => none

def firstGrid (x : Double) (n d : Nat) : Nat → Int → Digits
  | 0, power => ⟨n / d, power⟩
  | fuel + 1, power =>
    match x.onGrid n d power with
    | some s => s
    | none => firstGrid x n d fuel (power - 1)

/-- No final zeros among the digits. -/
def Digits.trimmed : Nat → Digits → Digits
  | 0, s => s
  | fuel + 1, s => if s.digits ≠ 0 ∧ s.digits % 10 = 0 then trimmed fuel ⟨s.digits / 10, s.power + 1⟩ else s

/-- The fewest decimal digits that round back to the size of the number. -/
def shortest (x : Double) : Digits :=
  if x.mantissa = 0 then ⟨0, 0⟩
  else
    let (n, d) := x.ratio
    let magnitude := decimalMagnitude n d 700 309
    (x.firstGrid n d 17 magnitude).trimmed 20

/-! ## Written forms -/

/-- All digits before and after the point, without an exponent; a whole number has no point. -/
def positional (x : Double) : String :=
  let s := x.shortest
  let digits := Nat.toDigits 10 s.digits
  (if x.negative then "-" else "") ++
    (if 0 ≤ s.power then String.ofList (digits ++ List.replicate s.power.toNat '0')
     else
       let places := (-s.power).toNat
       let digits := List.replicate (places + 1 - digits.length) '0' ++ digits
       String.ofList (digits.take (digits.length - places)) ++ "." ++
         String.ofList (digits.drop (digits.length - places)))

/-- Positional with at least one digit after the point. -/
def positionalWithPoint (x : Double) : String :=
  let text := x.positional
  if text.toList.contains '.' then text else text ++ ".0"

/-- Positional from 10^-5 up to 10^16, otherwise one digit before the point and an exponent with its sign. -/
def compact (x : Double) : String :=
  let s := x.shortest
  let digits := Nat.toDigits 10 s.digits
  let point : Int := digits.length + s.power
  if s.digits = 0 ∨ (-5 < point ∧ point ≤ 16) then x.positionalWithPoint
  else
    (if x.negative then "-" else "") ++ String.ofList (digits.take 1) ++
      (if digits.length ≤ 1 then "" else "." ++ String.ofList (digits.drop 1)) ++
      "e" ++ (if 0 < point then "+" else "") ++ toString (point - 1)

end Double

end RateCounter
