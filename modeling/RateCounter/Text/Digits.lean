/-
  RateCounter.Text.Digits — decimal digits with a fixed width and fractions without
  superfluous zeros.
-/

namespace RateCounter.Text

/-- At least `width` digits, zeros in front. -/
def padded (width n : Nat) : String :=
  let digits := toString n
  String.ofList (List.replicate (width - digits.length) '0') ++ digits

def dropTrailingZeros (digits : List Char) : List Char :=
  (digits.reverse.dropWhile (· == '0')).reverse

/-- The fraction `n / 10^width` with its point and as few digits as are exact; nothing if zero. -/
def fraction (width n : Nat) : String :=
  match dropTrailingZeros (padded width n).toList with
  | [] => ""
  | digits => "." ++ String.ofList digits

end RateCounter.Text
