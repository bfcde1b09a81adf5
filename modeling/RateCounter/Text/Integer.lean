/-
  RateCounter.Text.Integer — reading whole numbers of a bounded range.

  An optional sign, then one or more digits; leading zeros are allowed. A minus sign is
  refused where no negative number is in range, also before zero.
-/

import RateCounter.Word

namespace RateCounter.Text

def digitValue (c : Char) : Nat :=
  if c.isDigit then c.toNat - '0'.toNat
  else if 'a' ≤ c ∧ c ≤ 'z' then c.toNat - 'a'.toNat + 10
  else if 'A' ≤ c ∧ c ≤ 'Z' then c.toNat - 'A'.toNat + 10
  else 36

/-- One or more digits of the radix, most significant first. -/
def naturalIn? (radix : Nat) (cs : List Char) : Option Nat :=
  if cs ≠ [] ∧ cs.all (fun c => decide (digitValue c < radix)) = true then
    some (cs.foldl (fun n c => radix * n + digitValue c) 0)
  else none

def natural? (cs : List Char) : Option Nat := naturalIn? 10 cs

def atMost? (max : Nat) (n : Option Nat) : Option Nat := n.filter (fun n => decide (n ≤ max))

/-- A number from 0 to `max`, possibly with a plus sign. -/
def unsigned? (max : Nat) : List Char → Option Nat
  | '+' :: cs => atMost? max (natural? cs)
  | cs => atMost? max (natural? cs)

/-- A number of the radix from `-size` to `size - 1`, possibly with a sign. -/
def signedIn? (radix size : Nat) : List Char → Option Int
  | '-' :: cs => (atMost? size (naturalIn? radix cs)).map fun n => -(n : Int)
  | '+' :: cs => (atMost? (size - 1) (naturalIn? radix cs)).map fun n => (n : Int)
  | cs => (atMost? (size - 1) (naturalIn? radix cs)).map fun n => (n : Int)

def signed? (size : Nat) (cs : List Char) : Option Int := signedIn? 10 size cs

/-- 0 … 2^64 − 1. -/
def word64? (s : String) : Option Nat := unsigned? Word.max64 s.toList

/-- −2^63 … 2^63 − 1. -/
def int64? (s : String) : Option Int := signed? Word.count63 s.toList

end RateCounter.Text
