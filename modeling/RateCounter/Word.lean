/-
  RateCounter.Word — the ranges of whole numbers of 32 and 64 bits.

  Without a sign they go from 0 to one less than their count (`count32`, `count64`), with a
  sign from `min63` to `max63`.
-/

namespace RateCounter.Word

/-- 2^32. -/
def count32 : Nat := 4294967296

/-- 2^63. -/
def count63 : Nat := 9223372036854775808

/-- 2^64. -/
def count64 : Nat := 18446744073709551616

/-- 2^64 − 1. -/
def max64 : Nat := 18446744073709551615

/-- −2^63. -/
def min63 : Int := -9223372036854775808

/-- 2^63 − 1. -/
def max63 : Int := 9223372036854775807

end RateCounter.Word
