/-
  RateCounter.Text.Blank — blank texts: nothing but characters with the property `White_Space`.
-/

namespace RateCounter.Text

/-- The property `White_Space` of the Unicode character database. -/
def isWhiteSpace (c : Char) : Bool :=
  let n := c.toNat
  (9 ≤ n && n ≤ 13) || n == 32 || n == 0x85 || n == 0xA0 || n == 0x1680 ||
    (0x2000 ≤ n && n ≤ 0x200A) || n == 0x2028 || n == 0x2029 || n == 0x202F || n == 0x205F || n == 0x3000

def isBlank (s : String) : Bool := s.toList.all isWhiteSpace

theorem isBlank_iff {s : String} : isBlank s = true ↔ ∀ c ∈ s.toList, isWhiteSpace c = true := by
  simp [isBlank]

end RateCounter.Text
