/-
  RateCounter.Yaml.Folding — what stands between two words of a scalar.

  Blanks around a line break are dropped; one break counts as a space, and of several the
  first is dropped. A separator of lines or paragraphs is kept, and an escaped break counts
  for nothing.
-/

import RateCounter.Yaml.Dialect

namespace RateCounter.Yaml

inductive Gap where
  /-- On one line, backwards. -/
  | blanks (cs : List Char)
  /-- The first break, if it is not escaped, and the ones after it, backwards. -/
  | breaks (first : Option Char) (more : List Char)
  deriving DecidableEq, Repr

namespace Gap

def none : Gap := blanks []

def isNone : Gap → Bool
  | blanks cs => cs.isEmpty
  | breaks .. => false

def hasBreak : Gap → Bool
  | blanks _ => false
  | breaks .. => true

/-- The text before the next word, backwards; `acc` holds what was before the gap. -/
def close (acc : List Char) : Gap → List Char
  | blanks cs => cs ++ acc
  | breaks .none more => more ++ acc
  | breaks (some c) more =>
    if c != '\n' then more ++ (c :: acc) else if more.isEmpty then ' ' :: acc else more ++ acc

def addBlank (c : Char) : Gap → Gap
  | blanks cs => blanks (c :: cs)
  | g => g

def addBreak (c : Char) : Gap → Gap
  | blanks _ => breaks (some c) []
  | breaks first more => breaks first (c :: more)

/-- An escaped line break, with nothing after it yet. -/
def isEscapedBreak : Gap → Bool
  | breaks .none [] => true
  | _ => false

end Gap

end RateCounter.Yaml
