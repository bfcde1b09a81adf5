/-
  RateCounter.Yaml.Cursor — a place in a text and what follows it.

  A `Mark` counts characters, lines and columns, and knows whether only blanks stand before
  it on its line.
-/

import RateCounter.Yaml.Dialect

namespace RateCounter.Yaml

structure Mark where
  index : Nat
  line : Nat
  column : Nat
  fresh : Bool
  deriving DecidableEq, Repr

namespace Mark

def start : Mark := ⟨0, 0, 0, true⟩

/-- Past a character that ends no line. -/
def past (m : Mark) (c : Char) : Mark := ⟨m.index + 1, m.line, m.column + 1, m.fresh && isBlank c⟩

def newLine (m : Mark) : Mark := ⟨m.index + 1, m.line + 1, 0, true⟩

end Mark

structure Cursor where
  mark : Mark
  rest : List Char
  deriving DecidableEq, Repr

namespace Cursor

def start (cs : List Char) : Cursor := ⟨.start, cs⟩

def column (here : Cursor) : Int := here.mark.column

/-- One character further. -/
def next (d : Dialect) (here : Cursor) : Cursor :=
  match here.rest with
  | [] => here
  | c :: rest => if d.isBreak c then ⟨here.mark.newLine, rest⟩ else ⟨here.mark.past c, rest⟩

def drop (d : Dialect) : Nat → Cursor → Cursor
  | 0, here => here
  | n + 1, here => drop d n (here.next d)

/-- The longest run of characters with a property on this line, and the place after it. -/
def span (p : Char → Bool) (here : Cursor) : List Char × Cursor :=
  let run := here.rest.takeWhile p
  (run, ⟨run.foldl Mark.past here.mark, here.rest.dropWhile p⟩)

def skipBlanks (here : Cursor) : Cursor := (here.span isBlank).2

def toLineEnd (d : Dialect) (here : Cursor) : Cursor := (here.span fun c => !d.isBreak c).2

def startsWith (text : String) (here : Cursor) : Bool := text.toList.isPrefixOf here.rest

/-- At the start of a line, three such characters as a word of their own. -/
def atMarker (d : Dialect) (text : String) (here : Cursor) : Bool :=
  here.mark.column == 0 && here.startsWith text && d.endsWord (here.rest.drop 3)

def atDocumentStart (d : Dialect) (here : Cursor) : Bool := here.atMarker d "---"
def atDocumentEnd (d : Dialect) (here : Cursor) : Bool := here.atMarker d "..."

def atDocumentMarker (d : Dialect) (here : Cursor) : Bool := here.atDocumentStart d || here.atDocumentEnd d

/-- Blanks met on the way to something. -/
structure Blanks where
  tabs : Bool
  spaces : Bool
  deriving DecidableEq, Repr

/-- Over blanks and a comment, which must not adjoin what stands before it. -/
def toContent? (d : Dialect) (here : Cursor) : Option (Blanks × Cursor) :=
  let (run, here) := here.span isBlank
  let blanks : Blanks := ⟨run.contains '\t', run.contains ' '⟩
  match here.rest with
  | '#' :: _ => if run.isEmpty then none else some (blanks, here.toLineEnd d)
  | _ => some (blanks, here)

/-- Nothing but blanks and comments stands on the rest of the line. -/
def restIsEmpty (d : Dialect) (here : Cursor) : Bool :=
  match here.skipBlanks.rest with
  | '#' :: _ => true
  | cs => d.endsLine cs

end Cursor

end RateCounter.Yaml
