/-
  RateCounter.Yaml.Plain — scalars without quotes.

  A plain scalar ends before a comment, before a colon that ends a word, in brackets also
  before a bracket or comma, before a document marker, and outside brackets before a line
  that does not lie to the right of its block.
-/

import RateCounter.Yaml.Cursor
import RateCounter.Yaml.Folding

namespace RateCounter.Yaml

/-- Where a plain scalar is read: in brackets or not, and the first column of its block. -/
structure PlainRule where
  dialect : Dialect
  flow : Bool
  indent : Nat

namespace PlainRule

/-- Whether the word ends before these characters, of which the first is no blank or break. -/
def wordEnds (rule : PlainRule) : List Char → Bool
  | ':' :: rest =>
    rule.dialect.endsWord rest || (rule.dialect == .modern && rule.flow && rest.head?.any isFlowMark)
  | c :: _ => rule.flow && isFlowMark c
  | [] => true

/-- Whether the scalar ends before a new word. -/
def endsBefore (rule : PlainRule) (gap : Gap) (here : Cursor) : Bool :=
  (!rule.flow && !gap.isNone && decide (here.mark.column < rule.indent)) || here.atDocumentMarker rule.dialect ||
    (here.rest.head? == some '#' && !gap.isNone) || rule.wordEnds here.rest

/-- A colon that belongs to a word and yet adjoins a bracket, comma or question mark; or a
    dash that starts a word and adjoins a bracket or comma. -/
def isStray (rule : PlainRule) (startsWord : Bool) : List Char → Bool
  | ':' :: c :: _ => rule.dialect == .classic && rule.flow && (isFlowMark c || c == '?')
  | '-' :: c :: _ => rule.dialect == .modern && rule.flow && startsWord && isFlowMark c
  | _ => false

/-- Reads on after the text `acc`, held backwards, and a gap; `skipping` the rest of a line. A
    tab to the left of the block may stand on empty lines, if anywhere. The result tells
    whether the scalar was followed by a line break. -/
def read (rule : PlainRule) :
    (acc : List Char) → Gap → (skipping : Bool) → Mark → List Char → Option (String × Bool × Cursor)
  | acc, gap, _, m, [] => some (String.ofList acc.reverse, gap.hasBreak, ⟨m, []⟩)
  | acc, gap, skipping, m, c :: rest =>
    if rule.dialect.isBreak c then read rule acc (gap.addBreak c) false m.newLine rest
    else if skipping then read rule acc gap true (m.past c) rest
    else if isBlank c then
      if gap.hasBreak && c == '\t' && decide (m.column < rule.indent) then
        if rule.dialect == .modern && Cursor.restIsEmpty rule.dialect ⟨m, c :: rest⟩ then
          read rule acc gap true (m.past c) rest
        else none
      else read rule acc (gap.addBlank c) false (m.past c) rest
    else if (acc.isEmpty || !gap.isNone) && rule.endsBefore gap ⟨m, c :: rest⟩ then
      some (String.ofList acc.reverse, gap.hasBreak, ⟨m, c :: rest⟩)
    else if rule.isStray (acc.isEmpty || !gap.isNone) (c :: rest) then none
    else if rule.wordEnds (c :: rest) then some (String.ofList acc.reverse, gap.hasBreak, ⟨m, c :: rest⟩)
    else read rule (c :: gap.close acc) .none false (m.past c) rest

/-- The scalar that starts here. -/
def scalar? (rule : PlainRule) (here : Cursor) : Option (String × Bool × Cursor) :=
  if rule.dialect == .modern && rule.flow && decide (here.mark.column < rule.indent) then none
  else
    match rule.read [] .none false here.mark here.rest with
    | some (text, more) => if text.isEmpty then none else some (text, more)
    | none => none

end PlainRule

/-- Whether a plain scalar may start with these characters. -/
def startsPlain (d : Dialect) (flow : Bool) : List Char → Bool
  | [] => false
  | c :: rest =>
    match d with
    | .classic =>
      if isBlank c || d.isBreak c then false
      else if c == '-' then !rest.head?.any isBlank
      else if c == '?' || c == ':' then !flow && !d.endsWord rest
      else !isFlowMark c && !"#&*!|>'\"%@`".toList.contains c
    | .modern => !"%@`".toList.contains c

end RateCounter.Yaml
