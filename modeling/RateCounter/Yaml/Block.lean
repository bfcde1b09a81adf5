/-
  RateCounter.Yaml.Block — scalars of whole lines, after `|` or `>`.

  A header may give the indentation, and what happens to the line breaks at the end: they are
  dropped (`-`), all kept (`+`), or one is kept. Without a number in the header the lines are
  indented as the first one with text. After `>` a single break between lines counts as a
  space, unless one of them starts with a blank.
-/

import RateCounter.Text.Integer
import RateCounter.Yaml.Cursor

namespace RateCounter.Yaml

inductive Chomp where
  | strip
  | clip
  | keep
  deriving DecidableEq, Repr

structure BlockHeader where
  chomp : Chomp
  /-- Columns beyond the enclosing block; 0 if the first line tells. -/
  increment : Nat
  deriving DecidableEq, Repr

def chompOf? (c : Char) : Option Chomp :=
  if c == '+' then some .keep else if c == '-' then some .strip else none

/-- The header and how long it is; an increment of zero is refused. -/
def blockHeader? : List Char → Option (BlockHeader × Nat)
  | [] => some (⟨.clip, 0⟩, 0)
  | c :: rest =>
    match chompOf? c with
    | some chomp =>
      match rest with
      | d :: _ =>
        if d == '0' then none
        else if d.isDigit then some (⟨chomp, Text.digitValue d⟩, 2)
        else some (⟨chomp, 0⟩, 1)
      | [] => some (⟨chomp, 0⟩, 1)
    | none =>
      if c == '0' then none
      else if c.isDigit then
        match rest.head?.bind chompOf? with
        | some chomp => some (⟨chomp, Text.digitValue c⟩, 2)
        | none => some (⟨.clip, Text.digitValue c⟩, 1)
      else some (⟨.clip, 0⟩, 0)

/-- Where a block scalar is read: line by line as it stands or joined, and the column of the
    block that encloses it. -/
structure BlockRule where
  dialect : Dialect
  literal : Bool
  enclosing : Int

/-- What has been read: the text, backwards, the break after it, and the breaks of the empty
    lines after that, backwards. -/
structure BlockText where
  text : List Char
  lastBreak? : Option Char
  empties : List Char
  /-- The last line with text starts with a blank. -/
  startsBlank : Bool

namespace BlockText

/-- The text with another line. -/
def addLine (literal : Bool) (line : List Char) (b : BlockText) : BlockText :=
  let blank := line.head?.any isBlank
  let joined := !literal && b.lastBreak? == some '\n' && !b.startsBlank && !blank
  let text := if joined then if b.empties.isEmpty then ' ' :: b.text else b.text else b.lastBreak?.toList ++ b.text
  ⟨line.reverse ++ (b.empties ++ text), none, [], blank⟩

end BlockText

namespace BlockRule

/-- Over indentation and empty lines, up to column `indent` or, if that is not known, as far as
    there are spaces. Gives the greatest column reached, and the breaks, backwards. -/
def skipEmpty (rule : BlockRule) (indent? : Option Nat) :
    (reached : Nat) → (breaks : List Char) → Mark → List Char → Option (Nat × List Char × Cursor)
  | reached, breaks, m, [] => some (max reached m.column, breaks, ⟨m, []⟩)
  | reached, breaks, m, c :: rest =>
    let inside := indent?.all fun indent => decide (m.column < indent)
    if c == ' ' && inside then skipEmpty rule indent? reached breaks (m.past c) rest
    else if c == '\t' && inside && rule.dialect == .classic then none
    else if rule.dialect.isBreak c then skipEmpty rule indent? (max reached m.column) (c :: breaks) m.newLine rest
    else some (max reached m.column, breaks, ⟨m, c :: rest⟩)

/-- The column of the lines, if the header does not give it. -/
def foundIndent (rule : BlockRule) (reached : Nat) : Nat :=
  let least := (rule.enclosing + 1).toNat
  match rule.dialect with
  | .classic => max (max reached least) 1
  | .modern => max reached least

/-- Reads lines that start at the column. The fuel is the number of characters left. -/
def lines (rule : BlockRule) (indent : Nat) : Nat → BlockText → Cursor → Option (BlockText × Cursor)
  | 0, _, _ => none
  | fuel + 1, b, here =>
    if here.mark.column ≠ indent ∨ here.rest.isEmpty then some (b, here)
    else if indent = 0 ∧ here.atDocumentEnd rule.dialect then some (b, here)
    else
      let (line, after) := here.span fun c => !rule.dialect.isBreak c
      let b := b.addLine rule.literal line
      match after.rest with
      | [] => some (b, after)
      | c :: _ =>
        match rule.skipEmpty (some indent) 0 [] after.mark.newLine (after.rest.drop 1) with
        | none => none
        | some (_, empties, next) => lines rule indent fuel { b with lastBreak? := some c, empties } next

/-- The text with what is left of the breaks at its end. In the modern dialect a last line
    without a break counts as if it had one. -/
def chomped (rule : BlockRule) (chomp : Chomp) (indent : Nat) (b : BlockText) (here : Cursor) : List Char :=
  let ending :=
    if rule.dialect == .modern && here.rest.isEmpty && decide (max indent 1 ≤ here.mark.column) then ['\n'] else []
  match chomp with
  | .strip => b.text
  | .clip => ending ++ (b.lastBreak?.toList ++ b.text)
  | .keep => b.empties ++ (ending ++ (b.lastBreak?.toList ++ b.text))

/-- A scalar without any line, at the end of a text in the modern dialect. -/
def withoutLines (chomp : Chomp) (sameLine : Bool) (breaks : List Char) : List Char :=
  match chomp with
  | .strip => []
  | .clip => if sameLine then [] else ['\n']
  | .keep => if sameLine then [] else if breaks.isEmpty then ['\n'] else breaks

/-- Over the rest of the header's line, and its break. -/
def afterHeader? (rule : BlockRule) (here : Cursor) : Option Cursor :=
  match rule.dialect with
  | .classic =>
    let here := here.skipBlanks
    let here := if here.rest.head? == some '#' then here.toLineEnd .classic else here
    if Dialect.classic.endsLine here.rest then some (here.next .classic) else none
  | .modern =>
    (here.toContent? .modern).bind fun (_, here) =>
      if Dialect.modern.endsLine here.rest then
        let next := here.next .modern
        if next.rest.head? == some '\t' then none else some next
      else none

/-- The scalar whose indicator stands here. -/
def scalar? (rule : BlockRule) (here : Cursor) : Option (String × Cursor) :=
  let d := rule.dialect
  let head := here.next d
  (blockHeader? head.rest).bind fun (header, n) =>
  (rule.afterHeader? (head.drop d n)).bind fun body =>
  let given? := if header.increment = 0 then none else some ((max rule.enclosing 0).toNat + header.increment)
  (rule.skipEmpty given? 0 [] body.mark body.rest).bind fun (reached, breaks, first) =>
  let indent := given?.getD (rule.foundIndent reached)
  if d == .modern && first.rest.isEmpty then
    some (String.ofList (withoutLines header.chomp (first.mark.line == here.mark.line) breaks).reverse, first)
  else if d == .modern && decide (first.mark.column < indent) && decide (rule.enclosing < first.column) then none
  else
    (rule.lines indent (first.rest.length + 1) ⟨[], none, breaks, false⟩ first).map fun (b, after) =>
      (String.ofList (rule.chomped header.chomp indent b after).reverse, after)

end BlockRule

end RateCounter.Yaml
