/-
  RateCounter.Yaml.Quoted — scalars in single and in double quotes.

  In single quotes two quotes stand for one; in double quotes a backslash starts an escape,
  also of a line break. No document marker may stand at the start of a line. In the modern
  dialect every further line lies within the block, and what follows the scalar is limited.
-/

import RateCounter.Text.Integer
import RateCounter.Yaml.Cursor
import RateCounter.Yaml.Folding

namespace RateCounter.Yaml

/-- Escapes of one letter. -/
def letterEscape? : Char → Option Char
  | '0' => some (Char.ofNat 0)
  | 'a' => some (Char.ofNat 7)
  | 'b' => some (Char.ofNat 8)
  | 't' | '\t' => some '\t'
  | 'n' => some '\n'
  | 'v' => some (Char.ofNat 11)
  | 'f' => some (Char.ofNat 12)
  | 'r' => some '\r'
  | 'e' => some (Char.ofNat 27)
  | ' ' => some ' '
  | '"' => some '"'
  | '/' => some '/'
  | '\\' => some '\\'
  | 'N' => some (Char.ofNat 0x85)
  | '_' => some (Char.ofNat 0xA0)
  | 'L' => some (Char.ofNat 0x2028)
  | 'P' => some (Char.ofNat 0x2029)
  | _ => none

/-- How many hexadecimal digits follow a letter. -/
def hexLength? : Char → Option Nat
  | 'x' => some 2
  | 'u' => some 4
  | 'U' => some 8
  | _ => none

/-- The character of an escape after its backslash, and how long the escape is. -/
def escape? : List Char → Option (Char × Nat)
  | [] => none
  | c :: rest =>
    match hexLength? c with
    | none => (letterEscape? c).map fun ch => (ch, 1)
    | some k =>
      if (rest.take k).length = k then
        (Text.naturalIn? 16 (rest.take k)).bind fun n =>
          if n.isValidChar then some (Char.ofNat n, k + 1) else none
      else none

/-- Where a quoted scalar is read: the quote, and the first column of its block. -/
structure QuoteRule where
  dialect : Dialect
  quote : Char
  indent : Int

namespace QuoteRule

/-- Whether a line of the scalar may start here. -/
def admits (rule : QuoteRule) (here : Cursor) : Bool :=
  !here.atDocumentMarker rule.dialect && (rule.dialect == .classic || decide (rule.indent ≤ here.column))

/-- Reads on up to the closing quote, after the text `acc`, held backwards, and a gap. The fuel
    is the number of characters left. -/
def read (rule : QuoteRule) : Nat → (acc : List Char) → Gap → Cursor → Option (String × Cursor)
  | 0, _, _, _ => none
  | fuel + 1, acc, gap, here =>
    match here.rest with
    | [] => none
    | c :: rest =>
      if rule.dialect.isBreak c then read rule fuel acc (gap.addBreak c) (here.next rule.dialect)
      else if isBlank c then
        if rule.dialect == .modern && gap.hasBreak && c == '\t' && decide (here.column < rule.indent) then none
        else read rule fuel acc (gap.addBlank c) (here.next rule.dialect)
      else if gap.hasBreak && !(gap.isEscapedBreak && here.mark.column == 0 && c == rule.quote) &&
          !rule.admits here then none
      else if rule.quote == '\'' && c == '\'' && rest.head? == some '\'' then
        read rule fuel ('\'' :: gap.close acc) .none (here.drop rule.dialect 2)
      else if c == rule.quote then some (String.ofList (gap.close acc).reverse, here.next rule.dialect)
      else if rule.quote == '"' && c == '\\' then
        if rest.head?.any rule.dialect.isBreak then
          read rule fuel (gap.close acc) (.breaks .none []) (here.drop rule.dialect 2)
        else
          match escape? rest with
          | some (ch, k) => read rule fuel (ch :: gap.close acc) .none (here.drop rule.dialect (k + 1))
          | none => none
      else read rule fuel (c :: gap.close acc) .none (here.next rule.dialect)

/-- What may follow the closing quote: the end of the line, in brackets what goes on there, and
    a colon, outside brackets only on the line where the scalar started. -/
def mayPrecede (startLine : Nat) (flow : Bool) (d : Dialect) (here : Cursor) : Bool :=
  match here.rest with
  | ':' :: _ => flow || startLine == here.mark.line
  | c :: _ => d.isBreak c || (flow && (c == ',' || c == ']' || c == '\x7d'))
  | [] => true

/-- The scalar whose opening quote stands here. -/
def scalar? (rule : QuoteRule) (flow : Bool) (here : Cursor) : Option (String × Cursor) :=
  let inside := here.next rule.dialect
  match rule.read (inside.rest.length + 1) [] .none inside with
  | none => none
  | some (text, after) =>
    match rule.dialect with
    | .classic => some (text, after)
    | .modern =>
      (after.toContent? .modern).bind fun (_, after) =>
        if mayPrecede here.mark.line flow .modern after then some (text, after) else none

end QuoteRule

end RateCounter.Yaml
