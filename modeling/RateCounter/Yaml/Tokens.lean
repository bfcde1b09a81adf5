/-
  RateCounter.Yaml.Tokens — the tokens of a YAML text.

  Blocks are found by indentation: a list or mapping starts where something stands to the
  right of the block around it, and ends before the first line that lies to its left. A key
  is recognised by the colon after it, which stands on its line and at most 1024 characters
  after its start; the tokens that open its mapping are entered before it (`Scanner.insert`).
  In the modern dialect what belongs to a key lies at least one column to its right, also in
  brackets (`Scanner.rollHalf`), and a pair in a list in brackets becomes a mapping of its own.
-/

import RateCounter.Yaml.Block
import RateCounter.Yaml.Plain
import RateCounter.Yaml.Property
import RateCounter.Yaml.Quoted

namespace RateCounter.Yaml

/-- A block around the current one, and whether the current one ends with a token. -/
structure Indent where
  column : Int
  block : Bool
  deriving DecidableEq, Repr

/-- A place where a key may have started, and the number of the token that stands there. -/
structure KeyPlace where
  possible : Bool
  required : Bool
  token : Nat
  mark : Mark
  deriving DecidableEq, Repr

def KeyPlace.none : KeyPlace := ⟨false, false, 0, .start⟩

structure Scanner where
  dialect : Dialect
  here : Cursor
  /-- Backwards. -/
  tokens : List Token
  /-- One place for each bracket that is open, the innermost first, and one for the block. -/
  keys : List KeyPlace
  keyAllowed : Bool
  indent : Int
  outer : List Indent
  /-- How many brackets are open. -/
  flow : Nat
  /-- Where a value may adjoin its key. -/
  adjoining : Nat
  /-- A mapping in brackets has been opened. -/
  mapOpen : Bool
  /-- A pair in a list in brackets has been opened. -/
  pairOpen : Bool
  /-- The column of the last token, if it is an anchor or a tag. -/
  property? : Option Nat
  ended : Bool

namespace Scanner

def start (d : Dialect) (cs : List Char) : Scanner :=
  ⟨d, .start cs, [], [.none], true, -1, [], 0, 0, false, false, none, false⟩

def inFlow (s : Scanner) : Bool := decide (0 < s.flow)

def isModern (s : Scanner) : Bool := s.dialect == .modern

def column (s : Scanner) : Int := s.here.column

/-- One character further. -/
def next (s : Scanner) : Scanner := { s with here := s.here.next s.dialect }

def push (t : Token) (s : Scanner) : Scanner := { s with tokens := t :: s.tokens, property? := none }

/-- Enters a token before the one with a number. -/
def insert (n : Nat) (t : Token) (s : Scanner) : Scanner :=
  let later := s.tokens.length - n
  { s with tokens := s.tokens.take later ++ t :: s.tokens.drop later }

/-! ## Indentation -/

/-- Closes the blocks to the right of a column: the indentation, what is around, the tokens. -/
def closeTo (column indent : Int) (tokens : List Token) : List Indent → Int × List Indent × List Token
  | [] => (indent, [], tokens)
  | o :: outer =>
    if column < indent then closeTo column o.column (if o.block then .blockEnd :: tokens else tokens) outer
    else (indent, o :: outer, tokens)

def unroll (column : Int) (s : Scanner) : Scanner :=
  if s.inFlow then s
  else
    let (indent, outer, tokens) := closeTo column s.indent s.tokens s.outer
    { s with indent, outer, tokens, property? := if tokens.length = s.tokens.length then s.property? else none }

/-- Opens a block at a column, if it lies to the right, before the token with a number. -/
def roll (column : Int) (n : Nat) (t : Token) (s : Scanner) : Scanner :=
  if s.inFlow then s
  else
    let (indent, outer) := match s.outer with
      | ⟨before, false⟩ :: outer => if s.indent ≤ column then (before, outer) else (s.indent, s.outer)
      | _ => (s.indent, s.outer)
    if indent < column then { s.insert n t with indent := column, outer := ⟨indent, true⟩ :: outer }
    else { s with indent, outer }

/-- The next lines lie at least one column to the right of the block. -/
def rollHalf (s : Scanner) : Scanner :=
  if !s.inFlow && s.outer.head?.any (·.block) then
    { s with indent := s.indent + 1, outer := ⟨s.indent, false⟩ :: s.outer }
  else s

/-- The indentation of the block itself. -/
def withoutHalves (indent : Int) : List Indent → Int × List Indent
  | ⟨before, false⟩ :: outer => withoutHalves before outer
  | outer => (indent, outer)

def unrollHalf (s : Scanner) : Scanner :=
  let (indent, outer) := withoutHalves s.indent s.outer
  { s with indent, outer }

/-! ## Keys -/

/-- Whether what stands here must be a key: it starts in the column of its block. -/
def keyRequired (s : Scanner) : Bool :=
  !s.inFlow && s.indent == s.column && (s.dialect == .classic || s.outer.head?.any (·.block))

/-- What might have been a key is none. -/
def removeKey (s : Scanner) : Option Scanner :=
  match s.keys with
  | [] => some s
  | k :: keys => if k.possible && k.required then none else some { s with keys := { k with possible := false } :: keys }

/-- A key may start here. -/
def saveKey (s : Scanner) : Option Scanner :=
  if !s.keyAllowed then some s
  else
    let k : KeyPlace := ⟨true, s.keyRequired, s.tokens.length, s.here.mark⟩
    let s? := if s.isModern then some s else s.removeKey
    s?.map fun s => { s with keys := k :: s.keys.drop 1 }

/-- Whether a key that started there can no longer end here. -/
def isStale (s : Scanner) (k : KeyPlace) : Bool :=
  k.possible && !(s.isModern && s.inFlow) &&
    (decide (k.mark.line < s.here.mark.line) || decide (k.mark.index + 1024 < s.here.mark.index))

def dropStaleKeys (s : Scanner) : Option Scanner :=
  if s.keys.any fun k => s.isStale k && k.required then none
  else some { s with keys := s.keys.map fun k => if s.isStale k then { k with possible := false } else k }

def allowKey (allowed : Bool) (s : Scanner) : Scanner := { s with keyAllowed := allowed }

/-! ## Blanks, comments and line breaks -/

/-- Goes to what comes next, through a `comment` or not; tells whether a key may start there. -/
def skipFrom (s : Scanner) : (comment keys : Bool) → Mark → List Char → Option (Bool × Cursor)
  | _, keys, m, [] => some (keys, ⟨m, []⟩)
  | comment, keys, m, c :: rest =>
    if s.dialect.isBreak c then skipFrom s false (keys || !s.inFlow) m.newLine rest
    else if comment || c == ' ' then skipFrom s comment keys (m.past c) rest
    else if c == '#' then skipFrom s true keys (m.past c) rest
    else
      match s.dialect with
      | .classic =>
        if (c == byteOrderMark && m.column == 0) || (c == '\t' && (s.inFlow || !keys)) then
          skipFrom s false keys (m.past c) rest
        else some (keys, ⟨m, c :: rest⟩)
      | .modern =>
        if c != '\t' then some (keys, ⟨m, c :: rest⟩)
        else if !s.outer.isEmpty && m.fresh && decide (m.column < s.indent) then
          if Cursor.restIsEmpty .modern ⟨m, c :: rest⟩ then skipFrom s true keys (m.past c) rest else none
        else skipFrom s false keys (m.past c) rest

def toNext (s : Scanner) : Option Scanner :=
  (s.skipFrom false s.keyAllowed s.here.mark s.here.rest).map fun (keyAllowed, here) => { s with keyAllowed, here }

/-- Goes over at least one space or line break, and over comments. -/
def spacesFrom (s : Scanner) : (found comment keys : Bool) → Mark → List Char → Option (Bool × Cursor)
  | found, _, keys, m, [] => if found then some (keys, ⟨m, []⟩) else none
  | found, comment, keys, m, c :: rest =>
    if s.dialect.isBreak c then spacesFrom s true false (keys || !s.inFlow) m.newLine rest
    else if comment then spacesFrom s found true keys (m.past c) rest
    else if c == ' ' then spacesFrom s true false keys (m.past c) rest
    else if c == '#' then spacesFrom s found true keys (m.past c) rest
    else if found then some (keys, ⟨m, c :: rest⟩)
    else none

/-- In the modern dialect, goes over blanks and a comment. -/
def toContent (s : Scanner) : Option Scanner :=
  match s.dialect with
  | .classic => some s
  | .modern => (s.here.toContent? .modern).map fun (_, here) => { s with here }

/-! ## Documents -/

def endText (s : Scanner) : Option Scanner :=
  if s.isModern && s.keys.any fun k => k.possible && k.required then none
  else (s.unroll (-1)).removeKey.map fun s => { s with keyAllowed := false, ended := true }

def directive (s : Scanner) : Option Scanner :=
  (s.unroll (-1)).removeKey.bind fun s =>
    (directive? s.dialect s.here).map fun (t, here) => { (s.push t).allowKey false with here }

def documentMarker (t : Token) (s : Scanner) : Option Scanner :=
  (s.unroll (-1)).removeKey.map fun s =>
    { (s.push t).allowKey false with here := s.here.drop s.dialect 3 }

/-- In the modern dialect nothing but a comment may follow the end of a document. -/
def documentEnd (s : Scanner) : Option Scanner :=
  (s.documentMarker .documentEnd).bind fun s =>
  s.toContent.bind fun s =>
    if s.isModern && !s.dialect.endsLine s.here.rest then none else some s

/-! ## Brackets -/

/-- How many brackets may be open in the modern dialect. -/
def maxFlow : Nat := 255

def flowStart (t : Token) (s : Scanner) : Option Scanner :=
  s.saveKey.bind fun s =>
    let s := if s.isModern then s.rollHalf else s
    if s.isModern && s.flow = maxFlow then none
    else
      let s := { s with flow := s.flow + 1, keys := .none :: s.keys, keyAllowed := true }
      let s := if t = .flowMapStart then { s with mapOpen := true } else s
      s.next.toContent.map (push t)

/-- Closes the pair that is open in a list, if one is. -/
def closePair (s : Scanner) : Scanner :=
  if s.pairOpen then { s.push .flowMapEnd with pairOpen := false, mapOpen := false } else s

def flowEnd (t : Token) (s : Scanner) : Option Scanner :=
  s.removeKey.bind fun s =>
    let s := if s.inFlow then { s with flow := s.flow - 1, keys := s.keys.drop 1 } else s
    (s.allowKey false).closePair.next.toContent.map fun s =>
      let s := if s.inFlow then { s with adjoining := s.here.mark.index } else s
      s.push t

def comma (s : Scanner) : Option Scanner :=
  s.removeKey.bind fun s => (s.allowKey true).closePair.next.toContent.map (push .comma)

/-! ## Items, keys and values -/

/-- A dash that opens an item. -/
def item (s : Scanner) : Option Scanner :=
  match s.dialect with
  | .classic =>
    if !s.inFlow && !s.keyAllowed then none
    else
      let s := s.roll s.column s.tokens.length .blockListStart
      s.removeKey.map fun s => (s.allowKey true).next.push .item
  | .modern =>
    if s.inFlow || !s.keyAllowed then none
    else if s.column == 0 && s.property? == some 0 && decide (-1 < s.indent) then none
    else
      let s := (s.roll s.column s.tokens.length .blockListStart).next
      (s.here.toContent? .modern).bind fun (blanks, here) =>
        if blanks.tabs && here.rest.head? == some '-' && Dialect.modern.endsWord (here.rest.drop 1) then none
        else
          let s := { s with here }
          let s := if here.rest.head?.any fun c => Dialect.modern.isBreak c || isFlowMark c then s.rollHalf else s
          s.removeKey.map fun s => (s.allowKey true).push .item

/-- A question mark that opens a key. -/
def key (s : Scanner) : Option Scanner :=
  if !s.inFlow && !s.keyAllowed then none
  else
    let s := s.roll s.column s.tokens.length .blockMapStart
    let s := if s.isModern && s.inFlow then { s with mapOpen := true } else s
    s.removeKey.bind fun s =>
      let s := (s.allowKey (!s.inFlow)).next
      match s.dialect with
      | .classic => some (s.push .key)
      | .modern =>
        (s.spacesFrom false false s.keyAllowed s.here.mark s.here.rest).bind fun (keyAllowed, here) =>
          if here.rest.head? == some '\t' then none else some ({ s with keyAllowed, here }.push .key)

/-- Over the colon. In the modern dialect a tab alone may not stand between it and a word. -/
def pastColon (s : Scanner) : Option Scanner :=
  let s := s.next
  if s.isModern && s.here.rest.head? == some '\t' then
    (s.here.toContent? .modern).bind fun (blanks, here) =>
      if !blanks.spaces && here.rest.head?.any isNameChar then none else some { s with here }
  else some s

/-- A colon after a key without a question mark. -/
def valueOf (k : KeyPlace) (mark : Mark) (s : Scanner) : Option Scanner :=
  let s := s.insert k.token .key
  if s.pairOpen && decide (k.mark.line < mark.line) then none
  else
    let s := if s.pairOpen then s.insert k.token .flowMapStart else s
    let s := s.roll k.mark.column k.token .blockMapStart
    let s := if s.isModern then s.rollHalf else s
    some { s with keys := { k with possible := false } :: s.keys.drop 1, keyAllowed := false }

/-- A colon after a key with a question mark, or after none. -/
def valueAlone (mark : Mark) (s : Scanner) : Option Scanner :=
  let s := if s.pairOpen then s.push .flowMapStart else s
  if !s.inFlow && !s.keyAllowed then none
  else
    let s := s.roll mark.column s.tokens.length .blockMapStart
    let s := if s.isModern then s.rollHalf else s
    some (s.allowKey (!s.inFlow))

def value (s : Scanner) : Option Scanner :=
  let mark := s.here.mark
  let s := if s.isModern then { s with pairOpen := s.inFlow && !s.mapOpen } else s
  s.pastColon.bind fun s =>
    let read := match s.keys with
      | k :: _ => if k.possible then s.valueOf k mark else s.valueAlone mark
      | [] => s.valueAlone mark
    read.map (push .value)

/-! ## Nodes -/

def anchor (token : String → Token) (s : Scanner) : Option Scanner :=
  s.saveKey.bind fun s =>
    (anchorName? s.dialect s.here).map fun (name, here) =>
      { (s.push (token name)).allowKey false with here, property? := some s.here.mark.column }

def tag (s : Scanner) : Option Scanner :=
  s.saveKey.bind fun s =>
    (tag? s.dialect s.inFlow s.here).map fun (t, here) =>
      { (s.push t).allowKey false with here, property? := some s.here.mark.column }

def blockScalar (style : Style) (s : Scanner) : Option Scanner :=
  (if s.isModern then s.saveKey else s.removeKey).bind fun s =>
    let s := s.unrollHalf
    (BlockRule.scalar? ⟨s.dialect, style = .literal, s.indent⟩ s.here).map fun (text, here) =>
      { (s.push (.scalar ⟨style, text⟩)).allowKey true with here }

def quoted (style : Style) (quote : Char) (s : Scanner) : Option Scanner :=
  s.saveKey.bind fun s =>
  (QuoteRule.scalar? ⟨s.dialect, quote, s.indent⟩ s.inFlow s.here).bind fun (text, here) =>
    let s := { s.allowKey false with here }
    let s? := if s.isModern then s.toNext.map fun s => { s with adjoining := s.here.mark.index } else some s
    s?.map (push (.scalar ⟨style, text⟩))

def plain (s : Scanner) : Option Scanner :=
  s.saveKey.bind fun s =>
    let s := s.unrollHalf
    (PlainRule.scalar? ⟨s.dialect, s.inFlow, (s.indent + 1).toNat⟩ s.here).map fun (text, endsLine, here) =>
      { (s.push (.scalar ⟨.plain, text⟩)).allowKey endsLine with here }

/-! ## All tokens -/

/-- Whether a question mark here opens a key. -/
def opensKey (s : Scanner) (rest : List Char) : Bool :=
  s.dialect.endsWord rest || (s.dialect == .classic && s.inFlow)

/-- Whether a colon here opens a value. -/
def opensValue (s : Scanner) (rest : List Char) : Bool :=
  s.dialect.endsWord rest ||
    (s.inFlow && (s.dialect == .classic || rest.head?.any isFlowMark || s.here.mark.index == s.adjoining))

/-- The token that starts with these characters. -/
def fetchAt (s : Scanner) (c : Char) (rest : List Char) : Option Scanner :=
  if c == '[' then s.flowStart .flowListStart
  else if c == '\x7b' then s.flowStart .flowMapStart
  else if c == ']' then s.flowEnd .flowListEnd
  else if c == '\x7d' then s.flowEnd .flowMapEnd
  else if c == ',' then s.comma
  else if c == '-' && s.dialect.endsWord rest then s.item
  else if c == '?' && s.opensKey rest then s.key
  else if c == ':' && s.opensValue rest then s.value
  else if c == '*' then s.anchor .reference
  else if c == '&' then s.anchor .anchor
  else if c == '!' then s.tag
  else if c == '|' && !s.inFlow then s.blockScalar .literal
  else if c == '>' && !s.inFlow then s.blockScalar .folded
  else if c == '\'' then s.quoted .single c
  else if c == '"' then s.quoted .double c
  else if startsPlain s.dialect s.inFlow (c :: rest) then s.plain
  else none

/-- The next token. -/
def fetch (s : Scanner) : Option Scanner :=
  s.toNext.bind fun s =>
  s.dropStaleKeys.bind fun s =>
    let s := s.unroll s.column
    match s.here.rest with
    | [] => s.endText
    | c :: rest =>
      if s.column == 0 && c == '%' then s.directive
      else if s.here.atDocumentStart s.dialect then s.documentMarker .documentStart
      else if s.here.atDocumentEnd s.dialect then s.documentEnd
      else if s.isModern && decide (s.column < s.indent) then none
      else s.fetchAt c rest

/-- Fetches tokens up to the end of the text. -/
def run : Nat → Scanner → Option (List Token)
  | 0, _ => none
  | fuel + 1, s => if s.ended then some s.tokens.reverse else s.fetch.bind (run fuel)

end Scanner

/-- The tokens of a text; every step takes a character or ends the text. -/
def Token.ofText? (d : Dialect) (text : String) : Option (List Token) :=
  (d.characters? text).bind fun cs => (Scanner.start d cs).run (cs.length + 2)

end RateCounter.Yaml
