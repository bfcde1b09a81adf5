/-
  RateCounter.Yaml.Dialect — the two dialects in which YAML texts are read.

  `classic` is the older: a line may end with a separator of lines or paragraphs, tabs may
  not stand where a key could, and a key in brackets needs no blank after `?` or `:`.
  `modern` is stricter with indentation, also in brackets, and with what may follow a quoted
  scalar or a bracket; it takes empty keys and values that adjoin their quoted key.
-/

namespace RateCounter.Yaml

inductive Dialect where
  | classic
  | modern
  deriving DecidableEq, Repr

def byteOrderMark : Char := Char.ofNat 0xFEFF

def isBlank (c : Char) : Bool := c == ' ' || c == '\t'

def isFlowMark (c : Char) : Bool := c == ',' || c == '[' || c == ']' || c == '\x7b' || c == '\x7d'

/-- The characters of names: ASCII letters and digits, `-` and `_`. -/
def isNameChar (c : Char) : Bool := c.isAlphanum || c == '-' || c == '_'

/-- Ends a line but is kept where lines are joined. -/
def isSeparator (c : Char) : Bool := c.toNat == 0x2028 || c.toNat == 0x2029

def isUriMark (c : Char) : Bool := ";/?:@&=+$.!~*'()%".toList.contains c

namespace Dialect

def isBreak : Dialect → Char → Bool
  | classic, c => c == '\n' || isSeparator c
  | modern, c => c == '\n'

/-- A blank, a line break or the end stands first. -/
def endsWord (d : Dialect) : List Char → Bool
  | [] => true
  | c :: _ => isBlank c || d.isBreak c

/-- A line break or the end stands first. -/
def endsLine (d : Dialect) : List Char → Bool
  | [] => true
  | c :: _ => d.isBreak c

/-- The characters a text may hold. -/
def allows : Dialect → Char → Bool
  | classic, c =>
    let n := c.toNat
    n == 9 || n == 10 || n == 13 || (32 ≤ n && n ≤ 126) || n == 0x85 || (0xA0 ≤ n && n ≤ 0xFFFD) || 0x10000 ≤ n
  | modern, _ => true

/-- The end of a text that holds characters which are not allowed. -/
def isEnd : Dialect → Char → Bool
  | classic, _ => false
  | modern, c => c.toNat == 0

/-- Line breaks of one kind. -/
def withBreaks (d : Dialect) : List Char → List Char
  | '\r' :: '\n' :: rest => '\n' :: withBreaks d rest
  | c :: rest =>
    (if c == '\r' || (d == classic && c.toNat == 0x85) then '\n' else c) :: withBreaks d rest
  | [] => []

/-- The characters to read, if all are allowed. -/
def characters? (d : Dialect) (text : String) : Option (List Char) :=
  let cs := text.toList.takeWhile fun c => !d.isEnd c
  if cs.all d.allows then some (d.withBreaks cs) else none

/-- The characters of the names of anchors. -/
def isAnchorChar : Dialect → Char → Bool
  | classic, c => isNameChar c
  | modern, c => !isBlank c && c != '\n' && !isFlowMark c && c != byteOrderMark

/-- What may follow the name of an anchor. -/
def endsAnchor : Dialect → List Char → Bool
  | classic, [] => true
  | classic, c :: _ => isBlank c || classic.isBreak c || "?:,]\x7d%@`".toList.contains c
  | modern, _ => true

/-- The characters of tags; some may stand only between angle brackets or in prefixes. -/
def isTagChar : Dialect → (verbatim : Bool) → Char → Bool
  | classic, verbatim, c => isNameChar c || isUriMark c || (verbatim && (c == ',' || c == '[' || c == ']'))
  | modern, verbatim, c =>
    isNameChar c || (isUriMark c && (verbatim || c != '!')) || c == '#' || (verbatim && (c == ',' || c == '[' || c == ']'))

/-- What may follow a tag. -/
def endsTag (d : Dialect) (flow : Bool) : List Char → Bool
  | [] => true
  | c :: _ =>
    isBlank c || d.isBreak c ||
      match d with
      | classic => flow && c == ','
      | modern => flow && isFlowMark c

end Dialect

end RateCounter.Yaml
