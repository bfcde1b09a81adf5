/-
  RateCounter.Yaml.Property — anchors, references, tags and directives.

  A tag is a handle (`!`, `!!` or `!name!`) with a suffix, or stands between angle brackets. A
  percent sign starts the bytes of a character. Directives give the version of the format and
  the meaning of handles; others are passed over in the modern dialect and refused in the
  classic one.
-/

import RateCounter.Text.Integer
import RateCounter.Yaml.Cursor
import RateCounter.Yaml.Token

namespace RateCounter.Yaml

/-- The name after `&` or `*`. -/
def anchorName? (d : Dialect) (here : Cursor) : Option (String × Cursor) :=
  let (name, after) := (here.next d).span d.isAnchorChar
  if !name.isEmpty && d.endsAnchor after.rest then some (String.ofList name, after) else none

/-! ## Tags -/

/-- How many bytes a character has whose first byte is this. -/
def byteCount? (b : Nat) : Option Nat :=
  if b < 0x80 then some 1
  else if 0xC0 ≤ b ∧ b < 0xE0 then some 2
  else if 0xE0 ≤ b ∧ b < 0xF0 then some 3
  else if 0xF0 ≤ b ∧ b < 0xF8 then some 4
  else none

/-- The byte after a percent sign. -/
def escapedByte? : List Char → Option Nat
  | '%' :: a :: b :: _ => Text.naturalIn? 16 [a, b]
  | _ => none

/-- The bytes that follow the first one of a character. -/
def trailingBytes? : Nat → List Char → Option (List Nat)
  | 0, _ => some []
  | n + 1, cs =>
    (escapedByte? cs).bind fun b =>
      if 0x80 ≤ b ∧ b < 0xC0 then (trailingBytes? n (cs.drop 3)).map (b :: ·) else none

/-- The character of these bytes. The modern dialect puts the bytes side by side. -/
def charOfBytes? (d : Dialect) (first : Nat) (more : List Nat) : Option Char :=
  let code := match d with
    | .classic =>
      let low := if more.length = 0 then first else first % (if more.length = 1 then 32 else if more.length = 2 then 16 else 8)
      more.foldl (fun n b => 64 * n + (b - 0x80)) low
    | .modern => more.foldl (fun n b => 256 * n + b) first
  if code.isValidChar then some (Char.ofNat code) else none

/-- An escaped character, and how long it is. -/
def uriEscape? (d : Dialect) (cs : List Char) : Option (Char × Nat) :=
  (escapedByte? cs).bind fun first =>
  (byteCount? first).bind fun count =>
  (trailingBytes? (count - 1) (cs.drop 3)).bind fun more =>
  (charOfBytes? d first more).map fun c => (c, 3 * count)

/-- The characters of a tag from here on. The fuel is the number of characters left. -/
def tagChars? (d : Dialect) (verbatim : Bool) : Nat → (acc : List Char) → Cursor → Option (List Char × Cursor)
  | 0, _, _ => none
  | fuel + 1, acc, here =>
    match here.rest with
    | [] => some (acc.reverse, here)
    | c :: _ =>
      if !d.isTagChar verbatim c then some (acc.reverse, here)
      else if c == '%' then
        (uriEscape? d here.rest).bind fun (ch, n) => tagChars? d verbatim fuel (ch :: acc) (here.drop d n)
      else tagChars? d verbatim fuel (c :: acc) (here.next d)

def tagText? (d : Dialect) (verbatim : Bool) (here : Cursor) : Option (List Char × Cursor) :=
  tagChars? d verbatim (here.rest.length + 1) [] here

/-- A handle from its exclamation mark on; the second mark may be missing. -/
def handle (d : Dialect) (here : Cursor) : List Char × Cursor :=
  let (name, after) := (here.next d).span isNameChar
  if after.rest.head? == some '!' then ('!' :: name ++ ['!'], after.next d) else ('!' :: name, after)

def isClosedHandle (h : List Char) : Bool := 2 ≤ h.length && h.getLast? == some '!'

/-- The tag that starts here, in angle brackets or not. -/
def tag? (d : Dialect) (flow : Bool) (here : Cursor) : Option (Token × Cursor) :=
  let read : Option (Token × Cursor) :=
    if here.startsWith "!<" then
      (tagText? d true (here.drop d 2)).bind fun (text, after) =>
        if after.rest.head? == some '>' && (d == .modern || !text.isEmpty) then
          some (.tag "" (String.ofList text), after.next d)
        else none
    else
      let (h, after) := handle d here
      (tagText? d false after).bind fun (text, after) =>
        if isClosedHandle h then
          if text.isEmpty then none else some (.tag (String.ofList h) (String.ofList text), after)
        else
          let suffix := h.drop 1 ++ text
          some (if suffix.isEmpty then .tag "" "!" else .tag "!" (String.ofList suffix), after)
  read.bind fun (token, after) => if d.endsTag flow after.rest then some (token, after) else none

/-! ## Directives -/

def versionNumber? (here : Cursor) : Option (Nat × Cursor) :=
  let (digits, after) := here.span Char.isDigit
  if 9 < digits.length then none else (Text.natural? digits).map fun n => (n, after)

/-- The two numbers of a version. -/
def version? (d : Dialect) (here : Cursor) : Option (Token × Cursor) :=
  (versionNumber? here.skipBlanks).bind fun (major, here) =>
    if here.rest.head? == some '.' then
      (versionNumber? (here.next d)).map fun (minor, here) => (.version major minor, here)
    else none

/-- What a handle stands for, up to a blank or the end of the line. -/
def meaning? (d : Dialect) (here : Cursor) : Option (List Char × Cursor) :=
  match d with
  | .classic => (tagText? d true here).bind fun (text, after) => if text.isEmpty then none else some (text, after)
  | .modern =>
    if here.rest.head? == some '!' || here.rest.head?.any (Dialect.modern.isTagChar false) then tagText? d true here
    else none

/-- A handle and what it stands for. -/
def tagHandle? (d : Dialect) (here : Cursor) : Option (Token × Cursor) :=
  let here := here.skipBlanks
  if here.rest.head? != some '!' then none
  else
    let (h, after) := handle d here
    if !isClosedHandle h && h != ['!'] then none
    else if d == .classic && !after.rest.head?.any isBlank then none
    else
      (meaning? d after.skipBlanks).bind fun (text, after) =>
        if d.endsWord after.rest then some (.tagHandle (String.ofList h) (String.ofList text), after) else none

/-- Over the rest of a directive's line, and its break. -/
def afterDirective? (d : Dialect) (here : Cursor) : Option Cursor :=
  let rest? : Option Cursor := match d with
    | .classic =>
      let here := here.skipBlanks
      some (if here.rest.head? == some '#' then here.toLineEnd d else here)
    | .modern => (here.toContent? d).map fun (_, here) => here
  rest?.bind fun here => if d.endsLine here.rest then some (here.next d) else none

/-- The directive whose percent sign stands here. -/
def directive? (d : Dialect) (here : Cursor) : Option (Token × Cursor) :=
  let (name, after) := (here.next d).span isNameChar
  if name.isEmpty || !d.endsWord after.rest then none
  else
    let read : Option (Token × Cursor) := match String.ofList name, d with
      | "YAML", _ => version? d after
      | "TAG", _ => tagHandle? d after
      | _, .classic => none
      | _, .modern => some (.tagHandle "" "", after.toLineEnd d)
    read.bind fun (token, after) => (afterDirective? d after).map fun after => (token, after)

end RateCounter.Yaml
