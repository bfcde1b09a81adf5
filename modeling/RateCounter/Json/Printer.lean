/-
  RateCounter.Json.Printer — the text of a JSON value: no spaces, fields in the order kept.

  Quotes, backslashes and control characters are escaped; with `ascii` also every character
  above `~`, in units of sixteen bits.
-/

import RateCounter.Json

namespace RateCounter.Json

def hex4 (n : Nat) : String :=
  let digits := Nat.toDigits 16 n
  String.ofList (List.replicate (4 - digits.length) '0' ++ digits)

/-- One unit of sixteen bits up to U+FFFF, above it two surrogates. -/
def unitEscape (n : Nat) : String :=
  if n < 0x10000 then "\\u" ++ hex4 n
  else "\\u" ++ hex4 (0xD800 + (n - 0x10000) / 0x400) ++ "\\u" ++ hex4 (0xDC00 + (n - 0x10000) % 0x400)

def escapedChar (ascii : Bool) (c : Char) : String :=
  if c = '"' then "\\\""
  else if c = '\\' then "\\\\"
  else if c = '\n' then "\\n"
  else if c = '\r' then "\\r"
  else if c = '\t' then "\\t"
  else if c.toNat = 8 then "\\b"
  else if c.toNat = 12 then "\\f"
  else if c.toNat < 32 || (ascii && c.toNat > 126) then unitEscape c.toNat
  else c.toString

def printText (ascii : Bool) (s : String) : String :=
  "\"" ++ String.join (s.toList.map (escapedChar ascii)) ++ "\""

mutual

def print (ascii : Bool) : Json → String
  | null => "null"
  | bool true => "true"
  | bool false => "false"
  | int n => toString n
  | float x => x.compact
  | text s => printText ascii s
  | list items => "[" ++ ",".intercalate (printItems ascii items) ++ "]"
  | object fields => "\x7b" ++ ",".intercalate (printFields ascii fields) ++ "\x7d"

def printItems (ascii : Bool) : List Json → List String
  | [] => []
  | x :: xs => print ascii x :: printItems ascii xs

def printFields (ascii : Bool) : List (String × Json) → List String
  | [] => []
  | (k, x) :: xs => (printText ascii k ++ ":" ++ print ascii x) :: printFields ascii xs

end

end RateCounter.Json
