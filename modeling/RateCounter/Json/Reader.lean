/-
  RateCounter.Json.Reader — reading JSON texts.

  The grammar is strict: no comments, no final commas, no raw control characters in texts,
  no leading zeros. A whole number outside −2^63 … 2^64 − 1 is read as a `float`, `-0` too.
  A `float` is built from as many leading digits as fit into 64 bits, in steps
  (`Double.ofDecimalInSteps`). Of two fields with one name the later counts. Lists and
  objects lie at most 127 deep.
-/

import RateCounter.Json
import RateCounter.Text.Integer
import RateCounter.Word

namespace RateCounter.Json

def isBlankChar (c : Char) : Bool := c == ' ' || c == '\n' || c == '\t' || c == '\r'

def skipBlanks (cs : List Char) : List Char := cs.dropWhile isBlankChar

/-! ## Texts -/

def hexValue? (cs : List Char) : Option Nat := Text.naturalIn? 16 cs

/-- The character of a four-digit escape; a high surrogate needs the low one after it. -/
def unitChar? (unit : Nat) (rest : List Char) : Option (Char × List Char) :=
  if 0xD800 ≤ unit ∧ unit ≤ 0xDBFF then
    match rest with
    | '\\' :: 'u' :: a :: b :: c :: d :: rest =>
      (hexValue? [a, b, c, d]).bind fun low =>
        if 0xDC00 ≤ low ∧ low ≤ 0xDFFF then
          some (Char.ofNat (0x10000 + (unit - 0xD800) * 0x400 + (low - 0xDC00)), rest)
        else none
    | _ => none
  else if 0xDC00 ≤ unit ∧ unit ≤ 0xDFFF then none
  else some (Char.ofNat unit, rest)

def simpleEscape? : Char → Option Char
  | '"' => some '"'
  | '\\' => some '\\'
  | '/' => some '/'
  | 'b' => some (Char.ofNat 8)
  | 'f' => some (Char.ofNat 12)
  | 'n' => some '\n'
  | 'r' => some '\r'
  | 't' => some '\t'
  | _ => none

/-- The text up to the closing quote, and what follows it. `acc` holds it backwards. -/
def readText : Nat → List Char → List Char → Option (String × List Char)
  | 0, _, _ => none
  | fuel + 1, acc, cs =>
    match cs with
    | [] => none
    | '"' :: rest => some (String.ofList acc.reverse, rest)
    | '\\' :: 'u' :: a :: b :: c :: d :: rest =>
      (hexValue? [a, b, c, d]).bind fun unit =>
        (unitChar? unit rest).bind fun (ch, rest) => readText fuel (ch :: acc) rest
    | '\\' :: c :: rest => (simpleEscape? c).bind fun ch => readText fuel (ch :: acc) rest
    | c :: rest => if c.toNat < 32 then none else readText fuel (c :: acc) rest

/-! ## Numbers -/

def addDigit (n : Nat) (c : Char) : Nat := 10 * n + Text.digitValue c

/-- The leading digits as a number below 2^64, and how many digits were left out. -/
def leadingDigits : Nat → List Char → Nat × Nat
  | n, [] => (n, 0)
  | n, c :: cs => if addDigit n c ≤ Word.max64 then leadingDigits (addDigit n c) cs else (n, cs.length + 1)

/-- Digits after the point, as long as they fit; and how many were taken. -/
def fractionDigits : Nat → List Char → Nat × Nat
  | n, [] => (n, 0)
  | n, c :: cs =>
    if addDigit n c ≤ Word.max64 then
      let (m, taken) := fractionDigits (addDigit n c) cs
      (m, taken + 1)
    else (n, 0)

def floatOf (negative : Bool) (whole fraction : List Char) (exponent : Int) : Option Double :=
  let (n, left) := leadingDigits 0 whole
  let (m, taken) := fractionDigits n fraction
  (Double.nearest negative m 1).bind fun digits => digits.ofDecimalInSteps (left - taken + exponent) 8

/-- The exponent after `e`, and what follows it. -/
def readExponent (cs : List Char) : Option (Int × List Char) :=
  let (negative, cs) := match cs with
    | '-' :: rest => (true, rest)
    | '+' :: rest => (false, rest)
    | rest => (false, rest)
  (Text.natural? (cs.takeWhile Char.isDigit)).map fun n =>
    (if negative then -(n : Int) else n, cs.dropWhile Char.isDigit)

def readNumber (cs : List Char) : Option (Json × List Char) :=
  let (negative, cs) := match cs with
    | '-' :: rest => (true, rest)
    | rest => (false, rest)
  let whole := cs.takeWhile Char.isDigit
  let rest := cs.dropWhile Char.isDigit
  if whole = [] ∨ (whole.head? = some '0' ∧ 1 < whole.length) then none
  else
    match rest with
    | '.' :: rest =>
      let fraction := rest.takeWhile Char.isDigit
      let rest := rest.dropWhile Char.isDigit
      if fraction = [] then none
      else
        match rest with
        | 'e' :: rest | 'E' :: rest =>
          (readExponent rest).bind fun (e, rest) => (floatOf negative whole fraction e).map (float ·, rest)
        | rest => (floatOf negative whole fraction 0).map (float ·, rest)
    | 'e' :: rest | 'E' :: rest =>
      (readExponent rest).bind fun (e, rest) => (floatOf negative whole [] e).map (float ·, rest)
    | rest =>
      let n := whole.foldl addDigit 0
      if negative then
        if 0 < n ∧ n ≤ Word.count63 then some (int (-(n : Int)), rest)
        else (floatOf true whole [] 0).map (float ·, rest)
      else if n ≤ Word.max64 then some (int n, rest)
      else (floatOf false whole [] 0).map (float ·, rest)

/-! ## Values -/

def literal? (word : String) (value : Json) (cs : List Char) : Option (Json × List Char) :=
  if word.toList.isPrefixOf cs then some (value, cs.drop word.length) else none

/-- How deep lists and objects may lie in one another. -/
def maxDepth : Nat := 127

mutual

/-- A value after blanks, with `depth` levels left; the fuel bounds the length. -/
def readValue : Nat → (depth : Nat) → List Char → Option (Json × List Char)
  | 0, _, _ => none
  | fuel + 1, depth, cs =>
    match skipBlanks cs with
    | [] => none
    | '"' :: rest => (readText (rest.length + 1) [] rest).map fun (s, rest) => (text s, rest)
    | '[' :: rest =>
      if depth = 0 then none
      else
        match skipBlanks rest with
        | ']' :: rest => some (list [], rest)
        | rest => (readItems fuel (depth - 1) [] rest).map fun (xs, rest) => (list xs, rest)
    | '\x7b' :: rest =>
      if depth = 0 then none
      else
        match skipBlanks rest with
        | '\x7d' :: rest => some (object [], rest)
        | rest => (readFields fuel (depth - 1) [] rest).map fun (fs, rest) => (object fs, rest)
    | 't' :: rest => literal? "rue" (bool true) rest
    | 'f' :: rest => literal? "alse" (bool false) rest
    | 'n' :: rest => literal? "ull" null rest
    | rest => readNumber rest

def readItems : Nat → (depth : Nat) → List Json → List Char → Option (List Json × List Char)
  | 0, _, _, _ => none
  | fuel + 1, depth, acc, cs =>
    match readValue fuel depth cs with
    | none => none
    | some (x, rest) =>
      match skipBlanks rest with
      | ',' :: rest => readItems fuel depth (x :: acc) rest
      | ']' :: rest => some ((x :: acc).reverse, rest)
      | _ => none

def readFields : Nat → (depth : Nat) → Fields → List Char → Option (Fields × List Char)
  | 0, _, _, _ => none
  | fuel + 1, depth, acc, cs =>
    match skipBlanks cs with
    | '"' :: rest =>
      match readText (rest.length + 1) [] rest with
      | none => none
      | some (name, rest) =>
        match skipBlanks rest with
        | ':' :: rest =>
          match readValue fuel depth rest with
          | none => none
          | some (x, rest) =>
            match skipBlanks rest with
            | ',' :: rest => readFields fuel depth (put name x acc) rest
            | '\x7d' :: rest => some (put name x acc, rest)
            | _ => none
        | _ => none
    | _ => none

end

/-- The value of a whole text. -/
def read? (s : String) : Option Json :=
  match readValue (2 * s.length + 2) maxDepth s.toList with
  | some (x, rest) => if skipBlanks rest = [] then some x else none
  | none => none

end RateCounter.Json
