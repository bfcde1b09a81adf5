/-
  RateCounter.Net.Address — socket addresses and their text.

  Read are `a.b.c.d:port` and `[v6]:port`, the latter with an optional numeric `%scope`;
  nothing may stand around them. Octets have no leading zeros, ports may; a version 6
  address may end in an embedded version 4 one, and `::` stands for at least one zero
  group. Written is one canonical text: lower-case groups, the first longest run of two or
  more zero groups as `::`, mapped addresses as `::ffff:a.b.c.d`.
-/

import RateCounter.Text.Integer
import RateCounter.Word

namespace RateCounter.Net

inductive Ip where
  | v4 (octets : List Nat)
  | v6 (groups : List Nat)
  deriving DecidableEq, Repr

structure Address where
  ip : Ip
  port : Nat
  /-- The zone of a version 6 address; 0 if there is none. -/
  scope : Nat
  deriving DecidableEq, Repr

namespace Address

/-! ## Reading -/

abbrev Step (α : Type) := Option (α × List Char)

def expect (c : Char) : List Char → Step Unit
  | d :: rest => if c = d then some ((), rest) else none
  | [] => none

/-- A number of the radix up to `max`, of at most `maxDigits` digits if that is given. -/
def number (radix max : Nat) (maxDigits : Option Nat) (zeroFirst : Bool) (cs : List Char) : Step Nat :=
  let isDigit := fun c => decide (Text.digitValue c < radix)
  let digits := cs.takeWhile isDigit
  let fits := match maxDigits with
    | none => true
    | some k => decide (digits.length ≤ k)
  let plain := zeroFirst || !(digits.head? == some '0' && decide (1 < digits.length))
  (Text.atMost? max (Text.naturalIn? radix digits)).bind fun n =>
    if fits && plain then some (n, cs.dropWhile isDigit) else none

def octet (cs : List Char) : Step Nat := number 10 255 (some 3) false cs

def ipv4 (cs : List Char) : Step (List Nat) :=
  (octet cs).bind fun (a, cs) => (expect '.' cs).bind fun (_, cs) =>
  (octet cs).bind fun (b, cs) => (expect '.' cs).bind fun (_, cs) =>
  (octet cs).bind fun (c, cs) => (expect '.' cs).bind fun (_, cs) =>
  (octet cs).map fun (d, cs) => ([a, b, c, d], cs)

/-- What stands before group `i`: nothing, or a colon. -/
def separated {α : Type} (i : Nat) (read : List Char → Step α) (cs : List Char) : Step α :=
  if i = 0 then read cs else (expect ':' cs).bind fun (_, cs) => read cs

/-- Up to `slots` more groups after `i` of them; and whether they end in a version 4 address. -/
def groups : (slots i : Nat) → List Char → List Nat × Bool × List Char
  | 0, _, cs => ([], false, cs)
  | slots + 1, i, cs =>
    let embedded := if 0 < slots then separated i ipv4 cs else none
    match embedded with
    | some ([a, b, c, d], cs) => ([a * 256 + b, c * 256 + d], true, cs)
    | _ =>
      match separated i (number 16 0xFFFF (some 4) true) cs with
      | none => ([], false, cs)
      | some (g, cs) =>
        let (rest, v4, cs) := groups slots (i + 1) cs
        (g :: rest, v4, cs)

def ipv6 (cs : List Char) : Step (List Nat) :=
  let (front, v4, cs) := groups 8 0 cs
  if front.length = 8 then some (front, cs)
  else if v4 then none
  else
    (expect ':' cs).bind fun (_, cs) => (expect ':' cs).map fun (_, cs) =>
      let (back, _, cs) := groups (7 - front.length) 0 cs
      (front ++ List.replicate (8 - front.length - back.length) 0 ++ back, cs)

def portNumber (cs : List Char) : Step Nat :=
  (expect ':' cs).bind fun (_, cs) => number 10 0xFFFF none true cs

def scopeOf (cs : List Char) : Nat × List Char :=
  match (expect '%' cs).bind fun (_, cs) => number 10 (Word.count32 - 1) none true cs with
  | some (n, cs) => (n, cs)
  | none => (0, cs)

def readV4 (cs : List Char) : Step Address :=
  (ipv4 cs).bind fun (octets, cs) => (portNumber cs).map fun (p, cs) => (⟨.v4 octets, p, 0⟩, cs)

def readV6 (cs : List Char) : Step Address :=
  (expect '[' cs).bind fun (_, cs) => (ipv6 cs).bind fun (gs, cs) =>
    let (scope, cs) := scopeOf cs
    (expect ']' cs).bind fun (_, cs) => (portNumber cs).map fun (p, cs) => (⟨.v6 gs, p, scope⟩, cs)

def ofText? (s : String) : Option Address :=
  match (readV4 s.toList).orElse fun _ => readV6 s.toList with
  | some (a, []) => some a
  | _ => none

/-! ## Writing -/

def dotted (octets : List Nat) : String := ".".intercalate (octets.map toString)

def hexGroup (n : Nat) : String := String.ofList (Nat.toDigits 16 n)

def colons (gs : List Nat) : String := ":".intercalate (gs.map hexGroup)

/-- The first longest run of zeros among the groups from place `i` on, as place and length. -/
def longestRun : (i start run : Nat) → (best : Nat × Nat) → List Nat → Nat × Nat
  | _, _, _, best, [] => best
  | i, start, run, best, g :: gs =>
    if g = 0 then
      let start := if run = 0 then i else start
      let best := if best.2 < run + 1 then (start, run + 1) else best
      longestRun (i + 1) start (run + 1) best gs
    else longestRun (i + 1) start 0 best gs

def v6Text : List Nat → String
  | [0, 0, 0, 0, 0, 0xFFFF, a, b] => "::ffff:" ++ dotted [a / 256, a % 256, b / 256, b % 256]
  | gs =>
    let (start, run) := longestRun 0 0 0 (0, 0) gs
    if 1 < run then colons (gs.take start) ++ "::" ++ colons (gs.drop (start + run)) else colons gs

def text (a : Address) : String :=
  match a.ip with
  | .v4 octets => dotted octets ++ ":" ++ toString a.port
  | .v6 gs =>
    "[" ++ v6Text gs ++ (if a.scope = 0 then "" else "%" ++ toString a.scope) ++ "]:" ++ toString a.port

end Address

end RateCounter.Net
