/-
  RateCounter.Yaml.Document — reading the document of a YAML text.

  A text holds one document. Nodes are put together from tokens; where one is missing, an
  empty scalar stands for it. In the classic dialect an anchor gets the number of names in
  use, so that an anchor defined anew shares its number with the next new name; in the
  modern dialect anchors are numbered one after the other. A reference must follow an anchor
  of its name.
-/

import RateCounter.Yaml.Tokens

namespace RateCounter.Yaml

/-- Tokens to read, and the numbers of the anchors so far. -/
structure Reading where
  dialect : Dialect
  /-- What the handles of tags stand for. -/
  handles : List (String × String)
  tokens : List Token
  anchors : List (String × Nat)
  defined : Nat

namespace Reading

def skip (r : Reading) : Reading := { r with tokens := r.tokens.drop 1 }

def isModern (r : Reading) : Bool := r.dialect == .modern

/-- Whether the next token is one of these. -/
def isAt (ts : List Token) (r : Reading) : Bool := r.tokens.head?.any ts.contains

/-! ## Anchors and tags -/

def define (name : String) (r : Reading) : Nat × Reading :=
  let n := if r.isModern then r.defined else r.anchors.length
  (n, { r with anchors := (name, n) :: r.anchors.filter (·.1 != name), defined := r.defined + 1 })

def tag? (r : Reading) (h suffix : String) : Option Tag :=
  if h.isEmpty then
    match r.handles.lookup "" with
    | some meaning => if r.isModern && suffix == "!" then some ⟨meaning, suffix⟩ else some ⟨"", suffix⟩
    | none => some ⟨"", suffix⟩
  else
    match r.handles.lookup h with
    | some meaning => some ⟨meaning, suffix⟩
    | none =>
      if h == "!!" then some ⟨coreHandle, suffix⟩
      else if isClosedHandle h.toList then none
      else some ⟨h, suffix⟩

def anchor? (r : Reading) : Option Nat × Reading :=
  match r.tokens with
  | .anchor name :: _ => let (n, r) := r.skip.define name; (some n, r)
  | _ => (none, r)

/-- The tag that stands here, if one does; its handle must mean something. -/
def tagHere? (r : Reading) : Option (Option Tag × Reading) :=
  match r.tokens with
  | .tag h suffix :: _ => (r.tag? h suffix).map fun t => (some t, r.skip)
  | _ => some (none, r)

/-- What stands before a node: an anchor and a tag in any order. -/
def properties? (r : Reading) : Option (Properties × Reading) :=
  match r.anchor? with
  | (some n, r) => r.tagHere?.map fun (t, r) => (⟨some n, t⟩, r)
  | (none, r) =>
    r.tagHere?.map fun
      | (some t, r) => let (n, r) := r.anchor?; (⟨n, some t⟩, r)
      | (none, r) => (.none, r)

/-- In the classic dialect the tag `!` of a scalar counts for nothing. -/
def scalar (r : Reading) (p : Properties) (s : Scalar) : Yaml :=
  if !r.isModern && p.tag?.any fun t => t.text == "!" then .scalar { p with tag? := none } s else .scalar p s

/-! ## Nodes -/

mutual

/-- A node; `block` tells whether it may be a block, and `dashes` whether dashes in the column
    of its key are its items. -/
def node : Nat → (block dashes : Bool) → Reading → Option (Yaml × Reading)
  | 0, _, _, _ => none
  | fuel + 1, block, dashes, r =>
    match r.tokens with
    | .reference name :: _ => (r.anchors.lookup name).map fun n => (.reference n, r.skip)
    | _ =>
      r.properties?.bind fun (p, r) =>
        match r.tokens with
        | .scalar s :: _ => some (r.scalar p s, r.skip)
        | .flowListStart :: _ => (flowItems fuel true [] r.skip).map fun (items, r) => (.list p items, r)
        | .flowMapStart :: _ => (flowEntries fuel true [] r.skip).map fun (entries, r) => (.map p entries, r)
        | t :: _ =>
          if t = .item && dashes then (dashedItems fuel [] r).map fun (items, r) => (.list p items, r)
          else if t = .blockListStart && block then
            (blockItems fuel [] r.skip).map fun (items, r) => (.list p items, r)
          else if t = .blockMapStart && block then
            (blockEntries fuel [] r.skip).map fun (entries, r) => (.map p entries, r)
          else if p = .none then none
          else some (.scalar p .empty, r)
        | [] => if p = .none then none else some (.scalar p .empty, r)

/-- A node, or a missing one before these tokens. -/
def nodeOr : Nat → List Token → (block dashes : Bool) → Reading → Option (Yaml × Reading)
  | 0, _, _, _, _ => none
  | fuel + 1, ts, block, dashes, r => if r.isAt ts then some (missing, r) else node fuel block dashes r

/-- A value after its token, or a missing one. -/
def valueOr : Nat → List Token → (block : Bool) → Reading → Option (Yaml × Reading)
  | 0, _, _, _ => none
  | fuel + 1, ts, block, r => if r.isAt [.value] then nodeOr fuel ts block block r.skip else some (missing, r)

def blockItems : Nat → List Yaml → Reading → Option (List Yaml × Reading)
  | 0, _, _ => none
  | fuel + 1, acc, r =>
    if r.isAt [.blockEnd] then some (acc.reverse, r.skip)
    else if r.isAt [.item] then
      (nodeOr fuel [.item, .blockEnd] true false r.skip).bind fun (y, r) => blockItems fuel (y :: acc) r
    else none

/-- Items in the column of their key. -/
def dashedItems : Nat → List Yaml → Reading → Option (List Yaml × Reading)
  | 0, _, _ => none
  | fuel + 1, acc, r =>
    if r.isAt [.item] then
      (nodeOr fuel [.item, .key, .value, .blockEnd] true false r.skip).bind fun (y, r) => dashedItems fuel (y :: acc) r
    else some (acc.reverse, r)

/-- Entries of a block. Only in the modern dialect a key may be missing altogether. -/
def blockEntries : Nat → List (Yaml × Yaml) → Reading → Option (List (Yaml × Yaml) × Reading)
  | 0, _, _ => none
  | fuel + 1, acc, r =>
    if r.isAt [.blockEnd] then some (acc.reverse, r.skip)
    else
      let key :=
        if r.isAt [.key] then nodeOr fuel [.key, .value, .blockEnd] true true r.skip
        else if r.isModern && r.isAt [.value] then some (missing, r)
        else none
      key.bind fun (k, r) =>
      (valueOr fuel [.key, .value, .blockEnd] true r).bind fun (v, r) => blockEntries fuel ((k, v) :: acc) r

/-- Items in brackets, with commas between them; a pair stands for a mapping. -/
def flowItems : Nat → (first : Bool) → List Yaml → Reading → Option (List Yaml × Reading)
  | 0, _, _, _ => none
  | fuel + 1, first, acc, r =>
    if r.isAt [.flowListEnd] then some (acc.reverse, r.skip)
    else if !first && !r.isAt [.comma] then none
    else
      let r := if first then r else r.skip
      if r.isAt [.flowListEnd] then some (acc.reverse, r.skip)
      else
        let item := if r.isAt [.key] then pair fuel r.skip else node fuel false false r
        item.bind fun (y, r) => flowItems fuel false (y :: acc) r

/-- A pair after its `?`; the token after a missing key is passed over. -/
def pair : Nat → Reading → Option (Yaml × Reading)
  | 0, _ => none
  | fuel + 1, r =>
    let key :=
      if r.isAt [.value, .comma, .flowListEnd] then some (missing, r.skip) else node fuel false false r
    key.bind fun (k, r) =>
    (valueOr fuel [.comma, .flowListEnd] false r).map fun (v, r) => (.map .none [(k, v)], r)

/-- Entries in brackets, with commas between them; a node alone is a key. -/
def flowEntries : Nat → (first : Bool) → List (Yaml × Yaml) → Reading → Option (List (Yaml × Yaml) × Reading)
  | 0, _, _, _ => none
  | fuel + 1, first, acc, r =>
    if r.isAt [.flowMapEnd] then some (acc.reverse, r.skip)
    else if !first && !r.isAt [.comma] then none
    else
      let r := if first then r else r.skip
      if r.isAt [.flowMapEnd] then some (acc.reverse, r.skip)
      else if r.isAt [.key] then
        (nodeOr fuel [.value, .comma, .flowMapEnd] false false r.skip).bind fun (k, r) =>
        (valueOr fuel [.comma, .flowMapEnd] false r).bind fun (v, r) => flowEntries fuel false ((k, v) :: acc) r
      else if r.isModern && r.isAt [.value] then
        (valueOr fuel [.comma, .flowMapEnd] false r).bind fun (v, r) => flowEntries fuel false ((missing, v) :: acc) r
      else (node fuel false false r).bind fun (k, r) => flowEntries fuel false ((k, missing) :: acc) r

end

/-! ## Documents -/

/-- Reads directives. In the classic dialect all handles count, none may be given twice, and the
    version must be known; in the modern one only a handle given last counts. -/
def directives? : Nat → (versions : Nat) → Reading → Option Reading
  | 0, _, _ => none
  | fuel + 1, versions, r =>
    match r.tokens with
    | .version major minor :: _ =>
      if 0 < versions || (!r.isModern && !(major = 1 && (minor = 1 || minor = 2))) then none
      else directives? fuel (versions + 1) { r.skip with handles := if r.isModern then [] else r.handles }
    | .tagHandle h meaning :: _ =>
      if r.isModern then directives? fuel versions { r.skip with handles := [(h, meaning)] }
      else if (r.handles.lookup h).isSome then none
      else directives? fuel versions { r.skip with handles := (h, meaning) :: r.handles }
    | _ => some r

/-- What stands between the directives and the end of a document. -/
def content? (fuel : Nat) (r : Reading) : Option (Yaml × Reading) :=
  match r.tokens with
  | [] | .version .. :: _ | .tagHandle .. :: _ | .documentStart :: _ | .documentEnd :: _ => some (missing, r)
  | _ => node fuel true false r

/-- Nothing but the ends of documents is left. -/
def isDone (r : Reading) : Bool := r.tokens.all (· == .documentEnd)

/-- Over the ends of documents that are not there. -/
def skipEnds (r : Reading) : Reading := { r with tokens := r.tokens.dropWhile (· == .documentEnd) }

/-- The document of a text that holds one; `none` within if it holds none. -/
def document? (fuel : Nat) (r : Reading) : Option (Option Yaml) :=
  let r := if r.isModern then r.skipEnds else r
  match r.tokens with
  | [] => some none
  | .version .. :: _ | .tagHandle .. :: _ | .documentStart :: _ =>
    (directives? fuel 0 r).bind fun r =>
      if !r.isAt [.documentStart] then none
      else
        (content? fuel r.skip).bind fun (y, r) => if r.isDone then some (some y) else none
  | _ => (node fuel true false r).bind fun (y, r) => if r.isDone then some (some y) else none

end Reading

/-- The document of a text, if it can be read and holds at most one; `none` within if it holds
    none. -/
def documentOf? (d : Dialect) (text : String) : Option (Option Yaml) :=
  (Token.ofText? d text).bind fun tokens => Reading.document? (4 * tokens.length + 4) ⟨d, [], tokens, [], 1⟩

end RateCounter.Yaml
