/-
  RateCounter.Simulation.Tree — groups of backends nested in groups, to a given depth.

  A leaf is a memory store, a node of the mesh or a store with faults. A tree of depth 0 is
  a leaf; one of depth `n + 1` is a leaf or a group of trees of depth `n`. Places in a group
  are lists of positions, the outermost first.
-/

import RateCounter.Config.Json
import RateCounter.Failover.Report
import RateCounter.Registry
import RateCounter.Simulation.Faulty

namespace RateCounter.Simulation

def leaf : Backend := Registry.Builtin.sum FaultyStore.backend

def tree : Nat → Backend
  | 0 => leaf
  | n + 1 => leaf.sum (Failover.backend (tree n))

namespace Tree

/-- A leaf as a tree. -/
def ofLeaf : (n : Nat) → leaf.State → (tree n).State
  | 0, s => s
  | _ + 1, s => .inl s

def leaf? : (n : Nat) → (tree n).State → Option leaf.State
  | 0, s => some s
  | _ + 1, .inl s => some s
  | _ + 1, .inr _ => none

def faulty? (n : Nat) (s : (tree n).State) : Option FaultyStore :=
  match leaf? n s with
  | some (.inr f) => some f
  | _ => none

mutual

/-- How deep lists and objects are nested in a document. No configuration nests groups deeper. -/
def depth : Json → Nat
  | .list items => depthOfItems items + 1
  | .object fields => depthOfFields fields + 1
  | _ => 0

def depthOfItems : List Json → Nat
  | [] => 0
  | j :: rest => max (depth j) (depthOfItems rest)

def depthOfFields : List (String × Json) → Nat
  | [] => 0
  | (_, j) :: rest => max (depth j) (depthOfFields rest)

end

/-! ## Building -/

/-- The names of the backends whose factories ran. -/
abbrev Trace := List String

/-- A refusal that names the backend, or one of another kind. -/
def brokenError (b : BackendSpec) : Error :=
  let message := match b.settings.lookup "message" with
    | some (.text m) => m
    | _ => ""
  match b.settings.lookup "error" with
  | some (.text "Io") => .io message
  | some (.text "Cluster") => .cluster (.start message)
  | some (.text "InvalidArgument") => .invalidArgument message
  | _ => .configuration (.refused ("backend '" ++ b.name ++ "' " ++ message))

def broken {α : Type} : Factory Trace α := fun b trace => (.error (brokenError b), trace ++ [b.name])

def controlled {α : Type} (put : leaf.State → α) : Factory Trace α := fun b trace =>
  (.ok (put (.inr (.ofFaults (Faults.none.update b.settings)))), trace ++ [b.name])

/-- A memory store that notes `tag:name`. -/
def tagged {α : Type} (put : leaf.State → α) (tag : String) : Factory Trace α := fun b trace =>
  (.ok (put (.inl (.inl (Store.empty defaultPurgeEvery)))), trace ++ [tag ++ ":" ++ b.name])

/-- The configuration of a nested group. -/
def nestedConfig (b : BackendSpec) : Except Error Config :=
  match (b.settings.lookup "config").bind Config.ofJson? with
  | some c => .ok c
  | none => .error (.configuration (.unreadable ""))

/-- The built-in kinds, and those for faults; `multi` is a nested group. -/
def registry : (n : Nat) → Registry Trace (tree n).State
  | 0 => leaves id fun b trace => (.error (.configuration (.refused ("'" ++ b.name ++ "' is nested too deep"))), trace)
  | n + 1 =>
    leaves .inl fun b trace =>
      match nestedConfig b with
      | .error e => (.error e, trace)
      | .ok c =>
        match (registry n).group c trace with
        | (.error e, trace) => (.error e, trace)
        | (.ok g, trace) => (.ok (.inr g), trace ++ [b.name])
where
  leaves {α : Type} (put : leaf.State → α) (multi : Factory Trace α) : Registry Trace α :=
    (((Registry.builtin fun s => put (.inl s)).register "controlled" (controlled put)).register "broken"
      broken).register "multi" multi

/-! ## Places -/

/-- The place of the last member that satisfies `here`, or that holds a place found by `inside`. -/
def lastPlace {α : Type} (here : String → α → Bool) (inside : α → Option (List Nat)) :
    Nat → List String → List α → Option (List Nat)
  | i, name :: names, s :: rest =>
    match lastPlace here inside (i + 1) names rest with
    | some place => some place
    | none => if here name s then some [i] else (inside s).map (i :: ·)
  | _, _, _ => none

def isGroup : (n : Nat) → (tree n).State → Bool
  | _ + 1, .inr _ => true
  | _, _ => false

/-- The place of the faulty store of this name that was built last. -/
def faultyPlace? : (n : Nat) → String → Failover (tree n) → Option (List Nat)
  | 0, name, g => lastPlace (fun k s => k == name && (faulty? 0 s).isSome) (fun _ => none) 0 g.names g.backends
  | n + 1, name, g =>
    lastPlace (fun k s => k == name && (faulty? (n + 1) s).isSome)
      (fun | .inl _ => none | .inr g => faultyPlace? n name g) 0 g.names g.backends

/-- The place of the nested group of this name that was built last. -/
def groupPlace? : (n : Nat) → String → Failover (tree n) → Option (List Nat)
  | 0, _, _ => none
  | n + 1, name, g =>
    lastPlace (fun k s => k == name && isGroup (n + 1) s)
      (fun | .inl _ => none | .inr g => groupPlace? n name g) 0 g.names g.backends

def faultyAt? : (n : Nat) → List Nat → Failover (tree n) → Option FaultyStore
  | n, [i], g => g.backends[i]?.bind (faulty? n)
  | n + 1, i :: rest, g =>
    match g.backends[i]? with
    | some (.inr g) => faultyAt? n rest g
    | _ => none
  | _, _, _ => none

def changeFaulty (change : FaultyStore → FaultyStore) : (n : Nat) → (tree n).State → (tree n).State
  | 0, .inr f => .inr (change f)
  | _ + 1, .inl (.inr f) => .inl (.inr (change f))
  | _, s => s

def changeFaultyAt (change : FaultyStore → FaultyStore) : (n : Nat) → List Nat → Failover (tree n) → Failover (tree n)
  | n, [i], g => { g with backends := g.backends.modify i (changeFaulty change n) }
  | n + 1, i :: rest, g =>
    { g with
      backends := g.backends.modify i fun
        | .inl s => .inl s
        | .inr g => .inr (changeFaultyAt change n rest g) }
  | _, _, g => g

/-! ## Calls on a group -/

inductive Request where
  | operate (op : Operation)
  /-- An operation as a group above would see it. -/
  | operateNested (op : Operation)
  | probe
  | refresh
  | status
  | stats
  | names
  | strategy
  | describe
  deriving Repr

inductive Answer where
  | result (r : Failover.Result)
  | outcome (o : Outcome)
  | healthy (b : Bool)
  | refreshed
  | status (m : List (String × BackendStatus))
  | stats (s : Stats)
  | names (xs : List String)
  | text (s : String)
  /-- There is no such group. -/
  | nowhere

/-- What an operation's result looks like from above. -/
def outcomeOf : Failover.Result → Outcome
  | .ok value => .ok value
  | .error e => .error e.toBackendError

inductive Flight (B : Backend) where
  | operation (nested : Bool) (run : Failover.Execution B)
  | checks (probing : Bool) (run : Monitor.Checks B)

def answerResult (nested : Bool) (r : Failover.Result) : Answer :=
  if nested then .outcome (outcomeOf r) else .result r

/-- Every request to a group of backends. -/
def requests (B : Backend) : Service (Failover B) Request Answer where
  Flight := Flight B
  start clock r g :=
    match r with
    | .operate op => run false ((Failover.operate B).start clock op g)
    | .operateNested op => run true ((Failover.operate B).start clock op g)
    | .probe => check true ((Failover.refresh B).start clock () g)
    | .refresh => check false ((Failover.refresh B).start clock () g)
    | .status => (g, .done (.status g.status.toList))
    | .stats => (g, .done (.stats g.stats))
    | .names => (g, .done (.names g.names))
    | .strategy => (g, .done (.text g.rotation.strategy.name))
    | .describe => (g, .done (.text g.describe))
  resume clock f g :=
    match f with
    | .operation nested f => run nested ((Failover.operate B).resume clock f g)
    | .checks probing f => check probing ((Failover.refresh B).resume clock f g)
  abandon f g :=
    match f with
    | .operation _ f => (Failover.operate B).abandon f g
    | .checks _ f => (Failover.refresh B).abandon f g
  wake
    | .operation _ f => (Failover.operate B).wake f
    | .checks _ f => (Failover.refresh B).wake f
where
  run (nested : Bool) : Failover B × Turn (Failover.Execution B) Failover.Result → Failover B × Turn (Flight B) Answer
    | (g, turn) => (g, turn.map (.operation nested) (answerResult nested))
  check (probing : Bool) : Failover B × Turn (Monitor.Checks B) Unit → Failover B × Turn (Flight B) Answer
    | (g, turn) =>
      (g, turn.map (.checks probing) fun _ => if probing then .healthy g.anyHealthy else .refreshed)

/-- A waiting request, in the group itself or in the member at a position. -/
inductive Placed (φ ψ : Type) where
  | here (flight : φ)
  | within (i : Nat) (flight : ψ)

/-- Requests to a group of leaves; there is no group inside. -/
def requestsToLeaves : Service (Failover (tree 0)) (List Nat × Request) Answer where
  Flight := Flight (tree 0)
  start clock a g :=
    match a with
    | ([], r) => (requests (tree 0)).start clock r g
    | _ => (g, .done .nowhere)
  resume := (requests (tree 0)).resume
  abandon := (requests (tree 0)).abandon
  wake := (requests (tree 0)).wake

/-- Requests to a group or, by `S`, to a group inside it. -/
def requestsAround {n : Nat} (S : Service (Failover (tree n)) (List Nat × Request) Answer) :
    Service (Failover (tree (n + 1))) (List Nat × Request) Answer where
  Flight := Placed (Flight (tree (n + 1))) S.Flight
  start clock a g :=
    match a with
    | ([], r) =>
      let (g, turn) := (requests (tree (n + 1))).start clock r g
      (g, turn.map .here id)
    | (i :: place, r) =>
      match g.backends[i]? with
      | some (.inr inner) =>
        let (inner, turn) := S.start clock (place, r) inner
        (g.setBackend i (.inr inner), turn.map (.within i) id)
      | _ => (g, .done .nowhere)
  resume clock f g :=
    match f with
    | .here f =>
      let (g, turn) := (requests (tree (n + 1))).resume clock f g
      (g, turn.map .here id)
    | .within i f =>
      match g.backends[i]? with
      | some (.inr inner) =>
        let (inner, turn) := S.resume clock f inner
        (g.setBackend i (.inr inner), turn.map (.within i) id)
      | _ => (g, .done .nowhere)
  abandon f g :=
    match f with
    | .here f => (requests (tree (n + 1))).abandon f g
    | .within i f =>
      match g.backends[i]? with
      | some (.inr inner) => g.setBackend i (.inr (S.abandon f inner))
      | _ => g
  wake
    | .here f => (requests (tree (n + 1))).wake f
    | .within _ f => S.wake f

/-- Requests to the group at a place. -/
def requestsAt : (n : Nat) → Service (Failover (tree n)) (List Nat × Request) Answer
  | 0 => requestsToLeaves
  | n + 1 => requestsAround (requestsAt n)

/-- The longest an operation on a tree can take, unless it hangs. -/
def patience : (n : Nat) → (tree n).State → Nat
  | n, s =>
    match faulty? n s with
    | some f => f.faults.delay
    | none => groupPatience n s
where
  groupPatience : (n : Nat) → (tree n).State → Nat
    | _ + 1, .inr g => g.patience
    | _, _ => 0

/-- The longest a request to the group at a place can take. -/
def patienceAt : (n : Nat) → List Nat → Failover (tree n) → Nat
  | n + 1, i :: place, g =>
    match g.backends[i]? with
    | some (.inr inner) => patienceAt n place inner
    | _ => 0
  | _, _, g => g.patience

end Tree

end RateCounter.Simulation
