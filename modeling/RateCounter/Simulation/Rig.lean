/-
  RateCounter.Simulation.Rig — a tree of groups under observation.

  A rig is an outermost group and the names of the backends built for it. Calls on a rig
  ask a group (the outermost one, or a nested one by its name), set and read the faults
  and counts of a faulty store by its name, and tell the time. Scripts of such calls run
  alone on the rig (`run`).
-/

import RateCounter.Simulation.Script
import RateCounter.Simulation.Tree

namespace RateCounter.Simulation

structure Rig (n : Nat) where
  group : Failover (tree n)
  built : Tree.Trace

inductive Call where
  /-- A request to the outermost group, or to the nested group of a name. -/
  | ask (group : Option String) (request : Tree.Request)
  | setFaults (backend : String) (changes : Json.Fields)
  | counts (backend : String)
  /-- The count of a key in the store behind the faults. -/
  | innerCount (backend key : String)
  | innerSize (backend : String)
  | built
  | now

inductive Response where
  | answer (a : Tree.Answer)
  | nothing
  | counts (operations healthChecks : Nat)
  | number (n : Nat)
  | names (xs : List String)
  | time (t : Instant)

namespace Rig

variable {n : Nat}

def groupPlace? (r : Rig n) : Option String → Option (List Nat)
  | none => some []
  | some name => Tree.groupPlace? n name r.group

def faulty? (r : Rig n) (backend : String) : Option FaultyStore :=
  (Tree.faultyPlace? n backend r.group).bind fun place => Tree.faultyAt? n place r.group

def setFaults (r : Rig n) (backend : String) (changes : Json.Fields) : Rig n :=
  match Tree.faultyPlace? n backend r.group with
  | none => r
  | some place =>
    let change := fun (f : FaultyStore) => { f with faults := f.faults.update changes }
    { r with group := Tree.changeFaultyAt change n place r.group }

/-- The answer to a call that does not wait, from what is known of a faulty store. -/
def readFaulty (r : Rig n) (backend : String) (read : FaultyStore → Response) : Response :=
  match r.faulty? backend with
  | none => .answer .nowhere
  | some f => read f

def calls (n : Nat) : Service (Rig n) Call Response where
  Flight := (Tree.requestsAt n).Flight
  start clock call r :=
    match call with
    | .ask group request =>
      match r.groupPlace? group with
      | none => (r, .done (.answer .nowhere))
      | some place =>
        let (group, turn) := (Tree.requestsAt n).start clock (place, request) r.group
        ({ r with group := group }, turn.map id .answer)
    | .setFaults backend changes => (r.setFaults backend changes, .done .nothing)
    | .counts backend => (r, .done (r.readFaulty backend fun f => .counts f.operations f.healthChecks))
    | .innerCount backend key => (r, .done (r.readFaulty backend fun f => .number (f.store.count key clock.wall)))
    | .innerSize backend => (r, .done (r.readFaulty backend fun f => .number f.store.size))
    | .built => (r, .done (.names r.built))
    | .now => (r, .done (.time clock.wall))
  resume clock f r :=
    let (group, turn) := (Tree.requestsAt n).resume clock f r.group
    ({ r with group := group }, turn.map id .answer)
  abandon f r := { r with group := (Tree.requestsAt n).abandon f r.group }
  wake := (Tree.requestsAt n).wake

/-- The longest a call can take. -/
def patience (r : Rig n) : Call → Nat
  | .ask group _ =>
    match r.groupPlace? group with
    | none => 0
    | some place => Tree.patienceAt n place r.group
  | _ => 0

/-- Runs a script alone. Every turn moves the clock on, so there are no more turns than
    nanoseconds. -/
def run (clock : Clock) (script : Script Call) (r : Rig n) : Clock × Rig n × Option (Reply Response) :=
  (Script.service (calls n)).call (script.patience r.patience + 1) clock script r

/-! ## Building -/

/-- Builds the rig of a configuration with these factories; fails with the names built so far. -/
def build (registry : Registry Tree.Trace (tree n).State) (c : Config) : Except (Error × Tree.Trace) (Rig n) :=
  match registry.group c [] with
  | (.error e, built) => .error (e, built)
  | (.ok group, built) => .ok ⟨group, built⟩

end Rig

end RateCounter.Simulation
