/-
  RateCounter.Failover — a group of backends that stand in for each other.

  An operation first has the stale health records checked, then tries the candidates of
  the strategy one after the other until one succeeds. An attempt has `timeout`
  nanoseconds. A success and every failure before it go into the health records; if all
  candidates fail, all failures are returned. An increment whose window no backend could
  accept is refused before anything is checked or tried.

  A group is itself a backend (`backend`), so groups can be nested.
-/

import RateCounter.Health.Monitor
import RateCounter.Strategy

namespace RateCounter

structure Failover (B : Backend) where
  names : List String
  backends : List B.State
  monitor : Monitor
  rotation : Rotation
  timeout : Nat

namespace Failover

variable {B : Backend}

open Monitor (Watch Checks)

/-! ## Health -/

def watch (g : Failover B) : Watch B := ⟨g.monitor, g.backends⟩

def setWatch (w : Watch B) (g : Failover B) : Failover B := { g with monitor := w.monitor, backends := w.backends }

/-- Checks the backends whose records are stale. -/
def refresh (B : Backend) : Service (Failover B) Unit Unit := (Monitor.refresh B).focus watch setWatch

def anyHealthy (g : Failover B) : Bool := g.monitor.flags.any id

/-! ## Attempts -/

def nameAt (g : Failover B) (i : Nat) : String := g.names.getD i ""

def setBackend (g : Failover B) (i : Nat) (b : B.State) : Failover B := { g with backends := g.backends.set i b }

def succeedAt (g : Failover B) (i : Nat) : Failover B := { g with monitor := g.monitor.recordSuccess i }

def failAt (g : Failover B) (i : Nat) (e : BackendError) : Failover B :=
  { g with monitor := g.monitor.recordFailure i e }

/-- How an attempt ended; one that gave no answer in time was not available. -/
def outcomeOf (op : Operation) (timeout : Nat) : Option Outcome → Outcome
  | some outcome => outcome
  | none => .error (.unavailable (op.name ++ " timed out after " ++ limitText timeout))

/-- An operation under way. -/
inductive Execution (B : Backend) where
  | checking (op : Operation) (checks : Checks B)
  | attempting (op : Operation) (i : Nat) (attempt : Service.Bounded B.operate.Flight) (rest : List Nat)
      (failures : List Failure)

/-- The result of an operation on the group. -/
abbrev Result := Except Error Value

/-- Tries the candidates in order. -/
def tryEach (clock : Clock) (op : Operation) :
    List Nat → List Failure → Failover B → Failover B × Turn (Execution B) Result
  | [], failures, g => (g, .done (.error (.allBackendsFailed op.name failures)))
  | i :: rest, failures, g =>
    match g.backends[i]? with
    | none => tryEach clock op rest failures g
    | some b =>
      match (B.operate.within g.timeout).start clock op b with
      | (b, .waiting attempt) => (g.setBackend i b, .waiting (.attempting op i attempt rest failures))
      | (b, .done answer) =>
        match outcomeOf op g.timeout answer with
        | .ok value => ((g.setBackend i b).succeedAt i, .done (.ok value))
        | .error e => tryEach clock op rest (failures ++ [⟨g.nameAt i, e⟩]) ((g.setBackend i b).failAt i e)

/-- Chooses the candidates by the health records and tries them. -/
def dispatch (clock : Clock) (op : Operation) (g : Failover B) : Failover B × Turn (Execution B) Result :=
  let (candidates, rotation) := g.rotation.candidates g.monitor.flags
  tryEach clock op candidates [] { g with rotation := rotation }

/-- After a turn of the checks: wait for them, or go on to the attempts. -/
def afterChecks (clock : Clock) (op : Operation) :
    Failover B × Turn (Checks B) Unit → Failover B × Turn (Execution B) Result
  | (g, .waiting checks) => (g, .waiting (.checking op checks))
  | (g, .done _) => dispatch clock op g

/-- After a turn of an attempt: wait for it, take its value, or try the next candidate. -/
def afterAttempt (clock : Clock) (op : Operation) (i : Nat) (rest : List Nat) (failures : List Failure)
    (g : Failover B) :
    B.State × Turn (Service.Bounded B.operate.Flight) (Option Outcome) → Failover B × Turn (Execution B) Result
  | (b, .waiting attempt) => (g.setBackend i b, .waiting (.attempting op i attempt rest failures))
  | (b, .done answer) =>
    match outcomeOf op g.timeout answer with
    | .ok value => ((g.setBackend i b).succeedAt i, .done (.ok value))
    | .error e => tryEach clock op rest (failures ++ [⟨g.nameAt i, e⟩]) ((g.setBackend i b).failAt i e)

/-! ## Operations -/

/-- The reason to refuse an operation without asking any backend. -/
def refusal? : Operation → Option WindowError
  | .increment _ window =>
    match Window.accept window with
    | .ok _ => none
    | .error e => some e
  | _ => none

def startOperation (clock : Clock) (op : Operation) (g : Failover B) : Failover B × Turn (Execution B) Result :=
  match refusal? op with
  | some e => (g, .done (.error (.invalidArgument e.message)))
  | none => afterChecks clock op ((refresh B).start clock () g)

def resumeOperation (clock : Clock) : Execution B → Failover B → Failover B × Turn (Execution B) Result
  | .checking op checks, g => afterChecks clock op ((refresh B).resume clock checks g)
  | .attempting op i attempt rest failures, g =>
    match g.backends[i]? with
    | none => tryEach clock op rest failures g
    | some b => afterAttempt clock op i rest failures g ((B.operate.within g.timeout).resume clock attempt b)

def abandonOperation : Execution B → Failover B → Failover B
  | .checking _ checks, g => (refresh B).abandon checks g
  | .attempting _ i attempt _ _, g =>
    match g.backends[i]? with
    | none => g
    | some b => g.setBackend i (B.operate.abandon attempt.flight b)

def executionWake : Execution B → Option Nat
  | .checking _ checks => (refresh B).wake checks
  | .attempting _ _ attempt _ _ => earlier (B.operate.wake attempt.flight) (some attempt.deadline)

/-- The operations of a group. -/
def operate (B : Backend) : Service (Failover B) Operation Result where
  Flight := Execution B
  start := startOperation
  resume := resumeOperation
  abandon := abandonOperation
  wake := executionWake

/-! ## A group as a backend -/

/-- Checks what is stale, then asks whether any backend is healthy. -/
def probe (B : Backend) : Service (Failover B) Unit Bool where
  Flight := (refresh B).Flight
  start clock a g := answerHealth ((refresh B).start clock a g)
  resume clock f g := answerHealth ((refresh B).resume clock f g)
  abandon := (refresh B).abandon
  wake := (refresh B).wake
where
  answerHealth {φ : Type} : Failover B × Turn φ Unit → Failover B × Turn φ Bool
    | (g, turn) => (g, turn.map id fun _ => g.anyHealthy)

/-- A group in the place of a single backend. -/
def backend (B : Backend) : Backend where
  State := Failover B
  operate := (operate B).mapReply fun
    | .ok value => .ok value
    | .error e => .error e.toBackendError
  probe := probe B

/-- The longest an operation of the group can take: its checks overlap, its attempts do not. -/
def patience (g : Failover B) : Nat := g.monitor.timeout + g.backends.length * g.timeout

end Failover

end RateCounter
