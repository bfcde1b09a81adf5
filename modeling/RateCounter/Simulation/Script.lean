/-
  RateCounter.Simulation.Script — scripts of calls on a service.

  A script is one call, a pause, several scripts in a row, several at once, or a script that
  is given up after a while unless it has ended. Scripts at once take turns in the order in
  which they are listed. A script is itself a call on the service (`Script.service`).
-/

import RateCounter.Service

namespace RateCounter.Simulation

inductive Script (α : Type) where
  | once (call : α)
  | pause (ns : Nat)
  | inOrder (scripts : List (Script α))
  | atOnce (scripts : List (Script α))
  | giveUpAfter (ns : Nat) (script : Script α)

/-- What a script comes to; several in a row come to the last of them. -/
inductive Reply (ρ : Type) where
  | nothing
  | reply (r : ρ)
  | all (replies : List (Reply ρ))
  | givenUp
  deriving Repr

/-- A script under way. -/
inductive Running (φ α ρ : Type) where
  | once (flight : φ)
  | pause (ends : Nat)
  | inOrder (current : Running φ α ρ) (rest : List (Script α))
  | atOnce (ended : List (Option (Reply ρ))) (running : List (Option (Running φ α ρ)))
  | giveUpAfter (deadline : Nat) (script : Running φ α ρ)

namespace Script

variable {σ α ρ : Type} (S : Service σ α ρ)

abbrev Run := Running S.Flight α ρ

/-- Where several scripts at once stand, by place. -/
def tally {φ : Type} : List (Turn (Running φ α ρ) (Reply ρ)) → Turn (Running φ α ρ) (Reply ρ)
  | turns =>
    match turns.mapM fun | .done r => some r | .waiting _ => none with
    | some replies => .done (.all replies)
    | none =>
      .waiting (.atOnce (turns.map fun | .done r => some r | .waiting _ => none) (turns.map Turn.flight?))

mutual

def start (clock : Clock) : Script α → σ → σ × Turn (Run S) (Reply ρ)
  | .once call, s => ((S.start clock call s).1, (S.start clock call s).2.map .once .reply)
  | .pause ns, s => if ns = 0 then (s, .done .nothing) else (s, .waiting (.pause (clock.mono + ns)))
  | .inOrder scripts, s => startInOrder clock .nothing scripts s
  | .atOnce scripts, s =>
    let (s, turns) := startAtOnce clock scripts s
    (s, tally turns)
  | .giveUpAfter ns script, s =>
    match start clock script s with
    | (s, .done reply) => (s, .done reply)
    | (s, .waiting run) => (s, .waiting (.giveUpAfter (clock.mono + ns) run))

def startInOrder (clock : Clock) (last : Reply ρ) : List (Script α) → σ → σ × Turn (Run S) (Reply ρ)
  | [], s => (s, .done last)
  | script :: rest, s =>
    match start clock script s with
    | (s, .done reply) => startInOrder clock reply rest s
    | (s, .waiting run) => (s, .waiting (.inOrder run rest))

def startAtOnce (clock : Clock) : List (Script α) → σ → σ × List (Turn (Run S) (Reply ρ))
  | [], s => (s, [])
  | script :: rest, s =>
    let (s, turn) := start clock script s
    let (s, turns) := startAtOnce clock rest s
    (s, turn :: turns)

end

mutual

def wake : Run S → Option Nat
  | .once f => S.wake f
  | .pause ends => some ends
  | .inOrder current _ => wake current
  | .atOnce _ running => wakeAtOnce running
  | .giveUpAfter deadline run => earlier (wake run) (some deadline)

def wakeAtOnce : List (Option (Run S)) → Option Nat
  | [] => none
  | none :: rest => wakeAtOnce rest
  | some run :: rest => earlier (wake run) (wakeAtOnce rest)

end

mutual

def abandon : Run S → σ → σ
  | .once f, s => S.abandon f s
  | .pause _, s => s
  | .inOrder current _, s => abandon current s
  | .atOnce _ running, s => abandonAtOnce running s
  | .giveUpAfter _ run, s => abandon run s

def abandonAtOnce : List (Option (Run S)) → σ → σ
  | [], s => s
  | none :: rest, s => abandonAtOnce rest s
  | some run :: rest, s => abandonAtOnce rest (abandon run s)

end

mutual

/-- Gives a script a turn where its timer is due. -/
def poll (clock : Clock) : Run S → σ → σ × Turn (Run S) (Reply ρ)
  | .once f, s => ((S.poll clock f s).1, (S.poll clock f s).2.map .once .reply)
  | .pause ends, s => if ends ≤ clock.mono then (s, .done .nothing) else (s, .waiting (.pause ends))
  | .inOrder current rest, s =>
    match poll clock current s with
    | (s, .done reply) => startInOrder S clock reply rest s
    | (s, .waiting run) => (s, .waiting (.inOrder run rest))
  | .atOnce ended running, s =>
    let (s, turns) := pollAtOnce clock ended running s
    (s, tally turns)
  | .giveUpAfter deadline run, s =>
    match poll clock run s with
    | (s, .done reply) => (s, .done reply)
    | (s, .waiting run) =>
      if deadline ≤ clock.mono then (abandon S run s, .done .givenUp)
      else (s, .waiting (.giveUpAfter deadline run))

def pollAtOnce (clock : Clock) :
    List (Option (Reply ρ)) → List (Option (Run S)) → σ → σ × List (Turn (Run S) (Reply ρ))
  | _ :: ended, some run :: rest, s =>
    let (s, turn) := poll clock run s
    let (s, turns) := pollAtOnce clock ended rest s
    (s, turn :: turns)
  | reply :: ended, none :: rest, s =>
    let (s, turns) := pollAtOnce clock ended rest s
    (s, .done (reply.getD .nothing) :: turns)
  | _, _, s => (s, [])

end

/-- The scripts of a service. -/
def service : Service σ (Script α) (Reply ρ) where
  Flight := Run S
  start := start S
  resume := poll S
  abandon := abandon S
  wake := wake S

mutual

/-- The longest a script can take if a single call takes at most `most`. -/
def patience (most : α → Nat) : Script α → Nat
  | .once call => most call
  | .pause ns => ns
  | .inOrder scripts | .atOnce scripts => patienceAll most scripts
  | .giveUpAfter ns _ => ns

def patienceAll (most : α → Nat) : List (Script α) → Nat
  | [] => 0
  | script :: rest => patience most script + patienceAll most rest

end

end Script

end RateCounter.Simulation
