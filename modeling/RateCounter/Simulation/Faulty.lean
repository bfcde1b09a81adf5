/-
  RateCounter.Simulation.Faulty — a memory store whose faults are set from outside.

  An operation counts itself, then hangs, or waits and fails, or waits and runs on the
  store. What it will do is settled when it starts; the store is touched only when it
  runs. A health check counts itself, hangs or waits, and answers as it was told.
-/

import RateCounter.Backend

namespace RateCounter.Simulation

structure Faults where
  fail : Option BackendError
  healthy : Bool
  hanging : Bool
  /-- Nanoseconds an operation waits. -/
  delay : Nat
  /-- Nanoseconds a health check waits. -/
  healthDelay : Nat
  deriving DecidableEq, Repr

def Faults.none : Faults := ⟨Option.none, true, false, 0, 0⟩

structure FaultyStore where
  store : Store
  faults : Faults
  operations : Nat
  healthChecks : Nat

namespace FaultyStore

def ofFaults (faults : Faults) : FaultyStore := ⟨Store.empty defaultPurgeEvery, faults, 0, 0⟩

/-- When something that hangs, or waits for `delay`, goes on; `none` inside for at once. -/
def goesOn (hanging : Bool) (delay now : Nat) : Option (Option Nat) :=
  if hanging then some Option.none else if delay = 0 then Option.none else some (some (now + delay))

/-- An operation that waits, and the failure it will end in. -/
structure Held where
  wake : Option Nat
  op : Operation
  fail : Option BackendError

def finish (clock : Clock) (op : Operation) (fail : Option BackendError) (s : FaultyStore) : FaultyStore × Outcome :=
  match fail with
  | some e => (s, .error e)
  | Option.none =>
    let (store, outcome) := s.store.perform op clock.wall
    ({ s with store := store }, outcome)

def operate : Service FaultyStore Operation Outcome where
  Flight := Held
  start clock op s :=
    let s := { s with operations := s.operations + 1 }
    match goesOn s.faults.hanging s.faults.delay clock.mono with
    | some wake => (s, .waiting ⟨wake, op, s.faults.fail⟩)
    | Option.none =>
      let (s, outcome) := finish clock op s.faults.fail s
      (s, .done outcome)
  resume clock f s :=
    let (s, outcome) := finish clock f.op f.fail s
    (s, .done outcome)
  abandon _ s := s
  wake f := f.wake

/-- A health check that waits, and its answer. -/
structure HeldCheck where
  wake : Option Nat
  healthy : Bool

def probe : Service FaultyStore Unit Bool where
  Flight := HeldCheck
  start clock _ s :=
    let s := { s with healthChecks := s.healthChecks + 1 }
    match goesOn s.faults.hanging s.faults.healthDelay clock.mono with
    | some wake => (s, .waiting ⟨wake, s.faults.healthy⟩)
    | Option.none => (s, .done s.faults.healthy)
  resume _ f s := (s, .done f.healthy)
  abandon _ s := s
  wake f := f.wake

def backend : Backend where
  State := FaultyStore
  operate := operate
  probe := probe

end FaultyStore

/-! ## Faults from settings -/

namespace Faults

def errorOf? (j : Json) : Option BackendError :=
  match j.get? "error", j.get? "message" with
  | some (.text "Unavailable"), some (.text m) => some (.unavailable m)
  | some (.text "Internal"), some (.text m) => some (.internal m)
  | some (.text "Unavailable"), _ => some (.unavailable "")
  | some (.text "Internal"), _ => some (.internal "")
  | _, _ => Option.none

def flagOf (default : Bool) : Option Json → Bool
  | some (.bool b) => b
  | _ => default

def delayOf (default : Nat) : Option Json → Nat
  | some (.int ms) => millis ms.toNat
  | _ => default

/-- The faults after the switches among these fields are thrown. -/
def update (f : Faults) (fields : Json.Fields) : Faults where
  fail := match fields.lookup "fail" with
    | Option.none => f.fail
    | some j => errorOf? j
  healthy := flagOf f.healthy (fields.lookup "healthy")
  hanging := flagOf f.hanging (fields.lookup "hanging")
  delay := delayOf f.delay (fields.lookup "delay_ms")
  healthDelay := delayOf f.healthDelay (fields.lookup "health_delay_ms")

end Faults

end RateCounter.Simulation
