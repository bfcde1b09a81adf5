/-
  RateCounter.Strategy — which backends an operation tries, and in what order.

  `firstHealthy` tries the healthy backends in configured order. `roundRobin` starts one
  place further on each call; its cursor counts modulo 2^64. If no backend is healthy all
  are tried in configured order, since a record may be out of date, and the cursor stays.
-/

import RateCounter.Word

namespace RateCounter

inductive Strategy where
  | firstHealthy
  | roundRobin
  deriving DecidableEq, Repr

namespace Strategy

def name : Strategy → String
  | firstHealthy => "first_healthy"
  | roundRobin => "round_robin"

def ofName? (s : String) : Option Strategy :=
  if s = "first_healthy" then some firstHealthy
  else if s = "round_robin" then some roundRobin
  else none

/-- What is said of a name that is no strategy. -/
def unknownMessage (s : String) : String := "unknown failover strategy '" ++ s ++ "'"

/-- As it stands in descriptions. -/
def label : Strategy → String
  | firstHealthy => "FirstHealthy"
  | roundRobin => "RoundRobin"

theorem ofName?_name (s : Strategy) : ofName? s.name = some s := by cases s <;> decide

end Strategy

/-- A strategy and the state it keeps between calls. -/
structure Rotation where
  strategy : Strategy
  cursor : Nat
  deriving DecidableEq, Repr

namespace Rotation

def start (s : Strategy) : Rotation := ⟨s, 0⟩

/-- The positions of the healthy backends, ascending from `i`. -/
def healthyFrom : Nat → List Bool → List Nat
  | _, [] => []
  | i, true :: flags => i :: healthyFrom (i + 1) flags
  | i, false :: flags => healthyFrom (i + 1) flags

def healthyPositions (flags : List Bool) : List Nat := healthyFrom 0 flags

/-- The list from place `n` on, followed by the part before. -/
def rotateBy (n : Nat) (xs : List Nat) : List Nat := xs.drop n ++ xs.take n

/-- The positions to try, and the rotation for the next call. -/
def candidates (r : Rotation) (flags : List Bool) : List Nat × Rotation :=
  match healthyPositions flags with
  | [] => (List.range flags.length, r)
  | healthy =>
    match r.strategy with
    | .firstHealthy => (healthy, r)
    | .roundRobin =>
      (rotateBy (r.cursor % healthy.length) healthy, { r with cursor := (r.cursor + 1) % Word.count64 })

end Rotation

end RateCounter
