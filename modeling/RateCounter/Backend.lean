/-
  RateCounter.Backend — what a counter backend is to its callers.

  A backend answers four operations on the counter of a key and a health check (`probe`),
  each of them a service on the backend's own state. The memory store is one that never
  waits (`Store.backend`); `sum` makes a backend of two kinds.
-/

import RateCounter.Service
import RateCounter.Store

namespace RateCounter

inductive Operation where
  | increment (key : String) (window : Nat)
  | count (key : String)
  | resetTime (key : String)
  | reset (key : String)
  deriving DecidableEq, Repr

def Operation.name : Operation → String
  | increment .. => "increment"
  | count _ => "get_count"
  | resetTime _ => "get_reset_time"
  | reset _ => "reset"

/-- The result of an operation. -/
inductive Value where
  | count (n : Nat)
  | resetTime (t : Option Instant)
  | done
  deriving DecidableEq, Repr

abbrev Outcome := Except BackendError Value

structure Backend where
  State : Type
  operate : Service State Operation Outcome
  probe : Service State Unit Bool

namespace Backend

/-- A backend whose states are those of either of two. -/
def sum (A B : Backend) : Backend where
  State := A.State ⊕ B.State
  operate := A.operate.sum B.operate
  probe := A.probe.sum B.probe

end Backend

namespace Store

def perform (s : Store) (op : Operation) (now : Instant) : Store × Outcome :=
  match op with
  | .increment key window =>
    let (s, result) := s.increment key window now
    (s, result.map .count)
  | .count key => (s, .ok (.count (s.count key now)))
  | .resetTime key => (s, .ok (.resetTime (s.resetTime key now)))
  | .reset key => (s.reset key, .ok .done)

/-- The memory store: every operation is done at once, every health check succeeds. -/
def backend : Backend where
  State := Store
  operate := .instant fun clock op s => s.perform op clock.wall
  probe := .instant fun _ _ s => (s, true)

end Store

end RateCounter
