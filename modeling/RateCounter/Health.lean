/-
  RateCounter.Health — the health record of one backend.

  A record starts healthy. A success makes it healthy and clears it; a failure counts up,
  keeps its error, and makes it unhealthy once the threshold is reached. Completed checks
  set the times of the last check, on both clocks; operations leave them alone. While a
  check is in flight the record is claimed, so that nobody starts a second one.
-/

import RateCounter.Error
import RateCounter.Time
import RateCounter.Word

namespace RateCounter

/-- The most consecutive failures a record shows: 2^32 − 1. -/
def maxFailures : Nat := Word.count32 - 1

structure Checked where
  mono : Nat
  wall : Instant
  deriving DecidableEq, Repr

structure Health where
  healthy : Bool
  lastChecked : Option Checked
  failures : Nat
  lastError : Option BackendError
  /-- A check of the backend is in flight. -/
  claimed : Bool
  deriving DecidableEq, Repr

/-- How a health check ended. -/
inductive Verdict where
  | passed
  | failed
  | timedOut (limit : Nat)
  deriving DecidableEq, Repr

/-- The whole milliseconds of a limit, as messages show them. -/
def limitText (limit : Nat) : String := toString (limit / nanosPerMilli) ++ "ms"

def Verdict.error? : Verdict → Option BackendError
  | passed => none
  | failed => some (.unavailable "health check failed")
  | timedOut limit => some (.unavailable ("health check timed out after " ++ limitText limit))

namespace Health

def fresh : Health := ⟨true, none, 0, none, false⟩

def succeed (h : Health) : Health := { h with healthy := true, failures := 0, lastError := none }

def fail (h : Health) (threshold : Nat) (e : BackendError) : Health :=
  let failures := min (h.failures + 1) maxFailures
  { h with
    healthy := h.healthy && decide (failures < threshold)
    failures := failures
    lastError := some e }

/-- Never checked, or last checked at least `interval` ago on the monotonic clock. -/
def isStale (h : Health) (interval now : Nat) : Bool :=
  match h.lastChecked with
  | none => true
  | some checked => decide (interval ≤ now - checked.mono)

/-- A check is completed: the claim is released and the verdict recorded. -/
def complete (h : Health) (threshold : Nat) (clock : Clock) (v : Verdict) : Health :=
  let h := { h with claimed := false, lastChecked := some ⟨clock.mono, clock.wall⟩ }
  match v.error? with
  | none => h.succeed
  | some e => h.fail threshold e

end Health

end RateCounter
