/-
  RateCounter.Health.Monitor — the health records of a list of backends.

  The records stand in the order of the backends. A refresh checks, all at once, every
  backend whose record is stale and not claimed; each check has `timeout` nanoseconds. Of
  two lists of different lengths the surplus is left alone.
-/

import RateCounter.Backend
import RateCounter.Health

namespace RateCounter

structure Monitor where
  interval : Nat
  timeout : Nat
  threshold : Nat
  records : List Health
  deriving Repr

namespace Monitor

/-- Fresh records; a threshold of zero counts as one. -/
def start (size interval timeout threshold : Nat) : Monitor :=
  ⟨interval, timeout, max threshold 1, List.replicate size .fresh⟩

def flags (m : Monitor) : List Bool := m.records.map Health.healthy

def recordSuccess (m : Monitor) (i : Nat) : Monitor := { m with records := m.records.modify i .succeed }

def recordFailure (m : Monitor) (i : Nat) (e : BackendError) : Monitor :=
  { m with records := m.records.modify i fun h => h.fail m.threshold e }

/-! ## One check -/

/-- A record and the backend it is about. -/
abbrev Watched (B : Backend) := Health × B.State

def verdict (timeout : Nat) : Option Bool → Verdict
  | some true => .passed
  | some false => .failed
  | none => .timedOut timeout

/-- After a turn of a check: the record is completed, or claimed while the check waits. -/
def observe {φ : Type} {B : Backend} (m : Monitor) (clock : Clock) (h : Health) :
    B.State × Turn φ (Option Bool) → Watched B × Turn φ Unit
  | (b, .done answer) => ((h.complete m.threshold clock (verdict m.timeout answer), b), .done ())
  | (b, .waiting f) => (({ h with claimed := true }, b), .waiting f)

/-- Checks a backend if its record is stale and not claimed. -/
def check (B : Backend) (m : Monitor) : Service (Watched B) Unit Unit where
  Flight := Service.Bounded B.probe.Flight
  start clock _ w :=
    if w.1.isStale m.interval clock.mono && !w.1.claimed then
      m.observe clock w.1 ((B.probe.within m.timeout).start clock () w.2)
    else (w, .done ())
  resume clock f w := m.observe clock w.1 ((B.probe.within m.timeout).resume clock f w.2)
  abandon f w := ({ w.1 with claimed := false }, (B.probe.within m.timeout).abandon f w.2)
  wake := (B.probe.within m.timeout).wake

/-! ## A refresh -/

/-- A monitor beside the backends it watches. -/
structure Watch (B : Backend) where
  monitor : Monitor
  backends : List B.State

namespace Watch

variable {B : Backend}

def pairs (w : Watch B) : List (Watched B) := w.monitor.records.zip w.backends

/-- Puts the pairs back; what had no partner stays. -/
def setPairs (pairs : List (Watched B)) (w : Watch B) : Watch B where
  monitor := { w.monitor with records := pairs.map (·.1) ++ w.monitor.records.drop pairs.length }
  backends := pairs.map (·.2) ++ w.backends.drop pairs.length

end Watch

/-- The checks of a refresh that are still in flight, by position. -/
abbrev Checks (B : Backend) := List (Option (Service.Bounded B.probe.Flight))

def startChecks {B : Backend} (clock : Clock) (w : Watch B) : Watch B × Turn (Checks B) Unit :=
  let (pairs, turn) := (check B w.monitor).each.start clock () w.pairs
  (w.setPairs pairs, turn)

def resumeChecks {B : Backend} (clock : Clock) (checks : Checks B) (w : Watch B) : Watch B × Turn (Checks B) Unit :=
  let (pairs, turn) := (check B w.monitor).each.resume clock checks w.pairs
  (w.setPairs pairs, turn)

def abandonChecks {B : Backend} (checks : Checks B) (w : Watch B) : Watch B :=
  w.setPairs ((check B w.monitor).each.abandon checks w.pairs)

def checksWake {B : Backend} : Checks B → Option Nat
  | [] => none
  | none :: checks => checksWake checks
  | some f :: checks => earlier (earlier (B.probe.wake f.flight) (some f.deadline)) (checksWake checks)

/-- Checks every backend whose record is stale, and waits for the checks it started. -/
def refresh (B : Backend) : Service (Watch B) Unit Unit where
  Flight := Checks B
  start clock _ w := startChecks clock w
  resume := resumeChecks
  abandon := abandonChecks
  wake := checksWake

end Monitor

end RateCounter
