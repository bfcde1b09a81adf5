/-
  RateCounter.Simulation.Watching — a health monitor over faulty stores, without a group.

  A refresh may be told to look at the first backends only. Scripts of refreshes run alone
  on the watched stores (`run`).
-/

import RateCounter.Health.Monitor
import RateCounter.Simulation.Faulty
import RateCounter.Simulation.Script

namespace RateCounter.Simulation.Watching

open Monitor (Watch Checks)

abbrev Wards := Watch FaultyStore.backend

/-- A monitor for `names` names over `size` stores without faults. -/
def start (names size interval timeout threshold : Nat) : Wards where
  monitor := Monitor.start names interval timeout threshold
  backends := List.replicate size (FaultyStore.ofFaults .none)

/-- The first backends alone, or all of them. -/
def firstOnly (only : Option Nat) (w : Wards) : Wards :=
  match only with
  | none => w
  | some k => { w with backends := w.backends.take k }

/-- Starts a refresh that looks at the first backends only. -/
def startRefresh (clock : Clock) (only : Option Nat) (w : Wards) :
    Wards × Turn (Checks FaultyStore.backend) Unit :=
  let seen := firstOnly only w
  let (after, turn) := Monitor.startChecks clock seen
  ({ after with backends := after.backends ++ w.backends.drop seen.backends.length }, turn)

/-- Refreshes of the first backends only. -/
def refresh : Service Wards (Option Nat) Unit where
  Flight := Checks FaultyStore.backend
  start := startRefresh
  resume := Monitor.resumeChecks
  abandon := Monitor.abandonChecks
  wake := Monitor.checksWake

/-- Runs a script of refreshes alone; none takes longer than the timeout of a check. -/
def run (clock : Clock) (script : Script (Option Nat)) (w : Wards) : Clock × Wards × Option (Reply Unit) :=
  (Script.service refresh).call (script.patience (fun _ => w.monitor.timeout) + 1) clock script w

def setFaults (i : Nat) (changes : Json.Fields) (w : Wards) : Wards :=
  { w with backends := w.backends.modify i fun f => { f with faults := f.faults.update changes } }

def healthChecks (w : Wards) : List Nat := w.backends.map FaultyStore.healthChecks

end RateCounter.Simulation.Watching
