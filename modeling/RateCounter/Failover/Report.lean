/-
  RateCounter.Failover.Report — what a group tells about itself without checking anything.

  The status has one entry per backend, under its name and in the order of the names; the
  statistics count the backends and the healthy ones among them.
-/

import Std.Data.TreeMap.Basic
import RateCounter.Failover

namespace RateCounter

/-- The health of a backend as reported. -/
structure BackendStatus where
  healthy : Bool
  lastCheckedAt : Option Instant
  consecutiveFailures : Nat
  lastError : Option String
  deriving DecidableEq, Repr

structure Stats where
  totalBackends : Nat
  healthyBackends : Nat
  fallbackStrategy : String
  deriving DecidableEq, Repr

def Health.status (h : Health) : BackendStatus where
  healthy := h.healthy
  lastCheckedAt := h.lastChecked.map Checked.wall
  consecutiveFailures := h.failures
  lastError := h.lastError.map BackendError.message

namespace Failover

variable {B : Backend}

def status (g : Failover B) : Std.TreeMap String BackendStatus :=
  (g.names.zip g.monitor.records).foldl (fun m e => m.insert e.1 e.2.status) {}

def stats (g : Failover B) : Stats where
  totalBackends := g.names.length
  healthyBackends := g.monitor.flags.count true
  fallbackStrategy := g.rotation.strategy.name

def describe (g : Failover B) : String :=
  "MultiBackend \x7b backends: " ++ Text.quotedList g.names ++ ", strategy: " ++ g.rotation.strategy.label ++
    ", operation_timeout: " ++ Span.inLargestUnit g.timeout ++ " \x7d"

end Failover

/-! ## As JSON -/

namespace BackendStatus

def toJson (s : BackendStatus) : Json :=
  .object
    [("consecutive_failures", .int s.consecutiveFailures),
     ("healthy", .bool s.healthy),
     ("last_checked_at", (s.lastCheckedAt.map fun t => Json.text t.rfc3339).getD .null),
     ("last_error", (s.lastError.map Json.text).getD .null)]

def mapToJson (m : Std.TreeMap String BackendStatus) : Json := .object (m.toList.map fun e => (e.1, e.2.toJson))

end BackendStatus

def Stats.toJson (s : Stats) : Json :=
  .object
    [("fallback_strategy", .text s.fallbackStrategy),
     ("healthy_backends", .int s.healthyBackends),
     ("total_backends", .int s.totalBackends)]

end RateCounter
