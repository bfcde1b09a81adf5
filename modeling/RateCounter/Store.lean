/-
  RateCounter.Store — a counter store in memory: one window per key.

  Windows that are over stay until their key is hit or reset, or until a sweep drops them.
  A sweep runs after every `purgeEvery`-th successful increment (never if that is 0). An
  increment that fails leaves the whole store as it was.
-/

import Std.Data.TreeMap.Basic
import RateCounter.Window
import RateCounter.Word

namespace RateCounter

def defaultPurgeEvery : Nat := 1024

structure Store where
  windows : Std.TreeMap String Window
  /-- Successful increments so far, modulo 2^64. -/
  increments : Nat
  purgeEvery : Nat

namespace Store

def empty (purgeEvery : Nat) : Store := ⟨{}, 0, purgeEvery⟩

def size (s : Store) : Nat := s.windows.size

def isEmpty (s : Store) : Bool := s.windows.isEmpty

/-! ## Sweeps -/

/-- Drops every window that is over. -/
def sweep (s : Store) (now : Instant) : Store :=
  { s with windows := s.windows.filter fun _ w => !w.isOver now }

/-- Sweeps and tells how many windows were dropped. -/
def purgeExpired (s : Store) (now : Instant) : Store × Nat :=
  (s.sweep now, s.size - (s.sweep now).size)

/-- Counts a successful increment; every `purgeEvery`-th one sweeps. -/
def pace (s : Store) (now : Instant) : Store :=
  if s.purgeEvery = 0 then s
  else
    let done := (s.increments + 1) % Word.count64
    let s := { s with increments := done }
    if done % s.purgeEvery = 0 then s.sweep now else s

/-! ## Operations -/

/-- The window of a key, or a new one that starts now. -/
def windowFor (s : Store) (key : String) (now : Instant) (length : Nat) : Except BackendError Window :=
  match s.windows[key]? with
  | some w => .ok w
  | none => Window.start now length

def increment (s : Store) (key : String) (length : Nat) (now : Instant) : Store × Except BackendError Nat :=
  match Window.accept length with
  | .error e => (s, .error e.toBackendError)
  | .ok length =>
    match (s.windowFor key now length).bind fun w => w.hit now length with
    | .error e => (s, .error e)
    | .ok w => (pace { s with windows := s.windows.insert key w } now, .ok w.count)

def count (s : Store) (key : String) (now : Instant) : Nat :=
  match s.windows[key]? with
  | some w => w.countAt now
  | none => 0

def resetTime (s : Store) (key : String) (now : Instant) : Option Instant :=
  s.windows[key]?.bind fun w => w.resetTimeAt now

def reset (s : Store) (key : String) : Store := { s with windows := s.windows.erase key }

end Store

end RateCounter
