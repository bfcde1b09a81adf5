/-
  RateCounter.Window — the hits of one key within one fixed window.

  A window length is accepted if it is neither zero nor longer than 366 days
  (`Window.accept`). A window opened at `now` runs to `now + length`, its end excluded; it
  cannot be opened if that end is no representable instant. A hit on a window that is over
  opens a new one first. The count stops at 2^64 − 1.
-/

import RateCounter.Error
import RateCounter.Time.Text
import RateCounter.Word

namespace RateCounter

/-! ## Lengths -/

inductive WindowError where
  | zero
  | tooLong (ns : Nat)
  deriving DecidableEq, Repr

def maxWindow : Nat := seconds (366 * 24 * 60 * 60)

namespace WindowError

def message : WindowError → String
  | zero => "window must be non-zero"
  | tooLong ns =>
    "window of " ++ toString (ns / nanosPerSecond) ++ "s exceeds the maximum of " ++
      toString (maxWindow / nanosPerSecond) ++ "s"

def toBackendError (e : WindowError) : BackendError := .internal e.message

end WindowError

/-- The most a counter shows: 2^64 − 1. -/
def maxCount : Nat := Word.max64

/-- One more, at most `maxCount`. -/
def countUp (n : Nat) : Nat := min (n + 1) maxCount

structure Window where
  opened : Instant
  closes : Instant
  count : Nat
  deriving DecidableEq, Repr

namespace Window

/-- Accepts the length of a window, in nanoseconds. -/
def accept (length : Nat) : Except WindowError Nat :=
  if length = 0 then .error .zero
  else if maxWindow < length then .error (.tooLong length)
  else .ok length

/-! ## Hits -/

/-- An empty window from `now` on. -/
def start (now : Instant) (length : Int) : Except BackendError Window :=
  if Instant.Representable (now + length) then .ok ⟨now, now + length, 0⟩
  else .error (.internal ("window end out of range: " ++ now.plainText ++ " + " ++ Span.isoSeconds length))

def isOver (w : Window) (now : Instant) : Bool := decide (w.closes ≤ now)

/-- Adds a hit, to a new window if this one is over. -/
def hit (w : Window) (now : Instant) (length : Int) : Except BackendError Window :=
  if w.isOver now then (start now length).map fun w => { w with count := countUp w.count }
  else .ok { w with count := countUp w.count }

def countAt (w : Window) (now : Instant) : Nat := if w.isOver now then 0 else w.count

def resetTimeAt (w : Window) (now : Instant) : Option Instant := if w.isOver now then none else some w.closes

end Window

end RateCounter
