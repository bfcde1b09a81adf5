/-
  RateCounter.Mesh.View — the window of a key as a set of nodes sees it.

  Every node publishes texts under its own keys: an entry for each counter it has hit and a
  reset marker for each counter it has reset. A view is the list of the live nodes'
  values. Its window for a key is made of the entries that end after `now` and start after
  the newest reset marker: of those with the latest start, the latest end and the sum of
  the counts. Malformed texts are passed over; times are 64 bits wide and stop at the ends
  of their range.
-/

import Std.Data.TreeMap.Basic
import RateCounter.Mesh.Entry
import RateCounter.Word

namespace RateCounter.Mesh

/-- What a node publishes. -/
abbrev Values := Std.TreeMap String String

def counterKey (key : String) : String := "counter|" ++ key
def resetKey (key : String) : String := "reset|" ++ key

/-! ## Arithmetic -/

def minTime : Int := Word.min63
def maxTime : Int := Word.max63

/-- The sum of two times, stopped at the ends of their range. -/
def addTime (a b : Int) : Int := max minTime (min maxTime (a + b))

/-- The sum of two counts, at most 2^64 − 1. -/
def addCount (a b : Nat) : Nat := min (a + b) Word.max64

/-! ## Windows -/

/-- The window of a key and the hits of all nodes in it. -/
structure SharedWindow where
  start : Int
  ends : Int
  total : Nat
  deriving DecidableEq, Repr

/-- The live nodes' values, in no particular order. -/
abbrev View := List Values

namespace View

def entries (view : View) (key : String) : List Entry :=
  view.filterMap fun values => values[counterKey key]?.bind Entry.ofText?

def markers (view : View) (key : String) : List Int :=
  view.filterMap fun values => values[resetKey key]?.bind Text.int64?

/-- The newest reset marker. -/
def latestReset (view : View) (key : String) : Option Int := (view.markers key).max?

/-- Whether a window start comes after a reset. -/
def isAfter (start : Int) : Option Int → Bool
  | none => true
  | some marker => decide (marker < start)

/-- The entries that count at `now`. -/
def openEntries (view : View) (key : String) (now : Int) : List Entry :=
  (view.entries key).filter fun e => decide (now < e.ends) && isAfter e.start (view.latestReset key)

/-- The window made of the entries with this start. -/
def combine (start : Int) (entries : List Entry) : SharedWindow where
  start := start
  ends := entries.foldl (fun ends e => max ends e.ends) start
  total := entries.foldl (fun total e => addCount total e.count) 0

def window? (view : View) (key : String) (now : Int) : Option SharedWindow :=
  let entries := view.openEntries key now
  (entries.map Entry.start).max?.map fun start =>
    combine start (entries.filter fun e => decide (e.start = start))

end View

end RateCounter.Mesh
