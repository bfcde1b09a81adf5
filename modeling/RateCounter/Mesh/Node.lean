/-
  RateCounter.Mesh.Node — one node of the mesh: its own values and what it knows of the others.

  A hit joins the open window if there is one, and otherwise opens a window at `now`, or
  just after the newest reset marker if that lies ahead. A reset deletes nothing: it
  publishes a marker at the time a new window would start at. After every 256th hit the
  node sweeps its own values: entries that are over, and markers so old that no window they
  hide can still be open.
-/

import RateCounter.Backend
import RateCounter.Mesh.View
import RateCounter.Word

namespace RateCounter.Mesh

def purgeEvery : Nat := 256

/-- The longest window, in milliseconds; a marker is kept for as long. -/
def markerLifetime : Int := maxWindow / nanosPerMilli

structure Node where
  own : Values
  /-- The other live nodes' values as last received. -/
  others : List (String × Values)
  /-- Hits so far, modulo 2^64. -/
  increments : Nat

namespace Node

def start : Node := ⟨{}, [], 0⟩

/-- A node is always live to itself. -/
def view (n : Node) : View := n.own :: n.others.map (·.2)

def liveCount (n : Node) : Nat := n.others.length + 1

def window? (n : Node) (key : String) (now : Int) : Option SharedWindow := n.view.window? key now

/-! ## Sweeps -/

/-- Whether a value of the node's own is to be deleted at `now`. -/
def isOutdated (now : Int) (key value : String) : Bool :=
  if "counter|".isPrefixOf key then
    match Entry.ofText? value with
    | some e => decide (e.ends ≤ now)
    | none => true
  else if "reset|".isPrefixOf key then
    match Text.int64? value with
    | some marker => decide (addTime marker markerLifetime < now)
    | none => true
  else false

def sweep (n : Node) (now : Int) : Node :=
  { n with own := n.own.filter fun key value => !isOutdated now key value }

/-- Sweeps and tells how many values were deleted. -/
def purgeExpired (n : Node) (now : Int) : Node × Nat :=
  (n.sweep now, n.own.size - (n.sweep now).own.size)

/-! ## Hits and resets -/

def publish (n : Node) (key value : String) : Node := { n with own := n.own.insert key value }

def ownEntry? (n : Node) (key : String) : Option Entry := n.own[counterKey key]?.bind Entry.ofText?

/-- The node's own count in a window it joins. -/
def ownCount (n : Node) (key : String) (start : Int) : Nat :=
  match n.ownEntry? key with
  | some e => if e.start = start then addCount e.count 1 else 1
  | none => 1

/-- The start of a new window. -/
def openingTime (n : Node) (key : String) (now : Int) : Int :=
  match n.view.latestReset key with
  | some marker => max now (addTime marker 1)
  | none => now

/-- The entry a hit publishes, and the window it reports. -/
def entryFor (n : Node) (key : String) (length now : Int) : Entry × SharedWindow :=
  match n.window? key now with
  | some w => (⟨w.start, w.ends, n.ownCount key w.start⟩, { w with total := addCount w.total 1 })
  | none =>
    let start := n.openingTime key now
    let ends := addTime start length
    (⟨start, ends, 1⟩, ⟨start, ends, 1⟩)

/-- Counts a hit; every 256th one sweeps. -/
def pace (n : Node) (now : Int) : Node :=
  let done := n.increments
  let n := { n with increments := (done + 1) % Word.count64 }
  if done % purgeEvery = purgeEvery - 1 then n.sweep now else n

def increment (n : Node) (key : String) (length now : Int) : Node × SharedWindow :=
  let (entry, window) := n.entryFor key length now
  ((n.publish (counterKey key) entry.toText).pace now, window)

def reset (n : Node) (key : String) (now : Int) : Node :=
  n.publish (resetKey key) (toString (n.openingTime key now))

/-! ## A node as a backend -/

/-- A time as an instant, if it is one. -/
def instantOf (ms : Int) : Except BackendError Instant :=
  if Instant.Representable (Instant.ofMillis ms) then .ok (Instant.ofMillis ms)
  else .error (.internal ("invalid window timestamp " ++ toString ms))

/-- Whole milliseconds of a window, at least one. -/
def lengthOf (ns : Nat) : Int := max 1 (ns / nanosPerMilli)

def perform (n : Node) (op : Operation) (now : Instant) : Node × Outcome :=
  let ms := now.toMillis
  match op with
  | .increment key window =>
    match Window.accept window with
    | .error e => (n, .error e.toBackendError)
    | .ok window =>
      let (n, w) := n.increment key (lengthOf window) ms
      (n, .ok (.count w.total))
  | .count key => (n, .ok (.count (((n.window? key ms).map SharedWindow.total).getD 0)))
  | .resetTime key =>
    match n.window? key ms with
    | none => (n, .ok (.resetTime none))
    | some w => (n, (instantOf w.ends).map fun t => .resetTime (some t))
  | .reset key => (n.reset key ms, .ok .done)

/-- A node of the mesh; it is healthy as long as any node is live. -/
def backend : Backend where
  State := Node
  operate := .instant fun clock op n => n.perform op clock.wall
  probe := .instant fun _ _ n => (n, decide (0 < n.liveCount))

end Node

end RateCounter.Mesh
