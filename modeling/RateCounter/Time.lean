/-
  RateCounter.Time — instants, lengths of time and the two clocks.

  An instant is a whole number of nanoseconds since 1970-01-01T00:00:00Z, a length of
  time a number of nanoseconds. Only the instants of the years −262143 … 262142 can be
  written down (`Representable`); a window must end inside them.

  The wall clock dates windows and reports and may be stepped either way. The monotonic
  clock paces health checks and timers and never goes back. Waiting moves both
  (`Clock.waitUntil`).
-/

namespace RateCounter

/-- Nanoseconds since the epoch. -/
abbrev Instant := Int

def nanosPerMilli : Nat := 1000000
def nanosPerSecond : Nat := 1000000000

def millis (n : Nat) : Nat := n * nanosPerMilli
def seconds (n : Nat) : Nat := n * nanosPerSecond

namespace Instant

/-- −262143-01-01T00:00:00Z. -/
def earliest : Instant := -8334601228800 * nanosPerSecond

/-- +262142-12-31T23:59:59.999999999Z. -/
def latest : Instant := 8210266876799 * nanosPerSecond + 999999999

def Representable (t : Instant) : Prop := earliest ≤ t ∧ t ≤ latest

instance (t : Instant) : Decidable (Representable t) := inferInstanceAs (Decidable (_ ∧ _))

/-- Whole milliseconds since the epoch, rounded towards the past. -/
def toMillis (t : Instant) : Int := t.fdiv nanosPerMilli

def ofMillis (ms : Int) : Instant := ms * nanosPerMilli

end Instant

structure Clock where
  wall : Instant
  mono : Nat
  deriving DecidableEq, Repr

namespace Clock

/-- Both clocks move by the same length of time. -/
def wait (c : Clock) (ns : Nat) : Clock := ⟨c.wall + ns, c.mono + ns⟩

/-- The clocks are moved from outside, each by its own length of time. -/
def advance (c : Clock) (wall : Int) (mono : Nat) : Clock := ⟨c.wall + wall, c.mono + mono⟩

/-- Both clocks move until the monotonic one shows `t`; not at all if it is past `t`. -/
def waitUntil (c : Clock) (t : Nat) : Clock := c.wait (t - c.mono)

@[simp] theorem wait_mono (c : Clock) (ns : Nat) : (c.wait ns).mono = c.mono + ns := rfl

@[simp] theorem wait_wall (c : Clock) (ns : Nat) : (c.wait ns).wall = c.wall + ns := rfl

theorem waitUntil_mono (c : Clock) (t : Nat) : (c.waitUntil t).mono = max c.mono t := by
  simp only [waitUntil, wait_mono]; omega

end Clock

end RateCounter
