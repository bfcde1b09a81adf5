/-
  RateCounter.Service — calls that wait for timers, on shared state.

  A service answers calls on a state of type `σ`. A call is started and then either done or
  waiting; a waiting call is resumed when its timer is due, and may be abandoned instead.
  Between two turns other calls may change the state. All time is that of the clock handed
  in: nothing here waits for real.

  Services are put together from smaller ones: a call bounded in time (`within`; an answer
  at the very deadline counts), one call per state of a list (`each`), a list of calls at
  once (`together`), on one of two kinds of state (`sum`), on a part of the state (`focus`).
  `settle` runs a single call to its end.
-/

import RateCounter.Time

namespace RateCounter

/-- Where a call stands after one of its turns. -/
inductive Turn (φ ρ : Type) where
  | done (reply : ρ)
  | waiting (flight : φ)
  deriving Repr

namespace Turn

def map {φ φ' ρ ρ' : Type} (f : φ → φ') (r : ρ → ρ') : Turn φ ρ → Turn φ' ρ'
  | done reply => .done (r reply)
  | waiting flight => .waiting (f flight)

def flight? {φ ρ : Type} : Turn φ ρ → Option φ
  | done _ => none
  | waiting flight => some flight

end Turn

/-- The earlier of two timers, `none` being a timer that never fires. -/
def earlier : Option Nat → Option Nat → Option Nat
  | none, t => t
  | t, none => t
  | some a, some b => some (min a b)

def isDue (timer : Option Nat) (now : Nat) : Bool :=
  match timer with
  | none => false
  | some t => decide (t ≤ now)

structure Service (σ α ρ : Type) where
  /-- A call that waits. -/
  Flight : Type
  start : Clock → α → σ → σ × Turn Flight ρ
  resume : Clock → Flight → σ → σ × Turn Flight ρ
  /-- Gives up a waiting call. -/
  abandon : Flight → σ → σ
  /-- When a waiting call wants its next turn. -/
  wake : Flight → Option Nat

namespace Service

variable {σ τ α β ρ ρ' : Type}

/-- Resumes a waiting call if its timer is due. -/
def poll (S : Service σ α ρ) (clock : Clock) (f : S.Flight) (s : σ) : σ × Turn S.Flight ρ :=
  if isDue (S.wake f) clock.mono then S.resume clock f s else (s, .waiting f)

/-! ## Plain services -/

/-- Calls that never wait. -/
def instant (answer : Clock → α → σ → σ × ρ) : Service σ α ρ where
  Flight := Empty
  start clock a s := ((answer clock a s).1, .done (answer clock a s).2)
  resume _ f _ := f.elim
  abandon f _ := f.elim
  wake f := f.elim

/-- The same calls, their answers put in other words. -/
def mapReply (S : Service σ α ρ) (r : ρ → ρ') : Service σ α ρ' where
  Flight := S.Flight
  start clock a s := ((S.start clock a s).1, (S.start clock a s).2.map id r)
  resume clock f s := ((S.resume clock f s).1, (S.resume clock f s).2.map id r)
  abandon := S.abandon
  wake := S.wake

/-- Calls on a part of a larger state. -/
def focus (S : Service σ α ρ) (get : τ → σ) (set : σ → τ → τ) : Service τ α ρ where
  Flight := S.Flight
  start clock a t := (set (S.start clock a (get t)).1 t, (S.start clock a (get t)).2)
  resume clock f t := (set (S.resume clock f (get t)).1 t, (S.resume clock f (get t)).2)
  abandon f t := set (S.abandon f (get t)) t
  wake := S.wake

/-- Calls on either of two kinds of state. A call keeps to the kind it was started on. -/
def sum (S : Service σ α ρ) (T : Service τ α ρ) : Service (σ ⊕ τ) α ρ where
  Flight := S.Flight ⊕ T.Flight
  start clock a
    | .inl s => (.inl (S.start clock a s).1, (S.start clock a s).2.map .inl id)
    | .inr t => (.inr (T.start clock a t).1, (T.start clock a t).2.map .inr id)
  resume clock
    | .inl f, .inl s => (.inl (S.resume clock f s).1, (S.resume clock f s).2.map .inl id)
    | .inr f, .inr t => (.inr (T.resume clock f t).1, (T.resume clock f t).2.map .inr id)
    | f, s => (s, .waiting f)
  abandon
    | .inl f, .inl s => .inl (S.abandon f s)
    | .inr f, .inr t => .inr (T.abandon f t)
    | _, s => s
  wake
    | .inl f => S.wake f
    | .inr f => T.wake f

/-! ## Bounded calls -/

/-- A call that is given up at its deadline. -/
structure Bounded (φ : Type) where
  deadline : Nat
  flight : φ
  deriving Repr

/-- Gives the call up if its deadline has come. -/
def expire (S : Service σ α ρ) (clock : Clock) (b : Bounded S.Flight) (s : σ) :
    σ × Turn (Bounded S.Flight) (Option ρ) :=
  if b.deadline ≤ clock.mono then (S.abandon b.flight s, .done none) else (s, .waiting b)

/-- After a turn of the call: its answer, or `expire`. -/
def bound (S : Service σ α ρ) (clock : Clock) (deadline : Nat) :
    σ × Turn S.Flight ρ → σ × Turn (Bounded S.Flight) (Option ρ)
  | (s, .done reply) => (s, .done (some reply))
  | (s, .waiting f) => S.expire clock ⟨deadline, f⟩ s

/-- Calls that have `limit` nanoseconds; `none` if they did not answer in time. -/
def within (S : Service σ α ρ) (limit : Nat) : Service σ α (Option ρ) where
  Flight := Bounded S.Flight
  start clock a s := S.bound clock (clock.mono + limit) (S.start clock a s)
  resume clock b s := S.bound clock b.deadline (S.poll clock b.flight s)
  abandon b s := S.abandon b.flight s
  wake b := earlier (S.wake b.flight) (some b.deadline)

/-! ## One call per state -/

/-- Starts a call on every state, in order. -/
def startEach (S : Service σ α ρ) (clock : Clock) (a : α) : List σ → List σ × List (Option S.Flight)
  | [] => ([], [])
  | s :: rest =>
    let (s, turn) := S.start clock a s
    let (rest, flights) := startEach S clock a rest
    (s :: rest, turn.flight? :: flights)

/-- Gives every waiting call whose timer is due a turn, in order. -/
def pollEach (S : Service σ α ρ) (clock : Clock) : List (Option S.Flight) → List σ → List σ × List (Option S.Flight)
  | none :: flights, s :: rest =>
    let (rest, flights) := pollEach S clock flights rest
    (s :: rest, none :: flights)
  | some f :: flights, s :: rest =>
    let (s, turn) := S.poll clock f s
    let (rest, flights) := pollEach S clock flights rest
    (s :: rest, turn.flight? :: flights)
  | _, states => (states, [])

def abandonEach (S : Service σ α ρ) : List (Option S.Flight) → List σ → List σ
  | none :: flights, s :: rest => s :: abandonEach S flights rest
  | some f :: flights, s :: rest => S.abandon f s :: abandonEach S flights rest
  | _, states => states

def wakeEach (S : Service σ α ρ) : List (Option S.Flight) → Option Nat
  | [] => none
  | none :: flights => wakeEach S flights
  | some f :: flights => earlier (S.wake f) (wakeEach S flights)

/-- Done when no call waits any more. -/
def joined {φ : Type} (flights : List (Option φ)) : Turn (List (Option φ)) Unit :=
  if flights.all Option.isNone then .done () else .waiting flights

/-- One call on each state of a list, all at once; their answers are dropped. -/
def each (S : Service σ α ρ) : Service (List σ) α Unit where
  Flight := List (Option S.Flight)
  start clock a states := ((S.startEach clock a states).1, joined (S.startEach clock a states).2)
  resume clock flights states :=
    ((S.pollEach clock flights states).1, joined (S.pollEach clock flights states).2)
  abandon := S.abandonEach
  wake := S.wakeEach

/-! ## Several calls at once -/

def startAll (S : Service σ α ρ) (clock : Clock) : List α → σ → σ × List (Turn S.Flight ρ)
  | [], s => (s, [])
  | a :: rest, s =>
    let (s, turn) := S.start clock a s
    let (s, turns) := startAll S clock rest s
    (s, turn :: turns)

def pollAll (S : Service σ α ρ) (clock : Clock) : List (Turn S.Flight ρ) → σ → σ × List (Turn S.Flight ρ)
  | [], s => (s, [])
  | .done reply :: rest, s =>
    let (s, turns) := pollAll S clock rest s
    (s, .done reply :: turns)
  | .waiting f :: rest, s =>
    let (s, turn) := S.poll clock f s
    let (s, turns) := pollAll S clock rest s
    (s, turn :: turns)

def abandonAll (S : Service σ α ρ) : List (Turn S.Flight ρ) → σ → σ
  | [], s => s
  | .done _ :: rest, s => abandonAll S rest s
  | .waiting f :: rest, s => abandonAll S rest (S.abandon f s)

def wakeAll (S : Service σ α ρ) : List (Turn S.Flight ρ) → Option Nat
  | [] => none
  | .done _ :: rest => wakeAll S rest
  | .waiting f :: rest => earlier (S.wake f) (wakeAll S rest)

/-- The answers, if every call is done. -/
def replies? {φ : Type} : List (Turn φ ρ) → Option (List ρ)
  | [] => some []
  | .done reply :: rest => (replies? rest).map (reply :: ·)
  | .waiting _ :: _ => none

def gathered {φ : Type} (turns : List (Turn φ ρ)) : Turn (List (Turn φ ρ)) (List ρ) :=
  match replies? turns with
  | some replies => .done replies
  | none => .waiting turns

/-- A list of calls started at one instant, in order; those due are resumed in the same order. -/
def together (S : Service σ α ρ) : Service σ (List α) (List ρ) where
  Flight := List (Turn S.Flight ρ)
  start clock calls s := ((S.startAll clock calls s).1, gathered (S.startAll clock calls s).2)
  resume clock turns s := ((S.pollAll clock turns s).1, gathered (S.pollAll clock turns s).2)
  abandon := S.abandonAll
  wake := S.wakeAll

/-! ## A call alone -/

/-- Moves the clock from timer to timer until the call is done. `none`: it never is, or not
    within `fuel` turns. -/
def settle (S : Service σ α ρ) : Nat → Clock → σ × Turn S.Flight ρ → Clock × σ × Option ρ
  | _, clock, (s, .done reply) => (clock, s, some reply)
  | 0, clock, (s, .waiting _) => (clock, s, none)
  | fuel + 1, clock, (s, .waiting f) =>
    match S.wake f with
    | none => (clock, s, none)
    | some t =>
      let clock := clock.waitUntil t
      settle S fuel clock (S.resume clock f s)

/-- Starts a call and runs it alone, for at most `fuel` turns. -/
def call (S : Service σ α ρ) (fuel : Nat) (clock : Clock) (a : α) (s : σ) : Clock × σ × Option ρ :=
  S.settle fuel clock (S.start clock a s)

end Service

end RateCounter
