/-
  RateCounter.Proofs.Failover.Turns — what one turn of an operation does to a group.

  A turn of an operation may complete its checks and then make attempts, up to one that
  succeeds or waits. The attempts that are over are noted with what the backends answered
  (`attempts`); the health records are told of them and of what the checks did, and of nothing
  else. At most the last attempt gave a value, and with it the operation is over (`Ended`).

  So every turn of an operation is `Turned`, like those of a refresh: `start_turned`,
  `resume_turned`, `abandon_turned`.
-/

import RateCounter.Proofs.Failover.Reference
import RateCounter.Proofs.Health.CheckTurns

namespace RateCounter

/-! ## Attempts -/

namespace Failover

variable {B : Backend}

open Monitor (Watch Checks holds)

/-- An attempt at an operation that is over, and where it was made. -/
abbrev Try := Nat × Outcome

/-- The attempts at the candidates that are over at once, in order: up to one that succeeds or
    has to wait. -/
def attempts (timeout : Nat) (clock : Clock) (op : Operation) : List Nat → List B.State → List Try
  | [], _ => []
  | i :: rest, backends =>
    match backends[i]? with
    | none => attempts timeout clock op rest backends
    | some b =>
      match (B.operate.within timeout).start clock op b with
      | (_, .waiting _) => []
      | (b, .done answer) =>
        match outcomeOf op timeout answer with
        | .ok value => [(i, .ok value)]
        | .error e => (i, .error e) :: attempts timeout clock op rest (backends.set i b)

/-- The attempts that are over after a turn of the one at `i`. -/
def attemptsAfter (timeout : Nat) (clock : Clock) (op : Operation) (i : Nat) (rest : List Nat)
    (backends : List B.State) : B.State × Turn (Service.Bounded B.operate.Flight) (Option Outcome) → List Try
  | (_, .waiting _) => []
  | (b, .done answer) =>
    match outcomeOf op timeout answer with
    | .ok value => [(i, .ok value)]
    | .error e => (i, .error e) :: attempts timeout clock op rest (backends.set i b)

theorem attempts_cons (timeout : Nat) (clock : Clock) (op : Operation) {i : Nat} (rest : List Nat)
    {backends : List B.State} {b : B.State} (hb : backends[i]? = some b) :
    attempts timeout clock op (i :: rest) backends =
      attemptsAfter timeout clock op i rest backends ((B.operate.within timeout).start clock op b) := by
  simp only [attempts, hb]
  rcases (B.operate.within timeout).start clock op b with ⟨b', answer | attempt⟩ <;> rfl

/-- Notes of attempts, the latest first. -/
def tryNotes (caller : Nat) (clock : Clock) (op : Operation) (tries : List Try) : List Note :=
  (tries.map fun t => ⟨some caller, t.1, clock, .tried op t.2⟩).reverse

theorem tryNotes_cons (caller : Nat) (clock : Clock) (op : Operation) (t : Try) (tries : List Try) :
    tryNotes caller clock op (t :: tries) =
      tryNotes caller clock op tries ++ [⟨some caller, t.1, clock, .tried op t.2⟩] := List.reverse_cons ..

/-- The values that attempts gave. -/
def values (tries : List Try) : List Value := tries.filterMap fun t => t.2.toOption

/-- The value with which an operation is over, if it is. -/
def value? : Turn (Execution B) Result → Option Value
  | .done result => result.toOption
  | .waiting _ => none

def Execution.operation : Execution B → Operation
  | checking op _ => op
  | attempting op .. => op

/-- The checks an operation waits for. -/
def Execution.checks : Execution B → Checks B
  | checking _ checks => checks
  | attempting .. => []

/-- The checks an operation waits for after a turn. -/
def inFlight : Turn (Execution B) Result → Checks B
  | .waiting x => x.checks
  | .done _ => []

/-- At most the last attempt of a turn gave a value, with which the operation is over. -/
structure Ended (op : Operation) (tries : List Try) (turn : Turn (Execution B) Result) : Prop where
  values : values tries = (value? turn).toList
  operation : ∀ x, turn = .waiting x → x.operation = op

/-- What attempts come to. The records are told of each of them, and none is made while the
    operation waits for `checks`. -/
structure Tried (caller : Nat) (clock : Clock) (op : Operation) (tries : List Try) (checks : Checks B) (g : Failover B)
    (p : Failover B × Turn (Execution B) Result) : Prop extends Ended op tries p.2 where
  told : p.1.monitor = g.monitor.told (tryNotes caller clock op tries)
  range : ∀ t ∈ tries, t.1 < g.backends.length
  pending : inFlight p.2 = checks
  alone : ∀ i, holds checks i = true → tries = []

variable {caller : Nat} {clock : Clock} {op : Operation}

/-- The failure of an attempt goes before the attempts made after it. -/
theorem Tried.cons {i : Nat} {b : B.State} {e : BackendError} {tries : List Try} {g : Failover B}
    {p : Failover B × Turn (Execution B) Result} (hi : i < g.backends.length)
    (h : Tried caller clock op tries [] ((g.setBackend i b).failAt i e) p) :
    Tried caller clock op ((i, .error e) :: tries) [] g p where
  told := by
    rw [tryNotes_cons, Monitor.told_append]
    exact h.told
  range t ht := by
    rcases List.mem_cons.mp ht with rfl | ht
    · exact hi
    · have hsize := congrArg Frame.backends ((frame_failAt (g.setBackend i b) i e).trans (frame_setBackend g i b))
      exact Nat.lt_of_lt_of_eq (h.range t ht) hsize
  values := h.values
  operation := h.operation
  pending := h.pending
  alone _ hheld := nomatch hheld

theorem afterAttempt_tried {rest : List Nat}
    (hrest : ∀ (fs : List Failure) (g : Failover B),
      Tried caller clock op (attempts g.timeout clock op rest g.backends) [] g (tryEach clock op rest fs g))
    {i : Nat} (fs : List Failure) {g : Failover B} (hi : i < g.backends.length)
    (p : B.State × Turn (Service.Bounded B.operate.Flight) (Option Outcome)) :
    Tried caller clock op (attemptsAfter g.timeout clock op i rest g.backends p) [] g
      (afterAttempt clock op i rest fs g p) := by
  obtain ⟨b, answer | attempt⟩ := p
  · simp only [afterAttempt, attemptsAfter]
    cases outcomeOf op g.timeout answer with
    | ok value =>
      refine ⟨⟨rfl, fun x hx => ?_⟩, rfl, fun t ht => List.mem_singleton.mp ht ▸ hi, rfl,
        fun _ hheld => absurd hheld Bool.false_ne_true⟩
      cases hx
    | error e => exact (hrest _ ((g.setBackend i b).failAt i e)).cons hi
  · refine ⟨⟨rfl, fun x hx => ?_⟩, rfl, fun _ ht => absurd ht List.not_mem_nil, rfl, fun _ _ => rfl⟩
    cases hx
    rfl

theorem tryEach_tried (caller : Nat) (clock : Clock) (op : Operation) (cs : List Nat) (fs : List Failure)
    (g : Failover B) :
    Tried caller clock op (attempts g.timeout clock op cs g.backends) [] g (tryEach clock op cs fs g) := by
  induction cs generalizing fs g with
  | nil =>
    refine ⟨⟨rfl, fun x hx => ?_⟩, rfl, fun _ ht => absurd ht List.not_mem_nil, rfl, fun _ _ => rfl⟩
    cases hx
  | cons i cs ih =>
    cases hb : g.backends[i]? with
    | none =>
      simp only [tryEach, attempts, hb]
      exact ih fs g
    | some b =>
      rw [tryEach_cons clock op cs fs hb, attempts_cons g.timeout clock op cs hb]
      exact afterAttempt_tried ih fs (List.getElem?_eq_some_iff.mp hb).1 _

/-! ## A turn of an operation -/

/-- The attempts that follow a turn of the checks. -/
def triesAfter (clock : Clock) (op : Operation) : Failover B × Turn (Checks B) Unit → List Try
  | (_, .waiting _) => []
  | (g, .done _) => attempts g.timeout clock op (g.rotation.candidates g.monitor.flags).1 g.backends

theorem afterChecks_tried (caller : Nat) (clock : Clock) (op : Operation) (p : Failover B × Turn (Checks B) Unit) :
    Tried caller clock op (triesAfter clock op p) (p.2.flight?.getD []) p.1 (afterChecks clock op p) := by
  obtain ⟨g, u | checks⟩ := p
  · have htried := tryEach_tried caller clock op (g.rotation.candidates g.monitor.flags).1 []
      { g with rotation := (g.rotation.candidates g.monitor.flags).2 }
    exact ⟨htried.toEnded, htried.told, htried.range, htried.pending, nofun⟩
  · refine ⟨⟨rfl, fun x hx => ?_⟩, rfl, fun _ ht => absurd ht List.not_mem_nil, rfl, fun _ _ => rfl⟩
    cases hx
    rfl

/-- The attempts in an operation's first turn. -/
def startTries (clock : Clock) (op : Operation) (g : Failover B) : List Try :=
  match refusal? op with
  | some _ => []
  | none => triesAfter clock op ((refresh B).start clock () g)

def resumeTries (clock : Clock) : Execution B → Failover B → List Try
  | .checking op checks, g => triesAfter clock op ((refresh B).resume clock checks g)
  | .attempting op i attempt rest _, g =>
    match g.backends[i]? with
    | none => attempts g.timeout clock op rest g.backends
    | some b =>
      attemptsAfter g.timeout clock op i rest g.backends ((B.operate.within g.timeout).resume clock attempt b)

/-- What happens in an operation's first turn. -/
def startNotes (caller : Nat) (clock : Clock) (op : Operation) (g : Failover B) : List Note :=
  tryNotes caller clock op (startTries clock op g) ++
    match refusal? op with
    | some _ => []
    | none => Monitor.startNotes caller clock g.watch

def resumeNotes (caller : Nat) (clock : Clock) (x : Execution B) (g : Failover B) : List Note :=
  tryNotes caller clock x.operation (resumeTries clock x g) ++
    match x with
    | .checking _ checks => Monitor.resumeNotes caller clock checks g.watch
    | .attempting .. => []

def abandonNotes (caller : Nat) (clock : Clock) (x : Execution B) (g : Failover B) : List Note :=
  match x with
  | .checking _ checks => Monitor.abandonNotes caller clock checks g.watch
  | .attempting .. => []

theorem mem_tryNotes {tries : List Try} {n : Note} (hn : n ∈ tryNotes caller clock op tries) :
    n.caller = some caller ∧ n.clock = clock ∧ ∃ t ∈ tries, n.position = t.1 ∧ n.what = .tried op t.2 := by
  obtain ⟨t, ht, rfl⟩ := List.mem_map.mp (List.mem_reverse.mp hn)
  exact ⟨rfl, rfl, t, ht, rfl, rfl⟩

/-- Attempts that follow a turn of the checks. -/
theorem Tried.turned {notes : List Note} {held checks : Checks B} {w : Watch B} {g : Failover B} {tries : List Try}
    {p : Failover B × Turn (Execution B) Result} (ht : Tried caller clock op tries checks g p)
    (h : Monitor.Turned caller clock notes held checks w g.watch) (hframe : p.1.frame = g.frame) :
    Monitor.Turned caller clock (tryNotes caller clock op tries ++ notes) held (inFlight p.2) w p.1.watch where
  told := by
    rw [Monitor.told_append, ← h.told]
    exact ht.told
  backends := (congrArg Frame.backends hframe).trans h.backends
  claims i := by
    have hsame : p.1.watch.monitor.claims i = g.watch.monitor.claims i := by
      show p.1.monitor.claims i = g.monitor.claims i
      rw [ht.told]
      refine Monitor.claims_told g.monitor i fun n hn before => ?_
      obtain ⟨-, -, t, -, -, htried⟩ := mem_tryNotes hn
      rw [Health.claimedAfter, htried]
    rw [hsame, ht.pending]
    exact h.claims i
  stamped n hn := by
    rcases List.mem_append.mp hn with hn | hn
    · obtain ⟨hcaller, hclock, t, hmem, hposition, -⟩ := mem_tryNotes hn
      exact ⟨hcaller, hposition ▸ h.backends ▸ ht.range t hmem, hclock⟩
    · exact h.stamped n hn
  begun i n earlier hs hn := by
    rw [Note.about_append] at hs
    rcases Note.cons_suffix_append hs with hs | ⟨between, hs, -⟩
    · exact h.begun i n earlier hs hn
    · obtain ⟨-, -, t, -, -, htried⟩ := mem_tryNotes (Note.mem_about.mp (hs.subset (List.mem_cons_self ..))).1
      exact nomatch hn.symm.trans htried
  waits i hheld n hn := by
    rw [ht.pending] at hheld
    rw [ht.alone i hheld] at hn
    exact h.waits i hheld n hn

theorem start_turned (caller : Nat) (clock : Clock) (op : Operation) (g : Failover B) :
    Monitor.Turned caller clock (startNotes caller clock op g) [] (inFlight ((operate B).start clock op g).2) g.watch
      ((operate B).start clock op g).1.watch := by
  unfold startNotes startTries
  cases hop : refusal? op with
  | some e =>
    rw [startOperation_refused hop]
    exact .idle g.watch []
  | none =>
    rw [startOperation_accepted hop]
    exact (afterChecks_tried caller clock op _).turned (Monitor.startChecks_turned caller clock g.watch)
      (afterChecks_frame ..)

theorem start_ended (clock : Clock) (op : Operation) (g : Failover B) :
    Ended op (startTries clock op g) ((operate B).start clock op g).2 := by
  unfold startTries
  cases hop : refusal? op with
  | some e =>
    rw [startOperation_refused hop]
    exact ⟨rfl, nofun⟩
  | none =>
    rw [startOperation_accepted hop]
    exact (afterChecks_tried 0 clock op _).toEnded

theorem begun_mem_startNotes {i : Nat} {g : Failover B} (hop : refusal? op = none)
    (hsize : g.monitor.records.length = g.backends.length) :
    ⟨some caller, i, clock, .begun⟩ ∈ startNotes caller clock op g ↔ g.monitor.IsDue clock i := by
  unfold startNotes
  rw [hop, List.mem_append]
  refine (or_iff_right fun hn => ?_).trans (Monitor.begun_mem_startNotes hsize)
  obtain ⟨-, -, t, -, -, htried⟩ := mem_tryNotes hn
  exact nomatch htried

/-- A turn of an operation that is past its checks. -/
theorem attempting_tried (caller : Nat) (clock : Clock) (op : Operation) (i : Nat)
    (attempt : Service.Bounded B.operate.Flight) (rest : List Nat) (fs : List Failure) (g : Failover B) :
    Tried caller clock op (resumeTries clock (.attempting op i attempt rest fs) g) [] g
      ((operate B).resume clock (.attempting op i attempt rest fs) g) := by
  simp only [operate, resumeOperation, resumeTries]
  cases hb : g.backends[i]? with
  | none => exact tryEach_tried caller clock op rest fs g
  | some b => exact afterAttempt_tried (tryEach_tried caller clock op rest) fs (List.getElem?_eq_some_iff.mp hb).1 _

theorem resume_turned (caller : Nat) (clock : Clock) {x : Execution B} {g : Failover B}
    (hclaimed : g.monitor.Claimed x.checks) (hsize : g.monitor.records.length = g.backends.length) :
    Monitor.Turned caller clock (resumeNotes caller clock x g) x.checks (inFlight ((operate B).resume clock x g).2)
      g.watch ((operate B).resume clock x g).1.watch := by
  cases x with
  | checking op checks =>
    exact (afterChecks_tried caller clock op _).turned (Monitor.resumeChecks_turned caller clock hclaimed hsize)
      (afterChecks_frame ..)
  | attempting op i attempt rest fs =>
    exact (attempting_tried caller clock op i attempt rest fs g).turned (.idle g.watch []) (resume_frame ..)

theorem resume_ended (clock : Clock) (x : Execution B) (g : Failover B) :
    Ended x.operation (resumeTries clock x g) ((operate B).resume clock x g).2 := by
  cases x with
  | checking op checks => exact (afterChecks_tried 0 clock op _).toEnded
  | attempting op i attempt rest fs => exact (attempting_tried 0 clock op i attempt rest fs g).toEnded

/-- An operation does not go back to checks that were over. -/
theorem resume_holds {x : Execution B} {g : Failover B} {i : Nat}
    (h : holds (inFlight ((operate B).resume clock x g).2) i = true) : holds x.checks i = true := by
  cases x with
  | checking op checks =>
    have hpending := (afterChecks_tried 0 clock op ((refresh B).resume clock checks g)).pending
    exact Monitor.resumeChecks_holds (hpending ▸ h)
  | attempting op i attempt rest fs =>
    rw [(attempting_tried 0 clock op i attempt rest fs g).pending] at h
    exact nomatch h

theorem mem_abandonNotes {x : Execution B} {g : Failover B} {n : Note}
    (hn : n ∈ abandonNotes caller clock x g) : n.what = .cut := by
  cases x with
  | checking op checks => exact Monitor.mem_abandonNotes hn
  | attempting op i attempt rest fs => exact nomatch hn

theorem abandon_turned (caller : Nat) (clock : Clock) {x : Execution B} {g : Failover B}
    (hclaimed : g.monitor.Claimed x.checks) (hsize : g.monitor.records.length = g.backends.length) :
    Monitor.Turned caller clock (abandonNotes caller clock x g) x.checks [] g.watch
      ((operate B).abandon x g).watch := by
  cases x with
  | checking op checks => exact Monitor.abandonChecks_turned caller clock hclaimed hsize
  | attempting op i attempt rest fs =>
    have hmonitor : ((operate B).abandon (.attempting op i attempt rest fs) g).watch.monitor = g.watch.monitor := by
      simp only [operate, abandonOperation]
      cases g.backends[i]? <;> rfl
    have hbackends := congrArg Frame.backends (abandon_frame (.attempting op i attempt rest fs) g)
    refine ⟨hmonitor, hbackends, fun j => ?_, fun _ hn => absurd hn List.not_mem_nil,
      fun _ _ _ hs _ => absurd (List.suffix_nil.mp hs) (List.cons_ne_nil _ _),
      fun _ _ _ hn => absurd hn List.not_mem_nil⟩
    rw [hmonitor]
    rfl

end Failover

end RateCounter
