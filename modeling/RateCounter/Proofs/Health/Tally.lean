/-
  RateCounter.Proofs.Health.Tally — health checks as the backends count them.

  A backend that keeps a tally of its health checks (`Backend.tallied`) notes when it is asked
  to begin one, and counts those that are over: answered, or given up. For the rest it does
  what it would do without (`mirrors_tallied`). So what is noted of the checks of a group can
  be compared with what its backends were asked for.

  - `Tally.Enters`: what a turn of one check does to the tally of its backend.
  - `startChecks_tallied`, `resumeChecks_tallied`, `abandonChecks_tallied`: in a turn of the
    checks of a refresh each backend is asked for the checks that are noted to begin, and just
    those end that are noted to be over; the others are in flight.
-/

import RateCounter.Proofs.Failover.Mirrored
import RateCounter.Proofs.Health.Checkups
import RateCounter.Proofs.Store.Gated

namespace RateCounter

/-! ## Tallies -/

/-- Calls as the one that is called on counts them. -/
structure Tally where
  /-- When they began, the latest first. -/
  started : List Clock
  ended : Nat

namespace Tally

def blank : Tally := ⟨[], 0⟩

def begun (clock : Clock) (a : Tally) : Tally := { a with started := clock :: a.started }

def closed (a : Tally) : Tally := { a with ended := a.ended + 1 }

/-- After a turn of a call, which may be its last. -/
def turned {φ ρ : Type} (turn : Turn φ ρ) (a : Tally) : Tally :=
  match turn with
  | .done _ => a.closed
  | .waiting _ => a

/-- What a turn does to a tally. Calls begin at the clocks in `starts`, and `ends` are over;
    `held` and `held'` say whether one is in flight before the turn and after it. -/
structure Enters (starts : List Clock) (ends : Nat) (held held' : Bool) (a a' : Tally) : Prop where
  started : a'.started = starts ++ a.started
  ended : a'.ended = ends + a.ended
  balance : starts.length + held.toNat = ends + held'.toNat

theorem Enters.idle (held : Bool) (a : Tally) : Enters [] 0 held held a a := ⟨rfl, (Nat.zero_add _).symm, rfl⟩

end Tally

/-- How many calls a turn ends: itself, or none. -/
def Turn.ends {φ ρ : Type} : Turn φ ρ → Nat
  | done _ => 1
  | waiting _ => 0

namespace Service

variable {σ α ρ : Type}

/-- Calls that are tallied. -/
def tallied (S : Service σ α ρ) : Service (σ × Tally) α ρ where
  Flight := S.Flight
  start clock a s :=
    let (b, turn) := S.start clock a s.1
    ((b, (s.2.begun clock).turned turn), turn)
  resume clock f s :=
    let (b, turn) := S.resume clock f s.1
    ((b, s.2.turned turn), turn)
  abandon f s := (S.abandon f s.1, s.2.closed)
  wake := S.wake

theorem mirrors_tallied (S : Service σ α ρ) : S.tallied.Mirrors S Prod.fst id where
  start clock a s := (seen_id (S.start clock a s.1)).symm
  resume clock f s := (seen_id (S.resume clock f s.1)).symm
  abandon _ _ := rfl
  wake _ := rfl

variable (S : Service σ α ρ) {starts : List Clock} {a : Tally}

open Tally (Enters)

/-- A call that has used up its time is given up, and over. -/
theorem bound_enters (clock : Clock) (deadline : Nat) {held : Bool} {p : (σ × Tally) × Turn S.tallied.Flight ρ}
    (h : Enters starts p.2.ends held p.2.flight?.isSome a p.1.2) :
    Enters starts (S.tallied.bound clock deadline p).2.ends held (S.tallied.bound clock deadline p).2.flight?.isSome a
      (S.tallied.bound clock deadline p).1.2 := by
  obtain ⟨⟨s, a'⟩, reply | f⟩ := p
  · exact h
  · by_cases hlate : deadline ≤ clock.mono
    · rw [bound_late (s, a') f hlate]
      have hended : a'.ended = 0 + a.ended := h.ended
      refine ⟨h.started, ?_, h.balance⟩
      show a'.ended + 1 = 1 + a.ended
      omega
    · rw [bound_waiting (s, a') f (Nat.lt_of_not_le hlate)]
      exact h

theorem start_enters (limit : Nat) (clock : Clock) (arg : α) (s : σ × Tally) :
    let p := (S.tallied.within limit).start clock arg s
    Enters [clock] p.2.ends false p.2.flight?.isSome s.2 p.1.2 := by
  apply bound_enters
  simp only [tallied]
  cases (S.start clock arg s.1).2
  · exact ⟨rfl, Nat.add_comm .., rfl⟩
  · exact ⟨rfl, (Nat.zero_add _).symm, rfl⟩

theorem resume_enters (limit : Nat) (clock : Clock) (f : Bounded S.Flight) (s : σ × Tally) :
    let p := (S.tallied.within limit).resume clock f s
    Enters [] p.2.ends true p.2.flight?.isSome s.2 p.1.2 := by
  apply bound_enters
  unfold poll
  split
  · simp only [tallied]
    cases (S.resume clock f.flight s.1).2
    · exact ⟨rfl, Nat.add_comm .., rfl⟩
    · exact .idle true s.2
  · exact .idle true s.2

theorem abandon_enters (limit : Nat) (f : Bounded S.Flight) (s : σ × Tally) :
    Enters [] 1 true false s.2 ((S.tallied.within limit).abandon f s).2 := ⟨rfl, Nat.add_comm .., rfl⟩

end Service

/-- A backend whose health checks are tallied. -/
def Backend.tallied (B : Backend) : Backend where
  State := B.State × Tally
  operate := B.operate.focus Prod.fst fun b s => (b, s.2)
  probe := B.probe.tallied

namespace Backend

variable (B : Backend)

theorem mirrors_tallied_operate : B.tallied.operate.Mirrors B.operate Prod.fst id where
  start clock op s := (Service.seen_id (B.operate.start clock op s.1)).symm
  resume clock f s := (Service.seen_id (B.operate.resume clock f s.1)).symm
  abandon _ _ := rfl
  wake _ := rfl

/-- Operations are no health checks. -/
theorem tallied_operate_leaves : B.tallied.operate.Leaves Prod.snd :=
  ⟨fun _ _ _ => rfl, fun _ _ _ => rfl, fun _ _ => rfl⟩

end Backend

/-! ## Notes -/

/-- A check is over: it is completed or given up. -/
def Incident.isEnd : Incident → Bool
  | checked _ => true
  | cut => true
  | _ => false

namespace Note

/-- When a check begins, if one does. -/
def begun? (n : Note) : Option Clock :=
  match n.what with
  | .begun => some n.clock
  | _ => none

/-- When the checks of a backend began, by the notes. -/
def starts (i : Nat) (notes : List Note) : List Clock := (about i notes).filterMap begun?

/-- How many checks of a backend are over, by the notes. -/
def ends (i : Nat) (notes : List Note) : Nat := (about i notes).countP fun n => n.what.isEnd

variable {i : Nat} {notes : List Note}

theorem starts_append (i : Nat) (notes notes' : List Note) :
    starts i (notes ++ notes') = starts i notes ++ starts i notes' := by
  unfold starts
  rw [about_append, List.filterMap_append]

theorem ends_append (i : Nat) (notes notes' : List Note) : ends i (notes ++ notes') = ends i notes + ends i notes' := by
  unfold ends
  rw [about_append, List.countP_append]

/-- Notes that are of no check. -/
theorem starts_eq_nil (h : ∀ n ∈ notes, n.begun? = none) : starts i notes = [] :=
  List.filterMap_eq_nil_iff.mpr fun n hn => h n (mem_about.mp hn).1

theorem ends_eq_zero (h : ∀ n ∈ notes, n.what.isEnd = false) : ends i notes = 0 :=
  List.countP_eq_zero.mpr fun n hn => Bool.eq_false_iff.mp (h n (mem_about.mp hn).1)

end Note

/-! ## Checks -/

namespace Monitor

variable {B : Backend} {m : Monitor} {caller i : Nat} {clock : Clock}

open Tally (Enters)

/-- When the checks begin that are among what happens in a turn. -/
def starts (clock : Clock) (incidents : List Incident) : List Clock :=
  incidents.filterMap fun
    | .begun => some clock
    | _ => none

/-- How many checks are over by what happens in a turn. -/
def ends (incidents : List Incident) : Nat := incidents.countP Incident.isEnd

theorem starts_stamp (caller : Nat) (clock : Clock) (i : Nat) (incidents : List Incident) :
    (stamp caller clock i incidents).filterMap Note.begun? = starts clock incidents := by
  unfold stamp starts
  rw [List.filterMap_map]
  refine congrArg (fun f => incidents.filterMap f) (funext fun what => ?_)
  cases what <;> rfl

theorem ends_stamp (caller : Nat) (clock : Clock) (i : Nat) (incidents : List Incident) :
    (stamp caller clock i incidents).countP (fun n => n.what.isEnd) = ends incidents := List.countP_map

section Verdict

variable {φ : Type} (timeout : Nat) (clock : Clock) (turn : Turn φ (Option Bool))

theorem starts_of_verdict : starts clock ((verdict? timeout turn).map Incident.checked).toList = [] := by
  cases turn <;> rfl

theorem ends_of_verdict : ends ((verdict? timeout turn).map Incident.checked).toList = turn.ends := by
  cases turn <;> rfl

theorem starts_begun :
    starts clock (((verdict? timeout turn).map Incident.checked).toList ++ [Incident.begun]) = [clock] := by
  cases turn <;> rfl

theorem ends_begun : ends (((verdict? timeout turn).map Incident.checked).toList ++ [Incident.begun]) = turn.ends := by
  cases turn <;> rfl

end Verdict

/-- What a check makes of the answer is no concern of the backend. -/
theorem observe_enters (m : Monitor) (clock : Clock) (h : Health) {began : List Clock} {ended : Nat} {held : Bool}
    {a : Tally} {p : B.tallied.State × Turn (Service.Bounded B.tallied.probe.Flight) (Option Bool)}
    (henters : Enters began ended held p.2.flight?.isSome a p.1.2) :
    Enters began ended held (m.observe clock h p).2.flight?.isSome a (m.observe clock h p).1.2.2 := by
  obtain ⟨b, answer | f⟩ := p <;> exact henters

theorem start_tallied (m : Monitor) (clock : Clock) (w : Watched B.tallied) :
    let p := (check B.tallied m).start clock () w
    Enters (starts clock (startIncidents m clock w)) (ends (startIncidents m clock w)) false p.2.flight?.isSome w.2.2
      p.1.2.2 := by
  unfold startIncidents check
  dsimp only
  split
  · rw [starts_begun, ends_begun]
    exact observe_enters m clock w.1 (B.probe.start_enters m.timeout clock () w.2)
  · exact .idle false w.2.2

theorem poll_tallied (m : Monitor) (clock : Clock) (f : Service.Bounded B.tallied.probe.Flight)
    (w : Watched B.tallied) :
    let p := (check B.tallied m).poll clock f w
    Enters (starts clock (pollIncidents m clock f w)) (ends (pollIncidents m clock f w)) true p.2.flight?.isSome w.2.2
      p.1.2.2 := by
  unfold pollIncidents
  rw [starts_of_verdict, ends_of_verdict]
  have hwake : (check B.tallied m).wake f = (B.tallied.probe.within m.timeout).wake f := rfl
  unfold Service.poll
  rw [hwake]
  by_cases hdue : isDue ((B.tallied.probe.within m.timeout).wake f) clock.mono = true
  · rw [if_pos hdue, if_pos hdue]
    exact observe_enters m clock w.1 (B.probe.resume_enters m.timeout clock f w.2)
  · rw [if_neg hdue, if_neg hdue]
    exact .idle true w.2.2

/-! ## A turn of the checks of a refresh -/

/-- In a turn of a call the backends of a list are asked for the checks that are noted. -/
def Tallied (notes : List Note) (held held' : Checks B.tallied) (bs bs' : List B.tallied.State) : Prop :=
  ∀ i s', bs'[i]? = some s' → ∃ s, bs[i]? = some s ∧
    Enters (Note.starts i notes) (Note.ends i notes) (holds held i) (holds held' i) s.2 s'.2

theorem Tallied.idle (held : Checks B.tallied) (bs : List B.tallied.State) : Tallied [] held held bs bs :=
  fun i s hs => ⟨s, hs, .idle (holds held i) s.2⟩

/-- In lists that look the same there is at every place what looks the same. -/
theorem getElem?_of_map_eq {σ τ : Type} {view : σ → τ} {xs ys : List σ} (h : ys.map view = xs.map view) {i : Nat}
    {y : σ} (hy : ys[i]? = some y) : ∃ x, xs[i]? = some x ∧ view x = view y := by
  have hview : xs[i]?.map view = ys[i]?.map view := by
    rw [← List.getElem?_map, ← List.getElem?_map, h]
  rw [hy] at hview
  exact Option.map_eq_some_iff.mp hview

/-- What else happens to the backends is not tallied. -/
theorem Tallied.left {notes : List Note} {held held' : Checks B.tallied} {bs bs' bs'' : List B.tallied.State}
    (h : Tallied notes held held' bs bs') (hleft : bs''.map Prod.snd = bs'.map Prod.snd) :
    Tallied notes held held' bs bs'' := by
  intro i s'' hs''
  obtain ⟨s', hs', hsame⟩ := getElem?_of_map_eq hleft hs''
  obtain ⟨s, hs, henters⟩ := h i s' hs'
  exact ⟨s, hs, hsame ▸ henters⟩

theorem setPairs_tallied {w : Watch B.tallied} {ps : List (Watched B.tallied)}
    {incidents : Nat → Watched B.tallied → List Incident} {held held' : Checks B.tallied}
    (hsize : w.monitor.records.length = w.backends.length) (hlen : ps.length = w.pairs.length)
    (hin : ∀ i p, w.pairs[i]? = some p → ∃ p', ps[i]? = some p' ∧
      Enters (starts clock (incidents i p)) (ends (incidents i p)) (holds held i) (holds held' i) p.2.2 p'.2.2) :
    Tallied (checkNotes caller clock w incidents) held held' w.backends (w.setPairs ps).backends := by
  intro i s' hs'
  rw [backends_setPairs] at hs'
  cases hp : w.pairs[i]? with
  | none =>
    -- All backends are watched.
    rw [List.getElem?_eq_none_iff, Watch.length_pairs, hsize, Nat.min_self] at hp
    rw [List.getElem?_eq_none (by rw [hlen, Watch.length_pairs, hsize, Nat.min_self]; exact hp),
      List.getElem?_eq_none hp] at hs'
    cases hs'
  | some p =>
    obtain ⟨p', hp', henters⟩ := hin i p hp
    rw [hp'] at hs'
    cases hs'
    refine ⟨p.2, (List.getElem?_zip_eq_some.mp hp).2, ?_⟩
    rw [Note.starts, Note.ends, about_checkNotes, incidentsAt_some hp, starts_stamp, ends_stamp]
    exact henters

theorem startChecks_tallied (caller : Nat) (clock : Clock) {w : Watch B.tallied}
    (hsize : w.monitor.records.length = w.backends.length) :
    Tallied (startNotes caller clock w) [] ((startChecks clock w).2.flight?.getD []) w.backends
      (startChecks clock w).1.backends := by
  refine setPairs_tallied hsize (Service.length_startEach ..) fun i p hp => ?_
  refine ⟨((check B.tallied w.monitor).start clock () p).1, ?_, ?_⟩
  · exact (Service.getElem?_startEach (check B.tallied w.monitor) clock () w.pairs i).trans
      (congrArg (Option.map _) hp)
  · have hafter : holds ((startChecks clock w).2.flight?.getD []) i =
        ((check B.tallied w.monitor).start clock () p).2.flight?.isSome := by
      have hflight := Service.flight_startEach (check B.tallied w.monitor) clock () w.pairs i
      rw [hp] at hflight
      exact (holds_joined _ i).trans (congrArg Option.isSome hflight)
    rw [hafter]
    exact start_tallied w.monitor clock p

theorem resumeChecks_tallied (caller : Nat) (clock : Clock) (checks : Checks B.tallied) {w : Watch B.tallied}
    (hsize : w.monitor.records.length = w.backends.length) :
    Tallied (resumeNotes caller clock checks w) checks ((resumeChecks clock checks w).2.flight?.getD []) w.backends
      (resumeChecks clock checks w).1.backends := by
  refine setPairs_tallied hsize (Service.length_pollEach ..) fun i p hp => ?_
  have hafter : holds ((resumeChecks clock checks w).2.flight?.getD []) i =
      (checks[i]?.join.bind fun f => ((check B.tallied w.monitor).poll clock f p).2.flight?).isSome := by
    have hflight := Service.flight_pollEach (check B.tallied w.monitor) clock checks w.pairs i
    rw [hp] at hflight
    exact (holds_joined _ i).trans (congrArg Option.isSome hflight)
  rw [hafter, holds]
  cases hf : checks[i]?.join with
  | none =>
    refine ⟨p, ?_, .idle false p.2.2⟩
    exact (Service.getElem?_pollEach (check B.tallied w.monitor) clock w.pairs hf).trans (congrArg (Option.map _) hp)
  | some f =>
    refine ⟨((check B.tallied w.monitor).poll clock f p).1, ?_, poll_tallied w.monitor clock f p⟩
    exact (Service.getElem?_pollEach (check B.tallied w.monitor) clock w.pairs hf).trans (congrArg (Option.map _) hp)

theorem abandonChecks_tallied (caller : Nat) (clock : Clock) (checks : Checks B.tallied) {w : Watch B.tallied}
    (hsize : w.monitor.records.length = w.backends.length) :
    Tallied (abandonNotes caller clock checks w) checks [] w.backends (abandonChecks checks w).backends := by
  refine setPairs_tallied hsize (Service.length_abandonEach ..) fun i p hp => ?_
  rw [holds]
  cases hf : checks[i]?.join with
  | none =>
    refine ⟨p, ?_, .idle false p.2.2⟩
    exact (Service.getElem?_abandonEach (check B.tallied w.monitor) w.pairs hf).trans (congrArg (Option.map _) hp)
  | some f =>
    refine ⟨(check B.tallied w.monitor).abandon f p, ?_, B.probe.abandon_enters w.monitor.timeout f p.2⟩
    exact (Service.getElem?_abandonEach (check B.tallied w.monitor) w.pairs hf).trans (congrArg (Option.map _) hp)

end Monitor

end RateCounter
