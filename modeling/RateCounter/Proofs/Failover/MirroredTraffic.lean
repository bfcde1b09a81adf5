/-
  RateCounter.Proofs.Failover.MirroredTraffic — the same traffic on groups that do the same.

  A group whose backends mirror those of another one goes through any traffic as the other
  does (`run_mirrored`): its calls come to stand at the same places, and the same is noted of
  them.
-/

import RateCounter.Proofs.Failover.Mirrored
import RateCounter.Proofs.Failover.Traffic

namespace RateCounter

open Service (seen Bounded)
open Monitor (Watch Watched Checks holds)

/-! ## Notes -/

namespace Monitor

variable {A B : Backend} {state : A.State → B.State} {checkFlight : A.probe.Flight → B.probe.Flight} {caller : Nat}
  {clock : Clock}

theorem verdict?_seen {σ τ φ ψ : Type} (timeout : Nat) (state : σ → τ) (flight : φ → ψ)
    (p : σ × Turn φ (Option Bool)) : verdict? timeout (seen state flight p).2 = verdict? timeout p.2 := by
  obtain ⟨s, answer | f⟩ := p <;> rfl

theorem startIncidents_mirrored (h : A.probe.Mirrors B.probe state checkFlight) (m : Monitor) (w : Watched A) :
    startIncidents m clock (Prod.map id state w) = startIncidents m clock w := by
  have hstart := congrArg (fun p => verdict? m.timeout p.2) ((h.within m.timeout).start clock () w.2)
  have hverdict := hstart.trans (verdict?_seen ..)
  unfold startIncidents
  dsimp only [Prod.map_fst, Prod.map_snd, id_eq]
  split
  · exact congrArg (fun v => (v.map Incident.checked).toList ++ [.begun]) hverdict
  · rfl

theorem pollIncidents_mirrored (h : A.probe.Mirrors B.probe state checkFlight) (m : Monitor)
    (f : Bounded A.probe.Flight) (w : Watched A) :
    pollIncidents m clock (f.map checkFlight) (Prod.map id state w) = pollIncidents m clock f w := by
  have hpoll := congrArg (fun p => verdict? m.timeout p.2) ((h.within m.timeout).poll clock f w.2)
  exact congrArg (fun v => (v.map Incident.checked).toList) (hpoll.trans (verdict?_seen ..))

theorem checkNotes_map (state : A.State → B.State) (w : Watch A) {incidents : Nat → Watched A → List Incident}
    {incidents' : Nat → Watched B → List Incident}
    (hsame : ∀ i p, incidents' i (Prod.map id state p) = incidents i p) :
    checkNotes caller clock (w.map state) incidents' = checkNotes caller clock w incidents := by
  have hat : ∀ i, incidentsAt (w.map state) incidents' i = incidentsAt w incidents i := by
    intro i
    unfold incidentsAt
    rw [Watch.pairs_map, List.getElem?_map]
    cases w.pairs[i]? with
    | none => rfl
    | some p => exact hsame i p
  unfold checkNotes
  simp only [hat, Watch.pairs_map, List.length_map]

theorem startNotes_mirrored (h : A.probe.Mirrors B.probe state checkFlight) (w : Watch A) :
    startNotes caller clock (w.map state) = startNotes caller clock w :=
  checkNotes_map state w fun _ => startIncidents_mirrored h w.monitor

theorem join_mapChecks (checkFlight : A.probe.Flight → B.probe.Flight) (checks : Checks A) (i : Nat) :
    (Failover.mapChecks checkFlight checks)[i]?.join = checks[i]?.join.map (Bounded.map checkFlight) := by
  unfold Failover.mapChecks
  rw [List.getElem?_map]
  rcases checks[i]? with _ | _ | f <;> rfl

theorem holds_mapChecks (checkFlight : A.probe.Flight → B.probe.Flight) (checks : Checks A) (i : Nat) :
    holds (Failover.mapChecks checkFlight checks) i = holds checks i := by
  unfold holds
  rw [join_mapChecks, Option.isSome_map]

theorem resumeNotes_mirrored (h : A.probe.Mirrors B.probe state checkFlight) (checks : Checks A) (w : Watch A) :
    resumeNotes caller clock (Failover.mapChecks checkFlight checks) (w.map state) =
      resumeNotes caller clock checks w := by
  refine checkNotes_map state w fun i p => ?_
  rw [join_mapChecks]
  cases checks[i]?.join with
  | none => rfl
  | some f => exact pollIncidents_mirrored h w.monitor f p

theorem abandonNotes_mirrored (checkFlight : A.probe.Flight → B.probe.Flight) (checks : Checks A) (w : Watch A) :
    abandonNotes caller clock (Failover.mapChecks checkFlight checks) (w.map state) =
      abandonNotes caller clock checks w := by
  refine checkNotes_map state w fun i p => ?_
  rw [join_mapChecks]
  cases checks[i]?.join <;> rfl

end Monitor

namespace Failover

variable {A B : Backend} {state : A.State → B.State} {flight : A.operate.Flight → B.operate.Flight}
  {checkFlight : A.probe.Flight → B.probe.Flight} {caller : Nat} {clock : Clock} {op : Operation}

theorem attemptsAfter_mirrored {timeout : Nat} {rest : List Nat}
    (hrest : ∀ bs : List A.State, attempts timeout clock op rest (bs.map state) = attempts timeout clock op rest bs)
    (i : Nat) (bs : List A.State) (p : A.State × Turn (Bounded A.operate.Flight) (Option Outcome)) :
    attemptsAfter timeout clock op i rest (bs.map state) (seen state (Bounded.map flight) p) =
      attemptsAfter timeout clock op i rest bs p := by
  obtain ⟨b, answer | attempt⟩ := p
  · simp only [seen, Turn.map, id_eq, attemptsAfter]
    cases outcomeOf op timeout answer with
    | ok value => rfl
    | error e =>
      rw [← List.map_set, hrest]
  · rfl

theorem attempts_mirrored (h : A.operate.Mirrors B.operate state flight) (timeout : Nat) (cs : List Nat)
    (bs : List A.State) : attempts timeout clock op cs (bs.map state) = attempts timeout clock op cs bs := by
  induction cs generalizing bs with
  | nil => rfl
  | cons i cs ih =>
    have hmap : (bs.map state)[i]? = bs[i]?.map state := List.getElem?_map ..
    cases hb : bs[i]? with
    | none =>
      rw [hb] at hmap
      simp only [attempts, hb, hmap, Option.map_none]
      exact ih bs
    | some b =>
      rw [hb] at hmap
      rw [attempts_cons timeout clock op cs hb, attempts_cons timeout clock op cs hmap, (h.within timeout).start]
      exact attemptsAfter_mirrored ih i bs _

theorem triesAfter_mirrored (h : A.operate.Mirrors B.operate state flight) (p : Failover A × Turn (Checks A) Unit) :
    triesAfter clock op (seen (mapStates state) (mapChecks checkFlight) p) = triesAfter clock op p := by
  obtain ⟨g, u | checks⟩ := p
  · exact attempts_mirrored h g.timeout _ g.backends
  · rfl

section

variable (h : A.operate.Mirrors B.operate state flight) (hprobe : A.probe.Mirrors B.probe state checkFlight)

include h hprobe

theorem startNotes_mirrored (op : Operation) (g : Failover A) :
    startNotes caller clock op (g.mapStates state) = startNotes caller clock op g := by
  unfold startNotes startTries
  cases refusal? op with
  | some e => rfl
  | none =>
    have htries := congrArg (triesAfter clock op) ((mirrors_refresh hprobe).start clock () g)
    exact congrArg₂ (fun tries notes => tryNotes caller clock op tries ++ notes)
      (htries.trans (triesAfter_mirrored h _)) (Monitor.startNotes_mirrored hprobe g.watch)

theorem resumeTries_mirrored (x : Execution A) (g : Failover A) :
    resumeTries clock (x.map flight checkFlight) (g.mapStates state) = resumeTries clock x g := by
  cases x with
  | checking op checks =>
    have htries := congrArg (triesAfter clock op) ((mirrors_refresh hprobe).resume clock checks g)
    exact htries.trans (triesAfter_mirrored h _)
  | attempting op i attempt rest fs =>
    have hmap := getElem?_mapStates state g i
    simp only [resumeTries, Execution.map, hmap]
    cases g.backends[i]? with
    | none => exact attempts_mirrored h g.timeout rest g.backends
    | some b =>
      have hresume := (h.within g.timeout).resume clock attempt b
      exact (congrArg (attemptsAfter g.timeout clock op i rest (g.backends.map state)) hresume).trans
        (attemptsAfter_mirrored (attempts_mirrored h g.timeout rest) i g.backends _)

theorem resumeNotes_mirrored (x : Execution A) (g : Failover A) :
    resumeNotes caller clock (x.map flight checkFlight) (g.mapStates state) = resumeNotes caller clock x g := by
  have hoperation : (x.map flight checkFlight).operation = x.operation := by cases x <;> rfl
  unfold resumeNotes
  rw [resumeTries_mirrored h hprobe, hoperation]
  cases x with
  | checking op checks => exact congrArg (_ ++ ·) (Monitor.resumeNotes_mirrored hprobe checks g.watch)
  | attempting op i attempt rest fs => rfl

end

theorem abandonNotes_mirrored (flight : A.operate.Flight → B.operate.Flight)
    (checkFlight : A.probe.Flight → B.probe.Flight) (x : Execution A) (g : Failover A) :
    abandonNotes caller clock (x.map flight checkFlight) (g.mapStates state) = abandonNotes caller clock x g := by
  cases x with
  | checking op checks => exact Monitor.abandonNotes_mirrored checkFlight checks g.watch
  | attempting op i attempt rest fs => rfl

end Failover

/-! ## Traffic -/

variable {A B : Backend} {state : A.State → B.State} {flight : A.operate.Flight → B.operate.Flight}
  {checkFlight : A.probe.Flight → B.probe.Flight}

def Caller.map (flight : A.operate.Flight → B.operate.Flight) (checkFlight : A.probe.Flight → B.probe.Flight) :
    Caller A → Caller B
  | .operating x => .operating (x.map flight checkFlight)
  | .refreshing checks => .refreshing (Failover.mapChecks checkFlight checks)
  | .returned op result => .returned op result
  | .refreshed => .refreshed
  | .dropped => .dropped

theorem Caller.holds_map (c : Caller A) (i : Nat) : holds (c.map flight checkFlight).checks i = holds c.checks i := by
  cases c with
  | operating x =>
    cases x with
    | checking op checks => exact Monitor.holds_mapChecks checkFlight checks i
    | attempting op i attempt rest fs => rfl
  | refreshing checks => exact Monitor.holds_mapChecks checkFlight checks i
  | returned op result => rfl
  | refreshed => rfl
  | dropped => rfl

/-- The same move, on backends and on those that they mirror. -/
inductive Move.Mirrors (state : A.State → B.State) : Move A → Move B → Prop
  | operate (op : Operation) : Mirrors state (.operate op) (.operate op)
  | refresh : Mirrors state .refresh .refresh
  | turn (k : Nat) : Mirrors state (.turn k) (.turn k)
  | drop (k : Nat) : Mirrors state (.drop k) (.drop k)
  | report (i : Nat) (result : Except BackendError Unit) : Mirrors state (.report i result) (.report i result)
  | outside {change : Nat → A.State → A.State} {change' : Nat → B.State → B.State} :
      (∀ i b, change' i (state b) = state (change i b)) → Mirrors state (.outside change) (.outside change')
  | pass (elapsed : Nat) (wall : Instant) : Mirrors state (.pass elapsed wall) (.pass elapsed wall)

namespace Traffic

def map (state : A.State → B.State) (flight : A.operate.Flight → B.operate.Flight)
    (checkFlight : A.probe.Flight → B.probe.Flight) (t : Traffic A) : Traffic B where
  group := t.group.mapStates state
  clock := t.clock
  callers := t.callers.map (Caller.map flight checkFlight)
  log := t.log

theorem checking_map (t : Traffic A) (i : Nat) : (t.map state flight checkFlight).checking i = t.checking i := by
  unfold checking map
  rw [List.countP_map]
  exact congrArg (fun p => t.callers.countP p) (funext fun c => c.holds_map i)

theorem moved_map (t : Traffic A) (k : Nat) (notes : List Note) (g : Failover A) (c : Caller A) :
    (t.moved k notes g c).map state flight checkFlight =
      (t.map state flight checkFlight).moved k notes (g.mapStates state) (c.map flight checkFlight) := by
  simp only [moved, map, place, List.map_append, List.map_cons, List.map_take, List.map_drop]

/-- An operation has a turn that looks the same. -/
theorem moved_operation (t : Traffic A) {k : Nat} {notes notes' : List Note} {op : Operation}
    {p : Failover A × Turn (Failover.Execution A) Failover.Result}
    {p' : Failover B × Turn (Failover.Execution B) Failover.Result} (hnotes : notes' = notes)
    (hp : p' = seen (Failover.mapStates state) (Failover.Execution.map flight checkFlight) p) :
    (t.map state flight checkFlight).moved k notes' p'.1 (.ofOperation op p'.2) =
      (t.moved k notes p.1 (.ofOperation op p.2)).map state flight checkFlight := by
  subst hnotes hp
  rw [moved_map]
  obtain ⟨g, result | x⟩ := p <;> rfl

theorem moved_refresh (t : Traffic A) {k : Nat} {notes notes' : List Note} {p : Failover A × Turn (Checks A) Unit}
    {p' : Failover B × Turn (Checks B) Unit} (hnotes : notes' = notes)
    (hp : p' = seen (Failover.mapStates state) (Failover.mapChecks checkFlight) p) :
    (t.map state flight checkFlight).moved k notes' p'.1 (.ofRefresh p'.2) =
      (t.moved k notes p.1 (.ofRefresh p.2)).map state flight checkFlight := by
  subst hnotes hp
  rw [moved_map]
  obtain ⟨g, u | checks⟩ := p <;> rfl

section

variable (h : A.operate.Mirrors B.operate state flight) (hprobe : A.probe.Mirrors B.probe state checkFlight)

include h hprobe

theorem resumed_mirrored (t : Traffic A) (k : Nat) (c : Caller A) :
    (t.map state flight checkFlight).resumed k (c.map flight checkFlight) =
      (t.resumed k c).map state flight checkFlight := by
  cases c with
  | operating x =>
    have hoperation : (x.map flight checkFlight).operation = x.operation := by cases x <;> rfl
    have hnotes : Failover.resumeNotes k t.clock (x.map flight checkFlight) (t.group.mapStates state) =
        Failover.resumeNotes k t.clock x t.group := Failover.resumeNotes_mirrored h hprobe x t.group
    have hmoved : _ = (t.resumed k (.operating x)).map state flight checkFlight :=
      moved_operation t hnotes ((Failover.mirrors_operate h hprobe).resume t.clock x t.group)
    refine Eq.trans ?_ hmoved
    rw [← hoperation]
    rfl
  | refreshing checks =>
    exact moved_refresh t (Monitor.resumeNotes_mirrored hprobe checks t.group.watch)
      ((Failover.mirrors_refresh hprobe).resume t.clock checks t.group)
  | returned op result => rfl
  | refreshed => rfl
  | dropped => rfl

theorem abandoned_mirrored (t : Traffic A) (k : Nat) (c : Caller A) :
    (t.map state flight checkFlight).abandoned k (c.map flight checkFlight) =
      (t.abandoned k c).map state flight checkFlight := by
  cases c with
  | operating x =>
    refine (congrArg₂ (fun notes g => (t.map state flight checkFlight).moved k notes g .dropped)
      (Failover.abandonNotes_mirrored flight checkFlight x t.group)
      ((Failover.mirrors_operate h hprobe).abandon x t.group)).trans ?_
    exact (moved_map t k _ _ .dropped).symm
  | refreshing checks =>
    refine (congrArg₂ (fun notes g => (t.map state flight checkFlight).moved k notes g .dropped)
      (Monitor.abandonNotes_mirrored checkFlight checks t.group.watch)
      ((Failover.mirrors_refresh hprobe).abandon checks t.group)).trans ?_
    exact (moved_map t k _ _ .dropped).symm
  | returned op result => rfl
  | refreshed => rfl
  | dropped => rfl

theorem after_mirrored (t : Traffic A) {move : Move A} {move' : Move B} (hmove : move.Mirrors state move') :
    (t.map state flight checkFlight).after move' = (t.after move).map state flight checkFlight := by
  have hlength : (t.map state flight checkFlight).callers.length = t.callers.length := List.length_map ..
  have hcaller : ∀ k : Nat, (t.map state flight checkFlight).callers[k]? =
      t.callers[k]?.map (Caller.map flight checkFlight) := fun k => List.getElem?_map ..
  cases hmove with
  | operate op =>
    unfold after
    rw [hlength]
    exact moved_operation t (Failover.startNotes_mirrored h hprobe op t.group)
      ((Failover.mirrors_operate h hprobe).start t.clock op t.group)
  | refresh =>
    unfold after
    rw [hlength]
    exact moved_refresh t (Monitor.startNotes_mirrored hprobe t.group.watch)
      ((Failover.mirrors_refresh hprobe).start t.clock () t.group)
  | turn k =>
    simp only [after, hcaller]
    cases t.callers[k]? with
    | none => rfl
    | some c => exact t.resumed_mirrored h hprobe k c
  | drop k =>
    simp only [after, hcaller]
    cases t.callers[k]? with
    | none => rfl
    | some c => exact t.abandoned_mirrored h hprobe k c
  | report i result => cases result <;> rfl
  | @outside change change' hchange =>
    have hbackends : (t.group.backends.map state).mapIdx change' = (t.group.backends.mapIdx change).map state := by
      apply List.ext_getElem?
      intro i
      simp only [List.getElem?_mapIdx, List.getElem?_map]
      cases t.group.backends[i]? with
      | none => rfl
      | some b => exact congrArg some (hchange i b)
    exact congrArg (fun bs => { t.map state flight checkFlight with
      group := { (t.map state flight checkFlight).group with backends := bs } }) hbackends
  | pass elapsed wall => rfl

theorem run_mirrored (t : Traffic A) {moves : List (Move A)} {moves' : List (Move B)}
    (hmoves : List.Forall₂ (Move.Mirrors state) moves moves') :
    (t.map state flight checkFlight).run moves' = (t.run moves).map state flight checkFlight := by
  induction hmoves generalizing t with
  | nil => rfl
  | cons hmove _ ih =>
    have hafter := t.after_mirrored h hprobe hmove
    exact (congrArg (fun t' => run t' _) hafter).trans (ih (t.after _))

end

end Traffic

end RateCounter
