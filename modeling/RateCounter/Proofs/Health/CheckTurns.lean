/-
  RateCounter.Proofs.Health.CheckTurns — what one turn of the checks of a refresh does.

  A turn of the checks does at every position what the check there does, and nothing
  elsewhere. It is noted what happened at the backends: which checks began, how those ended
  that are over, and which were given up (`startNotes`, `resumeNotes`, `abandonNotes`). Of a
  health record it is only asked whether a check was due.

  `Turned` says all that a turn does to the health records:
  - `told`: the monitor is as it was, told of the notes;
  - `claims`: a record is claimed anew for every check that the call holds anew, and released
    for every one that it holds no more;
  - `begun`: a check begins, once, where it is due, and before anything else happens there;
  - `waits`: where a check is in flight after the turn, nothing else has happened.

  It holds of every turn of checks that are claimed: `startChecks_turned`,
  `resumeChecks_turned`, `abandonChecks_turned`.
-/

import RateCounter.Proofs.Failover.Checks
import RateCounter.Proofs.Health.History

namespace RateCounter

/-! ## One call per state, position by position -/

namespace Service

variable {σ α ρ : Type} (S : Service σ α ρ)

theorem getElem?_startEach (clock : Clock) (a : α) (ss : List σ) (i : Nat) :
    (S.startEach clock a ss).1[i]? = ss[i]?.map fun s => (S.start clock a s).1 := by
  induction ss generalizing i with
  | nil => rfl
  | cons s ss ih =>
    cases i with
    | zero => rfl
    | succ i => exact ih i

theorem flight_startEach (clock : Clock) (a : α) (ss : List σ) (i : Nat) :
    (S.startEach clock a ss).2[i]?.join = ss[i]?.bind fun s => (S.start clock a s).2.flight? := by
  induction ss generalizing i with
  | nil => rfl
  | cons s ss ih =>
    cases i with
    | zero => rfl
    | succ i => exact ih i

theorem getElem?_pollEach (clock : Clock) {fs : List (Option S.Flight)} (ss : List σ) {i : Nat} {o : Option S.Flight}
    (ho : fs[i]?.join = o) : (S.pollEach clock fs ss).1[i]? =
      ss[i]?.map fun s => o.elim s fun f => (S.poll clock f s).1 := by
  subst ho
  induction fs generalizing ss i with
  | nil => exact Option.map_id'.symm
  | cons o fs ih =>
    cases ss with
    | nil => cases o <;> rfl
    | cons s ss =>
      cases i with
      | zero => cases o <;> rfl
      | succ i => cases o <;> exact ih ss

theorem flight_pollEach (clock : Clock) (fs : List (Option S.Flight)) (ss : List σ) (i : Nat) :
    (S.pollEach clock fs ss).2[i]?.join =
      ss[i]?.bind fun s => fs[i]?.join.bind fun f => (S.poll clock f s).2.flight? := by
  induction fs generalizing ss i with
  | nil => cases ss[i]? <;> rfl
  | cons o fs ih =>
    cases ss with
    | nil => cases o <;> rfl
    | cons s ss =>
      cases i with
      | zero => cases o <;> rfl
      | succ i => cases o <;> exact ih ss i

theorem flight_pollEach_none (clock : Clock) {fs : List (Option S.Flight)} (ss : List σ) {i : Nat}
    (hf : fs[i]?.join = none) : (S.pollEach clock fs ss).2[i]?.join = none := by
  rw [flight_pollEach, hf]
  cases ss[i]? <;> rfl

theorem getElem?_abandonEach {fs : List (Option S.Flight)} (ss : List σ) {i : Nat} {o : Option S.Flight}
    (ho : fs[i]?.join = o) : (S.abandonEach fs ss)[i]? =
      ss[i]?.map fun s => o.elim s fun f => S.abandon f s := by
  subst ho
  induction fs generalizing ss i with
  | nil => exact Option.map_id'.symm
  | cons o fs ih =>
    cases ss with
    | nil => cases o <;> rfl
    | cons s ss =>
      cases i with
      | zero => cases o <;> rfl
      | succ i => cases o <;> exact ih ss

/-- Calls that are all over are none. -/
theorem flight_joined {φ : Type} (fs : List (Option φ)) (i : Nat) :
    ((joined fs).flight?.getD [])[i]?.join = fs[i]?.join := by
  unfold joined
  by_cases hall : fs.all Option.isNone = true
  · rw [if_pos hall]
    cases hi : fs[i]? with
    | none => rfl
    | some o =>
      have ho := List.all_eq_true.mp hall o (List.mem_of_getElem? hi)
      rw [Option.isNone_iff_eq_none.mp ho]
      rfl
  · rw [if_neg hall]
    rfl

end Service

/-! ## Checks -/

namespace Monitor

variable {B : Backend} {m : Monitor} {caller i : Nat} {clock : Clock}

/-- How a check ended, if it is over. -/
def verdict? {φ : Type} (timeout : Nat) : Turn φ (Option Bool) → Option Verdict
  | .done answer => some (verdict timeout answer)
  | .waiting _ => none

/-- What happens when a check is asked for, the latest first. -/
def startIncidents (m : Monitor) (clock : Clock) (w : Watched B) : List Incident :=
  if w.1.isStale m.interval clock.mono && !w.1.claimed then
    ((verdict? m.timeout ((B.probe.within m.timeout).start clock () w.2).2).map Incident.checked).toList ++ [.begun]
  else []

/-- What happens when a check in flight has a turn. -/
def pollIncidents (m : Monitor) (clock : Clock) (f : Service.Bounded B.probe.Flight) (w : Watched B) : List Incident :=
  ((verdict? m.timeout ((B.probe.within m.timeout).poll clock f w.2).2).map Incident.checked).toList

/-- Notes of what happens at one position in a turn. -/
def stamp (caller : Nat) (clock : Clock) (i : Nat) (incidents : List Incident) : List Note :=
  incidents.map fun what => ⟨some caller, i, clock, what⟩

theorem map_what_stamp (caller : Nat) (clock : Clock) (i : Nat) (incidents : List Incident) :
    (stamp caller clock i incidents).map Note.what = incidents := by
  unfold stamp
  rw [List.map_map]
  exact List.map_id' incidents

/-- What one turn of a check does to its record. `held` and `held'` say whether the check is
    in flight before the turn and after it. -/
structure Touched (m : Monitor) (caller : Nat) (clock : Clock) (i : Nat) (incidents : List Incident)
    (held held' : Bool) (h h' : Health) : Prop where
  told : h' = (stamp caller clock i incidents).foldr (.told m.threshold) h
  claims : h'.claimed.toNat + held.toNat = h.claimed.toNat + held'.toNat
  begun : ∀ earlier, .begun :: earlier <:+ incidents →
    earlier = [] ∧ h.isStale m.interval clock.mono = true ∧ h.claimed = false
  waits : held' = true → ∀ what ∈ incidents, what = .begun

theorem Touched.idle (h : Health) : Touched m caller clock i [] false false h h where
  told := rfl
  claims := rfl
  begun _ hs := nomatch List.suffix_nil.mp hs
  waits _ _ hwhat := nomatch hwhat

theorem start_touched (w : Watched B) : Touched m caller clock i (startIncidents m clock w) false
    ((check B m).start clock () w).2.flight?.isSome w.1 ((check B m).start clock () w).1.1 := by
  unfold startIncidents check
  by_cases hdue : (w.1.isStale m.interval clock.mono && !w.1.claimed) = true
  · obtain ⟨hstale, hfree⟩ : w.1.isStale m.interval clock.mono = true ∧ w.1.claimed = false := by simpa using hdue
    simp only [hdue, if_true]
    generalize (B.probe.within m.timeout).start clock () w.2 = p
    obtain ⟨b, answer | f⟩ := p
    · -- A check that is over at once: its claim is gone with it.
      refine ⟨?_, ?_, fun earlier hs => ?_, nofun⟩
      · have htold := Health.complete_eq_told { w.1 with claimed := true } m.threshold clock (verdict m.timeout answer)
          (some caller) i
        have hclaim : w.1.complete m.threshold clock (verdict m.timeout answer) =
            { w.1 with claimed := true }.complete m.threshold clock (verdict m.timeout answer) := by
          cases verdict m.timeout answer <;> rfl
        exact hclaim.trans htold
      · show (w.1.complete m.threshold clock (verdict m.timeout answer)).claimed.toNat + 0 = w.1.claimed.toNat + 0
        rw [hfree]
        cases verdict m.timeout answer <;> rfl
      · have hlast : earlier = [] := by simpa [List.suffix_cons_iff, verdict?] using hs
        exact ⟨hlast, hstale, hfree⟩
    · refine ⟨rfl, ?_, fun earlier hs => ?_, fun _ what hwhat => List.mem_singleton.mp hwhat⟩
      · show 1 + 0 = w.1.claimed.toNat + 1
        rw [hfree]
        rfl
      · have hlast : earlier = [] := by simpa [List.suffix_cons_iff, verdict?] using hs
        exact ⟨hlast, hstale, hfree⟩
  · simp only [hdue, Bool.false_eq_true, if_false]
    exact .idle w.1

theorem begun_mem_startIncidents {w : Watched B} : .begun ∈ startIncidents m clock w ↔
    w.1.isStale m.interval clock.mono = true ∧ w.1.claimed = false := by
  unfold startIncidents
  by_cases hdue : (w.1.isStale m.interval clock.mono && !w.1.claimed) = true
  · rw [if_pos hdue]
    simpa using hdue
  · rw [if_neg hdue]
    simpa using hdue

theorem poll_touched (f : Service.Bounded B.probe.Flight) {w : Watched B} (hclaimed : w.1.claimed = true) :
    Touched m caller clock i (pollIncidents m clock f w) true ((check B m).poll clock f w).2.flight?.isSome w.1
      ((check B m).poll clock f w).1.1 := by
  have hpoll : (check B m).poll clock f w = m.observe clock w.1 ((B.probe.within m.timeout).poll clock f w.2) := by
    unfold Service.poll
    by_cases hdue : isDue ((B.probe.within m.timeout).wake f) clock.mono = true
    · rw [if_pos hdue]
      exact if_pos hdue
    · rw [if_neg hdue]
      refine (if_neg hdue).trans ?_
      show (w, _) = (({ w.1 with claimed := true }, w.2), _)
      rw [← hclaimed]
      rfl
  rw [hpoll]
  unfold pollIncidents
  generalize (B.probe.within m.timeout).poll clock f w.2 = p
  obtain ⟨b, answer | f⟩ := p
  · refine ⟨Health.complete_eq_told w.1 m.threshold clock (verdict m.timeout answer) (some caller) i, ?_,
      fun earlier hs => ?_, nofun⟩
    · show (w.1.complete m.threshold clock (verdict m.timeout answer)).claimed.toNat + 1 = w.1.claimed.toNat + 0
      rw [hclaimed]
      cases verdict m.timeout answer <;> rfl
    · simp [List.suffix_cons_iff, verdict?] at hs
  · refine ⟨?_, ?_, fun earlier hs => ?_, fun _ _ hwhat => nomatch hwhat⟩
    · show { w.1 with claimed := true } = w.1
      rw [← hclaimed]
    · show 1 + 1 = w.1.claimed.toNat + 1
      rw [hclaimed]
      rfl
    · simp [verdict?] at hs

theorem abandon_touched (f : Service.Bounded B.probe.Flight) {w : Watched B} (hclaimed : w.1.claimed = true) :
    Touched m caller clock i [.cut] true false w.1 ((check B m).abandon f w).1 where
  told := rfl
  claims := by
    rw [hclaimed]
    rfl
  begun earlier hs := by simp [List.suffix_cons_iff] at hs
  waits := nofun

/-! ## A turn of the checks of a refresh -/

/-- Whether one of the checks is in flight at a position. -/
def holds {φ : Type} (checks : List (Option φ)) (i : Nat) : Bool := checks[i]?.join.isSome

/-- Whether the record at a position is claimed, as a number. -/
def claims (m : Monitor) (i : Nat) : Nat := (m.records[i]?.map fun h => h.claimed.toNat).getD 0

/-- A check of the backend may begin. -/
def IsDue (m : Monitor) (clock : Clock) (i : Nat) : Prop :=
  ∃ h, m.records[i]? = some h ∧ h.isStale m.interval clock.mono = true ∧ h.claimed = false

/-- What happens in a turn at a position, if it is watched. -/
def incidentsAt (w : Watch B) (incidents : Nat → Watched B → List Incident) (i : Nat) : List Incident :=
  (w.pairs[i]?.map (incidents i)).getD []

theorem incidentsAt_some {w : Watch B} {i : Nat} {p : Watched B} (hp : w.pairs[i]? = some p)
    (incidents : Nat → Watched B → List Incident) : incidentsAt w incidents i = incidents i p := by
  unfold incidentsAt
  rw [hp]
  rfl

theorem incidentsAt_none {w : Watch B} {i : Nat} (hp : w.pairs[i]? = none)
    (incidents : Nat → Watched B → List Incident) : incidentsAt w incidents i = [] := by
  unfold incidentsAt
  rw [hp]
  rfl

/-- Notes of what happens in a turn at all positions. -/
def checkNotes (caller : Nat) (clock : Clock) (w : Watch B) (incidents : Nat → Watched B → List Incident) : List Note :=
  (List.range w.pairs.length).flatMap fun i => stamp caller clock i (incidentsAt w incidents i)

theorem about_stamp (caller : Nat) (clock : Clock) (i j : Nat) (incidents : List Incident) :
    Note.about j (stamp caller clock i incidents) = if i = j then stamp caller clock i incidents else [] := by
  have hposition : ∀ n ∈ stamp caller clock i incidents, n.position = i := fun n hn => by
    obtain ⟨what, -, rfl⟩ := List.mem_map.mp hn
    rfl
  by_cases hij : i = j
  · rw [if_pos hij, Note.about_of_all fun n hn => (hposition n hn).trans hij]
  · rw [if_neg hij, Note.about_of_none fun n hn => hposition n hn ▸ hij]

theorem about_range (caller : Nat) (clock : Clock) (incidents : Nat → List Incident) (i size : Nat) :
    Note.about i ((List.range size).flatMap fun j => stamp caller clock j (incidents j)) =
      if i < size then stamp caller clock i (incidents i) else [] := by
  induction size with
  | zero => rfl
  | succ size ih =>
    rw [List.range_succ, List.flatMap_append, Note.about_append, ih, List.flatMap_singleton, about_stamp]
    rcases Nat.lt_trichotomy i size with hi | rfl | hi
    · simp [hi, Nat.lt_succ_of_lt hi, Nat.ne_of_gt hi]
    · simp
    · simp [Nat.not_lt.mpr (Nat.le_of_lt hi), Nat.not_lt.mpr hi, Nat.ne_of_lt hi]

theorem about_checkNotes (caller : Nat) (clock : Clock) (w : Watch B) (incidents : Nat → Watched B → List Incident)
    (i : Nat) : Note.about i (checkNotes caller clock w incidents) =
      stamp caller clock i (incidentsAt w incidents i) := by
  unfold checkNotes
  rw [about_range]
  by_cases hi : i < w.pairs.length
  · rw [if_pos hi]
  · rw [if_neg hi, incidentsAt_none (List.getElem?_eq_none (Nat.not_lt.mp hi))]
    rfl

theorem mem_checkNotes {w : Watch B} {incidents : Nat → Watched B → List Incident} {n : Note}
    (hn : n ∈ checkNotes caller clock w incidents) :
    ∃ i p, w.pairs[i]? = some p ∧ ∃ what ∈ incidents i p, n = ⟨some caller, i, clock, what⟩ := by
  obtain ⟨i, -, hn⟩ := List.mem_flatMap.mp hn
  obtain ⟨what, hwhat, rfl⟩ := List.mem_map.mp hn
  cases hp : w.pairs[i]? with
  | none =>
    rw [incidentsAt_none hp] at hwhat
    exact nomatch hwhat
  | some p =>
    rw [incidentsAt_some hp] at hwhat
    exact ⟨i, p, hp, what, hwhat, rfl⟩

/-- What one turn of a call does to the health records. `held` and `held'` are the checks it
    has in flight before the turn and after it. -/
structure Turned (caller : Nat) (clock : Clock) (notes : List Note) (held held' : Checks B) (w w' : Watch B) :
    Prop where
  told : w'.monitor = w.monitor.told notes
  backends : w'.backends.length = w.backends.length
  claims : ∀ i, w'.monitor.claims i + (holds held i).toNat = w.monitor.claims i + (holds held' i).toNat
  stamped : ∀ n ∈ notes, n.caller = some caller ∧ n.position < w.backends.length ∧ n.clock = clock
  begun : ∀ i n earlier, n :: earlier <:+ Note.about i notes → n.what = .begun →
    earlier = [] ∧ w.monitor.IsDue clock i
  waits : ∀ i, holds held' i = true → ∀ n ∈ Note.about i notes, n.what = .begun

theorem Turned.idle (w : Watch B) (held : Checks B) : Turned caller clock [] held held w w where
  told := rfl
  backends := rfl
  claims _ := rfl
  stamped _ hn := nomatch hn
  begun _ _ _ hs := nomatch List.suffix_nil.mp hs
  waits _ _ _ hn := nomatch hn

theorem records_setPairs (w : Watch B) (ps : List (Watched B)) (i : Nat) :
    (w.setPairs ps).monitor.records[i]? = (ps[i]?.map (·.1)).or w.monitor.records[i]? := by
  show (ps.map (·.1) ++ w.monitor.records.drop ps.length)[i]? = _
  by_cases hi : i < ps.length
  · rw [List.getElem?_append_left (by simpa using hi), List.getElem?_map, List.getElem?_eq_getElem hi]
    rfl
  · rw [List.getElem?_append_right (by simpa using hi), List.getElem?_drop, List.length_map,
      Nat.add_sub_cancel' (Nat.not_lt.mp hi), List.getElem?_eq_none (Nat.not_lt.mp hi)]
    rfl

theorem setPairs_turned {w : Watch B} {ps : List (Watched B)} {incidents : Nat → Watched B → List Incident}
    {held held' : Checks B} (hlen : ps.length = w.pairs.length)
    (hin : ∀ i p, w.pairs[i]? = some p → ∃ p', ps[i]? = some p' ∧
      Touched w.monitor caller clock i (incidents i p) (holds held i) (holds held' i) p.1 p'.1)
    (hout : ∀ i, w.pairs[i]? = none → holds held i = holds held' i) :
    Turned caller clock (checkNotes caller clock w incidents) held held' w (w.setPairs ps) := by
  have hpairs : ∀ i (p : Watched B), w.pairs[i]? = some p → w.monitor.records[i]? = some p.1 := fun i p hp =>
    (List.getElem?_zip_eq_some.mp hp).1
  have hnone : ∀ i, w.pairs[i]? = none → (w.setPairs ps).monitor.records[i]? = w.monitor.records[i]? := fun i hi => by
    rw [records_setPairs, List.getElem?_eq_none (hlen ▸ List.getElem?_eq_none_iff.mp hi)]
    rfl
  have hsome : ∀ (i : Nat) (p' : Watched B), ps[i]? = some p' → (w.setPairs ps).monitor.records[i]? = some p'.1 := by
    intro i p' hp'
    rw [records_setPairs, hp']
    rfl
  refine ⟨told_eq_of_records fun i => ?_, ?_, fun i => ?_, fun n hn => ?_, fun i n earlier hs hn => ?_,
    fun i hheld n hn => ?_⟩
  · rw [about_checkNotes]
    cases hp : w.pairs[i]? with
    | none =>
      rw [incidentsAt_none hp]
      exact (hnone i hp).trans Option.map_id'.symm
    | some p =>
      obtain ⟨p', hp', htouched⟩ := hin i p hp
      rw [incidentsAt_some hp, hpairs i p hp]
      exact (hsome i p' hp').trans (congrArg some htouched.told)
  · have hle : ps.length ≤ w.backends.length := by
      rw [hlen, Watch.length_pairs]
      exact Nat.min_le_right ..
    show (ps.map (·.2) ++ w.backends.drop ps.length).length = w.backends.length
    rw [List.length_append, List.length_map, List.length_drop]
    omega
  · unfold claims
    cases hp : w.pairs[i]? with
    | none => rw [hnone i hp, hout i hp]
    | some p =>
      obtain ⟨p', hp', htouched⟩ := hin i p hp
      rw [hpairs i p hp, hsome i p' hp']
      exact htouched.claims
  · obtain ⟨i, p, hp, what, -, rfl⟩ := mem_checkNotes hn
    have hi : i < w.pairs.length := (List.getElem?_eq_some_iff.mp hp).1
    rw [Watch.length_pairs] at hi
    exact ⟨rfl, Nat.lt_of_lt_of_le hi (Nat.min_le_right ..), rfl⟩
  · rw [about_checkNotes] at hs
    have hs := hs.map Note.what
    rw [map_what_stamp, List.map_cons, hn] at hs
    cases hp : w.pairs[i]? with
    | none =>
      rw [incidentsAt_none hp] at hs
      exact nomatch List.suffix_nil.mp hs
    | some p =>
      rw [incidentsAt_some hp] at hs
      obtain ⟨p', -, htouched⟩ := hin i p hp
      obtain ⟨hearlier, hstale, hfree⟩ := htouched.begun _ hs
      exact ⟨List.map_eq_nil_iff.mp hearlier, p.1, hpairs i p hp, hstale, hfree⟩
  · obtain ⟨hn, hposition⟩ := Note.mem_about.mp hn
    obtain ⟨j, p, hp, what, hwhat, rfl⟩ := mem_checkNotes hn
    subst hposition
    obtain ⟨p', -, htouched⟩ := hin j p hp
    exact htouched.waits hheld what hwhat

theorem claims_le (m : Monitor) (i : Nat) : m.claims i ≤ 1 := by
  unfold claims
  cases m.records[i]? with
  | none => exact Nat.zero_le _
  | some r => exact Bool.toNat_le r.claimed

theorem claims_told (m : Monitor) (i : Nat) {notes : List Note}
    (hnotes : ∀ n ∈ notes, ∀ before, Health.claimedAfter n before = before) :
    (m.told notes).claims i = m.claims i := by
  unfold claims
  rw [records_told]
  cases m.records[i]? with
  | none => rfl
  | some h => exact congrArg Bool.toNat (Health.claimed_foldr (fun n hn => hnotes n (Note.mem_about.mp hn).1) ..)

/-- What happens in a refresh's first turn. -/
def startNotes (caller : Nat) (clock : Clock) (w : Watch B) : List Note :=
  checkNotes caller clock w fun _ => startIncidents w.monitor clock

/-- What happens when the checks of a refresh have a turn. -/
def resumeNotes (caller : Nat) (clock : Clock) (checks : Checks B) (w : Watch B) : List Note :=
  checkNotes caller clock w fun i p => (checks[i]?.join.map fun f => pollIncidents w.monitor clock f p).getD []

def abandonNotes (caller : Nat) (clock : Clock) (checks : Checks B) (w : Watch B) : List Note :=
  checkNotes caller clock w fun i _ => (checks[i]?.join.map fun _ => [Incident.cut]).getD []

theorem mem_abandonNotes {checks : Checks B} {w : Watch B} {n : Note}
    (hn : n ∈ abandonNotes caller clock checks w) : n.what = .cut := by
  obtain ⟨j, p, -, what, hwhat, rfl⟩ := mem_checkNotes hn
  cases hf : checks[j]?.join with
  | none =>
    rw [hf] at hwhat
    exact nomatch hwhat
  | some f =>
    rw [hf] at hwhat
    exact List.mem_singleton.mp hwhat

theorem holds_joined {φ : Type} (fs : List (Option φ)) (i : Nat) :
    holds ((Service.joined fs).flight?.getD []) i = fs[i]?.join.isSome :=
  congrArg Option.isSome (Service.flight_joined fs i)

theorem startChecks_turned (caller : Nat) (clock : Clock) (w : Watch B) :
    Turned caller clock (startNotes caller clock w) [] ((startChecks clock w).2.flight?.getD []) w
      (startChecks clock w).1 := by
  have hafter : ∀ i, holds ((startChecks clock w).2.flight?.getD []) i =
      (w.pairs[i]?.bind fun p => ((check B w.monitor).start clock () p).2.flight?).isSome := fun i =>
    (holds_joined _ i).trans (congrArg Option.isSome (Service.flight_startEach (check B w.monitor) clock () w.pairs i))
  refine setPairs_turned (Service.length_startEach ..) (fun i p hp => ?_) (fun i hi => ?_)
  · refine ⟨((check B w.monitor).start clock () p).1, ?_, ?_⟩
    · exact (Service.getElem?_startEach (check B w.monitor) clock () w.pairs i).trans (congrArg (Option.map _) hp)
    · rw [hafter, hp]
      exact start_touched p
  · rw [hafter, hi]
    rfl

/-- A check begins at every backend where it may, and nowhere else. -/
theorem begun_mem_startNotes {w : Watch B} (hsize : w.monitor.records.length = w.backends.length) :
    ⟨some caller, i, clock, .begun⟩ ∈ startNotes caller clock w ↔ w.monitor.IsDue clock i := by
  constructor
  · intro hn
    obtain ⟨j, p, hp, what, hwhat, heq⟩ := mem_checkNotes hn
    obtain ⟨hposition, hbegun⟩ : i = j ∧ Incident.begun = what := ⟨congrArg Note.position heq, congrArg Note.what heq⟩
    subst hposition hbegun
    exact ⟨p.1, (List.getElem?_zip_eq_some.mp hp).1, begun_mem_startIncidents.mp hwhat⟩
  · rintro ⟨r, hr, hdue⟩
    have hi : i < w.backends.length := hsize ▸ (List.getElem?_eq_some_iff.mp hr).1
    have hp : w.pairs[i]? = some (r, w.backends[i]) :=
      List.getElem?_zip_eq_some.mpr ⟨hr, List.getElem?_eq_getElem hi⟩
    have hbegun : .begun ∈ startIncidents w.monitor clock (r, w.backends[i]) := begun_mem_startIncidents.mpr hdue
    have habout := about_checkNotes caller clock w (fun _ => startIncidents w.monitor clock) i
    rw [incidentsAt_some hp] at habout
    have hn : ⟨some caller, i, clock, .begun⟩ ∈ Note.about i (startNotes caller clock w) := by
      unfold startNotes
      rw [habout]
      exact List.mem_map_of_mem hbegun
    exact (Note.mem_about.mp hn).1

/-- A check that is in flight is claimed. -/
def Claimed (m : Monitor) (checks : Checks B) : Prop := ∀ i, holds checks i = true → m.claims i = 1

theorem Claimed.record {checks : Checks B} (h : m.Claimed checks) {r : Health} (hr : m.records[i]? = some r)
    (hi : holds checks i = true) : r.claimed = true := by
  have h₁ := h i hi
  unfold claims at h₁
  rw [hr] at h₁
  exact Bool.toNat_eq_one.mp h₁

/-- Where nothing is watched no check is in flight. -/
theorem Claimed.unwatched {w : Watch B} {checks : Checks B} (h : w.monitor.Claimed checks)
    (hsize : w.monitor.records.length = w.backends.length) (hi : w.pairs[i]? = none) : holds checks i = false := by
  rw [Bool.eq_false_iff]
  intro hheld
  have h₁ := h i hheld
  rw [List.getElem?_eq_none_iff, Watch.length_pairs, hsize, Nat.min_self, ← hsize] at hi
  unfold claims at h₁
  rw [List.getElem?_eq_none hi] at h₁
  exact absurd h₁ (by decide)

theorem resumeChecks_turned (caller : Nat) (clock : Clock) {w : Watch B} {checks : Checks B}
    (hclaimed : w.monitor.Claimed checks) (hsize : w.monitor.records.length = w.backends.length) :
    Turned caller clock (resumeNotes caller clock checks w) checks ((resumeChecks clock checks w).2.flight?.getD []) w
      (resumeChecks clock checks w).1 := by
  have hafter : ∀ i, holds ((resumeChecks clock checks w).2.flight?.getD []) i =
      (w.pairs[i]?.bind fun p => checks[i]?.join.bind fun f => ((check B w.monitor).poll clock f p).2.flight?).isSome :=
    fun i => (holds_joined _ i).trans (congrArg Option.isSome
      (Service.flight_pollEach (check B w.monitor) clock checks w.pairs i))
  refine setPairs_turned (Service.length_pollEach ..) (fun i p hp => ?_) (fun i hi => ?_)
  · have hrecord : w.monitor.records[i]? = some p.1 := (List.getElem?_zip_eq_some.mp hp).1
    cases hf : checks[i]?.join with
    | none =>
      refine ⟨p,
        (Service.getElem?_pollEach (check B w.monitor) clock w.pairs hf).trans (congrArg (Option.map _) hp), ?_⟩
      rw [hafter, hp, holds, hf]
      exact .idle p.1
    | some f =>
      have hheld : holds checks i = true := congrArg Option.isSome hf
      refine ⟨((check B w.monitor).poll clock f p).1,
        (Service.getElem?_pollEach (check B w.monitor) clock w.pairs hf).trans (congrArg (Option.map _) hp), ?_⟩
      rw [hafter, hp, hheld, hf]
      exact poll_touched f (hclaimed.record hrecord hheld)
  · rw [hafter, hi]
    exact hclaimed.unwatched hsize hi

/-- A check that is in flight after a turn was so before. -/
theorem resumeChecks_holds {w : Watch B} {checks : Checks B}
    (h : holds ((resumeChecks clock checks w).2.flight?.getD []) i = true) : holds checks i = true := by
  cases hf : checks[i]?.join with
  | some f => exact congrArg Option.isSome hf
  | none =>
    have hafter := congrArg Option.isSome (Service.flight_pollEach_none (check B w.monitor) clock w.pairs hf)
    exact absurd (((holds_joined _ i).trans hafter).symm.trans h) Bool.false_ne_true

theorem abandonChecks_turned (caller : Nat) (clock : Clock) {w : Watch B} {checks : Checks B}
    (hclaimed : w.monitor.Claimed checks) (hsize : w.monitor.records.length = w.backends.length) :
    Turned caller clock (abandonNotes caller clock checks w) checks [] w (abandonChecks checks w) := by
  refine setPairs_turned (Service.length_abandonEach ..) (fun i p hp => ?_) fun i hi => hclaimed.unwatched hsize hi
  have hrecord : w.monitor.records[i]? = some p.1 := (List.getElem?_zip_eq_some.mp hp).1
  cases hf : checks[i]?.join with
  | none =>
    refine ⟨p, (Service.getElem?_abandonEach (check B w.monitor) w.pairs hf).trans (congrArg (Option.map _) hp), ?_⟩
    rw [holds, hf]
    exact .idle p.1
  | some f =>
    have hheld : holds checks i = true := congrArg Option.isSome hf
    refine ⟨((check B w.monitor).abandon f p),
      (Service.getElem?_abandonEach (check B w.monitor) w.pairs hf).trans (congrArg (Option.map _) hp), ?_⟩
    rw [hheld]
    exact abandon_touched f (hclaimed.record hrecord hheld)

end Monitor

end RateCounter
