/-
  RateCounter.Proofs.Health.Checkups — which backends a refresh checks, and what it records.

  A checkup is a check of one backend that is over: when, what the backend answered in time,
  and the backend afterwards. A refresh that runs alone makes one checkup of every backend
  whose record is stale and free, all of them from the instant it is called on and each with
  the whole time limit; it is over when the last of them is. The record of each is told what
  its checkup found, with the time at which that one was over. All other records stay
  (`refresh_examines`).

  - `refresh_checks_stale`: the same where no check is in flight. The lists of records and
    backends may be of any lengths.
-/

import Mathlib.Tactic.Choose
import RateCounter.Proofs.Health.CheckTurns

namespace RateCounter

/-- A check of the backend at a position that is over. -/
structure Checkup (B : Backend) where
  position : Nat
  ended : Clock
  /-- The answer, if one came in time. -/
  answer : Option Bool
  /-- The backend afterwards. -/
  left : B.State

namespace Checkup

variable {B : Backend}

/-- What a checkup counts as; without an answer in time, as a failure. -/
def result (limit : Nat) (c : Checkup B) : Except BackendError Unit :=
  match c.answer with
  | some true => .ok ()
  | some false => .error (.unavailable "health check failed")
  | none => .error (.unavailable ("health check timed out after " ++ toString (limit / nanosPerMilli) ++ "ms"))

/-- A record after a checkup of its backend: the time of the checkup, and one success or one failure more. -/
def record (m : Monitor) (c : Checkup B) (h : Health) : Health :=
  let h := { h with lastChecked := some ⟨c.ended.mono, c.ended.wall⟩ }
  match c.result m.timeout with
  | .ok _ => h.succeed
  | .error e => h.fail m.threshold e

/-- The checkup of a backend, if there was one. -/
def find (checkups : List (Checkup B)) (i : Nat) : Option (Checkup B) := checkups.find? fun c => c.position == i

/-- When the last of the checkups is over; at the beginning of time, if there are none. -/
def last (checkups : List (Checkup B)) : Nat := (checkups.map (·.ended.mono)).foldr max 0

theorem complete_eq_record (m : Monitor) (c : Checkup B) {h : Health} (hfree : h.claimed = false) :
    h.complete m.threshold c.ended (Monitor.verdict m.timeout c.answer) = c.record m h := by
  obtain ⟨healthy, lastChecked, failures, lastError, claimed⟩ := h
  cases hfree
  unfold record result
  rcases c.answer with _ | _ | _ <;> simp only [Monitor.verdict, Health.complete, Verdict.error?, limitText, String.append_assoc]

theorem record_claimed (m : Monitor) (c : Checkup B) (h : Health) : (c.record m h).claimed = h.claimed := by
  unfold record
  cases c.result m.timeout <;> rfl

/-! ## Checkups by position -/

section Positions

variable {is : List Nat} {made : Nat → Option (Checkup B)}

theorem positions_filterMap (hmade : ∀ i ∈ is, ∀ c, made i = some c → c.position = i) :
    (is.filterMap made).map position = is.filter fun i => (made i).isSome := by
  induction is with
  | nil => rfl
  | cons i is ih =>
    have ih := ih fun j hj => hmade j (List.mem_cons_of_mem _ hj)
    cases hi : made i with
    | none => simp [hi, ih]
    | some c => simp [hi, ih, hmade i (List.mem_cons_self ..) c hi]

theorem find_filterMap (hmade : ∀ i ∈ is, ∀ c, made i = some c → c.position = i) (i : Nat) :
    find (is.filterMap made) i = if i ∈ is then made i else none := by
  induction is with
  | nil => rfl
  | cons j is ih =>
    have ih := ih fun k hk => hmade k (List.mem_cons_of_mem _ hk)
    unfold find at ih ⊢
    by_cases hij : i = j
    · subst hij
      cases hi : made i with
      | none => simp [hi, ih]
      | some c => simp [hi, hmade i (List.mem_cons_self ..) c hi]
    · cases hj : made j with
      | none => simp [hj, ih, hij]
      | some c => simp [hj, ih, hij, hmade j (List.mem_cons_self ..) c hj, Ne.symm hij]

end Positions

end Checkup

namespace Monitor

variable {B : Backend}

/-- A refresh that is called at `clock` and runs alone, and the checkups that it makes. -/
structure Examined (clock : Clock) (w : Watch B) (checkups : List (Checkup B)) (clock' : Clock) (w' : Watch B) :
    Prop where
  once : (checkups.map Checkup.position).Nodup
  due : ∀ i, i ∈ checkups.map Checkup.position ↔ i < w.backends.length ∧ w.monitor.IsDue clock i
  ends : ∀ c ∈ checkups, ∃ b, w.backends[c.position]? = some b ∧
    B.probe.Ends (clock.mono + w.monitor.timeout) clock (B.probe.start clock () b) c.ended c.left c.answer
  records : ∀ i, w'.monitor.records[i]? = w.monitor.records[i]?.map fun h =>
    (Checkup.find checkups i).elim h fun c => c.record w.monitor h
  backends : ∀ i, w'.backends[i]? = w.backends[i]?.map fun b => (Checkup.find checkups i).elim b Checkup.left
  settings : w'.monitor = { w.monitor with records := w'.monitor.records }
  ended : clock' = clock.waitUntil (Checkup.last checkups)

/-! ## One position -/

/-- A record and its backend after the checkup, if there was one. -/
def afterCheckup (m : Monitor) (made : Option (Checkup B)) (p : Watched B) : Watched B :=
  (made.elim p.1 fun c => c.record m p.1, made.elim p.2 Checkup.left)

/-- What a refresh does at one position: a checkup if it is due, and nothing otherwise. -/
structure Makes (m : Monitor) (clock : Clock) (i : Nat) (p : Watched B) (made : Option (Checkup B)) : Prop where
  due : made.isSome = true ↔ p.1.isStale m.interval clock.mono = true ∧ p.1.claimed = false
  position : ∀ c, made = some c → c.position = i
  ends : ∀ c, made = some c →
    B.probe.Ends (clock.mono + m.timeout) clock (B.probe.start clock () p.2) c.ended c.left c.answer
  runs : ∃ n, (check B m).Runs n clock ((check B m).start clock () p) (made.elim clock Checkup.ended)
    (afterCheckup m made p) ()

theorem check_makes (hB : B.probe.Tame) (m : Monitor) (clock : Clock) (i : Nat) (p : Watched B) :
    ∃ made, Makes m clock i p made := by
  by_cases hdue : (p.1.isStale m.interval clock.mono && !p.1.claimed) = true
  · obtain ⟨hstale, hfree⟩ : p.1.isStale m.interval clock.mono = true ∧ p.1.claimed = false := by simpa using hdue
    obtain ⟨ended, left, answer, hends⟩ := hB m.timeout clock () p.2
    obtain ⟨n, hrun⟩ : ∃ n, (B.probe.within m.timeout).Runs n clock
        ((B.probe.within m.timeout).start clock () p.2) ended left answer := Service.within_runs hends
    refine ⟨some ⟨i, ended, answer, left⟩, by simp [hstale, hfree], ?_, ?_, n, ?_⟩
    · rintro c ⟨⟩
      rfl
    · rintro c ⟨⟩
      exact hends
    · have hobserve := observe_runs m hrun p.1
      simp only [check, hdue, if_true]
      rwa [Checkup.complete_eq_record m ⟨i, ended, answer, left⟩ hfree] at hobserve
  · have hnone : ∀ c : Checkup B, none ≠ some c := fun c hc => Option.some_ne_none c hc.symm
    refine ⟨none, ⟨fun h => absurd h Bool.false_ne_true, fun h => absurd ?_ hdue⟩, fun c hc => absurd hc (hnone c),
      fun c hc => absurd hc (hnone c), 0, ?_⟩
    · simpa using h
    · simp only [check, hdue, Bool.false_eq_true, if_false]
      exact .done ..

/-! ## All positions -/

/-- The records and the backends after some checkups. -/
def Watch.examined (w : Watch B) (checkups : List (Checkup B)) : Watch B where
  monitor := { w.monitor with
    records := w.monitor.records.mapIdx fun i h => (Checkup.find checkups i).elim h fun c => c.record w.monitor h }
  backends := w.backends.mapIdx fun i b => (Checkup.find checkups i).elim b Checkup.left

theorem backends_setPairs (w : Watch B) (ps : List (Watched B)) (i : Nat) :
    (w.setPairs ps).backends[i]? = (ps[i]?.map (·.2)).or w.backends[i]? := by
  show (ps.map (·.2) ++ w.backends.drop ps.length)[i]? = _
  by_cases hi : i < ps.length
  · rw [List.getElem?_append_left (by simpa using hi), List.getElem?_map, List.getElem?_eq_getElem hi]
    rfl
  · rw [List.getElem?_append_right (by simpa using hi), List.getElem?_drop, List.length_map,
      Nat.add_sub_cancel' (Nat.not_lt.mp hi), List.getElem?_eq_none (Nat.not_lt.mp hi)]
    rfl

theorem mem_range_pairs {w : Watch B} {i : Nat} : i ∈ List.range w.pairs.length ↔ ∃ p, w.pairs[i]? = some p := by
  rw [List.mem_range]
  exact ⟨fun hi => ⟨_, List.getElem?_eq_getElem hi⟩, fun ⟨_, hp⟩ => (List.getElem?_eq_some_iff.mp hp).1⟩

section Plan

variable {w : Watch B} {made : Nat → Watched B → Option (Checkup B)}

/-- The checkup at a position, if it is watched and there is one. -/
def planned (w : Watch B) (made : Nat → Watched B → Option (Checkup B)) (i : Nat) : Option (Checkup B) :=
  w.pairs[i]?.bind (made i)

/-- The checkups of all positions that are watched. -/
def checkups (w : Watch B) (made : Nat → Watched B → Option (Checkup B)) : List (Checkup B) :=
  (List.range w.pairs.length).filterMap (planned w made)

variable (hposition : ∀ i p c, made i p = some c → c.position = i)

include hposition

theorem planned_position : ∀ i ∈ List.range w.pairs.length, ∀ c, planned w made i = some c → c.position = i :=
  fun i _ c hc => by
    obtain ⟨p, -, hc⟩ := Option.bind_eq_some_iff.mp hc
    exact hposition i p c hc

theorem find_checkups (i : Nat) : Checkup.find (checkups w made) i = planned w made i := by
  rw [checkups, Checkup.find_filterMap (planned_position hposition)]
  refine ite_eq_left_iff.mpr fun hi => ?_
  rw [planned, List.getElem?_eq_none (Nat.not_lt.mp (mt List.mem_range.mpr hi))]
  rfl

theorem mem_checkups {c : Checkup B} :
    c ∈ checkups w made ↔ ∃ p, w.pairs[c.position]? = some p ∧ made c.position p = some c := by
  rw [checkups, List.mem_filterMap]
  constructor
  · rintro ⟨i, hi, hc⟩
    obtain rfl := planned_position hposition i hi c hc
    exact Option.bind_eq_some_iff.mp hc
  · rintro ⟨p, hp, hc⟩
    exact ⟨c.position, mem_range_pairs.mpr ⟨p, hp⟩, Option.bind_eq_some_iff.mpr ⟨p, hp, hc⟩⟩

theorem mem_positions {i : Nat} :
    i ∈ (checkups w made).map Checkup.position ↔ ∃ p, w.pairs[i]? = some p ∧ (made i p).isSome = true := by
  simp only [List.mem_map, mem_checkups hposition, Option.isSome_iff_exists]
  constructor
  · rintro ⟨c, ⟨p, hp, hc⟩, rfl⟩
    exact ⟨p, hp, c, hc⟩
  · rintro ⟨p, hp, c, hc⟩
    obtain rfl := hposition i p c hc
    exact ⟨c, ⟨p, hp, hc⟩, rfl⟩

theorem checkups_nodup : ((checkups w made).map Checkup.position).Nodup := by
  rw [checkups, Checkup.positions_filterMap (planned_position hposition)]
  exact List.nodup_range.filter _

/-- The records after the checkups, if every pair has the record that its own checkup left. -/
theorem monitor_setPairs {ps : List (Watched B)}
    (hps : ∀ i, ps[i]?.map (·.1) = w.pairs[i]?.map fun p => (afterCheckup w.monitor (made i p) p).1) :
    (w.setPairs ps).monitor = (w.examined (checkups w made)).monitor := by
  have hrecords : (w.setPairs ps).monitor.records = (w.examined (checkups w made)).monitor.records := by
    refine List.ext_getElem? fun i => ?_
    show _ = (w.monitor.records.mapIdx _)[i]?
    rw [records_setPairs, hps, List.getElem?_mapIdx, find_checkups hposition, planned]
    cases hp : w.pairs[i]? with
    | none => exact Option.map_id'.symm
    | some p =>
      rw [(List.getElem?_zip_eq_some.mp hp).1]
      rfl
  exact congrArg (fun records => { w.monitor with records := records }) hrecords

theorem setPairs_examined {ps : List (Watched B)}
    (hps : ∀ i, ps[i]? = w.pairs[i]?.map fun p => afterCheckup w.monitor (made i p) p) :
    w.setPairs ps = w.examined (checkups w made) := by
  refine congrArg₂ Watch.mk (monitor_setPairs hposition fun i => by rw [hps, Option.map_map]; rfl)
    (List.ext_getElem? fun i => ?_)
  show (w.setPairs ps).backends[i]? = (w.backends.mapIdx _)[i]?
  rw [backends_setPairs, hps, List.getElem?_mapIdx, find_checkups hposition, planned]
  cases hp : w.pairs[i]? with
  | none => exact Option.map_id'.symm
  | some p =>
    rw [(List.getElem?_zip_eq_some.mp hp).2]
    rfl

end Plan

/-! ## A refresh alone -/

theorem foldr_max_le {xs : List Nat} {x : Nat} : xs.foldr max 0 ≤ x ↔ ∀ y ∈ xs, y ≤ x := by
  induction xs with
  | nil => simp
  | cons y xs ih => rw [List.foldr_cons, Nat.max_le, ih, List.forall_mem_cons]

theorem waitUntil_congr {clock : Clock} {t u : Nat} (h : ∀ x, clock.mono ≤ x → (t ≤ x ↔ u ≤ x)) :
    clock.waitUntil t = clock.waitUntil u := by
  have ht := h (max clock.mono u) (Nat.le_max_left ..)
  have hu := h (max clock.mono t) (Nat.le_max_left ..)
  have hsame : t - clock.mono = u - clock.mono := by omega
  unfold Clock.waitUntil
  rw [hsame]

section Alone

variable {w : Watch B} {clock : Clock} {made : Nat → Watched B → Option (Checkup B)}

/-- The clock and the pair that a position ends with. -/
def lane (m : Monitor) (clock : Clock) (made : Nat → Watched B → Option (Checkup B)) (i : Nat) (p : Watched B) :
    Clock × Watched B :=
  ((made i p).elim clock Checkup.ended, afterCheckup m (made i p) p)

variable (hmakes : ∀ i p, Makes w.monitor clock i p (made i p))

include hmakes

theorem lanes_run : List.Forall₂ (fun p e => ∃ n r,
    (check B w.monitor).Runs n clock ((check B w.monitor).start clock () p) e.1 e.2 r) w.pairs
    (w.pairs.mapIdx (lane w.monitor clock made)) := by
  refine List.forall₂_iff_get.mpr ⟨by simp, fun i hi hi' => ?_⟩
  obtain ⟨n, hrun⟩ := (hmakes i w.pairs[i]).runs
  exact ⟨n, (), by simpa [lane] using hrun⟩

/-- Positions without a checkup do not delay the others. -/
theorem latest_lanes : clock.waitUntil (Service.latest (w.pairs.mapIdx (lane w.monitor clock made))) =
    clock.waitUntil (Checkup.last (checkups w made)) := by
  have hmem := fun c => mem_checkups (w := w) (c := c) fun i p => (hmakes i p).position
  refine waitUntil_congr fun x hx => ?_
  unfold Service.latest Checkup.last
  rw [foldr_max_le, foldr_max_le, List.forall_mem_map, List.forall_mem_map]
  constructor
  · intro h c hc
    obtain ⟨p, hp, hmade⟩ := (hmem c).mp hc
    have hlane : lane w.monitor clock made c.position p ∈ w.pairs.mapIdx (lane w.monitor clock made) :=
      List.mem_of_getElem? (i := c.position) (by simp [hp])
    simpa [lane, hmade] using h _ hlane
  · intro h e he
    obtain ⟨i, hi, rfl⟩ := List.mem_mapIdx.mp he
    cases hmade : made i w.pairs[i] with
    | none => simpa [lane, hmade] using hx
    | some c =>
      obtain rfl := (hmakes i _).position c hmade
      have hc := h c ((hmem c).mpr ⟨_, List.getElem?_eq_getElem hi, hmade⟩)
      simpa [lane, hmade] using hc

theorem examined_checkups :
    Examined clock w (checkups w made) (clock.waitUntil (Checkup.last (checkups w made)))
      (w.examined (checkups w made)) := by
  have hposition := fun i p => (hmakes i p).position
  refine ⟨checkups_nodup hposition, fun i => ?_, fun c hc => ?_, fun _ => List.getElem?_mapIdx,
    fun _ => List.getElem?_mapIdx, rfl, rfl⟩
  · rw [mem_positions hposition]
    constructor
    · rintro ⟨p, hp, hsome⟩
      obtain ⟨hr, hb⟩ := List.getElem?_zip_eq_some.mp hp
      exact ⟨(List.getElem?_eq_some_iff.mp hb).1, p.1, hr, (hmakes i p).due.mp hsome⟩
    · rintro ⟨hi, h, hr, hdue⟩
      exact ⟨(h, w.backends[i]), List.getElem?_zip_eq_some.mpr ⟨hr, List.getElem?_eq_getElem hi⟩,
        (hmakes i _).due.mpr hdue⟩
  · obtain ⟨p, hp, hmade⟩ := (mem_checkups hposition).mp hc
    exact ⟨p.2, (List.getElem?_zip_eq_some.mp hp).2, (hmakes c.position p).ends c hmade⟩

end Alone

theorem refresh_examines (hB : B.probe.Tame) (w : Watch B) (clock : Clock) :
    ∃ n clock' w' checkups, (refresh B).Runs n clock ((refresh B).start clock () w) clock' w' () ∧
      Examined clock w checkups clock' w' := by
  choose made hmakes using check_makes hB w.monitor clock
  obtain ⟨n, hrun⟩ := Service.each_runs (lanes_run hmakes)
  rw [latest_lanes hmakes] at hrun
  have hrefresh := refresh_runs w hrun (Service.length_startEach ..)
  have hpairs : w.setPairs ((w.pairs.mapIdx (lane w.monitor clock made)).map (·.2)) = w.examined (checkups w made) :=
    setPairs_examined (fun i p => (hmakes i p).position) fun i => by
      rw [List.getElem?_map, List.getElem?_mapIdx, Option.map_map]
      rfl
  rw [hpairs] at hrefresh
  exact ⟨n, _, _, _, hrefresh, examined_checkups hmakes⟩

/-! ## With no check in flight -/

/-- What a refresh alone makes of the records of a monitor none of which is claimed. -/
structure Refreshed (clock : Clock) (w : Watch B) (checkups : List (Checkup B)) (clock' : Clock) (w' : Watch B) :
    Prop extends Examined clock w checkups clock' w' where
  /-- There is a checkup where both lists reach, and the record was never checked or is old. -/
  stale : ∀ i, i ∈ checkups.map Checkup.position ↔ i < w.backends.length ∧
    ∃ h, w.monitor.records[i]? = some h ∧ ∀ c, h.lastChecked = some c → w.monitor.interval ≤ clock.mono - c.mono

theorem isStale_iff (h : Health) (interval now : Nat) :
    h.isStale interval now = true ↔ ∀ c, h.lastChecked = some c → interval ≤ now - c.mono := by
  unfold Health.isStale
  cases h.lastChecked with
  | none => exact ⟨fun _ => nofun, fun _ => rfl⟩
  | some c => simp

theorem isDue_iff {m : Monitor} (hfree : ∀ h ∈ m.records, h.claimed = false) (clock : Clock) (i : Nat) :
    m.IsDue clock i ↔
      ∃ h, m.records[i]? = some h ∧ ∀ c, h.lastChecked = some c → m.interval ≤ clock.mono - c.mono := by
  unfold IsDue
  refine exists_congr fun h => and_congr_right fun hr => ?_
  rw [isStale_iff]
  exact and_iff_left (hfree h (List.mem_of_getElem? hr))

/-- Lists of any lengths, and checks that answer, are slow or hang. -/
theorem refresh_checks_stale (hB : B.probe.Tame) {w : Watch B} (hfree : ∀ h ∈ w.monitor.records, h.claimed = false)
    (clock : Clock) : ∃ fuel clock' w' checkups,
      (refresh B).call fuel clock () w = (clock', w', some ()) ∧ Refreshed clock w checkups clock' w' := by
  obtain ⟨n, clock', w', checkups, hrun, hexamined⟩ := refresh_examines hB w clock
  refine ⟨n, clock', w', checkups, hrun.settle (Nat.le_refl n), hexamined, fun i => ?_⟩
  rw [hexamined.due, isDue_iff hfree]

/-- Two records and three stores of which the first hangs. The second record is 5 s old. -/
def surplus : Watch Simulation.FaultyStore.backend where
  monitor := ⟨seconds 10, millis 500, 2, [.fresh, { Health.fresh with lastChecked := some ⟨0, 0⟩ }]⟩
  backends := [.ofFaults { Simulation.Faults.none with hanging := true }, .ofFaults .none, .ofFaults .none]

theorem refresh_checks_stale_surplus :
    Simulation.FaultyStore.backend.probe.Tame ∧ (∀ h ∈ surplus.monitor.records, h.claimed = false) ∧
      ∃ fuel clock' w' checkups, (refresh _).call fuel ⟨seconds 5, seconds 5⟩ () surplus = (clock', w', some ()) ∧
        Refreshed ⟨seconds 5, seconds 5⟩ surplus checkups clock' w' :=
  ⟨Simulation.FaultyStore.tame.probe, by decide,
    refresh_checks_stale Simulation.FaultyStore.tame.probe (by decide) ⟨seconds 5, seconds 5⟩⟩

/-- The first store alone is checked, for its 500 ms. -/
example :
    let w' := ((refresh _).call 1 ⟨seconds 5, seconds 5⟩ () surplus).2.1
    w'.monitor.records.map (·.failures) = [1, 0] ∧ w'.backends.map (·.healthChecks) = [1, 0, 0] := by
  cbv

end Monitor

end RateCounter
