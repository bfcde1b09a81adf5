/-
  RateCounter.Proofs.Health.Underway — a refresh that may be given up before it is over.

  After turns at any instants some of the checks of a refresh are over and the others wait.
  Those that are over are known from each backend by itself (`Underway.checked`). Once all are
  over, the refresh is, and the records and the backends are those after the checkups. A
  refresh that still waits and is given up leaves the records so as well: of the checks in
  flight nothing stays, neither a verdict nor a claim (`refresh_underway`).
-/

import RateCounter.Proofs.Followed
import RateCounter.Proofs.Health.Checkups

namespace RateCounter.Monitor

open Service (Waits follow_map)

variable {B : Backend}

/-! ## One check -/

/-- A record that is claimed already is claimed or completed like any other. -/
theorem observe_claimed {φ : Type} (m : Monitor) (clock : Clock) (h : Health) (p : B.State × Turn φ (Option Bool)) :
    m.observe clock { h with claimed := true } p = m.observe clock h p := by
  obtain ⟨b, answer | f⟩ := p <;> rfl

theorem check_follow (m : Monitor) (h : Health) (p : B.State × Turn (B.probe.within m.timeout).Flight (Option Bool))
    (clock : Clock) (instants : List Clock) :
    (check B m).follow clock (m.observe clock h p) instants =
      let q := (B.probe.within m.timeout).follow clock p instants
      ⟨q.last, q.spare, (m.observe q.last h (q.state, q.turn)).1, (m.observe q.last h (q.state, q.turn)).2⟩ :=
  follow_map (S := B.probe.within m.timeout) (T := check B m) (I := fun _ => True) (fun c p => m.observe c h p)
    (fun b f _ => ⟨({ h with claimed := true }, b), f, fun _ => rfl, rfl, fun _ => observe_claimed ..⟩)
    (fun _ _ _ _ => trivial) (fun _ _ _ => ⟨_, _, rfl⟩) trivial clock instants

/-- The checkup of the backend at `i`, if a check was due at `clock` and is over after turns at `instants`. -/
def checkupAt (m : Monitor) (clock : Clock) (instants : List Clock) (i : Nat) (p : Watched B) : Option (Checkup B) :=
  if p.1.isStale m.interval clock.mono && !p.1.claimed then
    let q := (B.probe.within m.timeout).follow clock ((B.probe.within m.timeout).start clock () p.2) instants
    match q.turn with
    | .done answer => some ⟨i, q.last, answer, q.state⟩
    | .waiting _ => none
  else none

theorem checkupAt_eq_some {m : Monitor} {clock : Clock} {instants : List Clock} {i : Nat} {p : Watched B}
    {k : Checkup B} : checkupAt m clock instants i p = some k ↔
      k.position = i ∧ (p.1.isStale m.interval clock.mono = true ∧ p.1.claimed = false) ∧ ∃ spare,
        (B.probe.within m.timeout).follow clock ((B.probe.within m.timeout).start clock () p.2) instants =
          ⟨k.ended, spare, k.left, .done k.answer⟩ := by
  unfold checkupAt
  by_cases hdue : (p.1.isStale m.interval clock.mono && !p.1.claimed) = true
  · have hdue' : p.1.isStale m.interval clock.mono = true ∧ p.1.claimed = false := by simpa using hdue
    rw [if_pos hdue]
    generalize (B.probe.within m.timeout).follow clock ((B.probe.within m.timeout).start clock () p.2) instants = q
    obtain ⟨last, spare, b, answer | f⟩ := q
    · constructor
      · rintro ⟨⟩
        exact ⟨rfl, hdue', spare, rfl⟩
      · rintro ⟨rfl, -, spare', h⟩
        cases h
        rfl
    · exact ⟨nofun, fun ⟨_, _, _, h⟩ => nomatch h⟩
  · rw [if_neg hdue]
    refine ⟨nofun, fun ⟨_, hdue', _⟩ => absurd ?_ hdue⟩
    simpa using hdue'

/-- How a check stands: it was not due, it is over, or it waits and leaves the record alone when it is given up. -/
inductive Checking (m : Monitor) (clock : Clock) (p : Watched B) (made : Option (Checkup B)) :
    Watched B × Turn (check B m).Flight Unit → Prop
  | ended : (p.1.isStale m.interval clock.mono = true → p.1.claimed = false → made.isSome = true) →
      Checking m clock p made (afterCheckup m made p, .done ())
  | waits {f : (check B m).Flight} {w : Watched B} : made = none →
      p.1.isStale m.interval clock.mono = true → p.1.claimed = false → ((check B m).abandon f w).1 = p.1 →
      Checking m clock p made (w, .waiting f)

theorem check_stands (m : Monitor) (clock : Clock) (instants : List Clock) (i : Nat) (p : Watched B) :
    let q := (check B m).follow clock ((check B m).start clock () p) instants
    Checking m clock p (checkupAt m clock instants i p) (q.state, q.turn) := by
  by_cases hdue : (p.1.isStale m.interval clock.mono && !p.1.claimed) = true
  · obtain ⟨hstale, hfree⟩ : p.1.isStale m.interval clock.mono = true ∧ p.1.claimed = false := by simpa using hdue
    have hstart : (check B m).start clock () p =
        m.observe clock p.1 ((B.probe.within m.timeout).start clock () p.2) := if_pos hdue
    have hmade : checkupAt m clock instants i p = _ := if_pos hdue
    rw [(congrArg (fun x => (check B m).follow clock x instants) hstart).trans (check_follow ..), hmade]
    generalize (B.probe.within m.timeout).follow clock ((B.probe.within m.timeout).start clock () p.2) instants = q
    obtain ⟨last, spare, b, answer | f⟩ := q
    · have hover : (p.1.complete m.threshold last (verdict m.timeout answer), b) =
          afterCheckup m (some ⟨i, last, answer, b⟩) p :=
        congrArg (·, b) (Checkup.complete_eq_record m ⟨i, last, answer, b⟩ hfree)
      show Checking m clock p (some ⟨i, last, answer, b⟩)
        ((p.1.complete m.threshold last (verdict m.timeout answer), b), .done ())
      rw [hover]
      exact .ended fun _ _ => rfl
    · refine .waits rfl hstale hfree ?_
      show { p.1 with claimed := false } = p.1
      rw [← hfree]
  · have hstart : (check B m).start clock () p = (p, .done ()) := if_neg hdue
    have hmade : checkupAt m clock instants i p = none := if_neg hdue
    rw [hstart, hmade, Service.follow_done]
    refine .ended fun hstale hfree => absurd ?_ hdue
    simp [hstale, hfree]

/-! ## All of them -/

/-- The checks of a refresh that was called at `clock` and had turns at `instants`: those that are over. -/
structure Underway (clock : Clock) (instants : List Clock) (w : Watch B) (checkups : List (Checkup B)) : Prop where
  once : (checkups.map Checkup.position).Nodup
  checked : ∀ k, k ∈ checkups ↔ w.monitor.IsDue clock k.position ∧ ∃ b spare, w.backends[k.position]? = some b ∧
    (B.probe.within w.monitor.timeout).follow clock ((B.probe.within w.monitor.timeout).start clock () b) instants =
      ⟨k.ended, spare, k.left, .done k.answer⟩

theorem refresh_follow (w : Watch B) (clock : Clock) (instants : List Clock) :
    (refresh B).follow clock ((refresh B).start clock () w) instants =
      let q := (check B w.monitor).each.follow clock ((check B w.monitor).each.start clock () w.pairs) instants
      ⟨q.last, q.spare, w.setPairs q.state, q.turn⟩ :=
  follow_map (S := (check B w.monitor).each) (T := refresh B) (I := fun ps => ps.length = w.pairs.length)
    (fun _ p => (w.setPairs p.1, p.2))
    (fun ps checks hps => ⟨w.setPairs ps, checks, fun _ => rfl, checksWake_eq w.monitor checks,
      fun now => resumeChecks_setPairs w now checks hps⟩)
    (fun _ _ _ hps => (Service.length_pollEach ..).trans hps) (fun _ _ _ => ⟨_, _, rfl⟩)
    (Service.length_startEach ..) clock instants

theorem abandonChecks_setPairs (w : Watch B) (checks : Checks B) {ps : List (Watched B)}
    (hps : ps.length = w.pairs.length) :
    abandonChecks checks (w.setPairs ps) = w.setPairs ((check B w.monitor).abandonEach checks ps) := by
  show (w.setPairs ps).setPairs ((check B w.monitor).abandonEach checks (w.setPairs ps).pairs) = _
  rw [w.pairs_setPairs hps]
  exact w.setPairs_setPairs (Service.length_abandonEach ..)

/-- Every position stands as the check there. -/
structure Standing (clock : Clock) (w : Watch B) (made : Nat → Watched B → Option (Checkup B))
    (ps : List (Watched B)) (flights : List (Option (check B w.monitor).Flight)) : Prop where
  length : ps.length = w.pairs.length
  each : ∀ i p, w.pairs[i]? = some p → ∃ q : Watched B × Turn (check B w.monitor).Flight Unit,
    Checking w.monitor clock p (made i p) q ∧ ps[i]? = some q.1 ∧ flights[i]?.join = q.2.flight?
  idle : ∀ i : Nat, w.pairs[i]? = none → flights[i]?.join = none

variable {clock : Clock} {w : Watch B} {made : Nat → Watched B → Option (Checkup B)}

theorem Standing.ended (hposition : ∀ i p c, made i p = some c → c.position = i) {ps : List (Watched B)}
    (h : Standing clock w made ps []) : w.setPairs ps = w.examined (checkups w made) := by
  refine setPairs_examined hposition fun i => ?_
  cases hp : w.pairs[i]? with
  | none => exact List.getElem?_eq_none (h.length ▸ List.getElem?_eq_none_iff.mp hp)
  | some p =>
    obtain ⟨q, hcheck, hstate, hflight⟩ := h.each i p hp
    cases hcheck with
    | ended => exact hstate
    | waits => exact nomatch hflight

theorem Standing.givenUp (hposition : ∀ i p c, made i p = some c → c.position = i) {ps : List (Watched B)}
    {checks : Checks B} (h : Standing clock w made ps checks) :
    (abandonChecks checks (w.setPairs ps)).monitor = (w.examined (checkups w made)).monitor := by
  rw [abandonChecks_setPairs w checks h.length]
  refine monitor_setPairs hposition fun i => ?_
  cases hp : w.pairs[i]? with
  | none =>
    have hsame : ((check B w.monitor).abandonEach checks ps).length = w.pairs.length :=
      (Service.length_abandonEach ..).trans h.length
    exact congrArg _ (List.getElem?_eq_none (hsame ▸ List.getElem?_eq_none_iff.mp hp))
  | some p =>
    obtain ⟨q, hcheck, hstate, hflight⟩ := h.each i p hp
    rw [Service.getElem?_abandonEach _ ps hflight, hstate]
    cases hcheck with
    | ended => rfl
    | @waits f w' hmade _ _ hgivenUp =>
      show some ((check B w.monitor).abandon f w').1 = some (afterCheckup w.monitor (made i p) p).1
      rw [hmade, hgivenUp]
      rfl

/-- How a refresh stands: it is over, or a check is not, and then what is left when it is given up. -/
inductive Refreshing (clock : Clock) (w : Watch B) (checkups : List (Checkup B)) :
    Watch B × Turn (Checks B) Unit → Prop
  | ended : (∀ i < w.backends.length, w.monitor.IsDue clock i → i ∈ checkups.map Checkup.position) →
      Refreshing clock w checkups (w.examined checkups, .done ())
  | waits {i : Nat} {checks : Checks B} {w' : Watch B} : i < w.backends.length → w.monitor.IsDue clock i →
      i ∉ checkups.map Checkup.position →
      ((refresh B).abandon checks w').monitor = (w.examined checkups).monitor →
      Refreshing clock w checkups (w', .waiting checks)

theorem checks_standing (w : Watch B) (clock : Clock) (instants : List Clock) :
    let qs := (check B w.monitor).each.follow clock ((check B w.monitor).each.start clock () w.pairs) instants
    Standing clock w (checkupAt w.monitor clock instants) qs.state qs.flights ∧
      ∃ gs, qs.turn = Service.joined gs := by
  obtain ⟨gs, hturn, hidle⟩ := Service.each_joined (S := check B w.monitor) clock _
    ((check B w.monitor).startEach clock () w.pairs).2 instants
  refine ⟨⟨?_, fun i p hp => ?_, fun i hp => ?_⟩, gs, hturn⟩
  · exact Service.follow_inv (S := (check B w.monitor).each)
      (I := fun ps : List (Watched B) => ps.length = w.pairs.length)
      (fun _ _ _ hps => (Service.length_pollEach ..).trans hps) (Service.length_startEach ..) clock instants
  · have hstate := (check B w.monitor).getElem?_startEach clock () w.pairs i
    have hflight := (check B w.monitor).flight_startEach clock () w.pairs i
    rw [hp] at hstate hflight
    exact ⟨_, check_stands w.monitor clock instants i p, Service.follow_each hstate hflight clock clock instants⟩
  · have hnone := hidle i (by rw [Service.flight_startEach, hp]; rfl)
    show (Turn.flight? _ |>.getD [])[i]?.join = none
    rw [show ((check B w.monitor).each.follow clock ((check B w.monitor).each.start clock () w.pairs) instants).turn =
      Service.joined gs from hturn]
    exact (Service.flight_joined gs i).trans hnone

theorem checkupAt_position {m : Monitor} {clock : Clock} {instants : List Clock} (i : Nat) (p : Watched B)
    (k : Checkup B) (hk : checkupAt m clock instants i p = some k) : k.position = i :=
  (checkupAt_eq_some.mp hk).1

theorem underway_checkups (w : Watch B) (clock : Clock) (instants : List Clock) :
    Underway clock instants w (checkups w (checkupAt w.monitor clock instants)) := by
  refine ⟨checkups_nodup checkupAt_position, fun k => ?_⟩
  rw [mem_checkups checkupAt_position]
  constructor
  · rintro ⟨p, hp, hk⟩
    obtain ⟨hr, hb⟩ := List.getElem?_zip_eq_some.mp hp
    obtain ⟨-, hdue, spare, hover⟩ := checkupAt_eq_some.mp hk
    exact ⟨⟨p.1, hr, hdue⟩, p.2, spare, hb, hover⟩
  · rintro ⟨⟨h, hr, hdue⟩, b, spare, hb, hover⟩
    exact ⟨(h, b), List.getElem?_zip_eq_some.mpr ⟨hr, hb⟩, checkupAt_eq_some.mpr ⟨rfl, hdue, spare, hover⟩⟩

theorem refresh_underway (w : Watch B) (clock : Clock) (instants : List Clock) :
    ∃ checkups, Underway clock instants w checkups ∧
      let q := (refresh B).follow clock ((refresh B).start clock () w) instants
      Refreshing clock w checkups (q.state, q.turn) := by
  let made := checkupAt (B := B) w.monitor clock instants
  have hposition : ∀ i p k, made i p = some k → k.position = i := checkupAt_position
  have hpositions := fun i => mem_positions (w := w) hposition (i := i)
  refine ⟨checkups w made, underway_checkups w clock instants, ?_⟩
  obtain ⟨hstanding, gs, hturn⟩ := checks_standing w clock instants
  rw [refresh_follow]
  generalize (check B w.monitor).each.follow clock ((check B w.monitor).each.start clock () w.pairs) instants = qs
    at hstanding hturn ⊢
  obtain ⟨last, spare, ps, u | checks⟩ := qs
  · have hstanding : Standing clock w made ps [] := hstanding
    show Refreshing clock w _ (w.setPairs ps, .done ())
    rw [hstanding.ended hposition]
    refine .ended fun i hi hdue => ?_
    obtain ⟨h, hr, hstale, hfree⟩ := hdue
    have hp : w.pairs[i]? = some (h, w.backends[i]) :=
      List.getElem?_zip_eq_some.mpr ⟨hr, List.getElem?_eq_getElem hi⟩
    obtain ⟨q, hcheck, -, hflight⟩ := hstanding.each i _ hp
    cases hcheck with
    | ended hmade => exact (hpositions i).mpr ⟨_, hp, hmade hstale hfree⟩
    | waits => exact nomatch hflight
  · obtain ⟨rfl, i, f, hf⟩ := Service.joined_waiting hturn.symm
    have hstanding : Standing clock w made ps checks := hstanding
    obtain ⟨p, hp⟩ := Option.ne_none_iff_exists'.mp fun hnone => nomatch hf.symm.trans (hstanding.idle i hnone)
    obtain ⟨hr, hb⟩ := List.getElem?_zip_eq_some.mp hp
    obtain ⟨q, hcheck, -, hflight⟩ := hstanding.each i p hp
    cases hcheck with
    | ended => exact nomatch hf.symm.trans hflight
    | waits hmade hstale hfree =>
      refine .waits (List.getElem?_eq_some_iff.mp hb).1 ⟨p.1, hr, hstale, hfree⟩ (fun hi => ?_)
        (hstanding.givenUp hposition)
      obtain ⟨p', hp', hsome⟩ := (hpositions i).mp hi
      obtain rfl := Option.some.inj (hp.symm.trans hp')
      rw [hmade] at hsome
      exact nomatch hsome

end RateCounter.Monitor
