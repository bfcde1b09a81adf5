/-
  RateCounter.Proofs.Failover.Checks — the health checks of a group, run alone.

  A refresh alone comes to its end whatever the backends do (`refresh_runs`), as each of
  its checks has a deadline. It changes the health records and the backends and nothing
  else of a group, and no number of either (`refresh_alone`).
-/

import RateCounter.Proofs.Failover.Reach
import RateCounter.Proofs.Tame

namespace RateCounter

open Service (Runs)

/-- Healthy, without failures and without an error. -/
structure Health.Clean (h : Health) : Prop where
  healthy : h.healthy = true
  failures : h.failures = 0
  lastError : h.lastError = none

namespace Monitor

variable {B : Backend}

/-! ## One check -/

/-- The verdict is recorded as if the record had not been claimed meanwhile. -/
theorem observe_runs (m : Monitor) {n : Nat} {clock clock' : Clock}
    {p : B.State × Turn (B.probe.within m.timeout).Flight (Option Bool)} {b' : B.State} {answer : Option Bool}
    (h : (B.probe.within m.timeout).Runs n clock p clock' b' answer) (r : Health) :
    (check B m).Runs n clock (m.observe clock r p) clock'
      (r.complete m.threshold clock' (verdict m.timeout answer), b') () := by
  induction h generalizing r with
  | done clock b answer => exact .done ..
  | turn hw _ ih => exact .turn hw (ih { r with claimed := true })

theorem check_runs (hB : B.probe.Tame) (m : Monitor) (clock : Clock) (w : Watched B) :
    ∃ n clock' w', (check B m).Runs n clock ((check B m).start clock () w) clock' w' () := by
  by_cases hdue : (w.1.isStale m.interval clock.mono && !w.1.claimed) = true
  · obtain ⟨n, clock', b', answer, h⟩ := hB.within_runs m.timeout clock () w.2
    refine ⟨n, clock', (w.1.complete m.threshold clock' (verdict m.timeout answer), b'), ?_⟩
    simp only [check, hdue, if_true]
    exact observe_runs m h w.1
  · refine ⟨0, clock, w, ?_⟩
    simp only [check, hdue, Bool.false_eq_true, if_false]
    exact .done ..

theorem checks_run (hB : B.probe.Tame) (m : Monitor) (clock : Clock) (ws : List (Watched B)) :
    ∃ es : List (Clock × Watched B),
      List.Forall₂ (fun w e => ∃ n r, (check B m).Runs n clock ((check B m).start clock () w) e.1 e.2 r) ws es ∧
        ∃ n, (check B m).each.Runs n clock ((check B m).each.start clock () ws)
          (clock.waitUntil (Service.latest es)) (es.map (·.2)) () := by
  have hes : ∃ es, List.Forall₂ (fun (w : Watched B) (e : Clock × Watched B) =>
      ∃ n r, (check B m).Runs n clock ((check B m).start clock () w) e.1 e.2 r) ws es := by
    induction ws with
    | nil => exact ⟨[], .nil⟩
    | cons w ws ih =>
      obtain ⟨es, ih⟩ := ih
      obtain ⟨n, clock', w', h⟩ := check_runs hB m clock w
      exact ⟨(clock', w') :: es, .cons ⟨n, (), h⟩ ih⟩
  obtain ⟨es, hes⟩ := hes
  exact ⟨es, hes, Service.each_runs hes⟩

/-- A check that is answered with yes in time, if it is made, leaves a record without failures as it was. -/
theorem check_passes {m : Monitor} {clock : Clock} {w : Watched B} (hclean : w.1.Clean)
    (h : w.1.isStale m.interval clock.mono = true → w.1.claimed = false → ∃ clock' b',
      B.probe.Ends (clock.mono + m.timeout) clock (B.probe.start clock () w.2) clock' b' (some true)) :
    ∃ n clock' w', (check B m).Runs n clock ((check B m).start clock () w) clock' w' () ∧ w'.1.Clean := by
  by_cases hdue : (w.1.isStale m.interval clock.mono && !w.1.claimed) = true
  · obtain ⟨hstale, hfree⟩ : w.1.isStale m.interval clock.mono = true ∧ w.1.claimed = false := by simpa using hdue
    obtain ⟨clock', b', h⟩ := h hstale hfree
    obtain ⟨n, h⟩ : ∃ n, (B.probe.within m.timeout).Runs n clock ((B.probe.within m.timeout).start clock () w.2)
        clock' b' (some true) := Service.within_runs h
    refine ⟨n, clock', (w.1.complete m.threshold clock' .passed, b'), ?_, rfl, rfl, rfl⟩
    simp only [check, hdue, if_true]
    exact observe_runs m h w.1
  · refine ⟨0, clock, w, ?_, hclean⟩
    simp only [check, hdue, Bool.false_eq_true, if_false]
    exact .done ..

/-! ## A refresh -/

namespace Watch

theorem length_pairs (w : Watch B) : w.pairs.length = min w.monitor.records.length w.backends.length := by
  simp [pairs]

theorem pairs_setPairs (w : Watch B) {ps : List (Watched B)} (h : ps.length = w.pairs.length) :
    (w.setPairs ps).pairs = ps := by
  rw [length_pairs] at h
  have hdrop : (w.monitor.records.drop ps.length).zip (w.backends.drop ps.length) = [] := by
    rw [List.zip_eq_nil_iff, List.drop_eq_nil_iff, List.drop_eq_nil_iff]
    omega
  simp only [pairs, setPairs]
  rw [List.zip_append (by simp), hdrop, List.append_nil, ← List.unzip_fst, ← List.unzip_snd, List.zip_unzip]

theorem setPairs_setPairs (w : Watch B) {ps qs : List (Watched B)} (h : ps.length = qs.length) :
    (w.setPairs qs).setPairs ps = w.setPairs ps := by
  simp only [setPairs, h]
  rw [List.drop_append_of_le_length (by simp), List.drop_append_of_le_length (by simp)]
  simp

end Watch

theorem checksWake_eq (m : Monitor) (checks : Checks B) : checksWake checks = (check B m).wakeEach checks := by
  induction checks with
  | nil => rfl
  | cons o checks ih =>
    cases o with
    | none => exact ih
    | some f => simp only [checksWake, Service.wakeEach, ih]; rfl

/-- The settings of a monitor do not change, so its checks go on as they were started. -/
theorem resumeChecks_setPairs (w : Watch B) (clock : Clock) (checks : Checks B) {ps : List (Watched B)}
    (hps : ps.length = w.pairs.length) :
    resumeChecks clock checks (w.setPairs ps) =
      (w.setPairs ((check B w.monitor).each.resume clock checks ps).1,
        ((check B w.monitor).each.resume clock checks ps).2) := by
  show (let r := (check B w.monitor).each.resume clock checks (w.setPairs ps).pairs
    ((w.setPairs ps).setPairs r.1, r.2)) = _
  rw [w.pairs_setPairs hps]
  exact congrArg (·, _) (w.setPairs_setPairs (Service.length_pollEach ..))

theorem refresh_runs (w : Watch B) {n : Nat} {clock clock' : Clock}
    {p : List (Watched B) × Turn (check B w.monitor).each.Flight Unit} {qs : List (Watched B)}
    (h : (check B w.monitor).each.Runs n clock p clock' qs ()) (hp : p.1.length = w.pairs.length) :
    (refresh B).Runs n clock (w.setPairs p.1, p.2) clock' (w.setPairs qs) () := by
  generalize hr : () = r at h
  induction h with
  | done => exact .done ..
  | @turn n t clock clock' ps qs checks r hw _ ih =>
    have hps : ps.length = w.pairs.length := hp
    have hlen : ((check B w.monitor).each.resume (clock.waitUntil t) checks ps).1.length = ps.length :=
      Service.length_pollEach ..
    have hnext := resumeChecks_setPairs w (clock.waitUntil t) checks hps
    refine .turn ((checksWake_eq w.monitor checks).trans hw) ?_
    exact (congrArg (fun p => (refresh B).Runs n _ p clock' (w.setPairs qs) r) hnext).mpr (ih (hlen.trans hps) hr)

end Monitor

/-! ## On a group -/

namespace Failover

variable {B : Backend}

theorem watch_setWatch (w : Monitor.Watch B) (g : Failover B) : watch (setWatch w g) = w := rfl

theorem setWatch_setWatch (w w' : Monitor.Watch B) (g : Failover B) : setWatch w (setWatch w' g) = setWatch w g := rfl

/-- Every backend and its record as their own check alone leaves them. -/
theorem refresh_each (hB : B.probe.Tame) (g : Failover B) (clock : Clock) :
    ∃ n clock₁ g₁, (refresh B).Runs n clock ((refresh B).start clock () g) clock₁ g₁ () ∧
      g₁.frame = g.frame ∧ g₁.rotation = g.rotation ∧
      ∀ (i : Nat) (w : Monitor.Watched B), g.watch.pairs[i]? = some w → ∃ m clock₂ w',
        (Monitor.check B g.monitor).Runs m clock ((Monitor.check B g.monitor).start clock () w) clock₂ w' () ∧
          g₁.watch.pairs[i]? = some w' := by
  obtain ⟨es, hes, n, h⟩ := Monitor.checks_run hB g.monitor clock g.watch.pairs
  have hrun := Monitor.refresh_runs g.watch h (Service.length_startEach ..)
  have hlen : (es.map (·.2)).length = g.watch.pairs.length := by simpa using hes.length_eq.symm
  refine ⟨n, _, _, hrun.focus watch_setWatch setWatch_setWatch g, frame_setPairs g hlen, rfl, fun i w hw => ?_⟩
  obtain ⟨hi, rfl⟩ := List.getElem?_eq_some_iff.mp hw
  have hlt : i < es.length := hes.length_eq ▸ hi
  obtain ⟨m, _, hcheck⟩ := hes.get hi hlt
  refine ⟨m, _, _, hcheck, ?_⟩
  rw [watch_setWatch, g.watch.pairs_setPairs hlen, List.getElem?_map, List.getElem?_eq_getElem hlt]
  rfl

theorem refresh_alone (hB : B.probe.Tame) (g : Failover B) (clock : Clock) :
    ∃ n clock₁ g₁, (refresh B).Runs n clock ((refresh B).start clock () g) clock₁ g₁ () ∧
      g₁.frame = g.frame ∧ g₁.rotation = g.rotation := by
  obtain ⟨n, clock₁, g₁, hrun, hframe, hrot, -⟩ := refresh_each hB g clock
  exact ⟨n, clock₁, g₁, hrun, hframe, hrot⟩

end Failover

end RateCounter
