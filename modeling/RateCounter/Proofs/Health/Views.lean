/-
  RateCounter.Proofs.Health.Views — what the checks of a refresh leave alone.

  Whatever of a backend a health check does not change, no turn of the checks of a refresh
  changes, at any backend.
-/

import RateCounter.Proofs.Failover.Checks
import RateCounter.Proofs.Store.Gated

namespace RateCounter.Monitor

variable {B : Backend} {τ : Type} {view : B.State → τ}

theorem check_leaves (h : B.probe.Leaves view) (m : Monitor) : (check B m).Leaves fun w => view w.2 := by
  have hobserve : ∀ (clock : Clock) (r : Health) (p : B.State × Turn (Service.Bounded B.probe.Flight) (Option Bool)),
      view (m.observe clock r p).1.2 = view p.1 := by
    rintro clock r ⟨b, answer | f⟩ <;> rfl
  have hwithin := h.within m.timeout
  refine ⟨fun clock _ w => ?_, fun clock f w => ?_, fun f w => hwithin.abandon f w.2⟩
  · unfold check
    dsimp only
    split
    · exact (hobserve ..).trans (hwithin.start clock () w.2)
    · rfl
  · exact (hobserve ..).trans (hwithin.resume clock f w.2)

theorem views_setPairs {w : Watch B} (hsize : w.monitor.records.length = w.backends.length) {ps : List (Watched B)}
    (hps : ps.map (fun p => view p.2) = w.pairs.map fun p => view p.2) :
    (w.setPairs ps).backends.map view = w.backends.map view := by
  have hlen : ps.length = w.backends.length := by
    have hlen := congrArg List.length hps
    rw [List.length_map, List.length_map, Watch.length_pairs, hsize, Nat.min_self] at hlen
    exact hlen
  have hall : w.pairs.map (fun p => view p.2) = w.backends.map view := by
    have hsnd : w.pairs.map Prod.snd = w.backends := List.map_snd_zip (Nat.le_of_eq hsize.symm)
    rw [← hsnd, List.map_map]
    rfl
  show (ps.map (·.2) ++ w.backends.drop ps.length).map view = w.backends.map view
  rw [hlen, List.drop_length, List.append_nil, List.map_map, ← hall]
  exact hps

theorem startChecks_views (h : B.probe.Leaves view) (clock : Clock) {w : Watch B}
    (hsize : w.monitor.records.length = w.backends.length) :
    (startChecks clock w).1.backends.map view = w.backends.map view :=
  views_setPairs hsize ((check_leaves h w.monitor).startEach clock () w.pairs)

theorem resumeChecks_views (h : B.probe.Leaves view) (clock : Clock) (checks : Checks B) {w : Watch B}
    (hsize : w.monitor.records.length = w.backends.length) :
    (resumeChecks clock checks w).1.backends.map view = w.backends.map view :=
  views_setPairs hsize ((check_leaves h w.monitor).pollEach clock checks w.pairs)

theorem abandonChecks_views (h : B.probe.Leaves view) (checks : Checks B) {w : Watch B}
    (hsize : w.monitor.records.length = w.backends.length) :
    (abandonChecks checks w).backends.map view = w.backends.map view :=
  views_setPairs hsize ((check_leaves h w.monitor).abandonEach checks w.pairs)

end RateCounter.Monitor
