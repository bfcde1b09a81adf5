/-
  RateCounter.Proofs.Rotation.Order — the candidates of one call, in their order.

  Whatever the flags and the cursor, the candidates are the healthy positions, or all
  positions if none is healthy. They stand in ascending order; under `roundRobin` the healthy
  ones are rotated to the left by the cursor modulo their number, and the cursor goes on
  (`candidates_ordered`).
-/

import Mathlib.Data.List.Rotate
import RateCounter.Proofs.Rotation

namespace RateCounter.Rotation

/-- The positions of the flags that are true, ascending. -/
def raised (flags : List Bool) : List Nat := (List.range flags.length).filter fun i => flags[i]? == some true

theorem mem_raised_iff (flags : List Bool) (i : Nat) : i ∈ raised flags ↔ flags[i]? = some true := by
  unfold raised
  rw [List.mem_filter, List.mem_range, beq_iff_eq]
  refine ⟨And.right, fun hi => ⟨?_, hi⟩⟩
  exact (List.getElem?_eq_some_iff.mp hi).1

theorem healthyPositions_pairwise (flags : List Bool) : (healthyPositions flags).Pairwise (· < ·) :=
  (healthyFrom_range 0 flags).1

/-- Two ascending lists of the same positions are one. -/
theorem healthyPositions_eq_raised (flags : List Bool) : healthyPositions flags = raised flags := by
  have hhealthy := healthyPositions_pairwise flags
  have hraised : (raised flags).Pairwise (· < ·) := List.pairwise_lt_range.filter _
  have hperm : (healthyPositions flags).Perm (raised flags) := by
    rw [List.perm_ext_iff_of_nodup (hhealthy.imp Nat.ne_of_lt) (hraised.imp Nat.ne_of_lt)]
    intro i
    rw [mem_healthyPositions_iff, mem_raised_iff]
  exact hperm.eq_of_pairwise (fun a b _ _ hab hba => absurd hab (Nat.lt_asymm hba)) hhealthy hraised

theorem length_healthyFrom (i : Nat) (flags : List Bool) : (healthyFrom i flags).length = flags.count true := by
  induction flags generalizing i with
  | nil => rfl
  | cons flag flags ih => cases flag <;> simp [healthyFrom, ih]

theorem length_raised (flags : List Bool) : (raised flags).length = flags.count true := by
  rw [← healthyPositions_eq_raised]
  exact length_healthyFrom 0 flags

theorem rotateBy_eq_rotate {n : Nat} {xs : List Nat} (hn : n ≤ xs.length) : rotateBy n xs = xs.rotate n :=
  (List.rotate_eq_drop_append_take hn).symm

theorem candidates_roundRobin {r : Rotation} (hr : r.strategy = .roundRobin) {flags : List Bool}
    (hflags : true ∈ flags) :
    r.candidates flags = ((raised flags).rotate (r.cursor % flags.count true),
      { r with cursor := (r.cursor + 1) % Word.count64 }) := by
  have hsome : healthyPositions flags ≠ [] := fun h => (healthyPositions_eq_nil_iff flags).mp h hflags
  have hpos : 0 < flags.count true := List.count_pos_iff.mpr hflags
  have hlt : r.cursor % flags.count true < (raised flags).length := by
    rw [length_raised]
    exact Nat.mod_lt _ hpos
  rw [candidates_of_healthy hsome, hr, healthyPositions_eq_raised, length_raised]
  dsimp only
  rw [rotateBy_eq_rotate (Nat.le_of_lt hlt)]

/-- The order of the candidates of a call, and the rotation it leaves for the next one. -/
structure Ordered (r : Rotation) (flags : List Bool) (order : List Nat) (next : Rotation) : Prop where
  once : order.Nodup
  range : ∀ i ∈ order, i < flags.length
  healthy : true ∈ flags → order.Perm (raised flags)
  firstHealthy : true ∈ flags → r.strategy = .firstHealthy → order = raised flags ∧ next = r
  roundRobin : true ∈ flags → r.strategy = .roundRobin →
    order = (raised flags).rotate (r.cursor % flags.count true) ∧
      next = { r with cursor := (r.cursor + 1) % Word.count64 }
  unhealthy : true ∉ flags → order = List.range flags.length ∧ next = r
  empty : order = [] ↔ flags = []

theorem candidates_unhealthy (r : Rotation) {flags : List Bool} (hflags : true ∉ flags) :
    r.candidates flags = (List.range flags.length, r) := by
  simp only [candidates, (healthyPositions_eq_nil_iff flags).mpr hflags]

theorem candidates_firstHealthy_eq {r : Rotation} (hr : r.strategy = .firstHealthy) {flags : List Bool}
    (hflags : true ∈ flags) : r.candidates flags = (raised flags, r) := by
  have hsome : healthyPositions flags ≠ [] := fun h => (healthyPositions_eq_nil_iff flags).mp h hflags
  rw [candidates_of_healthy hsome, hr, healthyPositions_eq_raised]

theorem candidates_eq_nil_iff (r : Rotation) (flags : List Bool) : (r.candidates flags).1 = [] ↔ flags = [] := by
  constructor
  · intro hnone
    -- A flag that is there, true or not, makes a candidate.
    by_contra hsome
    obtain ⟨flag, hflag⟩ := List.exists_mem_of_ne_nil flags hsome
    have hno (i : Nat) : ¬ (flags[i]? = some true ∨ i < flags.length ∧ true ∉ flags) := by
      rw [← mem_candidates_iff r, hnone]
      exact List.not_mem_nil
    have hfalse : true ∉ flags := by
      intro htrue
      obtain ⟨i, hi⟩ := List.mem_iff_getElem?.mp htrue
      exact hno i (.inl hi)
    exact hno 0 (.inr ⟨List.length_pos_of_mem hflag, hfalse⟩)
  · rintro rfl
    rfl

theorem candidates_ordered (r : Rotation) (flags : List Bool) :
    r.Ordered flags (r.candidates flags).1 (r.candidates flags).2 := by
  obtain ⟨honce, hrange⟩ := r.candidates_nodup flags
  refine ⟨honce, hrange, fun hflags => ?_, fun hflags hr => ?_, fun hflags hr => ?_, fun hflags => ?_,
    r.candidates_eq_nil_iff flags⟩
  · cases hr : r.strategy with
    | firstHealthy => rw [candidates_firstHealthy_eq hr hflags]
    | roundRobin =>
      rw [candidates_roundRobin hr hflags]
      exact List.rotate_perm _ _
  · rw [candidates_firstHealthy_eq hr hflags]
    exact ⟨rfl, rfl⟩
  · rw [candidates_roundRobin hr hflags]
    exact ⟨rfl, rfl⟩
  · rw [r.candidates_unhealthy hflags]
    exact ⟨rfl, rfl⟩

end RateCounter.Rotation
