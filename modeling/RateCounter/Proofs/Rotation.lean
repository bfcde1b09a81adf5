/-
  RateCounter.Proofs.Rotation — which positions the strategies choose.

  Whatever the flags and the cursor, the candidates are positions of flags and none comes
  twice (`candidates_nodup`). They are those that are healthy, or all if none is
  (`mem_candidates_iff`). If all are healthy, `serving` comes first (`candidates_all`).
-/

import RateCounter.Strategy

namespace RateCounter

namespace Rotation

theorem healthyFrom_range (i : Nat) (flags : List Bool) :
    (healthyFrom i flags).Pairwise (· < ·) ∧ ∀ j ∈ healthyFrom i flags, i ≤ j ∧ j < i + flags.length := by
  induction flags generalizing i with
  | nil => simp [healthyFrom]
  | cons flag flags ih =>
    obtain ⟨hpair, hrange⟩ := ih (i + 1)
    cases flag with
    | false =>
      refine ⟨hpair, fun j hj => ?_⟩
      have := hrange j hj
      simp only [List.length_cons]
      omega
    | true =>
      refine ⟨List.pairwise_cons.mpr ⟨fun j hj => (hrange j hj).1, hpair⟩, fun j hj => ?_⟩
      simp only [List.length_cons]
      rcases List.mem_cons.mp hj with rfl | hj
      · omega
      · have := hrange j hj
        omega

theorem rotateBy_perm (n : Nat) (xs : List Nat) : (rotateBy n xs).Perm xs := by
  have h : (xs.drop n ++ xs.take n).Perm (xs.take n ++ xs.drop n) := List.perm_append_comm
  rwa [List.take_append_drop] at h

/-- No backend is a candidate twice, and every candidate is the position of a flag. -/
theorem candidates_nodup (r : Rotation) (flags : List Bool) :
    (r.candidates flags).1.Nodup ∧ ∀ i ∈ (r.candidates flags).1, i < flags.length := by
  obtain ⟨hpair, hrange⟩ := healthyFrom_range 0 flags
  have hnodup : (healthyFrom 0 flags).Nodup := hpair.imp Nat.ne_of_lt
  have hlt : ∀ j ∈ healthyFrom 0 flags, j < flags.length := fun j hj => by have := hrange j hj; omega
  simp only [candidates, healthyPositions]
  split
  · exact ⟨List.nodup_range, fun i hi => List.mem_range.mp hi⟩
  · split
    · exact ⟨hnodup, hlt⟩
    · have hperm := rotateBy_perm (r.cursor % (healthyFrom 0 flags).length) (healthyFrom 0 flags)
      exact ⟨hperm.nodup_iff.mpr hnodup, fun i hi => hlt i (hperm.mem_iff.mp hi)⟩

theorem mem_healthyFrom_iff (i : Nat) (flags : List Bool) (j : Nat) :
    j ∈ healthyFrom i flags ↔ i ≤ j ∧ flags[j - i]? = some true := by
  induction flags generalizing i with
  | nil => simp [healthyFrom]
  | cons flag flags ih =>
    have hcons : j ∈ healthyFrom i (flag :: flags) ↔ j = i ∧ flag = true ∨ j ∈ healthyFrom (i + 1) flags := by
      cases flag <;> simp [healthyFrom]
    rw [hcons, ih]
    rcases Nat.lt_trichotomy j i with hj | rfl | hj
    · simp [Nat.ne_of_lt hj, Nat.not_le.mpr hj, Nat.not_le.mpr (Nat.lt_succ_of_lt hj)]
    · have hnot : ¬j + 1 ≤ j := Nat.not_succ_le_self j
      simp only [hnot, false_and, or_false, true_and, Nat.le_refl, Nat.sub_self, List.getElem?_cons_zero,
        Option.some.injEq]
    · have hlater : (flag :: flags)[j - i]? = flags[j - (i + 1)]? := by
        rw [show j - i = j - (i + 1) + 1 by omega, List.getElem?_cons_succ]
      simp [hlater, Nat.ne_of_gt hj, Nat.le_of_lt hj, Nat.succ_le_of_lt hj]

theorem mem_healthyPositions_iff (flags : List Bool) (i : Nat) :
    i ∈ healthyPositions flags ↔ flags[i]? = some true := by
  simp [healthyPositions, mem_healthyFrom_iff]

theorem healthyPositions_eq_nil_iff (flags : List Bool) : healthyPositions flags = [] ↔ true ∉ flags := by
  rw [List.eq_nil_iff_forall_not_mem, List.mem_iff_getElem?, not_exists]
  exact forall_congr' fun i => not_congr (mem_healthyPositions_iff flags i)

theorem mem_candidates_iff (r : Rotation) (flags : List Bool) (i : Nat) :
    i ∈ (r.candidates flags).1 ↔ flags[i]? = some true ∨ i < flags.length ∧ true ∉ flags := by
  have hnone := healthyPositions_eq_nil_iff flags
  simp only [candidates]
  split
  · rename_i h
    have hfalse := hnone.mp h
    rw [List.mem_range]
    refine ⟨fun hi => .inr ⟨hi, hfalse⟩, ?_⟩
    rintro (hi | ⟨hi, -⟩)
    · exact (List.getElem?_eq_some_iff.mp hi).1
    · exact hi
  · rename_i h
    have htrue : ¬ (i < flags.length ∧ true ∉ flags) := fun hi => h (hnone.mpr hi.2)
    rw [or_iff_left htrue, ← mem_healthyPositions_iff]
    split
    · rfl
    · exact (rotateBy_perm _ _).mem_iff

theorem candidates_of_healthy {r : Rotation} {flags : List Bool} (h : healthyPositions flags ≠ []) :
    r.candidates flags = match r.strategy with
      | .firstHealthy => (healthyPositions flags, r)
      | .roundRobin => (rotateBy (r.cursor % (healthyPositions flags).length) (healthyPositions flags),
          { r with cursor := (r.cursor + 1) % Word.count64 }) := by
  unfold candidates
  split
  · exact absurd ‹_› h
  · rfl

/-- A healthy first backend is tried first. -/
theorem candidates_firstHealthy {r : Rotation} (hr : r.strategy = .firstHealthy) {flags : List Bool}
    (hflag : flags[0]? = some true) : ∃ rest, r.candidates flags = (0 :: rest, r) := by
  cases flags with
  | nil => cases hflag
  | cons flag flags =>
    obtain rfl : flag = true := by simpa using hflag
    refine ⟨healthyFrom 1 flags, ?_⟩
    simp only [candidates, healthyPositions, healthyFrom, hr]

/-! ## All healthy -/

/-- The position that is tried first if all of `size` backends are healthy. -/
def serving (r : Rotation) (size : Nat) : Nat :=
  match r.strategy with
  | .firstHealthy => 0
  | .roundRobin => r.cursor % size

/-- The rotation after a call that found a healthy backend. -/
def next (r : Rotation) : Rotation :=
  match r.strategy with
  | .firstHealthy => r
  | .roundRobin => { r with cursor := (r.cursor + 1) % Word.count64 }

/-- The rotation goes on if a backend is healthy, and only then. -/
theorem candidates_rotation (r : Rotation) (flags : List Bool) :
    (r.candidates flags).2 = if true ∈ flags then r.next else r := by
  by_cases hnil : healthyPositions flags = []
  · rw [if_neg ((healthyPositions_eq_nil_iff flags).mp hnil)]
    simp only [candidates, hnil]
  · have htrue : true ∈ flags := Decidable.of_not_not (mt (healthyPositions_eq_nil_iff flags).mpr hnil)
    rw [if_pos htrue, candidates_of_healthy hnil]
    unfold next
    split <;> rfl

theorem serving_lt (r : Rotation) {size : Nat} (hsize : 0 < size) : r.serving size < size := by
  unfold serving
  split
  · exact hsize
  · exact Nat.mod_lt _ hsize

theorem healthyFrom_all (i : Nat) {flags : List Bool} (h : ∀ flag ∈ flags, flag = true) :
    healthyFrom i flags = List.range' i flags.length := by
  induction flags generalizing i with
  | nil => rfl
  | cons flag flags ih =>
    obtain ⟨rfl, hrest⟩ := List.forall_mem_cons.mp h
    simp only [healthyFrom, ih (i + 1) hrest, List.length_cons, List.range'_succ]

theorem candidates_all (r : Rotation) {flags : List Bool} (h : ∀ flag ∈ flags, flag = true) (hsome : flags ≠ []) :
    ∃ rest, r.candidates flags = (r.serving flags.length :: rest, r.next) := by
  have hpos : 0 < flags.length := List.length_pos_iff.mpr hsome
  obtain ⟨strategy, cursor⟩ := r
  cases strategy with
  | firstHealthy =>
    have hflag : flags[0]? = some true := by
      rw [List.getElem?_eq_getElem hpos, h flags[0] (List.getElem_mem hpos)]
    exact candidates_firstHealthy rfl hflag
  | roundRobin =>
    have hhealthy : healthyPositions flags = List.range flags.length := by
      rw [healthyPositions, healthyFrom_all 0 h, List.range_eq_range']
    have hcursor : cursor % flags.length < (List.range flags.length).length := by
      rw [List.length_range]
      exact Nat.mod_lt _ hpos
    rw [candidates_of_healthy (hhealthy ▸ List.ne_nil_of_length_pos (Nat.zero_lt_of_lt hcursor)), hhealthy]
    refine ⟨(List.range flags.length).drop (cursor % flags.length + 1) ++
      (List.range flags.length).take (cursor % flags.length), ?_⟩
    simp only [serving, next, rotateBy, List.length_range]
    rw [List.drop_eq_getElem_cons hcursor, List.getElem_range, List.cons_append]

end Rotation

end RateCounter
