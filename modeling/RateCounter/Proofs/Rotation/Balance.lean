/-
  RateCounter.Proofs.Rotation.Balance — how evenly the rotation spreads the first attempts.

  A call takes its order in one step of the cursor, so the calls of any number of callers,
  however they interleave, are one list. Calls that find no backend healthy leave the cursor
  where it is.

  While the cursor does not wrap, calls that find the same flags come first to each of the
  `h` healthy backends in turn: `k` of them, to each `k / h` times, rounded down or up. At
  2^64 the turn is broken off and begins anew, so two backends may come to differ by one on
  either side of it (`first_attempts_balanced`).
-/

import Mathlib.Data.Int.CardIntervalMod
import RateCounter.Proofs.Rotation.Order

namespace RateCounter.Rotation

/-! ## Calls one after the other -/

/-- The orders that calls get which find these flags. -/
def orders (r : Rotation) : List (List Bool) → List (List Nat)
  | [] => []
  | seen :: calls => (r.candidates seen).1 :: orders (r.candidates seen).2 calls

/-- How many of the calls that find these flags try the backend at `i` first. -/
def firsts (r : Rotation) (flags : List Bool) (i : Nat) (calls : List (List Bool)) : Nat :=
  (calls.zip (r.orders calls)).countP fun call => call.1 == flags && call.2.head? == some i

theorem firsts_cons (r : Rotation) (flags : List Bool) (i : Nat) (seen : List Bool) (calls : List (List Bool)) :
    r.firsts flags i (seen :: calls) = firsts (r.candidates seen).2 flags i calls +
      if seen = flags ∧ (r.candidates seen).1.head? = some i then 1 else 0 := by
  unfold firsts
  simp [orders, List.countP_cons]

/-! ## Residues -/

/-- Among `k` numbers in a row each residue comes `k / h` times, rounded down or up. -/
theorem count_residue (c k : Nat) {h j : Nat} (hj : j < h) :
    Nat.count (fun m => (c + m) % h = j) k = k / h ∨ Nat.count (fun m => (c + m) % h = j) k = (k + (h - 1)) / h := by
  have hpos : 0 < h := Nat.zero_lt_of_lt hj
  have hbelow (n : Nat) : Nat.count (fun m => m % h = j) n = n / h + if j < n % h then 1 else 0 := by
    have hcard := Nat.count_modEq_card n hpos j
    simp only [Nat.ModEq, Nat.mod_eq_of_lt hj] at hcard
    exact hcard
  have hsplit := Nat.count_add (fun m => m % h = j) c k
  rw [hbelow, hbelow, Nat.add_div hpos, Nat.add_mod] at hsplit
  have hsum : (c % h + k % h) % h = if h ≤ c % h + k % h then c % h + k % h - h else c % h + k % h := by
    have hc := Nat.mod_lt c hpos
    have hk := Nat.mod_lt k hpos
    split
    · rw [Nat.mod_eq_sub_mod ‹_›, Nat.mod_eq_of_lt (by omega)]
    · exact Nat.mod_eq_of_lt (by omega)
  have hceil : (k + (h - 1)) / h = k / h + if k % h = 0 then 0 else 1 := by
    have hk := Nat.mod_lt k hpos
    have hlast : h - 1 < h := by omega
    rw [Nat.add_div hpos, Nat.div_eq_of_lt hlast, Nat.mod_eq_of_lt hlast]
    split <;> split <;> omega
  have hc := Nat.mod_lt c hpos
  have hk := Nat.mod_lt k hpos
  rw [hsum] at hsplit
  rw [hceil]
  generalize Nat.count (fun m => (c + m) % h = j) k = n at hsplit ⊢
  -- What is left is about the two remainders: whether they carry, and on which side of `j` they are.
  split at hsplit <;> split at hsplit <;> split at hsplit <;> split <;> omega

/-- The counts of two residues among `k` numbers in a row are at most one apart. -/
theorem count_residue_le (c k : Nat) {h i j : Nat} (hi : i < h) (hj : j < h) :
    Nat.count (fun m => (c + m) % h = i) k ≤ Nat.count (fun m => (c + m) % h = j) k + 1 := by
  have hceil : (k + (h - 1)) / h ≤ k / h + 1 := by
    have hpos : 0 < h := Nat.zero_lt_of_lt hi
    calc (k + (h - 1)) / h ≤ (k + h) / h := Nat.div_le_div_right (by omega)
      _ = k / h + 1 := Nat.add_div_right k hpos
  have hfloor : k / h ≤ (k + (h - 1)) / h := Nat.div_le_div_right (Nat.le_add_right ..)
  rcases count_residue c k hi with h₁ | h₁ <;> rcases count_residue c k hj with h₂ | h₂ <;> omega

/-! ## The first candidate -/

theorem nodup_raised (flags : List Bool) : (raised flags).Nodup := List.nodup_range.filter _

/-- A healthy backend comes first when the cursor, modulo their number, is its place among them. -/
theorem head_candidates_iff {r : Rotation} (hr : r.strategy = .roundRobin) {flags : List Bool} {i j : Nat}
    (hplace : (raised flags)[j]? = some i) :
    (r.candidates flags).1.head? = some i ↔ r.cursor % flags.count true = j := by
  obtain ⟨hj, -⟩ := List.getElem?_eq_some_iff.mp hplace
  have hflags : true ∈ flags := List.count_pos_iff.mp (length_raised flags ▸ Nat.zero_lt_of_lt hj)
  have hlt : r.cursor % flags.count true < (raised flags).length := by
    rw [length_raised]
    exact Nat.mod_lt _ (List.count_pos_iff.mpr hflags)
  rw [candidates_roundRobin hr hflags]
  dsimp only
  rw [List.head?_rotate hlt, ← hplace]
  exact List.getElem?_inj hlt (nodup_raised flags)

/-- The cursor of the `m`-th call from here that finds a backend healthy is `m` further on, modulo 2^64. -/
theorem firsts_eq_count {r : Rotation} (hr : r.strategy = .roundRobin) (hcursor : r.cursor < Word.count64)
    {flags : List Bool} {i j : Nat} (hplace : (raised flags)[j]? = some i) {calls : List (List Bool)}
    (hcalls : ∀ seen ∈ calls, seen = flags ∨ true ∉ seen) :
    r.firsts flags i calls =
      Nat.count (fun m => (r.cursor + m) % Word.count64 % flags.count true = j) (calls.count flags) := by
  obtain ⟨hj, -⟩ := List.getElem?_eq_some_iff.mp hplace
  have hflags : true ∈ flags := List.count_pos_iff.mp (length_raised flags ▸ Nat.zero_lt_of_lt hj)
  induction calls generalizing r with
  | nil => rfl
  | cons seen calls ih =>
    obtain ⟨hseen, hrest⟩ := List.forall_mem_cons.mp hcalls
    rw [firsts_cons]
    by_cases heq : seen = flags
    · subst heq
      have hnext : (r.candidates seen).2 = { r with cursor := (r.cursor + 1) % Word.count64 } := by
        rw [candidates_roundRobin hr hflags]
      have hlater := ih (r := { r with cursor := (r.cursor + 1) % Word.count64 }) hr
        (Nat.mod_lt _ (by decide)) hrest
      have hfirst : (r.candidates seen).1.head? = some i ↔ (r.cursor + 0) % Word.count64 % seen.count true = j := by
        rw [Nat.add_zero, Nat.mod_eq_of_lt hcursor]
        exact head_candidates_iff hr hplace
      have hshift (m : Nat) : ((r.cursor + 1) % Word.count64 + m) % Word.count64 =
          (r.cursor + (m + 1)) % Word.count64 := by
        rw [Nat.mod_add_mod]
        congr 1
        omega
      rw [hnext, hlater, List.count_cons_self, Nat.count_succ']
      simp only [hshift, hfirst, true_and]
    · have hfalse : true ∉ seen := hseen.resolve_left heq
      have hsame : (r.candidates seen).2 = r := by rw [r.candidates_unhealthy hfalse]
      rw [hsame, ih hr hcursor hrest, List.count_cons_of_ne heq, if_neg fun h => heq h.1]
      rfl

/-! ## Counting modulo 2^64 -/

/-- Numbers below 2^64 are counted as they are. -/
theorem count_word {c k : Nat} (h : c + k ≤ Word.count64) (p : Nat → Prop) [DecidablePred p] :
    Nat.count (fun m => p ((c + m) % Word.count64)) k = Nat.count (fun m => p (c + m)) k := by
  induction k with
  | zero => rfl
  | succ k ih =>
    have hlt : c + k < Word.count64 := by omega
    rw [Nat.count_succ, Nat.count_succ, ih (by omega), Nat.mod_eq_of_lt hlt]

/-- On both sides of the wrap the numbers are counted apart. -/
theorem count_wrapped {c k : Nat} (hc : c ≤ Word.count64) (hk : k ≤ Word.count64) (h : Word.count64 < c + k)
    (p : Nat → Prop) [DecidablePred p] :
    Nat.count (fun m => p ((c + m) % Word.count64)) k =
      Nat.count (fun m => p (c + m)) (Word.count64 - c) + Nat.count (fun m => p (0 + m)) (c + k - Word.count64) := by
  have hparts : k = (Word.count64 - c) + (c + k - Word.count64) := by omega
  have hafter (m : Nat) : (c + (Word.count64 - c + m)) % Word.count64 = (0 + m) % Word.count64 := by
    rw [show c + (Word.count64 - c + m) = 0 + m + Word.count64 by omega, Nat.add_mod_right]
  conv_lhs => rw [hparts]
  rw [Nat.count_add, count_word (by omega)]
  simp only [hafter]
  rw [count_word (by omega)]

/-- The counts of two residues are at most one apart on either side of the wrap. -/
theorem count_word_residue_le {c k : Nat} (hc : c ≤ Word.count64) (hk : k ≤ Word.count64) {h i j : Nat} (hi : i < h)
    (hj : j < h) : Nat.count (fun m => (c + m) % Word.count64 % h = i) k ≤
      Nat.count (fun m => (c + m) % Word.count64 % h = j) k + 2 := by
  rcases Nat.lt_or_ge Word.count64 (c + k) with hwraps | hstays
  · have hbefore := count_residue_le c (Word.count64 - c) hi hj
    have hafter := count_residue_le 0 (c + k - Word.count64) hi hj
    rw [count_wrapped hc hk hwraps fun n => n % h = i, count_wrapped hc hk hwraps fun n => n % h = j]
    omega
  · have hclose := count_residue_le c k hi hj
    rw [count_word hstays fun n => n % h = i, count_word hstays fun n => n % h = j]
    omega

/-! ## Balance -/

/-- Any number of callers' calls in any order, of which `k`, at most 2^64, find these flags, and
    the others find no backend healthy. -/
theorem first_attempts_balanced {r : Rotation} (hr : r.strategy = .roundRobin) (hcursor : r.cursor < Word.count64)
    (flags : List Bool) {calls : List (List Bool)} (hcalls : ∀ seen ∈ calls, seen = flags ∨ true ∉ seen)
    (hcount : calls.count flags ≤ Word.count64) :
    let k := calls.count flags
    let h := flags.count true
    (r.cursor + k ≤ Word.count64 → ∀ i, flags[i]? = some true →
        r.firsts flags i calls = k / h ∨ r.firsts flags i calls = (k + (h - 1)) / h) ∧
      ∀ i j, flags[i]? = some true → flags[j]? = some true →
        r.firsts flags i calls ≤ r.firsts flags j calls + 2 := by
  intro k h
  have hplace : ∀ i, flags[i]? = some true → ∃ j, j < h ∧ (raised flags)[j]? = some i := by
    intro i hi
    obtain ⟨j, hj⟩ := List.mem_iff_getElem?.mp ((mem_raised_iff flags i).mpr hi)
    obtain ⟨hlt, -⟩ := List.getElem?_eq_some_iff.mp hj
    rw [length_raised] at hlt
    exact ⟨j, hlt, hj⟩
  constructor
  · intro hlast i hi
    obtain ⟨j, hj, hplaced⟩ := hplace i hi
    rw [firsts_eq_count hr hcursor hplaced hcalls, count_word hlast fun n => n % h = j]
    exact count_residue r.cursor k hj
  · intro i i' hi hi'
    obtain ⟨j, hj, hplaced⟩ := hplace i hi
    obtain ⟨j', hj', hplaced'⟩ := hplace i' hi'
    rw [firsts_eq_count hr hcursor hplaced hcalls, firsts_eq_count hr hcursor hplaced' hcalls]
    exact count_word_residue_le (Nat.le_of_lt hcursor) hcount hj hj'

/-- A cursor before its wrap. -/
def wrapping : Rotation := ⟨.roundRobin, Word.max64⟩

/-- Three backends of four are healthy. -/
def upButOne : List Bool := [true, false, true, true]

/-- Between the two calls that find them so, one finds none healthy. -/
def apart : List (List Bool) := [upButOne, [false, false, false, false], upButOne]

/-- 2^64 - 1 is a multiple of 3, so the backend at 0 is first before the wrap and after it. -/
theorem first_attempts_wrapping :
    wrapping.strategy = .roundRobin ∧ wrapping.cursor < Word.count64 ∧
      (∀ seen ∈ apart, seen = upButOne ∨ true ∉ seen) ∧ apart.count upButOne ≤ Word.count64 ∧
      wrapping.firsts upButOne 0 apart = 2 ∧ wrapping.firsts upButOne 2 apart = 0 ∧
      ∀ i j, upButOne[i]? = some true → upButOne[j]? = some true →
        wrapping.firsts upButOne i apart ≤ wrapping.firsts upButOne j apart + 2 := by
  have hcalls : ∀ seen ∈ apart, seen = upButOne ∨ true ∉ seen := by decide
  refine ⟨rfl, by decide, hcalls, by decide, by decide, by decide, ?_⟩
  exact (first_attempts_balanced rfl (by decide) upButOne hcalls (by decide)).2

end RateCounter.Rotation
