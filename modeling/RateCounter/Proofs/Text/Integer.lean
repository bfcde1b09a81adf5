/-
  RateCounter.Proofs.Text.Integer — printed numbers are read back.

  A printed number consists of digits only, after the minus sign of a negative one. Read as
  a number of a range that it lies in, it is the same again (`unsigned?_repr`,
  `signed?_repr`). Whatever else is read as a number of a range lies in the range.
-/

import Std.Data.String.ToNat
import RateCounter.Text.Integer

namespace RateCounter.Text

/-! ## Digits -/

theorem digitValue_digit {c : Char} (hc : c.isDigit = true) : digitValue c = c.toNat - '0'.toNat := by
  simp [digitValue, hc]

theorem digitValue_lt_ten {c : Char} (hc : c.isDigit = true) : digitValue c < 10 := by
  have h := Char.isDigit_iff_toNat.mp hc
  rw [digitValue_digit hc]
  have h0 : '0'.toNat = 48 := rfl
  have h9 : '9'.toNat = 57 := rfl
  omega

theorem isDigit_of_mem_repr {n : Nat} {c : Char} (hc : c ∈ n.repr.toList) : c.isDigit = true := by
  rw [Nat.toList_repr] at hc
  exact Nat.isDigit_of_mem_toDigits (by decide) (by decide) hc

theorem value_digits (cs : List Char) (h : ∀ c ∈ cs, c.isDigit = true) (n : Nat) :
    cs.foldl (fun n c => 10 * n + digitValue c) n = Nat.ofDigitChars 10 cs n := by
  induction cs generalizing n with
  | nil => rfl
  | cons c cs ih =>
    rw [List.foldl_cons, Nat.ofDigitChars_cons, digitValue_digit (h c (by simp))]
    exact ih (fun d hd => h d (by simp [hd])) _

theorem natural?_repr (n : Nat) : natural? n.repr.toList = some n := by
  have hdigits : ∀ c ∈ n.repr.toList, c.isDigit = true := fun c hc => isDigit_of_mem_repr hc
  have hne : n.repr.toList ≠ [] := by
    rw [Nat.toList_repr]; exact Nat.toDigits_ne_nil
  have hall : n.repr.toList.all (fun c => decide (digitValue c < 10)) = true := by
    rw [List.all_eq_true]
    exact fun c hc => decide_eq_true (digitValue_lt_ten (hdigits c hc))
  unfold natural? naturalIn?
  rw [if_pos ⟨hne, hall⟩, value_digits _ hdigits, Nat.toList_repr, Nat.ofDigitChars_ten_toDigits]

/-- A printed number starts with neither sign. -/
theorem repr_cons {n : Nat} : ∃ c cs, n.repr.toList = c :: cs ∧ c ≠ '+' ∧ c ≠ '-' := by
  cases h : n.repr.toList with
  | nil => rw [Nat.toList_repr] at h; exact absurd h Nat.toDigits_ne_nil
  | cons c cs =>
    have hc : c.isDigit = true := isDigit_of_mem_repr (n := n) (by simp [h])
    refine ⟨c, cs, rfl, ?_, ?_⟩
    · intro e; subst e; exact absurd hc (by decide)
    · intro e; subst e; exact absurd hc (by decide)

/-! ## Numbers -/

theorem unsigned?_repr {max n : Nat} (h : n ≤ max) : unsigned? max n.repr.toList = some n := by
  obtain ⟨c, cs, hcs, hplus, -⟩ := repr_cons (n := n)
  have hread : atMost? max (natural? n.repr.toList) = some n := by
    rw [natural?_repr]; simp [atMost?, Option.filter, h]
  rw [hcs] at hread ⊢
  unfold unsigned?
  split
  · rename_i heq; exact absurd (List.cons.inj heq).1 hplus
  · exact hread

theorem signed?_repr {size : Nat} {i : Int} (hlow : -(size : Int) ≤ i) (hhigh : i < size) :
    signed? size i.repr.toList = some i := by
  have hread (n : Nat) (m : Nat) (h : n ≤ m) : atMost? m (naturalIn? 10 n.repr.toList) = some n := by
    have := natural?_repr n
    unfold natural? at this
    rw [this]; simp [atMost?, Option.filter, h]
  rw [Int.repr_eq_if]
  by_cases hi : 0 ≤ i
  · obtain ⟨c, cs, hcs, hplus, hminus⟩ := repr_cons (n := i.toNat)
    have hin := hread i.toNat (size - 1) (by omega)
    rw [if_pos hi]
    rw [hcs] at hin ⊢
    unfold signed? signedIn?
    split
    · rename_i heq; exact absurd (List.cons.inj heq).1 hminus
    · rename_i heq; exact absurd (List.cons.inj heq).1 hplus
    · rw [hin]
      show some ((i.toNat : Int)) = some i
      rw [Int.toNat_of_nonneg hi]
  · have hin := hread (-i).toNat size (by omega)
    rw [if_neg hi]
    have hcs : ("-" ++ (-i).toNat.repr).toList = '-' :: (-i).toNat.repr.toList := by simp
    rw [hcs]
    simp only [signed?, signedIn?, hin]
    show some (-((-i).toNat : Int)) = some i
    rw [Int.toNat_of_nonneg (by omega), Int.neg_neg]

theorem atMost?_le {max n : Nat} {o : Option Nat} (h : atMost? max o = some n) : n ≤ max := by
  have := (Option.filter_eq_some_iff.mp h).2
  simpa using this

theorem unsigned?_le {max n : Nat} {cs : List Char} (h : unsigned? max cs = some n) : n ≤ max := by
  unfold unsigned? at h
  split at h
  · exact atMost?_le h
  · exact atMost?_le h

theorem signed?_bounds {size : Nat} (hsize : 0 < size) {cs : List Char} {i : Int} (h : signed? size cs = some i) :
    -(size : Int) ≤ i ∧ i < size := by
  unfold signed? signedIn? at h
  split at h
  all_goals
    simp only [Option.map_eq_some_iff, Option.bind_eq_bind, Option.bind_eq_some_iff, Option.pure_def,
      Option.some.injEq] at h
    obtain ⟨_, ⟨n, hn, rfl⟩, rfl⟩ := h
    have := atMost?_le hn
    omega

theorem int64?_toString {i : Int} (h : Word.min63 ≤ i ∧ i ≤ Word.max63) : int64? (toString i) = some i := by
  rw [Int.toString_eq_repr]
  simp only [Word.min63, Word.max63] at h
  exact signed?_repr (by simp only [Word.count63]; omega) (by simp only [Word.count63]; omega)

theorem int64?_bounds {s : String} {i : Int} (h : int64? s = some i) : Word.min63 ≤ i ∧ i ≤ Word.max63 := by
  have hb := signed?_bounds (by decide) h
  simp only [Word.min63, Word.max63, Word.count63] at hb ⊢
  omega

end RateCounter.Text
