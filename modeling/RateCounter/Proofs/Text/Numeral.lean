/-
  RateCounter.Proofs.Text.Numeral — which texts are read as whole numbers, and as which.

  A numeral is one or more digits, and denotes what its digits amount to; zeros in front of it
  change nothing. Read are numerals, after a sign where there may be one, that denote a number
  of the range (`unsigned?_eq_some_iff`, `signed?_eq_some_iff`).

  Of all numerals of a number exactly one is plain, without a zero in front, and that is the
  one printed (`IsNumeral.eq_repr`).
-/

import Mathlib.Data.Nat.Digits.Defs
import RateCounter.Proofs.Text.Integer

namespace RateCounter.Text

/-! ## Numerals -/

/-- What a digit is worth. -/
def worth (c : Char) : Nat := c.toNat - '0'.toNat

/-- One or more digits, the most significant first. -/
structure IsNumeral (ds : List Char) (n : Nat) : Prop where
  nonempty : ds ≠ []
  digits : ∀ c ∈ ds, '0' ≤ c ∧ c ≤ '9'
  value : Nat.ofDigits 10 (ds.map worth).reverse = n

/-- A numeral, possibly after a plus sign. -/
inductive IsUnsigned : List Char → Nat → Prop
  | bare {ds : List Char} {n : Nat} : IsNumeral ds n → IsUnsigned ds n
  | plus {ds : List Char} {n : Nat} : IsNumeral ds n → IsUnsigned ('+' :: ds) n

/-- A numeral, possibly after a sign. -/
inductive IsSigned : List Char → Int → Prop
  | bare {ds : List Char} {n : Nat} : IsNumeral ds n → IsSigned ds n
  | plus {ds : List Char} {n : Nat} : IsNumeral ds n → IsSigned ('+' :: ds) n
  | minus {ds : List Char} {n : Nat} : IsNumeral ds n → IsSigned ('-' :: ds) (-n)

theorem isDigit_iff {c : Char} : c.isDigit = true ↔ '0' ≤ c ∧ c ≤ '9' := by
  simp [Char.isDigit, Char.le_def]

theorem digitValue_lt_ten_iff {c : Char} : digitValue c < 10 ↔ '0' ≤ c ∧ c ≤ '9' := by
  rw [← isDigit_iff]
  refine ⟨fun h => ?_, digitValue_lt_ten⟩
  by_contra hc
  unfold digitValue at h
  rw [if_neg hc] at h
  split at h
  · omega
  · split at h
    · omega
    · omega

/-- Digit by digit from the front, or as a sum of powers of ten. -/
theorem foldl_digitValue {ds : List Char} (h : ∀ c ∈ ds, '0' ≤ c ∧ c ≤ '9') :
    ds.foldl (fun n c => 10 * n + digitValue c) 0 = Nat.ofDigits 10 (ds.map worth).reverse := by
  rw [value_digits ds fun c hc => isDigit_iff.mpr (h c hc), Nat.ofDigitChars_eq_foldl, Nat.ofDigits_eq_foldr,
    List.foldr_reverse, List.foldl_map]
  refine congrArg (fun f => ds.foldl f 0) ?_
  funext n c
  exact Nat.add_comm _ _

theorem natural?_eq_some_iff {ds : List Char} {n : Nat} : natural? ds = some n ↔ IsNumeral ds n := by
  have hall : ds.all (fun c => decide (digitValue c < 10)) = true ↔ ∀ c ∈ ds, '0' ≤ c ∧ c ≤ '9' := by
    simp only [List.all_eq_true, decide_eq_true_eq, digitValue_lt_ten_iff]
  unfold natural? naturalIn?
  rw [Option.ite_none_right_eq_some, hall, Option.some.injEq]
  constructor
  · rintro ⟨⟨hne, hdigits⟩, hvalue⟩
    exact ⟨hne, hdigits, (foldl_digitValue hdigits).symm.trans hvalue⟩
  · rintro ⟨hne, hdigits, hvalue⟩
    exact ⟨⟨hne, hdigits⟩, (foldl_digitValue hdigits).trans hvalue⟩

theorem atMost?_natural?_eq_some_iff {max : Nat} {ds : List Char} {n : Nat} :
    atMost? max (natural? ds) = some n ↔ IsNumeral ds n ∧ n ≤ max := by
  unfold atMost?
  rw [Option.filter_eq_some_iff, natural?_eq_some_iff, decide_eq_true_eq]

/-- No numeral starts with a sign. -/
theorem IsNumeral.head_ne {c sign : Char} {ds : List Char} {n : Nat} (h : IsNumeral (c :: ds) n)
    (hsign : sign.isDigit = false) : c ≠ sign := by
  rintro rfl
  rw [isDigit_iff.mpr (h.digits c List.mem_cons_self)] at hsign
  cases hsign

/-! ## Reading -/

theorem unsigned?_eq_some_iff {max : Nat} {cs : List Char} {n : Nat} :
    unsigned? max cs = some n ↔ IsUnsigned cs n ∧ n ≤ max := by
  unfold unsigned?
  split
  · rename_i ds
    rw [atMost?_natural?_eq_some_iff]
    refine and_congr_left fun _ => ⟨.plus, fun h => ?_⟩
    cases h with
    | bare h => exact absurd rfl (h.head_ne rfl)
    | plus h => exact h
  · rename_i hplus
    rw [atMost?_natural?_eq_some_iff]
    refine and_congr_left fun _ => ⟨.bare, fun h => ?_⟩
    cases h with
    | bare h => exact h
    | plus h => exact absurd rfl (hplus _)

theorem map_atMost?_eq_some_iff {max : Nat} {ds : List Char} {f : Int → Int} {i : Int} :
    (do let n ← atMost? max (naturalIn? 10 ds); pure (n : Int)).map f = some i ↔
      ∃ n : Nat, IsNumeral ds n ∧ n ≤ max ∧ f n = i := by
  have hread (n : Nat) : atMost? max (naturalIn? 10 ds) = some n ↔ IsNumeral ds n ∧ n ≤ max :=
    atMost?_natural?_eq_some_iff
  simp only [Option.map_eq_some_iff, Option.bind_eq_bind, Option.bind_eq_some_iff, Option.pure_def,
    Option.some.injEq, hread]
  constructor
  · rintro ⟨_, ⟨n, ⟨hn, hle⟩, rfl⟩, rfl⟩
    exact ⟨n, hn, hle, rfl⟩
  · rintro ⟨n, hn, hle, rfl⟩
    exact ⟨n, ⟨n, ⟨hn, hle⟩, rfl⟩, rfl⟩

theorem signed?_eq_some_iff {size : Nat} (hsize : 0 < size) {cs : List Char} {i : Int} :
    signed? size cs = some i ↔ IsSigned cs i ∧ -(size : Int) ≤ i ∧ i < size := by
  unfold signed? signedIn?
  split
  · rename_i ds
    rw [map_atMost?_eq_some_iff]
    constructor
    · rintro ⟨n, hn, hle, rfl⟩
      exact ⟨.minus hn, by omega, by omega⟩
    · rintro ⟨hi, hlow, -⟩
      cases hi with
      | bare h => exact absurd rfl (h.head_ne rfl)
      | minus h => exact ⟨_, h, by omega, rfl⟩
  · rename_i ds
    rw [map_atMost?_eq_some_iff]
    constructor
    · rintro ⟨n, hn, hle, rfl⟩
      exact ⟨.plus hn, by omega, by omega⟩
    · rintro ⟨hi, -, hhigh⟩
      cases hi with
      | bare h => exact absurd rfl (h.head_ne rfl)
      | plus h => exact ⟨_, h, by omega, rfl⟩
  · rename_i hminus hplus
    rw [map_atMost?_eq_some_iff]
    constructor
    · rintro ⟨n, hn, hle, rfl⟩
      exact ⟨.bare hn, by omega, by omega⟩
    · rintro ⟨hi, -, hhigh⟩
      cases hi with
      | bare h => exact ⟨_, h, by omega, rfl⟩
      | plus h => exact absurd rfl (hplus _)
      | minus h => exact absurd rfl (hminus _)

/-! ## Plain numerals -/

/-- No zero stands in front of other digits. -/
def IsPlain (ds : List Char) : Prop := ds = ['0'] ∨ ds.head? ≠ some '0'

theorem digitChar_worth {c : Char} (hc : '0' ≤ c ∧ c ≤ '9') : Nat.digitChar (worth c) = c := by
  obtain ⟨hlow, hhigh⟩ := Char.isDigit_iff_toNat.mp (isDigit_iff.mpr hc)
  have h0 : '0'.toNat = 48 := rfl
  have h9 : '9'.toNat = 57 := rfl
  apply Char.toNat_inj.mp
  unfold worth
  rw [Nat.toNat_digitChar_of_lt_ten (by omega)]
  omega

/-- Without a zero in front, a numeral consists of the digits of its number. -/
theorem IsNumeral.eq_digits {ds : List Char} {n : Nat} (h : IsNumeral ds n) (hhead : ds.head? ≠ some '0') :
    ds = ((Nat.digits 10 n).map Nat.digitChar).reverse := by
  have hworth : ∀ c ∈ ds, worth c < 10 := fun c hc => by
    rw [worth, ← digitValue_digit (isDigit_iff.mpr (h.digits c hc))]
    exact digitValue_lt_ten_iff.mpr (h.digits c hc)
  have hdigits : Nat.digits 10 n = (ds.map worth).reverse := by
    rw [← h.value]
    refine Nat.digits_ofDigits 10 (by decide) _ (fun d hd => ?_) fun hne hlast => ?_
    · obtain ⟨c, hc, rfl⟩ := List.mem_map.mp (List.mem_reverse.mp hd)
      exact hworth c hc
    · cases ds with
      | nil => exact h.nonempty rfl
      | cons c ds =>
        have hzero : worth c = 0 := by simpa using hlast
        have hc := digitChar_worth (h.digits c List.mem_cons_self)
        rw [hzero] at hc
        exact hhead (congrArg some hc.symm)
  rw [hdigits, List.map_reverse, List.reverse_reverse, List.map_map]
  exact (List.map_id ds).symm.trans (List.map_congr_left fun c hc => (digitChar_worth (h.digits c hc)).symm)

theorem IsNumeral.zero {n : Nat} (h : IsNumeral ['0'] n) : n = 0 := h.value.symm

/-- A number has one plain numeral only. -/
theorem IsNumeral.unique {ds ds' : List Char} {n : Nat} (h : IsNumeral ds n) (h' : IsNumeral ds' n)
    (hplain : IsPlain ds) (hplain' : IsPlain ds') : ds = ds' := by
  have hpos {ds : List Char} (h : IsNumeral ds n) (hhead : ds.head? ≠ some '0') : n ≠ 0 := fun hzero => by
    refine h.nonempty ?_
    rw [h.eq_digits hhead, hzero]
    rfl
  rcases hplain with rfl | hhead
  · rcases hplain' with rfl | hhead'
    · rfl
    · exact absurd h.zero (hpos h' hhead')
  · rcases hplain' with rfl | hhead'
    · exact absurd h'.zero (hpos h hhead)
    · exact (h.eq_digits hhead).trans (h'.eq_digits hhead').symm

theorem isNumeral_repr (n : Nat) : IsNumeral n.repr.toList n := natural?_eq_some_iff.mp (natural?_repr n)

theorem head_toDigits {n : Nat} (hn : 0 < n) : (Nat.toDigits 10 n).head? ≠ some '0' := by
  induction n using Nat.strongRecOn with
  | ind n ih =>
    by_cases hlt : n < 10
    · rw [Nat.toDigits_of_lt_base hlt]
      intro hzero
      have := congrArg Char.toNat (Option.some.inj hzero)
      rw [Nat.toNat_digitChar_of_lt_ten hlt] at this
      have h0 : '0'.toNat = 48 := rfl
      omega
    · have hsplit := Nat.toDigits_append_toDigits (b := 10) (n := n / 10) (d := n % 10) (by decide) (by omega)
        (by omega)
      rw [Nat.div_add_mod] at hsplit
      have hfront := ih (n / 10) (by omega) (by omega)
      obtain ⟨c, cs, hcs⟩ := List.exists_cons_of_ne_nil (Nat.toDigits_ne_nil (n := n / 10) (b := 10))
      rw [hcs] at hfront hsplit
      rw [← hsplit]
      exact hfront

theorem isPlain_repr (n : Nat) : IsPlain n.repr.toList := by
  rw [Nat.toList_repr]
  rcases Nat.eq_zero_or_pos n with rfl | hn
  · exact .inl rfl
  · exact .inr (head_toDigits hn)

theorem IsNumeral.eq_repr {ds : List Char} {n : Nat} (h : IsNumeral ds n) (hplain : IsPlain ds) : ds = n.repr.toList :=
  h.unique (isNumeral_repr n) hplain (isPlain_repr n)

/-- A plain numeral, after a minus sign if the number is negative. -/
inductive IsPlainInteger : List Char → Int → Prop
  | nonnegative {ds : List Char} {n : Nat} : IsNumeral ds n → IsPlain ds → IsPlainInteger ds n
  | negative {ds : List Char} {n : Nat} : 0 < n → IsNumeral ds n → IsPlain ds → IsPlainInteger ('-' :: ds) (-n)

theorem isPlainInteger_repr (i : Int) : IsPlainInteger i.repr.toList i := by
  rw [Int.repr_eq_if]
  by_cases hi : 0 ≤ i
  · rw [if_pos hi]
    have h := IsPlainInteger.nonnegative (isNumeral_repr i.toNat) (isPlain_repr _)
    rwa [Int.toNat_of_nonneg hi] at h
  · rw [if_neg hi]
    have h := IsPlainInteger.negative (by omega) (isNumeral_repr (-i).toNat) (isPlain_repr _)
    rw [Int.toNat_of_nonneg (by omega), Int.neg_neg] at h
    simpa using h

theorem IsPlainInteger.eq_repr {cs : List Char} {i : Int} (h : IsPlainInteger cs i) : cs = i.repr.toList := by
  rw [Int.repr_eq_if]
  cases h with
  | nonnegative h hplain =>
    rw [if_pos (Int.natCast_nonneg _)]
    exact h.eq_repr hplain
  | @negative ds n hn h hplain =>
    have hnegative : ¬ (0 : Int) ≤ -(n : Int) := by omega
    rw [if_neg hnegative, Int.neg_neg, Int.toNat_natCast, h.eq_repr hplain]
    simp

end RateCounter.Text
