/-
  RateCounter.Proofs.Text.Bytes — the order of texts by their bytes.

  UTF-8 keeps the order of the characters: of two characters the lesser has, at the first byte
  where they differ, the lesser byte, and no character begins with the bytes of another. So
  texts in ascending order of their characters are in ascending order of their bytes
  (`bytes_lt_iff`).
-/

import Mathlib.Data.String.Basic

namespace RateCounter.Text

/-- The bytes of a text in UTF-8. -/
def bytes (s : String) : List UInt8 := s.toByteArray.data.toList

theorem bytes_eq (s : String) : bytes s = s.toList.flatMap String.utf8EncodeChar := by
  conv_lhs => rw [← String.ofList_toList (s := s)]
  rw [bytes, String.toByteArray_ofList, List.utf8Encode]
  simp

/-- Two lists of bytes compared at their heads, as numbers. -/
theorem cons_lt_cons {m n : Nat} {xs ys : List UInt8} (hm : m < 256) (hn : n < 256) (hle : m ≤ n)
    (htail : m = n → xs < ys) : UInt8.ofNat m :: xs < UInt8.ofNat n :: ys := by
  rw [List.cons_lt_cons_iff, UInt8.lt_iff_toNat_lt, ← UInt8.toNat_inj, UInt8.toNat_ofNat_of_lt' hm,
    UInt8.toNat_ofNat_of_lt' hn]
  rcases Nat.lt_or_eq_of_le hle with hlt | heq
  · exact .inl hlt
  · exact .inr ⟨heq, htail heq⟩

/-- The bytes of the lesser of two characters come first, whatever follows. -/
theorem utf8EncodeChar_lt {c d : Char} (h : c < d) (xs ys : List UInt8) :
    String.utf8EncodeChar c ++ xs < String.utf8EncodeChar d ++ ys := by
  have hlt : c.val.toNat < d.val.toNat := h
  have hmax : d.val.toNat < 0x110000 := by
    have hvalid := d.valid
    simp only [UInt32.isValidChar, Nat.isValidChar] at hvalid
    omega
  unfold String.utf8EncodeChar
  generalize c.val.toNat = v at *
  generalize d.val.toNat = w at *
  -- The first byte tells how many there are; with as many, they are compared one by one.
  by_cases hw₁ : w ≤ 0x7f
  · have hv₁ : v ≤ 0x7f := by omega
    simp only [hv₁, hw₁, if_true, List.cons_append, List.nil_append]
    exact cons_lt_cons (by omega) (by omega) (by omega) fun _ => by omega
  by_cases hw₂ : w ≤ 0x7ff
  · by_cases hv₁ : v ≤ 0x7f
    · simp only [hv₁, hw₁, hw₂, if_true, if_false, List.cons_append, List.nil_append]
      exact cons_lt_cons (by omega) (by omega) (by omega) fun _ => by omega
    · have hv₂ : v ≤ 0x7ff := by omega
      simp only [hv₁, hv₂, hw₁, hw₂, if_true, if_false, List.cons_append, List.nil_append]
      refine cons_lt_cons (by omega) (by omega) (by omega) fun _ => ?_
      exact cons_lt_cons (by omega) (by omega) (by omega) fun _ => by omega
  by_cases hw₃ : w ≤ 0xffff
  · by_cases hv₁ : v ≤ 0x7f
    · simp only [hv₁, hw₁, hw₂, hw₃, if_true, if_false, List.cons_append, List.nil_append]
      exact cons_lt_cons (by omega) (by omega) (by omega) fun _ => by omega
    by_cases hv₂ : v ≤ 0x7ff
    · simp only [hv₁, hv₂, hw₁, hw₂, hw₃, if_true, if_false, List.cons_append, List.nil_append]
      exact cons_lt_cons (by omega) (by omega) (by omega) fun _ => by omega
    · have hv₃ : v ≤ 0xffff := by omega
      simp only [hv₁, hv₂, hv₃, hw₁, hw₂, hw₃, if_true, if_false, List.cons_append, List.nil_append]
      refine cons_lt_cons (by omega) (by omega) (by omega) fun _ => ?_
      refine cons_lt_cons (by omega) (by omega) (by omega) fun _ => ?_
      exact cons_lt_cons (by omega) (by omega) (by omega) fun _ => by omega
  by_cases hv₁ : v ≤ 0x7f
  · simp only [hv₁, hw₁, hw₂, hw₃, if_true, if_false, List.cons_append, List.nil_append]
    exact cons_lt_cons (by omega) (by omega) (by omega) fun _ => by omega
  by_cases hv₂ : v ≤ 0x7ff
  · simp only [hv₁, hv₂, hw₁, hw₂, hw₃, if_true, if_false, List.cons_append, List.nil_append]
    exact cons_lt_cons (by omega) (by omega) (by omega) fun _ => by omega
  by_cases hv₃ : v ≤ 0xffff
  · simp only [hv₁, hv₂, hv₃, hw₁, hw₂, hw₃, if_true, if_false, List.cons_append, List.nil_append]
    exact cons_lt_cons (by omega) (by omega) (by omega) fun _ => by omega
  · simp only [hv₁, hv₂, hv₃, hw₁, hw₂, hw₃, if_false, List.cons_append, List.nil_append]
    refine cons_lt_cons (by omega) (by omega) (by omega) fun _ => ?_
    refine cons_lt_cons (by omega) (by omega) (by omega) fun _ => ?_
    refine cons_lt_cons (by omega) (by omega) (by omega) fun _ => ?_
    exact cons_lt_cons (by omega) (by omega) (by omega) fun _ => by omega

theorem flatMap_utf8EncodeChar_lt {cs ds : List Char} (h : cs < ds) :
    cs.flatMap String.utf8EncodeChar < ds.flatMap String.utf8EncodeChar := by
  induction cs generalizing ds with
  | nil =>
    cases ds with
    | nil => exact absurd h (List.lt_irrefl _)
    | cons d ds =>
      obtain ⟨b, bs, hbs⟩ := List.exists_cons_of_ne_nil (String.utf8EncodeChar_ne_nil (c := d))
      rw [List.flatMap_cons, hbs]
      exact List.nil_lt_cons _ _
  | cons c cs ih =>
    cases ds with
    | nil => exact absurd h (List.not_lt_nil _)
    | cons d ds =>
      rw [List.flatMap_cons, List.flatMap_cons]
      rcases List.cons_lt_cons_iff.mp h with hlt | ⟨rfl, hlt⟩
      · exact utf8EncodeChar_lt hlt _ _
      · exact List.append_left_lt (ih hlt)

theorem bytes_lt_bytes {s t : String} (h : s < t) : bytes s < bytes t := by
  rw [bytes_eq, bytes_eq]
  exact flatMap_utf8EncodeChar_lt (String.lt_iff_toList_lt.mp h)

/-- The order of texts is the order of their bytes. -/
theorem bytes_lt_iff {s t : String} : bytes s < bytes t ↔ s < t := by
  constructor
  · intro h
    rcases lt_trichotomy s t with hlt | rfl | hgt
    · exact hlt
    · exact absurd h (List.lt_irrefl _)
    · exact absurd h (List.lt_asymm (bytes_lt_bytes hgt))
  · exact bytes_lt_bytes

theorem bytes_le_iff {s t : String} : bytes s ≤ bytes t ↔ s ≤ t := by
  rw [← List.not_lt, bytes_lt_iff, not_lt]

end RateCounter.Text
