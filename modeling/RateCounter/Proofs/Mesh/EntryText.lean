/-
  RateCounter.Proofs.Mesh.EntryText — which texts are entries.

  `WrittenAs` says it without reading: three numbers that fit their ranges, with single colons
  between them, the first two with any sign or none, the last with a plus sign or none. As no
  number contains a colon, there is no further one.
  - `ofText?_eq_some_iff`: these texts are read, as what they say, and no others.
  - `canonical_iff`: of the texts of an entry one is plain, and that is the one written.
  - `text_exact`: so reading undoes writing, different entries have different texts, and
    writing what was read makes its text canonical.
-/

import RateCounter.Proofs.Mesh.Entry
import RateCounter.Proofs.Text.Numeral

namespace RateCounter.Mesh.Entry

open Text (IsNumeral IsPlain IsPlainInteger IsSigned IsUnsigned)

variable {s : String} {e : Entry}

/-! ## Texts of entries -/

/-- The three fields of a text. -/
structure Joined (s : String) (start ends count : List Char) : Prop where
  eq : s.toList = start ++ ':' :: (ends ++ ':' :: count)

structure WrittenAs (s : String) (e : Entry) : Prop where
  fields : ∃ start ends count, Joined s start ends count ∧ IsSigned start e.start ∧ IsSigned ends e.ends ∧
    IsUnsigned count e.count
  fits : e.Fits

/-- No plus signs, no minus sign before a zero, and no zeros in front. -/
def Canonical (s : String) (e : Entry) : Prop :=
  ∃ start ends count, Joined s start ends count ∧ IsPlainInteger start e.start ∧ IsPlainInteger ends e.ends ∧
    IsNumeral count e.count ∧ IsPlain count

/-! ## Colons -/

theorem colon_notMem_numeral {ds : List Char} {n : Nat} (h : IsNumeral ds n) : ':' ∉ ds := fun hcolon =>
  absurd (h.digits ':' hcolon) (by decide)

theorem colon_notMem_signed {cs : List Char} {i : Int} (h : IsSigned cs i) : ':' ∉ cs := by
  cases h with
  | bare h => exact colon_notMem_numeral h
  | plus h => simpa using colon_notMem_numeral h
  | minus h => simpa using colon_notMem_numeral h

theorem colon_notMem_unsigned {cs : List Char} {n : Nat} (h : IsUnsigned cs n) : ':' ∉ cs := by
  cases h with
  | bare h => exact colon_notMem_numeral h
  | plus h => simpa using colon_notMem_numeral h

theorem exists_fieldsOf (cs : List Char) : ∃ field rest, fieldsOf cs = field :: rest := by
  cases cs with
  | nil => exact ⟨[], [], rfl⟩
  | cons c cs =>
    unfold fieldsOf
    split
    · exact ⟨_, _, rfl⟩
    · split
      · exact ⟨_, _, rfl⟩
      · exact ⟨_, _, rfl⟩

/-- The fields with the colons between them are the text again. -/
theorem intercalate_fieldsOf (cs : List Char) : [':'].intercalate (fieldsOf cs) = cs := by
  induction cs with
  | nil => rfl
  | cons c cs ih =>
    obtain ⟨field, rest, hfields⟩ := exists_fieldsOf cs
    unfold fieldsOf
    rw [hfields] at ih ⊢
    by_cases hc : c = ':'
    · rw [if_pos hc, hc, ← ih]
      rfl
    · rw [if_neg hc, ← ih]
      cases rest with
      | nil => rfl
      | cons second rest => rfl

theorem joined_of_fieldsOf {start ends count : List Char} (h : fieldsOf s.toList = [start, ends, count]) :
    Joined s start ends count := by
  have htext := intercalate_fieldsOf s.toList
  rw [h] at htext
  exact ⟨htext.symm.trans (by simp [List.intercalate])⟩

/-! ## Reading -/

theorem signed?_time_iff {cs : List Char} {t : Int} :
    Text.signed? Word.count63 cs = some t ↔ IsSigned cs t ∧ IsTime t := by
  rw [Text.signed?_eq_some_iff (by decide)]
  refine and_congr_right fun _ => ?_
  simp only [IsTime, minTime, maxTime, Word.min63, Word.max63, Word.count63]
  omega

theorem ofText?_eq_some_iff : ofText? s = some e ↔ WrittenAs s e := by
  constructor
  · intro h
    have hfits := ofText?_fits h
    unfold ofText? at h
    split at h
    · rename_i start ends count hfields
      split at h
      · rename_i hstart hends hcount
        cases h
        exact ⟨⟨start, ends, count, joined_of_fieldsOf hfields, (signed?_time_iff.mp hstart).1,
          (signed?_time_iff.mp hends).1, (Text.unsigned?_eq_some_iff.mp hcount).1⟩, hfits⟩
      · cases h
    · cases h
  · rintro ⟨⟨start, ends, count, hjoined, hstart, hends, hcount⟩, hfits⟩
    have hfields : fieldsOf s.toList = [start, ends, count] := by
      rw [hjoined.eq, fieldsOf_append (colon_notMem_signed hstart), fieldsOf_append (colon_notMem_signed hends),
        fieldsOf_last (colon_notMem_unsigned hcount)]
    unfold ofText?
    rw [hfields]
    simp only [signed?_time_iff.mpr ⟨hstart, hfits.start⟩, signed?_time_iff.mpr ⟨hends, hfits.ends⟩,
      Text.unsigned?_eq_some_iff.mpr ⟨hcount, hfits.count⟩]

/-! ## Writing -/

theorem joined_toText (e : Entry) : Joined e.toText e.start.repr.toList e.ends.repr.toList e.count.repr.toList :=
  ⟨by simp [toText]⟩

theorem canonical_iff : Canonical s e ↔ s = e.toText := by
  constructor
  · rintro ⟨start, ends, count, hjoined, hstart, hends, hcount, hplain⟩
    apply String.toList_inj.mp
    rw [hjoined.eq, (joined_toText e).eq, hstart.eq_repr, hends.eq_repr, hcount.eq_repr hplain]
  · rintro rfl
    exact ⟨_, _, _, joined_toText e, Text.isPlainInteger_repr _, Text.isPlainInteger_repr _, Text.isNumeral_repr _,
      Text.isPlain_repr _⟩

/-- Any times of 64 bits and any count of 64 bits; any text. -/
theorem text_exact :
    (∀ e : Entry, e.Fits → ofText? e.toText = some e) ∧
      (∀ (s : String) (e : Entry), ofText? s = some e ↔ WrittenAs s e) ∧
      (∀ e e' : Entry, e.Fits → e'.Fits → e.toText = e'.toText → e = e') ∧
      ∀ (s : String) (e : Entry), ofText? s = some e →
        ofText? e.toText = some e ∧ ∀ s', Canonical s' e ↔ s' = e.toText := by
  refine ⟨fun e he => ofText?_toText he, fun s e => ofText?_eq_some_iff, fun e e' he he' htext => ?_, fun s e h => ?_⟩
  · have hread := ofText?_toText he
    rw [htext, ofText?_toText he'] at hread
    exact (Option.some.inj hread).symm
  · exact ⟨ofText?_toText (ofText?_fits h), fun s' => canonical_iff⟩

/-- The entry with all numbers at their limits, and one spelled with signs and zeros to spare. -/
theorem text_exact_limits :
    let limits : Entry := ⟨minTime, maxTime, Word.max64⟩
    let plain : Entry := ⟨7, 0, 10⟩
    limits.Fits ∧ plain.Fits ∧ ofText? limits.toText = some limits ∧ (plain.toText = limits.toText → plain = limits) ∧
      WrittenAs "+007:-0:+0010" plain ∧ ofText? "+007:-0:+0010" = some plain ∧ Canonical "7:0:10" plain := by
  intro limits plain
  have hlimits : limits.Fits := ⟨by decide, by decide, by decide⟩
  have hplain : plain.Fits := ⟨by decide, by decide, by decide⟩
  have hread : ofText? "+007:-0:+0010" = some plain := by decide +kernel
  obtain ⟨hround, hexact, hinjective, hagain⟩ := text_exact
  refine ⟨hlimits, hplain, hround limits hlimits, hinjective plain limits hplain hlimits, (hexact _ _).mp hread, hread,
    ?_⟩
  exact ((hagain _ _ hread).2 "7:0:10").mpr (by decide +kernel)

/-- A missing field, a further colon, a sign where none may be, a number out of range, digits of another script. -/
example : ["1:2", "1:2:3:", "1:2:-3", "9223372036854775808:2:3", "1:٢:3"].map ofText? =
    [none, none, none, none, none] := by
  decide +kernel

end RateCounter.Mesh.Entry
