/-
  RateCounter.Proofs.Mesh.Entry — what is written for an entry is read as that entry.

  Colons separate the three fields and stand in none of them, so a text splits at exactly
  the places where it was joined (`fieldsOf_append`). An entry whose numbers fit their ranges
  is read back from its text (`ofText?_toText`); an entry that was read fits (`ofText?_fits`).
-/

import RateCounter.Mesh.View
import RateCounter.Proofs.Text.Integer

namespace RateCounter.Mesh

/-- The times that can be written down. -/
def IsTime (t : Int) : Prop := minTime ≤ t ∧ t ≤ maxTime

instance (t : Int) : Decidable (IsTime t) := inferInstanceAs (Decidable (_ ∧ _))

namespace Entry

structure Fits (e : Entry) : Prop where
  start : IsTime e.start
  ends : IsTime e.ends
  count : e.count ≤ Word.max64

/-! ## Fields -/

theorem fieldsOf_append {field : List Char} (h : ':' ∉ field) (cs : List Char) :
    fieldsOf (field ++ ':' :: cs) = field :: fieldsOf cs := by
  induction field with
  | nil => simp [fieldsOf]
  | cons c field ih =>
    have hc : c ≠ ':' := fun e => h (by simp [e])
    have hfield : ':' ∉ field := fun hm => h (by simp [hm])
    rw [List.cons_append, fieldsOf, if_neg hc, ih hfield]

theorem fieldsOf_last {field : List Char} (h : ':' ∉ field) : fieldsOf field = [field] := by
  induction field with
  | nil => rfl
  | cons c field ih =>
    have hc : c ≠ ':' := fun e => h (by simp [e])
    have hfield : ':' ∉ field := fun hm => h (by simp [hm])
    rw [fieldsOf, if_neg hc, ih hfield]

theorem colon_notMem_nat (n : Nat) : ':' ∉ (toString n).toList := fun h =>
  absurd (Text.isDigit_of_mem_repr (n := n) h) (by decide)

theorem colon_notMem_int (i : Int) : ':' ∉ (toString i).toList := by
  rw [Int.toString_eq_repr, Int.repr_eq_if]
  split
  · exact colon_notMem_nat _
  · intro h
    have : ':' ∈ (-i).toNat.repr.toList := by simpa using h
    exact colon_notMem_nat _ this

theorem fieldsOf_toText (e : Entry) :
    fieldsOf e.toText.toList = [(toString e.start).toList, (toString e.ends).toList, (toString e.count).toList] := by
  have hsplit : e.toText.toList = (toString e.start).toList ++
      ':' :: ((toString e.ends).toList ++ ':' :: (toString e.count).toList) := by
    simp [toText]
  rw [hsplit, fieldsOf_append (colon_notMem_int _), fieldsOf_append (colon_notMem_int _),
    fieldsOf_last (colon_notMem_nat _)]

/-! ## Round trip -/

theorem signed?_time {t : Int} (h : IsTime t) : Text.signed? Word.count63 (toString t).toList = some t :=
  Text.int64?_toString h

theorem ofText?_toText {e : Entry} (h : e.Fits) : ofText? e.toText = some e := by
  have hcount : Text.unsigned? Word.max64 (toString e.count).toList = some e.count := Text.unsigned?_repr h.count
  unfold ofText?
  rw [fieldsOf_toText]
  simp only [signed?_time h.start, signed?_time h.ends, hcount]

theorem ofText?_fits {s : String} {e : Entry} (h : ofText? s = some e) : e.Fits := by
  have hsigned (cs : List Char) (t : Int) (ht : Text.signed? Word.count63 cs = some t) : IsTime t :=
    Text.int64?_bounds (s := String.ofList cs) (by simpa [Text.int64?] using ht)
  unfold ofText? at h
  split at h
  · split at h
    · rename_i hstart hends hcount
      cases h
      exact ⟨hsigned _ _ hstart, hsigned _ _ hends, Text.unsigned?_le hcount⟩
    · cases h
  · cases h

end Entry

end RateCounter.Mesh
