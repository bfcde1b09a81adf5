/-
  RateCounter.Proofs.Json.Fields — the fields of objects.

  Objects keep their fields in ascending order of the bytes of the names, each name once
  (`Ascending`): so it is of whatever is put together field by field (`ascending_foldl_put`).
  A field that may be left out has the value given for it, or its default (`Given`).
-/

import RateCounter.Json
import RateCounter.Proofs.Text.Bytes

namespace RateCounter.Json

/-! ## Ascending fields -/

def Ascending (fields : Fields) : Prop := fields.Pairwise fun a b => Text.bytes a.1 < Text.bytes b.1

theorem mem_put {name : String} {value : Json} {fields : Fields} {f : String × Json} (h : f ∈ put name value fields) :
    f = (name, value) ∨ f ∈ fields := by
  induction fields with
  | nil => simpa [put] using h
  | cons e rest ih =>
    obtain ⟨k, v⟩ := e
    unfold put at h
    split at h
    · simpa using h
    split at h
    · rcases List.mem_cons.mp h with h | h
      · exact .inl h
      · exact .inr (List.mem_cons_of_mem _ h)
    · rcases List.mem_cons.mp h with h | h
      · exact .inr (h ▸ List.mem_cons_self)
      · rcases ih h with h | h
        · exact .inl h
        · exact .inr (List.mem_cons_of_mem _ h)

theorem Ascending.put {fields : Fields} (h : Ascending fields) (name : String) (value : Json) :
    Ascending (put name value fields) := by
  induction fields with
  | nil => exact List.pairwise_singleton _ _
  | cons e rest ih =>
    obtain ⟨k, v⟩ := e
    obtain ⟨hk, hrest⟩ := List.pairwise_cons.mp h
    unfold Json.put
    split
    · rename_i hlt
      refine List.pairwise_cons.mpr ⟨fun f hf => ?_, h⟩
      rcases List.mem_cons.mp hf with rfl | hf
      · exact Text.bytes_lt_iff.mpr hlt
      · exact Text.bytes_lt_iff.mpr (lt_trans hlt (Text.bytes_lt_iff.mp (hk f hf)))
    split
    · rename_i heq
      subst heq
      exact List.pairwise_cons.mpr ⟨hk, hrest⟩
    · rename_i hnlt hne
      refine List.pairwise_cons.mpr ⟨fun f hf => ?_, ih hrest⟩
      rcases mem_put hf with rfl | hf
      · exact Text.bytes_lt_iff.mpr (lt_of_le_of_ne (not_lt.mp hnlt) (Ne.symm hne))
      · exact hk f hf

/-- Whatever the order in which fields come, they are put into ascending order. -/
theorem ascending_foldl_put {acc : Fields} (h : Ascending acc) (fields : Fields) :
    Ascending (fields.foldl (fun acc f => put f.1 f.2 acc) acc) := by
  induction fields generalizing acc with
  | nil => exact h
  | cons f rest ih => exact ih (h.put f.1 f.2)

theorem Ascending.names_nodup {fields : Fields} (h : Ascending fields) : (fields.map Prod.fst).Nodup := by
  rw [List.Nodup, List.pairwise_map]
  refine h.imp ?_
  intro a b hlt heq
  rw [heq] at hlt
  exact List.lt_irrefl _ hlt

/-- Of the fields of an ascending list the first that has a property has the least name. -/
theorem Ascending.le_of_first {before after : Fields} {f g : String × Json} (h : Ascending (before ++ f :: after))
    (hg : g ∈ before ++ f :: after) (hfirst : g ∉ before) : Text.bytes f.1 ≤ Text.bytes g.1 := by
  rcases List.mem_append.mp hg with hg | hg
  · exact absurd hg hfirst
  · rcases List.mem_cons.mp hg with rfl | hg
    · exact List.le_refl _
    · have hlt := (List.pairwise_cons.mp (List.pairwise_append.mp h).2.1).1 g hg
      exact List.le_of_lt hlt

/-! ## Values -/

def IsText (j : Json) (s : String) : Prop := j = .text s

def IsWord64 (j : Json) (n : UInt64) : Prop := j = .int n.toNat

/-! ## Fields by name -/

theorem lookup_eq_some_iff {fields : Fields} (hnodup : (fields.map Prod.fst).Nodup) {name : String} {value : Json} :
    fields.lookup name = some value ↔ (name, value) ∈ fields := by
  induction fields with
  | nil => simp
  | cons e rest ih =>
    obtain ⟨k, v⟩ := e
    obtain ⟨hk, hrest⟩ := List.nodup_cons.mp hnodup
    rw [List.lookup_cons, List.mem_cons, Prod.mk.injEq]
    by_cases hname : name = k
    · subst hname
      have hrest : (name, value) ∉ rest := fun hmem => hk (List.mem_map.mpr ⟨_, hmem, rfl⟩)
      simp [hrest, eq_comm]
    · have hbeq : (name == k) = false := beq_false_of_ne hname
      simp [hbeq, hname, ih hrest]

/-- A field that may be left out: its default stands for it. -/
inductive Given {α : Type} (Says : Json → α → Prop) (default : α) : Option Json → α → Prop
  | omitted : Given Says default none default
  | given {j : Json} {a : α} : Says j a → Given Says default (some j) a

section

variable {α : Type} {Says : Json → α → Prop} {default a : α} {given : Option Json}

theorem Given.exists_of_ne (h : Given Says default given a) (hne : a ≠ default) : ∃ j, given = some j ∧ Says j a := by
  cases h with
  | omitted => exact absurd rfl hne
  | given h => exact ⟨_, rfl, h⟩

end

end RateCounter.Json
