/-
  RateCounter.Proofs.Mesh.Values — what one node's values say of a key.

  Of all its values only two concern a key: the entry of its hits (`entryOf`) and its reset
  marker (`markerOf`). Publishing replaces the one that is published and leaves the other,
  and the values of all other keys, as they are. A sweep (`swept`) drops the entry if it is
  over and the marker if its lifetime is.
-/

import Std.Data.TreeMap.Lemmas
import RateCounter.Mesh.Node
import RateCounter.Proofs.Mesh.Entry

namespace RateCounter.Mesh

/-! ## Keys -/

theorem counterKey_inj {a b : String} : counterKey a = counterKey b ↔ a = b := by
  simp [counterKey]

theorem resetKey_inj {a b : String} : resetKey a = resetKey b ↔ a = b := by
  simp [resetKey]

theorem counterKey_ne_resetKey (a b : String) : counterKey a ≠ resetKey b := by
  intro h
  have := congrArg String.toList h
  simp [counterKey, resetKey] at this

theorem isPrefixOf_counterKey (key : String) : "counter|".isPrefixOf (counterKey key) = true := by
  simp [counterKey, String.isPrefixOf]

theorem isPrefixOf_resetKey (key : String) : "reset|".isPrefixOf (resetKey key) = true := by
  simp [resetKey, String.isPrefixOf]

theorem not_isPrefixOf_resetKey (key : String) : "counter|".isPrefixOf (resetKey key) = false := by
  rw [Bool.eq_false_iff, ne_eq]
  simp [resetKey, String.isPrefixOf]

namespace Values

def entryOf (values : Values) (key : String) : Option Entry := values[counterKey key]?.bind Entry.ofText?

def markerOf (values : Values) (key : String) : Option Int := values[resetKey key]?.bind Text.int64?

/-- The values that are left by a sweep. -/
def swept (values : Values) (now : Int) : Values := values.filter fun key value => !Node.isOutdated now key value

variable (values : Values)

theorem entryOf_fits {key : String} {e : Entry} (h : values.entryOf key = some e) : e.Fits := by
  obtain ⟨s, -, hs⟩ := Option.bind_eq_some_iff.mp h
  exact Entry.ofText?_fits hs

theorem markerOf_isTime {key : String} {m : Int} (h : values.markerOf key = some m) : IsTime m := by
  obtain ⟨s, -, hs⟩ := Option.bind_eq_some_iff.mp h
  exact Text.int64?_bounds hs

/-! ## Publishing -/

theorem entryOf_insert_entry (a b : String) {e : Entry} (he : e.Fits) :
    Values.entryOf (values.insert (counterKey a) e.toText) b = if a = b then some e else values.entryOf b := by
  unfold entryOf
  rw [Std.TreeMap.getElem?_insert]
  by_cases hab : a = b
  · subst hab
    simp [Entry.ofText?_toText he]
  · have hne : counterKey a ≠ counterKey b := fun h => hab (counterKey_inj.mp h)
    rw [if_neg (by simpa using hne), if_neg hab]

theorem markerOf_insert_entry (a b text : String) :
    Values.markerOf (values.insert (counterKey a) text) b = values.markerOf b := by
  unfold markerOf
  rw [Std.TreeMap.getElem?_insert, if_neg (by simpa using counterKey_ne_resetKey a b)]

theorem markerOf_insert_marker (a b : String) {m : Int} (hm : IsTime m) :
    Values.markerOf (values.insert (resetKey a) (toString m)) b = if a = b then some m else values.markerOf b := by
  unfold markerOf
  rw [Std.TreeMap.getElem?_insert]
  by_cases hab : a = b
  · subst hab
    simp only [Std.compare_self, ↓reduceIte, Option.bind_some]
    exact Text.int64?_toString hm
  · have hne : resetKey a ≠ resetKey b := fun h => hab (resetKey_inj.mp h)
    rw [if_neg (by simpa using hne), if_neg hab]

theorem entryOf_insert_marker (a b text : String) :
    Values.entryOf (values.insert (resetKey a) text) b = values.entryOf b := by
  unfold entryOf
  rw [Std.TreeMap.getElem?_insert, if_neg (by simpa using (counterKey_ne_resetKey b a).symm)]

/-- Whatever is put elsewhere leaves the entry of a key as it is. -/
theorem entryOf_insert_ne {place key : String} (h : place ≠ counterKey key) (text : String) :
    Values.entryOf (values.insert place text) key = values.entryOf key := by
  unfold entryOf
  rw [Std.TreeMap.getElem?_insert, if_neg (by simpa using h)]

theorem markerOf_insert_ne {place key : String} (h : place ≠ resetKey key) (text : String) :
    Values.markerOf (values.insert place text) key = values.markerOf key := by
  unfold markerOf
  rw [Std.TreeMap.getElem?_insert, if_neg (by simpa using h)]

/-! ## Sweeps -/

theorem entryOf_swept (now : Int) (key : String) :
    (values.swept now).entryOf key = (values.entryOf key).filter fun e => decide (now < e.ends) := by
  unfold entryOf swept
  rw [Std.TreeMap.getElem?_filter']
  cases values[counterKey key]? with
  | none => rfl
  | some text =>
    simp only [Node.isOutdated, isPrefixOf_counterKey, ↓reduceIte, Option.filter_some, Option.bind_some]
    cases h : Entry.ofText? text with
    | none => simp
    | some e =>
      by_cases hover : e.ends ≤ now
      · simp [Option.filter, hover]
      · simp [Option.filter, hover, h]

theorem markerOf_swept (now : Int) (key : String) :
    (values.swept now).markerOf key =
      (values.markerOf key).filter fun m => decide (now ≤ addTime m markerLifetime) := by
  unfold markerOf swept
  rw [Std.TreeMap.getElem?_filter']
  cases values[resetKey key]? with
  | none => rfl
  | some text =>
    simp only [Node.isOutdated, isPrefixOf_resetKey, not_isPrefixOf_resetKey, Bool.false_eq_true, ↓reduceIte,
      Option.filter_some, Option.bind_some]
    cases h : Text.int64? text with
    | none => simp
    | some m =>
      by_cases hold : addTime m markerLifetime < now
      · simp [Option.filter, hold]
      · simp [Option.filter, hold, h]

end Values

end RateCounter.Mesh
