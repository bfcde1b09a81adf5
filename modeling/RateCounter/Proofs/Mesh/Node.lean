/-
  RateCounter.Proofs.Mesh.Node — what a hit, a reset and a sweep do to a node's view.

  None of them touches what the node knows of the others. A hit publishes an entry that fits
  and is regular, so views stay regular (`Regular.perform`). A sweep, also the one that every
  256th hit makes, changes no window from then on (`window?_sweep`, `window?_pace`).
-/

import RateCounter.Proofs.Mesh.View

namespace RateCounter.Mesh

namespace Values

/-- All entries among the values, with their keys. -/
def All (P : String → Entry → Prop) (values : Values) : Prop := ∀ key e, values.entryOf key = some e → P key e

variable {P : String → Entry → Prop} {values : Values}

theorem all_empty : Values.All P {} := by
  intro key e h
  simp [entryOf] at h

theorem All.insert_entry (h : values.All P) {key : String} {e : Entry} (hfits : e.Fits) (he : P key e) :
    Values.All P (values.insert (counterKey key) e.toText) := by
  intro key' e' h'
  rw [entryOf_insert_entry values key key' hfits] at h'
  split at h'
  · rename_i hkey
    cases h'; exact hkey ▸ he
  · exact h key' e' h'

theorem All.insert_marker (h : values.All P) (key text : String) :
    Values.All P (values.insert (resetKey key) text) := by
  intro key' e' h'
  rw [entryOf_insert_marker] at h'
  exact h key' e' h'

theorem All.swept (h : values.All P) (now : Int) : (values.swept now).All P := by
  intro key e h'
  rw [entryOf_swept] at h'
  exact h key e (Option.filter_eq_some_iff.mp h').1

end Values

namespace Node

open View (opening recent hits isAfter)

variable {P : String → Entry → Prop} {n : Node} {key : String} {now t length : Int}

/-- All entries that the node knows of, its own and those of others. -/
def All (P : String → Entry → Prop) (n : Node) : Prop := ∀ values ∈ n.view, values.All P

def Regular (n : Node) : Prop := n.All fun _ e => e.Regular

theorem All.entries (h : n.All P) (key : String) : ∀ e ∈ n.view.entries key, P key e := by
  intro e he
  obtain ⟨values, hvalues, hentry⟩ := View.mem_entries.mp he
  exact h values hvalues key e hentry

theorem Regular.entries (h : n.Regular) (key : String) : ∀ e ∈ n.view.entries key, e.Regular :=
  All.entries h key

theorem All.own (h : n.All P) : n.own.All P := h n.own List.mem_cons_self

theorem All.of_own (h : n.All P) {m : Node} (hown : m.own.All P) (hothers : m.others = n.others) : m.All P := by
  intro values hmem
  unfold view at hmem
  rw [hothers] at hmem
  rcases List.mem_cons.mp hmem with rfl | hmem
  · exact hown
  · exact h values (List.mem_cons_of_mem _ hmem)

theorem all_start : start.All P := by
  intro values hmem
  rw [List.mem_singleton.mp hmem]
  exact Values.all_empty

theorem openingTime_eq (n : Node) (key : String) (now : Int) :
    n.openingTime key now = opening (n.view.latestReset key) now := rfl

/-! ## Sweeps -/

theorem sweep_view (n : Node) (now : Int) : (n.sweep now).view = n.own.swept now :: n.others.map (·.2) := rfl

theorem window?_sweep (h : n.Regular) (ht : now ≤ t) : (n.sweep now).window? key t = n.window? key t :=
  View.window?_swept (h.entries key) ht

theorem All.sweep (h : n.All P) (now : Int) : (n.sweep now).All P :=
  h.of_own (h.own.swept now) rfl

theorem pace_own (n : Node) (now : Int) : (n.pace now).own = n.own ∨ (n.pace now).own = n.own.swept now := by
  unfold pace
  dsimp only
  split
  · exact .inr rfl
  · exact .inl rfl

theorem pace_others (n : Node) (now : Int) : (n.pace now).others = n.others := by
  unfold pace
  dsimp only
  split
  · rfl
  · rfl

theorem pace_view (n : Node) (now : Int) : (n.pace now).view = n.view ∨ (n.pace now).view = (n.sweep now).view := by
  unfold view
  rw [pace_others]
  exact (pace_own n now).imp (congrArg (· :: _)) (congrArg (· :: _))

theorem window?_pace (h : n.Regular) (ht : now ≤ t) : (n.pace now).window? key t = n.window? key t := by
  rcases pace_view n now with hview | hview
  · exact congrArg (View.window? · key t) hview
  · exact (congrArg (View.window? · key t) hview).trans (window?_sweep h ht)

theorem All.pace (h : n.All P) (now : Int) : (n.pace now).All P := by
  refine h.of_own ?_ (pace_others n now)
  rcases pace_own n now with heq | heq
  · rw [heq]; exact h.own
  · rw [heq]; exact h.own.swept now

/-! ## Publishing -/

/-- The values of the others. -/
def theirs (n : Node) : View := n.others.map (·.2)

variable {e : Entry}

theorem entries_view (n : Node) (key : String) :
    n.view.entries key = (n.own.entryOf key).toList ++ n.theirs.entries key :=
  View.entries_cons n.own n.theirs key

theorem latestReset_view (n : Node) (key : String) :
    n.view.latestReset key = max (n.own.markerOf key) (n.theirs.latestReset key) :=
  View.latestReset_cons n.own n.theirs key

theorem entries_publish (n : Node) (key : String) (he : e.Fits) :
    (n.publish (counterKey key) e.toText).view.entries key = e :: n.theirs.entries key := by
  rw [entries_view]
  show (Values.entryOf (n.own.insert (counterKey key) e.toText) key).toList ++ n.theirs.entries key = _
  rw [Values.entryOf_insert_entry _ _ _ he, if_pos rfl]
  rfl

theorem entries_publish_other (n : Node) {a b : String} (hab : a ≠ b) (he : e.Fits) :
    (n.publish (counterKey a) e.toText).view.entries b = n.view.entries b := by
  rw [entries_view, entries_view]
  show (Values.entryOf (n.own.insert (counterKey a) e.toText) b).toList ++ n.theirs.entries b = _
  rw [Values.entryOf_insert_entry _ _ _ he, if_neg hab]

theorem latestReset_publish (n : Node) (a b text : String) :
    (n.publish (counterKey a) text).view.latestReset b = n.view.latestReset b := by
  rw [latestReset_view, latestReset_view]
  show max (Values.markerOf (n.own.insert (counterKey a) text) b) (n.theirs.latestReset b) = _
  rw [Values.markerOf_insert_entry]

theorem entries_publish_marker (n : Node) (a b text : String) :
    (n.publish (resetKey a) text).view.entries b = n.view.entries b := by
  rw [entries_view, entries_view]
  show (Values.entryOf (n.own.insert (resetKey a) text) b).toList ++ n.theirs.entries b = _
  rw [Values.entryOf_insert_marker]

theorem latestReset_publish_marker (n : Node) (key : String) {m : Int} (hm : IsTime m) :
    (n.publish (resetKey key) (toString m)).view.latestReset key = max (some m) (n.theirs.latestReset key) := by
  rw [latestReset_view]
  show max (Values.markerOf (n.own.insert (resetKey key) (toString m)) key) (n.theirs.latestReset key) = _
  rw [Values.markerOf_insert_marker _ _ _ hm, if_pos rfl]

theorem latestReset_publish_marker_other (n : Node) {a b : String} (hab : a ≠ b) {m : Int} (hm : IsTime m) :
    (n.publish (resetKey a) (toString m)).view.latestReset b = n.view.latestReset b := by
  rw [latestReset_view, latestReset_view]
  show max (Values.markerOf (n.own.insert (resetKey a) (toString m)) b) (n.theirs.latestReset b) = _
  rw [Values.markerOf_insert_marker _ _ _ hm, if_neg hab]

/-! ## Hits -/

theorem ownCount_bounds (n : Node) (key : String) (start : Int) :
    1 ≤ n.ownCount key start ∧ n.ownCount key start ≤ Word.max64 := by
  unfold ownCount addCount
  split
  · split
    · simp only [Word.max64]; omega
    · decide
  · decide

theorem ownCount_eq_hits (n : Node) (key : String) (start : Int) : n.ownCount key start =
    min (hits ((n.own.entryOf key).toList.filter fun e => decide (e.start = start)) + 1) Word.max64 := by
  unfold ownCount
  have hown : n.ownEntry? key = n.own.entryOf key := rfl
  rw [hown]
  cases n.own.entryOf key with
  | none => rfl
  | some e =>
    by_cases hstart : e.start = start
    · simp [hstart, addCount]
    · simp [hstart, Word.max64]

theorem opening_isTime (marker : Option Int) (hnow : IsTime now) : IsTime (opening marker now) := by
  cases marker with
  | none => exact hnow
  | some m =>
    have hnext := addTime_isTime m 1
    obtain ⟨hlow, hhigh⟩ := hnow
    obtain ⟨-, hnext⟩ := hnext
    show minTime ≤ max now (addTime m 1) ∧ max now (addTime m 1) ≤ maxTime
    omega

theorem entry_mem_view (h : n.Regular) {e : Entry} (he : e ∈ n.view.entries key) : e.Fits ∧ e.Regular := by
  obtain ⟨values, -, hentry⟩ := View.mem_entries.mp he
  exact ⟨values.entryOf_fits hentry, h.entries key e he⟩

theorem group_fits (h : n.Regular) {start : Int} {e : Entry} (he : e ∈ n.view.group key now start) :
    e.Fits ∧ e.Regular ∧ e.start = start := by
  obtain ⟨hopen, hstart⟩ := View.mem_group.mp he
  obtain ⟨hfits, hregular⟩ := entry_mem_view h (View.mem_openEntries.mp hopen).1
  exact ⟨hfits, hregular, hstart⟩

/-- The window that regular entries make is one that an entry can have. -/
theorem window?_entry (h : n.Regular) {w : SharedWindow} (hw : n.window? key now = some w) {c : Nat}
    (hc : 1 ≤ c ∧ c ≤ Word.max64) : Entry.Fits ⟨w.start, w.ends, c⟩ ∧ Entry.Regular ⟨w.start, w.ends, c⟩ := by
  have hshows := View.window?_eq_some_iff.mp hw
  obtain ⟨e, he⟩ := hshows.inhabited
  obtain ⟨hfits, hregular, hstart⟩ := group_fits h he
  have htime : IsTime w.start := hstart ▸ hfits.start
  have hends := hshows.le_ends he
  have hstarts : w.start ≤ e.ends := hstart ▸ hregular.starts
  have hmax : w.ends ≤ maxTime :=
    hshows.ends_le_iff.mpr ⟨htime.2, fun e' he' => (group_fits h he').1.ends.2⟩
  have hopens : w.ends < maxTime → w.start < w.ends := by
    intro hlast
    have := hregular.opens (Int.lt_of_le_of_lt hends hlast)
    omega
  have hlasts : w.ends ≤ addTime w.start markerLifetime := by
    refine hshows.ends_le_iff.mpr ⟨le_addTime htime (Int.le_trans (by decide) one_le_markerLifetime), ?_⟩
    intro e' he'
    obtain ⟨-, hregular', hstart'⟩ := group_fits h he'
    exact hstart' ▸ hregular'.lasts
  have hle := Int.le_trans hstarts hends
  exact ⟨⟨htime, ⟨Int.le_trans htime.1 hle, hmax⟩, hc.2⟩, ⟨hc.1, hle, hopens, hlasts⟩⟩

theorem entryFor_joined {w : SharedWindow} (hw : n.window? key now = some w) :
    n.entryFor key length now =
      (⟨w.start, w.ends, n.ownCount key w.start⟩, { w with total := addCount w.total 1 }) := by
  unfold entryFor
  rw [hw]

theorem entryFor_opened (hw : n.window? key now = none) :
    n.entryFor key length now = (⟨n.openingTime key now, addTime (n.openingTime key now) length, 1⟩,
      ⟨n.openingTime key now, addTime (n.openingTime key now) length, 1⟩) := by
  unfold entryFor
  rw [hw]

/-! ## Resets -/

theorem latestReset_le_openingTime {m : Int} (hm : n.view.latestReset key = some m) : m ≤ n.openingTime key now := by
  rw [openingTime_eq, hm]
  exact View.le_opening_of_marker (View.latestReset_isTime hm) now

/-- A reset's marker is the newest that the node knows of. -/
theorem latestReset_reset (n : Node) (key : String) (hnow : IsTime now) :
    (n.reset key now).view.latestReset key = some (n.openingTime key now) := by
  have htime : IsTime (n.openingTime key now) := opening_isTime _ hnow
  show (n.publish (resetKey key) (toString (n.openingTime key now))).view.latestReset key = _
  rw [latestReset_publish_marker n key htime]
  cases htheirs : n.theirs.latestReset key with
  | none => rfl
  | some m =>
    have hle : m ≤ n.openingTime key now := by
      have hview := latestReset_view n key
      rw [htheirs] at hview
      cases hown : n.own.markerOf key with
      | none =>
        rw [hown] at hview
        exact latestReset_le_openingTime hview
      | some m' =>
        rw [hown] at hview
        exact Int.le_trans (Int.le_max_right m' m) (latestReset_le_openingTime hview)
    show some (max (n.openingTime key now) m) = _
    rw [Int.max_eq_left hle]

/-! ## Operations -/

variable (hlength : 1 ≤ length ∧ length ≤ markerLifetime) (hnow : IsTime now)
include hlength hnow

theorem entryFor_fits (h : n.Regular) (key : String) :
    (n.entryFor key length now).1.Fits ∧ (n.entryFor key length now).1.Regular := by
  cases hw : n.window? key now with
  | some w =>
    rw [entryFor_joined hw]
    exact window?_entry h hw (ownCount_bounds n key w.start)
  | none =>
    have hstart : IsTime (n.openingTime key now) := opening_isTime _ hnow
    rw [entryFor_opened hw]
    refine ⟨⟨hstart, addTime_isTime _ _, by simp only [Word.max64]; omega⟩, ⟨Nat.le_refl 1, ?_, ?_, ?_⟩⟩
    · exact le_addTime hstart (by omega)
    · exact lt_addTime (by omega)
    · exact addTime_le_addTime (Int.le_refl _) hlength.2

theorem All.increment (hregular : n.Regular) (h : n.All P) (he : P key (n.entryFor key length now).1) :
    (n.increment key length now).1.All P := by
  have hown := h.own.insert_entry (entryFor_fits hlength hnow hregular key).1 he
  exact All.pace (h.of_own (m := n.publish (counterKey key) (n.entryFor key length now).1.toText) hown rfl) now

omit hlength hnow

theorem increment_others (n : Node) (key : String) (length now : Int) :
    (n.increment key length now).1.others = n.others :=
  pace_others _ _

theorem accept_eq {window ns : Nat} (h : Window.accept window = .ok ns) : ns = window := by
  unfold Window.accept at h
  split at h
  · cases h
  · split at h
    · cases h
    · cases h; rfl

theorem accept_length {window ns : Nat} (h : Window.accept window = .ok ns) :
    1 ≤ lengthOf ns ∧ lengthOf ns ≤ markerLifetime := by
  unfold Window.accept at h
  split at h
  · cases h
  · split at h
    · cases h
    · cases h
      have hlifetime : markerLifetime = 31622400000 := by decide
      have hmax : maxWindow = 31622400000000000 := by decide
      have hmilli : nanosPerMilli = 1000000 := rfl
      unfold lengthOf
      rw [hlifetime, hmilli]
      omega

theorem perform_others (n : Node) (op : Operation) (now : Instant) : (n.perform op now).1.others = n.others := by
  unfold perform
  cases op with
  | increment key window =>
    dsimp only
    split
    · rfl
    · exact increment_others _ _ _ _
  | count key => rfl
  | resetTime key => dsimp only; split <;> rfl
  | reset key => rfl

/-- An operation keeps what holds of all entries if it holds of those that hits publish. -/
theorem All.perform {now : Instant} (hnow : IsTime now.toMillis) (hregular : n.Regular) (h : n.All P) {op : Operation}
    (hhit : ∀ key ns, op = .increment key ns → Window.accept ns = .ok ns →
      P key (n.entryFor key (lengthOf ns) now.toMillis).1) : (n.perform op now).1.All P := by
  unfold Node.perform
  cases op with
  | increment key window =>
    dsimp only
    split
    · exact h
    · rename_i ns hw
      obtain rfl := accept_eq hw
      exact h.increment (accept_length hw) hnow hregular (hhit key ns rfl hw)
  | count key => exact h
  | resetTime key => dsimp only; split <;> exact h
  | reset key => exact h.of_own (h.own.insert_marker key _) rfl

theorem Regular.perform {now : Instant} (hnow : IsTime now.toMillis) (h : n.Regular) (op : Operation) :
    (n.perform op now).1.Regular :=
  All.perform hnow h h fun key _ _ hw => (entryFor_fits (accept_length hw) hnow h key).2

end Node

end RateCounter.Mesh
