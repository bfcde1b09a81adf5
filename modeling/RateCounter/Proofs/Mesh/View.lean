/-
  RateCounter.Proofs.Mesh.View — the window of a key, whoever looks.

  The order in which the nodes stand in a view is irrelevant (`window?_perm`). A window is
  made of open entries with the latest start: it starts there, ends no sooner than any of
  them, and its total is the sum of their counts, stopped at 2^64 − 1 (`window?_of_latest`,
  `latest_of_window?`, `combine_total`).

  Entries that nodes publish are regular: they have a hit, and last at most as long as a
  marker lives. So a marker whose life is over hides no entry that is still open
  (`isAfter_recent`), and puts off no window (`opening_recent`).
-/

import RateCounter.Proofs.Mesh.Values

namespace RateCounter.Mesh

/-! ## Arithmetic -/

theorem addTime_isTime (a b : Int) : IsTime (addTime a b) := by
  unfold IsTime addTime minTime maxTime Word.min63 Word.max63
  omega

theorem addTime_le_addTime {a a' b b' : Int} (ha : a ≤ a') (hb : b ≤ b') : addTime a b ≤ addTime a' b' := by
  unfold addTime
  omega

theorem le_addTime {a b : Int} (ha : IsTime a) (hb : 0 ≤ b) : a ≤ addTime a b := by
  obtain ⟨hlow, hhigh⟩ := ha
  unfold addTime
  omega

theorem lt_addTime {a b : Int} (hb : 1 ≤ b) (hlast : addTime a b < maxTime) : a < addTime a b := by
  unfold addTime at hlast ⊢
  omega

theorem one_le_markerLifetime : 1 ≤ markerLifetime := by decide

/-- It has a hit and is not open for longer than a marker lives. -/
structure Entry.Regular (e : Entry) : Prop where
  count : 1 ≤ e.count
  starts : e.start ≤ e.ends
  opens : e.ends < maxTime → e.start < e.ends
  lasts : e.ends ≤ addTime e.start markerLifetime

namespace View

variable {view view' : View} {key : String} {now start : Int} {e : Entry} {es : List Entry}

/-! ## Combining entries -/

/-- The hits of several entries. -/
def hits : List Entry → Nat
  | [] => 0
  | e :: es => e.count + hits es

@[simp] theorem hits_nil : hits [] = 0 := rfl

@[simp] theorem hits_cons (e : Entry) (es : List Entry) : hits (e :: es) = e.count + hits es := rfl

theorem hits_append (es es' : List Entry) : hits (es ++ es') = hits es + hits es' := by
  induction es with
  | nil => simp
  | cons e es ih => rw [List.cons_append, hits_cons, hits_cons, ih, Nat.add_assoc]

theorem hits_perm {es es' : List Entry} (h : es.Perm es') : hits es = hits es' := by
  induction h with
  | nil => rfl
  | cons e _ ih => rw [hits_cons, hits_cons, ih]
  | swap e e' es => simp only [hits_cons]; omega
  | trans _ _ ih ih' => exact ih.trans ih'

theorem count_le_hits (he : e ∈ es) : e.count ≤ hits es := by
  obtain ⟨before, after, rfl⟩ := List.append_of_mem he
  rw [hits_append, hits_cons]
  omega

theorem foldl_addCount (es : List Entry) (n : Nat) (hn : n ≤ Word.max64) :
    es.foldl (fun total e => addCount total e.count) n = min (n + hits es) Word.max64 := by
  induction es generalizing n with
  | nil => simp [hn]
  | cons e es ih =>
    have hle : addCount n e.count ≤ Word.max64 := Nat.min_le_right _ _
    rw [List.foldl_cons, ih _ hle, hits_cons]
    unfold addCount
    omega

theorem combine_total (start : Int) (es : List Entry) : (combine start es).total = min (hits es) Word.max64 := by
  have h := foldl_addCount es 0 (Nat.zero_le _)
  rw [Nat.zero_add] at h
  exact h

theorem foldl_max_le_iff (es : List Entry) (a b : Int) :
    es.foldl (fun ends e => max ends e.ends) a ≤ b ↔ a ≤ b ∧ ∀ e ∈ es, e.ends ≤ b := by
  induction es generalizing a with
  | nil => simp
  | cons e es ih =>
    rw [List.foldl_cons, ih, Int.max_le]
    simp only [List.mem_cons, forall_eq_or_imp, and_assoc]

theorem combine_ends_le_iff {b : Int} : (combine start es).ends ≤ b ↔ start ≤ b ∧ ∀ e ∈ es, e.ends ≤ b :=
  foldl_max_le_iff es start b

theorem le_combine_ends (he : e ∈ es) : e.ends ≤ (combine start es).ends :=
  (combine_ends_le_iff.mp (Int.le_refl _)).2 e he

/-- Entries that all end together make a window that ends with them. -/
theorem combine_ends_eq {b : Int} (hne : es ≠ []) (hends : ∀ e ∈ es, e.ends = b) (hstart : start ≤ b) :
    (combine start es).ends = b := by
  obtain ⟨e, he⟩ := List.exists_mem_of_ne_nil es hne
  have hle : (combine start es).ends ≤ b :=
    combine_ends_le_iff.mpr ⟨hstart, fun e he => Int.le_of_eq (hends e he)⟩
  have hge : e.ends ≤ (combine start es).ends := le_combine_ends he
  rw [hends e he] at hge
  omega

theorem combine_eq {ends : Int} {total : Nat} (hends : (combine start es).ends = ends)
    (htotal : (combine start es).total = total) : combine start es = ⟨start, ends, total⟩ := by
  subst hends htotal
  rfl

theorem combine_perm {es es' : List Entry} (h : es.Perm es') (start : Int) : combine start es = combine start es' := by
  unfold combine
  congr 1
  · exact h.foldl_eq' (fun a _ b _ ends => by omega) _
  · exact h.foldl_eq' (fun a _ b _ total => by unfold addCount; omega) _

/-! ## Windows -/

theorem entries_cons (values : Values) (view : View) (key : String) :
    entries (values :: view) key = (values.entryOf key).toList ++ view.entries key := by
  show List.filterMap (fun values : Values => values.entryOf key) (values :: view) = _
  rw [List.filterMap_cons]
  cases values.entryOf key with
  | none => rfl
  | some e => rfl

theorem mem_entries : e ∈ view.entries key ↔ ∃ values ∈ view, values.entryOf key = some e :=
  List.mem_filterMap

/-- Whether an entry of a key counts at `now`. -/
def isOpen (view : View) (key : String) (now : Int) (e : Entry) : Bool :=
  decide (now < e.ends) && isAfter e.start (view.latestReset key)

theorem openEntries_eq (view : View) (key : String) (now : Int) :
    view.openEntries key now = (view.entries key).filter (view.isOpen key now) := rfl

theorem isOpen_iff : view.isOpen key now e = true ↔
    now < e.ends ∧ isAfter e.start (view.latestReset key) = true := by
  unfold isOpen
  rw [Bool.and_eq_true, decide_eq_true_eq]

theorem mem_openEntries : e ∈ view.openEntries key now ↔
    e ∈ view.entries key ∧ now < e.ends ∧ isAfter e.start (view.latestReset key) = true := by
  rw [openEntries_eq, List.mem_filter, isOpen_iff]

theorem window?_eq_none_iff : view.window? key now = none ↔ view.openEntries key now = [] := by
  unfold window?
  rw [Option.map_eq_none_iff, List.max?_eq_none_iff, List.map_eq_nil_iff]

/-- The open entries with one start. -/
def group (view : View) (key : String) (now start : Int) : List Entry :=
  (view.openEntries key now).filter fun e => decide (e.start = start)

theorem mem_group : e ∈ view.group key now start ↔ e ∈ view.openEntries key now ∧ e.start = start := by
  unfold group
  rw [List.mem_filter, decide_eq_true_eq]

/-- The window that the open entries with the latest start make. -/
structure Shows (view : View) (key : String) (now : Int) (w : SharedWindow) : Prop where
  inhabited : ∃ e, e ∈ view.group key now w.start
  latest : ∀ e ∈ view.openEntries key now, e.start ≤ w.start
  combined : combine w.start (view.group key now w.start) = w

theorem window?_eq_some_iff {w : SharedWindow} : view.window? key now = some w ↔ view.Shows key now w := by
  unfold window?
  constructor
  · intro h
    obtain ⟨start, hmax, rfl⟩ := Option.map_eq_some_iff.mp h
    rw [List.max?_eq_some_iff] at hmax
    obtain ⟨hmem, hlatest⟩ := hmax
    obtain ⟨e, he, hstart⟩ := List.mem_map.mp hmem
    exact ⟨⟨e, mem_group.mpr ⟨he, hstart⟩⟩, fun e' he' => hlatest _ (List.mem_map_of_mem he'), rfl⟩
  · rintro ⟨⟨e, he⟩, hlatest, hcombined⟩
    obtain ⟨he, hstart⟩ := mem_group.mp he
    have hmax : ((view.openEntries key now).map Entry.start).max? = some w.start := by
      rw [List.max?_eq_some_iff]
      exact ⟨List.mem_map.mpr ⟨e, he, hstart⟩, by simpa using hlatest⟩
    simp only [hmax, Option.map_some]
    exact congrArg some hcombined

namespace Shows

variable {w : SharedWindow}

theorem total (h : view.Shows key now w) : w.total = min (hits (view.group key now w.start)) Word.max64 :=
  (congrArg SharedWindow.total h.combined).symm.trans (combine_total _ _)

theorem ends_le_iff (h : view.Shows key now w) {b : Int} :
    w.ends ≤ b ↔ w.start ≤ b ∧ ∀ e ∈ view.group key now w.start, e.ends ≤ b := by
  have hiff : (combine w.start (view.group key now w.start)).ends ≤ b ↔ _ := combine_ends_le_iff
  rw [h.combined] at hiff
  exact hiff

theorem le_ends (h : view.Shows key now w) (he : e ∈ view.group key now w.start) : e.ends ≤ w.ends :=
  (h.ends_le_iff.mp (Int.le_refl _)).2 e he

theorem lt_ends (h : view.Shows key now w) : now < w.ends := by
  obtain ⟨e, he⟩ := h.inhabited
  have hopen := (mem_openEntries.mp (mem_group.mp he).1).2.1
  exact Int.lt_of_lt_of_le hopen (h.le_ends he)

theorem isAfter_start (h : view.Shows key now w) : isAfter w.start (view.latestReset key) = true := by
  obtain ⟨e, he⟩ := h.inhabited
  obtain ⟨hopen, hstart⟩ := mem_group.mp he
  exact hstart ▸ (mem_openEntries.mp hopen).2.2

end Shows

theorem latestReset_perm (h : view.Perm view') (key : String) : view.latestReset key = view'.latestReset key := by
  have hmem : ∀ m, m ∈ view.markers key ↔ m ∈ view'.markers key := fun m => (h.filterMap _).mem_iff
  apply Option.ext
  intro m
  simp only [latestReset, List.max?_eq_some_iff, hmem]

theorem openEntries_perm (h : view.Perm view') (key : String) (now : Int) :
    (view.openEntries key now).Perm (view'.openEntries key now) := by
  unfold openEntries
  rw [latestReset_perm h]
  exact (h.filterMap _).filter _

theorem window?_perm (h : view.Perm view') (key : String) (now : Int) :
    view.window? key now = view'.window? key now := by
  have hopen := openEntries_perm h key now
  have hgroup (start : Int) : (view.group key now start).Perm (view'.group key now start) := hopen.filter _
  apply Option.ext
  intro w
  rw [window?_eq_some_iff, window?_eq_some_iff]
  constructor
  · rintro ⟨⟨e, he⟩, hlatest, hcombined⟩
    exact ⟨⟨e, (hgroup _).mem_iff.mp he⟩, fun e' he' => hlatest e' (hopen.mem_iff.mpr he'),
      (combine_perm (hgroup _) _).symm.trans hcombined⟩
  · rintro ⟨⟨e, he⟩, hlatest, hcombined⟩
    exact ⟨⟨e, (hgroup _).mem_iff.mpr he⟩, fun e' he' => hlatest e' (hopen.mem_iff.mp he'),
      (combine_perm (hgroup _) _).trans hcombined⟩

/-! ## Old markers -/

/-- A marker, unless its life is over. -/
def recent (now : Int) (marker : Option Int) : Option Int :=
  marker.filter fun m => decide (now ≤ addTime m markerLifetime)

/-- The start of a window opened after a reset. -/
def opening (marker : Option Int) (now : Int) : Int :=
  match marker with
  | some m => max now (addTime m 1)
  | none => now

theorem le_opening (marker : Option Int) (now : Int) : now ≤ opening marker now := by
  cases marker with
  | none => exact Int.le_refl _
  | some m => exact Int.le_max_left _ _

theorem le_opening_of_marker {m : Int} (hm : IsTime m) (now : Int) : m ≤ opening (some m) now :=
  Int.le_trans (le_addTime hm (by decide)) (Int.le_max_right _ _)

theorem recent_of_le {m : Int} (h : now ≤ addTime m markerLifetime) : recent now (some m) = some m := by
  simp [recent, Option.filter, h]

theorem recent_of_lt {m : Int} (h : addTime m markerLifetime < now) : recent now (some m) = none := by
  simp [recent, Option.filter, h]

theorem recent_max (now : Int) (a b : Option Int) : recent now (max a b) = max (recent now a) (recent now b) := by
  rcases a with _ | a
  · simp [recent]
  rcases b with _ | b
  · simp [recent]
  have hmax : max (some a) (some b) = some (max a b) := rfl
  rw [hmax]
  rcases Int.le_total a b with h | h
  · have hmono := addTime_le_addTime h (Int.le_refl markerLifetime)
    rw [Int.max_eq_right h]
    by_cases hb : now ≤ addTime b markerLifetime
    · rw [recent_of_le hb]
      by_cases ha : now ≤ addTime a markerLifetime
      · rw [recent_of_le ha, hmax, Int.max_eq_right h]
      · rw [recent_of_lt (by omega)]; simp
    · rw [recent_of_lt (by omega), recent_of_lt (by omega)]; simp
  · have hmono := addTime_le_addTime h (Int.le_refl markerLifetime)
    rw [Int.max_eq_left h]
    by_cases ha : now ≤ addTime a markerLifetime
    · rw [recent_of_le ha]
      by_cases hb : now ≤ addTime b markerLifetime
      · rw [recent_of_le hb, hmax, Int.max_eq_left h]
      · rw [recent_of_lt (by omega)]; simp
    · rw [recent_of_lt (by omega), recent_of_lt (by omega)]; simp

theorem recent_recent {t : Int} (h : now ≤ t) (marker : Option Int) :
    recent t (recent now marker) = recent t marker := by
  cases marker with
  | none => rfl
  | some m =>
    by_cases hm : now ≤ addTime m markerLifetime
    · rw [recent_of_le hm]
    · rw [recent_of_lt (by omega), recent_of_lt (by omega)]; rfl

theorem isAfter_recent (he : e.Regular) (hopen : now < e.ends) (marker : Option Int) :
    isAfter e.start (recent now marker) = isAfter e.start marker := by
  cases marker with
  | none => rfl
  | some m =>
    by_cases hm : now ≤ addTime m markerLifetime
    · rw [recent_of_le hm]
    · rw [recent_of_lt (by omega)]
      -- The entry outlives the marker, so it cannot have been started before it.
      have hafter : m < e.start := by
        rcases Int.lt_or_le m e.start with h | h
        · exact h
        · have := addTime_le_addTime h (Int.le_refl markerLifetime)
          have := he.lasts
          omega
      simp [isAfter, hafter]

theorem opening_recent (now : Int) (marker : Option Int) : opening (recent now marker) now = opening marker now := by
  cases marker with
  | none => rfl
  | some m =>
    by_cases hm : now ≤ addTime m markerLifetime
    · rw [recent_of_le hm]
    · rw [recent_of_lt (by omega)]
      have := addTime_le_addTime (Int.le_refl m) one_le_markerLifetime
      show now = max now (addTime m 1)
      omega

theorem latestReset_isTime {m : Int} (h : view.latestReset key = some m) : IsTime m := by
  have hmem : m ∈ view.markers key := List.max?_mem h
  obtain ⟨values, -, hmarker⟩ := List.mem_filterMap.mp hmem
  exact values.markerOf_isTime hmarker

theorem isAfter_of_lt {marker : Option Int} {σ : Int} (hle : ∀ m, marker = some m → m ≤ σ) (h : σ < start) :
    isAfter start marker = true := by
  cases marker with
  | none => rfl
  | some m => exact decide_eq_true (Int.lt_of_le_of_lt (hle m rfl) h)

/-- A new window comes after the newest marker, unless there is no time after it. -/
theorem isAfter_opening {marker : Option Int} (hmarker : ∀ m, marker = some m → IsTime m) (hnow : now ≤ maxTime) :
    isAfter (opening marker now) marker = true ↔ marker ≠ some maxTime := by
  cases marker with
  | none => simp [isAfter]
  | some m =>
    obtain ⟨hlow, hhigh⟩ := hmarker m rfl
    show decide (m < max now (addTime m 1)) = true ↔ _
    rw [decide_eq_true_eq, ne_eq, Option.some.injEq]
    unfold addTime
    omega

theorem latestReset_cons (values : Values) (view : View) (key : String) :
    latestReset (values :: view) key = max (values.markerOf key) (view.latestReset key) := by
  show (List.filterMap (fun values : Values => values.markerOf key) (values :: view)).max? = _
  rw [List.filterMap_cons]
  cases values.markerOf key with
  | none => simp [latestReset, markers, Values.markerOf]
  | some m =>
    show (m :: view.markers key).max? = max (some m) (view.markers key).max?
    rw [List.max?_cons]
    cases (view.markers key).max? with
    | none => rfl
    | some m' => rfl

/-- A marker whose life is over may be left out. -/
theorem openEntries_recent (hregular : ∀ e ∈ view.entries key, e.Regular) :
    view.openEntries key now = (view.entries key).filter fun e =>
      decide (now < e.ends) && isAfter e.start (recent now (view.latestReset key)) := by
  unfold openEntries
  apply List.filter_congr
  intro e he
  by_cases hopen : now < e.ends
  · rw [isAfter_recent (hregular e he) hopen]
  · simp [hopen]

/-! ## Sweeps -/

variable {values : Values} {t : Int}

theorem recent_latestReset_swept (ht : now ≤ t) :
    recent t (latestReset (values.swept now :: view) key) = recent t (latestReset (values :: view) key) := by
  have hmarker : recent t ((values.swept now).markerOf key) = recent t (values.markerOf key) := by
    rw [Values.markerOf_swept]
    exact recent_recent ht _
  rw [latestReset_cons, latestReset_cons, recent_max, recent_max, hmarker]

theorem openEntries_swept (hregular : ∀ e ∈ entries (values :: view) key, e.Regular) (ht : now ≤ t) :
    openEntries (values.swept now :: view) key t = openEntries (values :: view) key t := by
  have hsub : ∀ e ∈ entries (values.swept now :: view) key, e.Regular := by
    intro e he
    apply hregular e
    rw [entries_cons, List.mem_append] at he ⊢
    refine he.imp_left fun h => ?_
    rw [Values.entryOf_swept, Option.mem_toList] at h
    exact Option.mem_toList.mpr (Option.filter_eq_some_iff.mp h).1
  rw [openEntries_recent hsub, openEntries_recent hregular, recent_latestReset_swept ht, entries_cons, entries_cons,
    List.filter_append, List.filter_append, Values.entryOf_swept]
  congr 1
  cases values.entryOf key with
  | none => rfl
  | some e =>
    by_cases hopen : now < e.ends
    · simp [Option.filter, hopen]
    · have hover : ¬ t < e.ends := by omega
      simp [Option.filter, hopen, hover]

theorem window?_swept (hregular : ∀ e ∈ entries (values :: view) key, e.Regular) (ht : now ≤ t) :
    window? (values.swept now :: view) key t = window? (values :: view) key t := by
  unfold window?
  rw [openEntries_swept hregular ht]

end View

/-! ## Hits in a window -/

namespace Values

/-- The hits of the key in the window with this start. -/
def hitsIn (values : Values) (key : String) (start : Int) : Nat :=
  View.hits ((values.entryOf key).toList.filter fun e => decide (e.start = start))

variable {values : Values} {key : String} {e : Entry}

theorem hitsIn_of_entry (he : values.entryOf key = some e) : values.hitsIn key e.start = e.count := by
  unfold hitsIn
  rw [he]
  simp

theorem hitsIn_of_other {start : Int} (h : ∀ e, values.entryOf key = some e → e.start ≠ start) :
    values.hitsIn key start = 0 := by
  unfold hitsIn
  cases he : values.entryOf key with
  | none => rfl
  | some e => simp [h e he]

theorem hitsIn_le (values : Values) (key : String) (start : Int) : values.hitsIn key start ≤ Word.max64 := by
  by_cases h : ∃ e, values.entryOf key = some e ∧ e.start = start
  · obtain ⟨e, he, rfl⟩ := h
    rw [hitsIn_of_entry he]
    exact (values.entryOf_fits he).count
  · rw [hitsIn_of_other fun e he hstart => h ⟨e, he, hstart⟩]
    exact Nat.zero_le _

end Values

namespace View

variable {view : View} {key : String} {now start : Int}

/-- The hits of the key in the window with this start, open or not. -/
def hitsIn (view : View) (key : String) (start : Int) : Nat :=
  hits ((view.entries key).filter fun e => decide (e.start = start))

theorem hitsIn_cons (values : Values) (view : View) (key : String) (start : Int) :
    hitsIn (values :: view) key start = values.hitsIn key start + view.hitsIn key start := by
  unfold hitsIn Values.hitsIn
  rw [entries_cons, List.filter_append, hits_append]

theorem hitsIn_append (before after : View) (key : String) (start : Int) :
    hitsIn (before ++ after) key start = before.hitsIn key start + after.hitsIn key start := by
  unfold hitsIn entries
  rw [List.filterMap_append, List.filter_append, hits_append]

theorem hits_sublist {es es' : List Entry} (h : es.Sublist es') : hits es ≤ hits es' := by
  induction h with
  | slnil => exact Nat.le_refl _
  | cons e _ ih => rw [hits_cons]; omega
  | cons_cons e _ ih => rw [hits_cons, hits_cons]; omega

theorem hits_group_le (view : View) (key : String) (now start : Int) :
    hits (view.group key now start) ≤ view.hitsIn key start :=
  hits_sublist (List.filter_sublist.filter _)

end View

end RateCounter.Mesh
