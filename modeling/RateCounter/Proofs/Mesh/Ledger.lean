/-
  RateCounter.Proofs.Mesh.Ledger — what a mesh counts, without its nodes.

  For each key a ledger has the window that was opened last, with all its hits, and the
  newest reset marker (`Tally`). Nothing in it is ever swept.

  A tally holds for the entries and the newest marker that some nodes publish
  (`Tally.Holds`) if, from now on, they amount to it: the two newest markers are the same
  unless their lives are over; an entry is part of the tally's window, or started before it
  and counts no more; and while that window is open its entries have as many hits as it has.
  A node whose view a ledger holds for answers as the ledger does, and it holds again
  afterwards (`Node.perform_holds`), whenever it has swept (`Tally.Holds.swept`).
-/

import RateCounter.Proofs.Mesh.Node

namespace RateCounter.Mesh

open View (isAfter opening recent hits)

structure Tally where
  /-- The window opened last. -/
  window : Option SharedWindow
  /-- The newest reset marker. -/
  marker : Option Int
  deriving DecidableEq, Repr

namespace Tally

def blank : Tally := ⟨none, none⟩

def isOpen (t : Tally) (now : Int) (w : SharedWindow) : Bool := decide (now < w.ends) && isAfter w.start t.marker

def window? (t : Tally) (now : Int) : Option SharedWindow := t.window.filter (t.isOpen now)

/-- The window after one more hit. -/
def hit (t : Tally) (length now : Int) : SharedWindow :=
  match t.window? now with
  | some w => { w with total := addCount w.total 1 }
  | none => ⟨opening t.marker now, addTime (opening t.marker now) length, 1⟩

end Tally

/-- The tallies of all keys. -/
abbrev Ledger := String → Tally

namespace Ledger

def blank : Ledger := fun _ => .blank

def set (l : Ledger) (key : String) (t : Tally) : Ledger := fun k => if key = k then t else l k

def perform (l : Ledger) (op : Operation) (now : Instant) : Ledger × Outcome :=
  let ms := now.toMillis
  match op with
  | .increment key window =>
    match Window.accept window with
    | .error e => (l, .error e.toBackendError)
    | .ok window =>
      let w := (l key).hit (Node.lengthOf window) ms
      (l.set key { l key with window := some w }, .ok (.count w.total))
  | .count key => (l, .ok (.count ((((l key).window? ms).map SharedWindow.total).getD 0)))
  | .resetTime key =>
    match (l key).window? ms with
    | none => (l, .ok (.resetTime none))
    | some w => (l, (Node.instantOf w.ends).map fun t => .resetTime (some t))
  | .reset key => (l.set key { l key with marker := some (opening (l key).marker ms) }, .ok .done)

end Ledger

namespace Tally

/-- An entry that does not count any more. -/
def Over (now : Int) (marker : Option Int) (e : Entry) : Prop := e.ends ≤ now ∨ isAfter e.start marker = false

structure Holds (t : Tally) (now : Int) (es : List Entry) (newest : Option Int) : Prop where
  marker : recent now newest = recent now t.marker
  time : ∀ m, t.marker = some m → IsTime m
  counted : ∀ w, t.window = some w → 1 ≤ w.total
  regular : ∀ e ∈ es, e.Fits ∧ e.Regular
  entries : ∀ e ∈ es, ∃ w, t.window = some w ∧
    (e.start = w.start ∧ e.ends = w.ends ∨ e.start < w.start ∧ Over now t.marker e)
  total : ∀ w, t.window? now = some w →
    w.total = min (hits (es.filter fun e => decide (e.start = w.start))) Word.max64

variable {t : Tally} {now : Int} {es : List Entry} {newest : Option Int} {e : Entry} {w : SharedWindow}

theorem window?_eq_some_iff : t.window? now = some w ↔
    t.window = some w ∧ now < w.ends ∧ isAfter w.start t.marker = true := by
  unfold window? isOpen
  rw [Option.filter_eq_some_iff, Bool.and_eq_true, decide_eq_true_eq]

namespace Holds

theorem isAfter_newest (h : t.Holds now es newest) (he : e ∈ es) (hopen : now < e.ends) :
    isAfter e.start newest = isAfter e.start t.marker := by
  have hregular := (h.regular e he).2
  rw [← View.isAfter_recent hregular hopen, h.marker, View.isAfter_recent hregular hopen]

/-- The open entries are those with the start of the open window. -/
theorem isOpen_iff (h : t.Holds now es newest) (he : e ∈ es) :
    (now < e.ends ∧ isAfter e.start newest = true) ↔ ∃ w, t.window? now = some w ∧ e.start = w.start := by
  obtain ⟨w, hw, hentry⟩ := h.entries e he
  constructor
  · rintro ⟨hopen, hafter⟩
    rw [h.isAfter_newest he hopen] at hafter
    rcases hentry with ⟨hstart, hends⟩ | ⟨-, hover | hhidden⟩
    · rw [hstart] at hafter
      exact ⟨w, window?_eq_some_iff.mpr ⟨hw, hends ▸ hopen, hafter⟩, hstart⟩
    · omega
    · rw [hafter] at hhidden
      cases hhidden
  · rintro ⟨w', hw', hstart⟩
    obtain ⟨hwindow, hopen, hafter⟩ := window?_eq_some_iff.mp hw'
    rw [hw] at hwindow
    cases hwindow
    rcases hentry with ⟨-, hends⟩ | ⟨hlt, -⟩
    · rw [← hends] at hopen
      rw [h.isAfter_newest he hopen, hstart]
      exact ⟨hopen, hafter⟩
    · omega

theorem later (h : t.Holds now es newest) {now' : Int} (hle : now ≤ now') : t.Holds now' es newest where
  marker := by rw [← View.recent_recent hle, h.marker, View.recent_recent hle]
  time := h.time
  counted := h.counted
  regular := h.regular
  entries := by
    intro e he
    obtain ⟨w, hw, hentry⟩ := h.entries e he
    refine ⟨w, hw, hentry.imp_right fun ⟨hlt, hover⟩ => ⟨hlt, hover.imp_left fun hends => ?_⟩⟩
    omega
  total := by
    intro w hw
    obtain ⟨hwindow, hopen, hafter⟩ := window?_eq_some_iff.mp hw
    exact h.total w (window?_eq_some_iff.mpr ⟨hwindow, by omega, hafter⟩)

theorem perm (h : t.Holds now es newest) {es' : List Entry} (hperm : es.Perm es') : t.Holds now es' newest where
  marker := h.marker
  time := h.time
  counted := h.counted
  regular := fun e he => h.regular e (hperm.mem_iff.mpr he)
  entries := fun e he => h.entries e (hperm.mem_iff.mpr he)
  total := by
    intro w hw
    rw [h.total w hw, View.hits_perm (hperm.filter _)]

theorem opening_eq (h : t.Holds now es newest) : opening newest now = opening t.marker now := by
  rw [← View.opening_recent, h.marker, View.opening_recent]

/-- All entries with the start of the tally's window end with it. -/
theorem ends_eq (h : t.Holds now es newest) (hw : t.window = some w) (he : e ∈ es) (hstart : e.start = w.start) :
    e.ends = w.ends := by
  obtain ⟨w', hw', hentry⟩ := h.entries e he
  rw [hw] at hw'
  cases hw'
  rcases hentry with ⟨-, hends⟩ | ⟨hlt, -⟩
  · exact hends
  · omega

theorem exists_entry (h : t.Holds now es newest) (hw : t.window? now = some w) : ∃ e ∈ es, e.start = w.start := by
  have hne : es.filter (fun e => decide (e.start = w.start)) ≠ [] := by
    intro hnil
    have hone := h.counted w (window?_eq_some_iff.mp hw).1
    have htotal := h.total w hw
    rw [hnil, View.hits_nil] at htotal
    omega
  obtain ⟨e, he⟩ := List.exists_mem_of_ne_nil _ hne
  obtain ⟨he, hstart⟩ := List.mem_filter.mp he
  exact ⟨e, he, of_decide_eq_true hstart⟩

section

variable {view : View} {key : String} (h : t.Holds now (view.entries key) (view.latestReset key))

include h

theorem mem_openEntries : e ∈ view.openEntries key now ↔
    e ∈ view.entries key ∧ ∃ w, t.window? now = some w ∧ e.start = w.start := by
  rw [View.mem_openEntries]
  exact and_congr_right fun he => h.isOpen_iff he

theorem group_eq (hw : t.window? now = some w) :
    view.group key now w.start = (view.entries key).filter fun e => decide (e.start = w.start) := by
  unfold View.group
  rw [View.openEntries_eq, List.filter_filter]
  apply List.filter_congr
  intro e he
  by_cases hstart : e.start = w.start
  · have hopen : view.isOpen key now e = true := View.isOpen_iff.mpr ((h.isOpen_iff he).mpr ⟨w, hw, hstart⟩)
    simp [hstart, hopen]
  · simp [hstart]

/-- A view that a tally holds for shows the tally's window. -/
theorem window?_view : view.window? key now = t.window? now := by
  cases hw : t.window? now with
  | none =>
    rw [View.window?_eq_none_iff, List.eq_nil_iff_forall_not_mem]
    intro e he
    obtain ⟨-, w, hw', -⟩ := h.mem_openEntries.mp he
    rw [hw] at hw'
    cases hw'
  | some w =>
    obtain ⟨e, he, hstart⟩ := h.exists_entry hw
    have hin : e ∈ view.group key now w.start :=
      View.mem_group.mpr ⟨h.mem_openEntries.mpr ⟨he, w, hw, hstart⟩, hstart⟩
    have hlatest : ∀ e' ∈ view.openEntries key now, e'.start ≤ w.start := by
      intro e' he'
      obtain ⟨-, w', hw', hstart'⟩ := h.mem_openEntries.mp he'
      rw [hw] at hw'
      cases hw'
      exact Int.le_of_eq hstart'
    have hends : ∀ e' ∈ view.group key now w.start, e'.ends = w.ends := by
      intro e' he'
      obtain ⟨hopen, hstart'⟩ := View.mem_group.mp he'
      exact h.ends_eq (window?_eq_some_iff.mp hw).1 (h.mem_openEntries.mp hopen).1 hstart'
    have hle : w.start ≤ w.ends := by
      have hstarts := (h.regular e he).2.starts
      rw [hstart, hends e hin] at hstarts
      exact hstarts
    refine View.window?_eq_some_iff.mpr ⟨⟨e, hin⟩, hlatest, ?_⟩
    rw [View.combine_eq (View.combine_ends_eq (List.ne_nil_of_mem hin) hends hle) (View.combine_total _ _),
      h.group_eq hw, ← h.total w hw]

end

/-! ## Steps -/

theorem swept {values : Values} {view : View} {key : String}
    (h : t.Holds now (View.entries (values :: view) key) (View.latestReset (values :: view) key)) :
    t.Holds now (View.entries (values.swept now :: view) key) (View.latestReset (values.swept now :: view) key) := by
  have hsub : ∀ e ∈ View.entries (values.swept now :: view) key, e ∈ View.entries (values :: view) key := by
    intro e he
    rw [View.entries_cons, List.mem_append] at he ⊢
    refine he.imp_left fun h => ?_
    rw [Values.entryOf_swept, Option.mem_toList] at h
    exact Option.mem_toList.mpr (Option.filter_eq_some_iff.mp h).1
  refine ⟨?_, h.time, h.counted, fun e he => h.regular e (hsub e he), fun e he => h.entries e (hsub e he), ?_⟩
  · rw [View.recent_latestReset_swept (Int.le_refl now), h.marker]
  · intro w hw
    obtain ⟨hwindow, hopen, -⟩ := window?_eq_some_iff.mp hw
    rw [h.total w hw, View.entries_cons, View.entries_cons, Values.entryOf_swept, List.filter_append,
      List.filter_append]
    -- An entry of the open window ends with it, so the sweep leaves it.
    cases hown : values.entryOf key with
    | none => rfl
    | some e =>
      by_cases hends : now < e.ends
      · simp [Option.filter, hends]
      · have hstart : e.start ≠ w.start := by
          intro hstart
          have he : e ∈ View.entries (values :: view) key := by
            rw [View.entries_cons, hown]; exact List.mem_cons_self
          have := h.ends_eq hwindow he hstart
          omega
        simp [Option.filter, hends, hstart]

/-- A hit in the open window, by the node whose own entry is the first. -/
theorem joined {own : Option Entry} {theirs : List Entry} (h : t.Holds now (own.toList ++ theirs) newest)
    (hw : t.window? now = some w) {c : Nat}
    (hc : c = min (hits (own.toList.filter fun e => decide (e.start = w.start)) + 1) Word.max64)
    (hfits : Entry.Fits ⟨w.start, w.ends, c⟩) (hregular : Entry.Regular ⟨w.start, w.ends, c⟩) :
    Holds { t with window := some { w with total := addCount w.total 1 } } now (⟨w.start, w.ends, c⟩ :: theirs)
      newest where
  marker := h.marker
  time := h.time
  counted := by
    intro w' hw'
    cases hw'
    exact Nat.le_min.mpr ⟨Nat.le_add_left 1 _, by decide⟩
  regular := by
    intro e he
    rcases List.mem_cons.mp he with rfl | he
    · exact ⟨hfits, hregular⟩
    · exact h.regular e (List.mem_append_right _ he)
  entries := by
    intro e he
    refine ⟨_, rfl, ?_⟩
    rcases List.mem_cons.mp he with rfl | he
    · exact .inl ⟨rfl, rfl⟩
    · obtain ⟨w', hw', hentry⟩ := h.entries e (List.mem_append_right _ he)
      rw [(window?_eq_some_iff.mp hw).1] at hw'
      cases hw'
      exact hentry
  total := by
    intro w' hw'
    cases (window?_eq_some_iff.mp hw').1
    have htotal := h.total w hw
    rw [List.filter_append, View.hits_append] at htotal
    show addCount w.total 1 = _
    have hgroup : (⟨w.start, w.ends, c⟩ :: theirs).filter (fun e => decide (e.start = w.start)) =
        ⟨w.start, w.ends, c⟩ :: theirs.filter fun e => decide (e.start = w.start) := by
      rw [List.filter_cons, if_pos (by simp)]
    rw [hgroup, View.hits_cons, htotal]
    show addCount (min _ _) 1 = min (c + _) _
    unfold addCount
    omega

/-- An entry that counts no more has started before any window to come, until the last time there is. -/
theorem start_lt_opening (h : t.Holds now es newest) (hnow : IsTime now) (he : e ∈ es)
    (hover : Over now t.marker e) : e.start < opening t.marker now ∨
      e.start = maxTime ∧ e.ends = maxTime ∧ opening t.marker now = maxTime ∧
        (t.marker = some maxTime ∨ now = maxTime) := by
  obtain ⟨hfits, hregular⟩ := h.regular e he
  rcases hover with hends | hhidden
  · have hlate := View.le_opening t.marker now
    have hlatest := (Node.opening_isTime t.marker hnow).2
    have hopens := hregular.opens
    have hstarts := hregular.starts
    omega
  · cases hmarker : t.marker with
    | none =>
      rw [hmarker] at hhidden
      cases hhidden
    | some m =>
      obtain ⟨hlow, hhigh⟩ := h.time m hmarker
      rw [hmarker] at hhidden
      have hle : ¬ m < e.start := of_decide_eq_false hhidden
      have hstarts := hregular.starts
      obtain ⟨-, hends⟩ := hfits.ends
      rw [Option.some.injEq]
      show e.start < max now (addTime m 1) ∨ e.start = maxTime ∧ e.ends = maxTime ∧ max now (addTime m 1) = maxTime ∧ _
      unfold addTime
      omega

theorem over_of_closed (h : t.Holds now es newest) (hw : t.window? now = none) (he : e ∈ es) :
    Over now t.marker e := by
  by_cases hopen : now < e.ends
  · refine .inr (Bool.eq_false_iff.mpr fun hafter => ?_)
    rw [← h.isAfter_newest he hopen] at hafter
    obtain ⟨w, hw', -⟩ := (h.isOpen_iff he).mp ⟨hopen, hafter⟩
    rw [hw] at hw'
    cases hw'
  · exact .inl (Int.not_lt.mp hopen)

/-- The first hit of a window. -/
theorem opened {theirs : List Entry} (h : t.Holds now es newest) (hsub : ∀ e ∈ theirs, e ∈ es)
    (hw : t.window? now = none) (hnow : IsTime now) {length : Int} (hlength : 1 ≤ length)
    (hfits : Entry.Fits ⟨opening t.marker now, addTime (opening t.marker now) length, 1⟩)
    (hregular : Entry.Regular ⟨opening t.marker now, addTime (opening t.marker now) length, 1⟩) :
    Holds { t with window := some ⟨opening t.marker now, addTime (opening t.marker now) length, 1⟩ } now
      (⟨opening t.marker now, addTime (opening t.marker now) length, 1⟩ :: theirs) newest where
  marker := h.marker
  time := h.time
  counted := by
    intro w hw
    cases hw
    exact Nat.le_refl 1
  regular := by
    intro e he
    rcases List.mem_cons.mp he with rfl | he
    · exact ⟨hfits, hregular⟩
    · exact h.regular e (hsub e he)
  entries := by
    intro e he
    refine ⟨_, rfl, ?_⟩
    rcases List.mem_cons.mp he with rfl | he
    · exact .inl ⟨rfl, rfl⟩
    · have hover := h.over_of_closed hw (hsub e he)
      rcases h.start_lt_opening hnow (hsub e he) hover with hlt | ⟨hstart, hends, hmax, -⟩
      · exact .inr ⟨hlt, hover⟩
      · have hsum : maxTime = addTime maxTime length := by
          unfold addTime
          have : minTime ≤ maxTime := by decide
          omega
        rw [hmax, ← hsum]
        exact .inl ⟨hstart, hends⟩
  total := by
    intro w hw'
    obtain ⟨hwindow, hopen, hafter⟩ := window?_eq_some_iff.mp hw'
    cases hwindow
    have hmarker : t.marker ≠ some maxTime := (View.isAfter_opening h.time hnow.2).mp hafter
    have hlast : now < maxTime := Int.lt_of_lt_of_le hopen (addTime_isTime _ _).2
    have hnone : theirs.filter (fun e => decide (e.start = opening t.marker now)) = [] := by
      rw [List.filter_eq_nil_iff]
      intro e he hstart
      have hstart : e.start = opening t.marker now := of_decide_eq_true hstart
      rcases h.start_lt_opening hnow (hsub e he) (h.over_of_closed hw (hsub e he)) with hlt | ⟨-, -, -, hmax | hmax⟩
      · omega
      · exact hmarker hmax
      · omega
    show 1 = _
    rw [List.filter_cons, if_pos (by simp), hnone]
    rfl

/-- A reset: whatever was hidden stays hidden. -/
theorem reset (h : t.Holds now es newest) (hnow : IsTime now) :
    Holds { t with marker := some (opening t.marker now) } now es (some (opening t.marker now)) := by
  have hmono : ∀ start, isAfter start (some (opening t.marker now)) = true → isAfter start t.marker = true := by
    intro start hafter
    refine View.isAfter_of_lt (fun m hm => ?_) (of_decide_eq_true hafter : opening t.marker now < start)
    rw [hm]
    exact View.le_opening_of_marker (h.time m hm) now
  refine ⟨rfl, ?_, h.counted, h.regular, ?_, ?_⟩
  · intro m hm
    cases hm
    exact Node.opening_isTime _ hnow
  · intro e he
    obtain ⟨w, hw, hentry⟩ := h.entries e he
    refine ⟨w, hw, hentry.imp_right fun ⟨hlt, hover⟩ => ⟨hlt, hover.imp_right fun hhidden => ?_⟩⟩
    rw [Bool.eq_false_iff] at hhidden ⊢
    exact fun hafter => hhidden (hmono _ hafter)
  · intro w hw
    obtain ⟨hwindow, hopen, hafter⟩ := window?_eq_some_iff.mp hw
    exact h.total w (window?_eq_some_iff.mpr ⟨hwindow, hopen, hmono _ hafter⟩)

end Holds

theorem holds_blank (now : Int) : blank.Holds now [] none where
  marker := rfl
  time := by intro m hm; cases hm
  counted := by intro w hw; cases hw
  regular := by intro e he; cases he
  entries := by intro e he; cases he
  total := by intro w hw; cases hw

end Tally

namespace Ledger

/-- The tallies of all keys hold for what a view has of them. -/
def Holds (l : Ledger) (now : Int) (view : View) : Prop :=
  ∀ key, (l key).Holds now (view.entries key) (view.latestReset key)

variable {l : Ledger} {now : Int} {view : View}

theorem set_self (l : Ledger) (key : String) (t : Tally) : l.set key t key = t := if_pos rfl

theorem set_other (l : Ledger) {a b : String} (hab : a ≠ b) (t : Tally) : l.set a t b = l b := if_neg hab

theorem holds_blank {view : View} (hview : ∀ values ∈ view, values = {}) (now : Int) : blank.Holds now view := by
  intro key
  have hentries : view.entries key = [] := by
    rw [List.eq_nil_iff_forall_not_mem]
    intro e he
    obtain ⟨values, hvalues, hentry⟩ := View.mem_entries.mp he
    rw [hview values hvalues] at hentry
    simp [Values.entryOf] at hentry
  have hmarkers : view.markers key = [] := by
    rw [List.eq_nil_iff_forall_not_mem]
    intro m hm
    obtain ⟨values, hvalues, hmarker⟩ := List.mem_filterMap.mp hm
    rw [hview values hvalues] at hmarker
    simp at hmarker
  have hnewest : view.latestReset key = none := congrArg List.max? hmarkers
  rw [hentries, hnewest]
  exact Tally.holds_blank now

theorem Holds.later (h : l.Holds now view) {now' : Int} (hle : now ≤ now') : l.Holds now' view :=
  fun key => (h key).later hle

theorem Holds.perm (h : l.Holds now view) {view' : View} (hperm : view.Perm view') : l.Holds now view' := by
  intro key
  rw [← View.latestReset_perm hperm]
  exact (h key).perm (hperm.filterMap _)

theorem Holds.swept {values : Values} (h : l.Holds now (values :: view)) : l.Holds now (values.swept now :: view) :=
  fun key => (h key).swept

end Ledger

/-! ## A node that a ledger holds for -/

namespace Node

open Ledger (set_self set_other)

variable {n : Node} {l : Ledger} {now : Int} {key : String} {length : Int}

theorem regular_of_holds (h : l.Holds now n.view) : n.Regular := by
  intro values hvalues key e he
  exact ((h key).regular e (View.mem_entries.mpr ⟨values, hvalues, he⟩)).2

theorem pace_holds (h : l.Holds now n.view) : l.Holds now (n.pace now).view := by
  rcases pace_view n now with hview | hview
  · rw [hview]; exact h
  · rw [hview, sweep_view]; exact h.swept

theorem entryFor_holds (h : l.Holds now n.view) (key : String) (length : Int) :
    (n.entryFor key length now).2 = (l key).hit length now := by
  have hwindow : n.window? key now = (l key).window? now := (h key).window?_view
  unfold Tally.hit
  rw [← hwindow, ← (h key).opening_eq, ← openingTime_eq]
  cases hw : n.window? key now with
  | some w =>
    rw [entryFor_joined hw]
  | none =>
    rw [entryFor_opened hw]

theorem publish_holds (h : l.Holds now n.view) (hlength : 1 ≤ length ∧ length ≤ markerLifetime) (hnow : IsTime now)
    (key : String) :
    (l.set key { l key with window := some ((l key).hit length now) }).Holds now
      (n.publish (counterKey key) (n.entryFor key length now).1.toText).view := by
  obtain ⟨hfits, hregular⟩ := entryFor_fits hlength hnow (regular_of_holds h) key
  have hwindow : n.window? key now = (l key).window? now := (h key).window?_view
  intro key'
  rw [latestReset_publish]
  by_cases hkey : key = key'
  · subst hkey
    have hentries := h key
    rw [entries_view] at hentries
    rw [set_self, entries_publish n key hfits]
    unfold Tally.hit
    rw [← hwindow]
    cases hw : n.window? key now with
    | some w =>
      rw [entryFor_joined hw] at hfits hregular ⊢
      exact hentries.joined (hwindow ▸ hw) (ownCount_eq_hits n key w.start) hfits hregular
    | none =>
      rw [entryFor_opened hw, openingTime_eq, (h key).opening_eq] at hfits hregular ⊢
      exact hentries.opened (fun e he => List.mem_append_right _ he) (hwindow ▸ hw) hnow hlength.1 hfits hregular
  · rw [set_other l hkey, entries_publish_other n hkey hfits]
    exact h key'

theorem reset_holds (h : l.Holds now n.view) (hnow : IsTime now) (key : String) :
    (l.set key { l key with marker := some (opening (l key).marker now) }).Holds now (n.reset key now).view := by
  have htime : IsTime (n.openingTime key now) := opening_isTime _ hnow
  intro key'
  have hentries : (n.reset key now).view.entries key' = n.view.entries key' := entries_publish_marker n key key' _
  rw [hentries]
  by_cases hkey : key = key'
  · subst hkey
    rw [set_self, latestReset_reset n key hnow, openingTime_eq, (h key).opening_eq]
    exact (h key).reset hnow
  · have hnewest : (n.reset key now).view.latestReset key' = n.view.latestReset key' :=
      latestReset_publish_marker_other n hkey htime
    rw [set_other l hkey, hnewest]
    exact h key'

/-- A node answers as the ledger that holds for its view, and the ledger holds again. -/
theorem perform_holds {now : Instant} (hnow : IsTime now.toMillis) (h : l.Holds now.toMillis n.view)
    (op : Operation) : (n.perform op now).2 = (l.perform op now).2 ∧
      (l.perform op now).1.Holds now.toMillis (n.perform op now).1.view := by
  have hwindow (key : String) : n.window? key now.toMillis = (l key).window? now.toMillis := (h key).window?_view
  unfold perform Ledger.perform
  cases op with
  | increment key window =>
    dsimp only
    cases hw : Window.accept window with
    | error e => exact ⟨rfl, h⟩
    | ok ns =>
      have hpublished := publish_holds h (accept_length hw) hnow key
      refine ⟨?_, pace_holds hpublished⟩
      show Except.ok (Value.count (n.entryFor key (lengthOf ns) now.toMillis).2.total) = _
      rw [entryFor_holds h key (lengthOf ns)]
  | count key =>
    dsimp only
    rw [hwindow key]
    exact ⟨rfl, h⟩
  | resetTime key =>
    dsimp only
    rw [hwindow key]
    cases (l key).window? now.toMillis with
    | none => exact ⟨rfl, h⟩
    | some w => exact ⟨rfl, h⟩
  | reset key => exact ⟨rfl, reset_holds h hnow key⟩

end Node

end RateCounter.Mesh
