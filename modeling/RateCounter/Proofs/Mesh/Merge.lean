/-
  RateCounter.Proofs.Mesh.Merge — the window of a key, from the set of live nodes alone.

  The live nodes are a finite set, each with its values, which may be any texts (`Live`). The
  set says what the newest reset marker of a key is (`Live.Newest`) and what its window is
  (`Live.Shows`), and there is one answer to either (`Live.Newest.unique`,
  `Live.Shows.unique`). A node that lists the set in some order, itself first, shows this
  window, and a hit or a reset is computed from it (`merge_exact`). So all nodes that see the
  same values of the same nodes show the same window.
-/

import Mathlib.Algebra.BigOperators.Group.Finset.Basic
import Mathlib.Order.Bounds.Basic
import RateCounter.Mesh.Network
import RateCounter.Proofs.Mesh.Node

namespace RateCounter.Mesh

namespace View

theorem isAfter_eq (start : Int) (reset : Option Int) : isAfter start reset = decide (∀ m ∈ reset, m < start) := by
  cases reset with
  | none => simp [isAfter]
  | some m => simp [isAfter]

theorem hits_filterMap {ids : List String} (honce : ids.Nodup) (f : String → Option Entry) :
    hits (ids.filterMap f) = ∑ id ∈ ids.toFinset, (f id).elim 0 Entry.count := by
  induction ids with
  | nil => rfl
  | cons id ids ih =>
    obtain ⟨hnew, honce⟩ := List.nodup_cons.mp honce
    have hnotMem : id ∉ ids.toFinset := fun hid => hnew (List.mem_toFinset.mp hid)
    rw [List.toFinset_cons, Finset.sum_insert hnotMem, ← ih honce]
    cases hid : f id with
    | none => rw [List.filterMap_cons_none hid, Option.elim_none, Nat.zero_add]
    | some e => rw [List.filterMap_cons_some hid, hits_cons, Option.elim_some]

theorem foldl_max_mem (es : List Entry) (a : Int) :
    es.foldl (fun ends e => max ends e.ends) a = a ∨ ∃ e ∈ es, e.ends = es.foldl (fun ends e => max ends e.ends) a := by
  induction es generalizing a with
  | nil => exact .inl rfl
  | cons e es ih =>
    rw [List.foldl_cons]
    rcases ih (max a e.ends) with hstays | ⟨e', he', hends⟩
    · rw [hstays]
      rcases Int.le_total a e.ends with hle | hle
      · exact .inr ⟨e, List.mem_cons_self, (Int.max_eq_right hle).symm⟩
      · exact .inl (Int.max_eq_left hle)
    · exact .inr ⟨e', List.mem_cons_of_mem _ he', hends⟩

/-- The end of a window is its start or that of one of its entries. -/
theorem combine_ends_mem (start : Int) (es : List Entry) :
    (combine start es).ends = start ∨ ∃ e ∈ es, e.ends = (combine start es).ends :=
  foldl_max_mem es start

end View

/-- The live nodes by their ids, and what each of them has published. -/
structure Live where
  ids : Finset String
  values : String → Values

/-! ## What the set says -/

namespace Live

variable (l : Live) (key : String)

/-- The newest marker of a key among the well-formed ones, if there is any. -/
def Newest : Option Int → Prop
  | none => ∀ id ∈ l.ids, (l.values id).markerOf key = none
  | some m => IsGreatest {m | ∃ id ∈ l.ids, (l.values id).markerOf key = some m} m

/-- The entry of a node, if it is well-formed and ends after `now` and starts after the reset. -/
def open? (reset : Option Int) (now : Int) (id : String) : Option Entry :=
  ((l.values id).entryOf key).filter fun e => decide (now < e.ends ∧ ∀ m ∈ reset, m < e.start)

/-- It is the entry of a live node. -/
def Open (reset : Option Int) (now : Int) (e : Entry) : Prop := ∃ id ∈ l.ids, l.open? key reset now id = some e

/-- The hits of a node in the window that starts then. -/
def hitsOf (reset : Option Int) (now start : Int) (id : String) : Nat :=
  ((l.open? key reset now id).filter fun e => decide (e.start = start)).elim 0 Entry.count

/-- The window that the entries with the latest start make together. -/
structure IsWindow (reset : Option Int) (now : Int) (w : SharedWindow) : Prop where
  start : IsGreatest {s | ∃ e, l.Open key reset now e ∧ e.start = s} w.start
  ends : IsGreatest {t | t = w.start ∨ ∃ e, l.Open key reset now e ∧ e.start = w.start ∧ e.ends = t} w.ends
  total : w.total = min Word.max64 (∑ id ∈ l.ids, l.hitsOf key reset now w.start id)

/-- No window if there is no entry. -/
def Shows (reset : Option Int) (now : Int) : Option SharedWindow → Prop
  | none => ∀ e, ¬ l.Open key reset now e
  | some w => l.IsWindow key reset now w

variable {l key} {reset reset' : Option Int} {now : Int} {window window' : Option SharedWindow}

theorem Newest.unique (h : l.Newest key reset) (h' : l.Newest key reset') : reset = reset' := by
  have hclash : ∀ m, l.Newest key none → ¬ l.Newest key (some m) := by
    intro m hnone hsome
    obtain ⟨id, hid, hmarker⟩ := hsome.1
    rw [hnone id hid] at hmarker
    cases hmarker
  cases reset with
  | none =>
    cases reset' with
    | none => rfl
    | some m' => exact absurd h' (hclash m' h)
  | some m =>
    cases reset' with
    | none => exact absurd h (hclash m h')
    | some m' => exact congrArg some (IsGreatest.unique h h')

theorem IsWindow.unique {w w' : SharedWindow} (h : l.IsWindow key reset now w) (h' : l.IsWindow key reset now w') :
    w = w' := by
  obtain ⟨start, ends, total⟩ := w
  obtain ⟨start', ends', total'⟩ := w'
  obtain rfl : start = start' := h.start.unique h'.start
  obtain rfl : ends = ends' := h.ends.unique h'.ends
  obtain rfl : total = total' := h.total.trans h'.total.symm
  rfl

theorem Shows.unique (h : l.Shows key reset now window) (h' : l.Shows key reset now window') : window = window' := by
  have hclash : ∀ w, l.Shows key reset now none → ¬ l.IsWindow key reset now w := by
    intro w hnone hw
    obtain ⟨e, he, -⟩ := hw.start.1
    exact hnone e he
  cases window with
  | none =>
    cases window' with
    | none => rfl
    | some w' => exact absurd h' (hclash w' h)
  | some w =>
    cases window' with
    | none => exact absurd h (hclash w h')
    | some w' => exact congrArg some (IsWindow.unique h h')

/-! ## Lists of the set -/

/-- The live nodes in some order, each once, with values that read the same. -/
structure ListedAs (l : Live) (nodes : List (String × Values)) : Prop where
  once : (nodes.map (·.1)).Nodup
  ids : (nodes.map (·.1)).toFinset = l.ids
  values : ∀ node ∈ nodes, ∀ k : String, node.2[k]? = (l.values node.1)[k]?

/-- There is such a list. -/
theorem listedAs_toList (l : Live) : l.ListedAs (l.ids.toList.map fun id => (id, l.values id)) := by
  have hids : (l.ids.toList.map fun id => (id, l.values id)).map (·.1) = l.ids.toList := by
    rw [List.map_map]
    exact List.map_id _
  refine ⟨?_, ?_, ?_⟩
  · rw [hids]
    exact l.ids.nodup_toList
  · rw [hids]
    exact l.ids.toList_toFinset
  · intro node hnode k
    obtain ⟨id, -, rfl⟩ := List.mem_map.mp hnode
    rfl

variable {nodes : List (String × Values)}

theorem ListedAs.mem_iff (h : l.ListedAs nodes) (id : String) : id ∈ nodes.map (·.1) ↔ id ∈ l.ids := by
  rw [← h.ids, List.mem_toFinset]

theorem ListedAs.entryOf (h : l.ListedAs nodes) {node : String × Values} (hnode : node ∈ nodes) (key : String) :
    node.2.entryOf key = (l.values node.1).entryOf key := by
  unfold Values.entryOf
  rw [h.values node hnode]

theorem ListedAs.markerOf (h : l.ListedAs nodes) {node : String × Values} (hnode : node ∈ nodes) (key : String) :
    node.2.markerOf key = (l.values node.1).markerOf key := by
  unfold Values.markerOf
  rw [h.values node hnode]

theorem filterMap_values {α : Type} {f : Values → Option α} {g : String → Option α}
    (hfg : ∀ node ∈ nodes, f node.2 = g node.1) : (nodes.map (·.2)).filterMap f = (nodes.map (·.1)).filterMap g := by
  rw [List.filterMap_map, List.filterMap_map]
  exact List.filterMap_congr hfg

theorem ListedAs.markers (h : l.ListedAs nodes) (key : String) :
    View.markers (nodes.map (·.2)) key = (nodes.map (·.1)).filterMap fun id => (l.values id).markerOf key :=
  filterMap_values fun _ hnode => h.markerOf hnode key

theorem ListedAs.entries (h : l.ListedAs nodes) (key : String) :
    View.entries (nodes.map (·.2)) key = (nodes.map (·.1)).filterMap fun id => (l.values id).entryOf key :=
  filterMap_values fun _ hnode => h.entryOf hnode key

theorem ListedAs.newest (h : l.ListedAs nodes) (key : String) :
    l.Newest key (View.latestReset (nodes.map (·.2)) key) := by
  have hmem (m : Int) : m ∈ View.markers (nodes.map (·.2)) key ↔ ∃ id ∈ l.ids, (l.values id).markerOf key = some m := by
    rw [h.markers, List.mem_filterMap]
    simp only [h.mem_iff]
  unfold View.latestReset
  cases hmax : (View.markers (nodes.map (·.2)) key).max? with
  | none =>
    intro id hid
    rw [List.max?_eq_none_iff] at hmax
    cases hmarker : (l.values id).markerOf key with
    | none => rfl
    | some m =>
      have hm := (hmem m).mpr ⟨id, hid, hmarker⟩
      rw [hmax] at hm
      exact absurd hm List.not_mem_nil
  | some m =>
    obtain ⟨hm, hlatest⟩ := List.max?_eq_some_iff.mp hmax
    refine ⟨(hmem m).mp hm, fun m' hm' => ?_⟩
    exact hlatest m' ((hmem m').mpr hm')

theorem ListedAs.openEntries (h : l.ListedAs nodes) (key : String) (now : Int) :
    View.openEntries (nodes.map (·.2)) key now =
      (nodes.map (·.1)).filterMap (l.open? key (View.latestReset (nodes.map (·.2)) key) now) := by
  unfold View.openEntries
  rw [h.entries, List.filter_filterMap]
  refine List.filterMap_congr fun id _ => ?_
  unfold open?
  congr 1
  funext e
  rw [View.isAfter_eq, Bool.decide_and]

theorem ListedAs.mem_openEntries (h : l.ListedAs nodes) {e : Entry} :
    e ∈ View.openEntries (nodes.map (·.2)) key now ↔
      l.Open key (View.latestReset (nodes.map (·.2)) key) now e := by
  rw [h.openEntries, List.mem_filterMap]
  simp only [h.mem_iff, Open]

/-- Each node's hits are counted once, whatever the order. -/
theorem ListedAs.hits_group (h : l.ListedAs nodes) (key : String) (now start : Int) :
    View.hits (View.group (nodes.map (·.2)) key now start) =
      ∑ id ∈ l.ids, l.hitsOf key (View.latestReset (nodes.map (·.2)) key) now start id := by
  unfold View.group
  rw [h.openEntries, List.filter_filterMap, View.hits_filterMap h.once, h.ids]
  rfl

theorem ListedAs.isWindow (h : l.ListedAs nodes) {w : SharedWindow} (hw : View.Shows (nodes.map (·.2)) key now w) :
    l.IsWindow key (View.latestReset (nodes.map (·.2)) key) now w := by
  have hgroup (e : Entry) : e ∈ View.group (nodes.map (·.2)) key now w.start ↔
      l.Open key (View.latestReset (nodes.map (·.2)) key) now e ∧ e.start = w.start := by
    rw [View.mem_group, h.mem_openEntries]
  refine ⟨⟨?_, ?_⟩, ⟨?_, ?_⟩, ?_⟩
  · obtain ⟨e, he⟩ := hw.inhabited
    exact ⟨e, (hgroup e).mp he⟩
  · rintro _ ⟨e, he, rfl⟩
    exact hw.latest e (h.mem_openEntries.mpr he)
  · have hends := View.combine_ends_mem w.start (View.group (nodes.map (·.2)) key now w.start)
    rw [hw.combined] at hends
    rcases hends with hstart | ⟨e, he, hends⟩
    · exact .inl hstart
    · obtain ⟨hopen, hstart⟩ := (hgroup e).mp he
      exact .inr ⟨e, hopen, hstart, hends⟩
  · obtain ⟨hle, hall⟩ := hw.ends_le_iff.mp (Int.le_refl _)
    rintro _ (rfl | ⟨e, hopen, hstart, rfl⟩)
    · exact hle
    · exact hall e ((hgroup e).mpr ⟨hopen, hstart⟩)
  · rw [hw.total, h.hits_group, Nat.min_comm]

theorem ListedAs.shows (h : l.ListedAs nodes) (key : String) (now : Int) :
    l.Shows key (View.latestReset (nodes.map (·.2)) key) now (View.window? (nodes.map (·.2)) key now) := by
  cases hwindow : View.window? (nodes.map (·.2)) key now with
  | none =>
    intro e he
    have hmem := h.mem_openEntries.mpr he
    rw [View.window?_eq_none_iff.mp hwindow] at hmem
    exact List.not_mem_nil hmem
  | some w => exact h.isWindow (View.window?_eq_some_iff.mp hwindow)

/-! ## What a node computes -/

/-- The node with this id publishes this entry for a hit, and reports this window. -/
def hit (l : Live) (id key : String) (reset : Option Int) (window : Option SharedWindow) (length now : Int) :
    Entry × SharedWindow :=
  match window with
  | some w => (⟨w.start, w.ends, addCount ((l.values id).hitsIn key w.start) 1⟩, { w with total := addCount w.total 1 })
  | none =>
    let start := View.opening reset now
    (⟨start, addTime start length, 1⟩, ⟨start, addTime start length, 1⟩)

end Live

/-- It lists the live nodes in some order, itself first. -/
def Member.Sees (m : Member) (l : Live) : Prop := l.ListedAs ((m.id, m.node.own) :: m.node.others)

/-- It shows this window, publishes and reports what a hit makes of it, and publishes a marker
    just after this reset. -/
structure Member.Agrees (m : Member) (l : Live) (key : String) (reset : Option Int) (now : Int)
    (window : Option SharedWindow) : Prop where
  shows : m.node.window? key now = window
  hits : ∀ length, m.node.increment key length now =
    ((m.node.publish (counterKey key) (l.hit m.id key reset window length now).1.toText).pace now,
      (l.hit m.id key reset window length now).2)
  resets : m.node.reset key now = m.node.publish (resetKey key) (toString (View.opening reset now))

theorem entryFor_eq_hit {m : Member} {l : Live} (h : m.Sees l) (key : String) (length now : Int) :
    m.node.entryFor key length now =
      l.hit m.id key (m.node.view.latestReset key) (m.node.window? key now) length now := by
  cases hwindow : m.node.window? key now with
  | none => exact Node.entryFor_opened hwindow
  | some w =>
    have hown : m.node.own.entryOf key = (l.values m.id).entryOf key := h.entryOf List.mem_cons_self key
    have hcount : m.node.ownCount key w.start = addCount ((l.values m.id).hitsIn key w.start) 1 := by
      rw [Node.ownCount_eq_hits, hown]
      rfl
    rw [Node.entryFor_joined hwindow, hcount]
    rfl

theorem Member.Sees.agrees {m : Member} {l : Live} {key : String} {reset : Option Int} {now : Int}
    {window : Option SharedWindow} (h : m.Sees l) (hreset : l.Newest key reset)
    (hwindow : l.Shows key reset now window) : m.Agrees l key reset now window := by
  have hknown : m.node.view.latestReset key = reset := (h.newest key).unique hreset
  have hshown : m.node.window? key now = window := by
    have hown : l.Shows key (m.node.view.latestReset key) now (m.node.window? key now) := h.shows key now
    rw [hknown] at hown
    exact hown.unique hwindow
  subst hknown hshown
  refine ⟨rfl, fun length => ?_, rfl⟩
  rw [← entryFor_eq_hit h]
  rfl

/-- Any finite set of live nodes with any texts, any key and any time. -/
theorem merge_exact (l : Live) (key : String) (now : Int) :
    ∃ reset window, l.Newest key reset ∧ l.Shows key reset now window ∧
      ∀ m : Member, m.Sees l → m.Agrees l key reset now window := by
  have hlisted := l.listedAs_toList
  exact ⟨_, _, hlisted.newest key, hlisted.shows key now, fun m hm => hm.agrees (hlisted.newest key)
    (hlisted.shows key now)⟩

/-- Entries with one start and different ends, whose counts together do not fit in 64 bits, and
    texts that are no entry and no marker. -/
def textsOf : String → Values
  | "a" => .ofList [(counterKey "k", "5:20:18446744073709551615"), (resetKey "k", "4")]
  | "b" => .ofList [(counterKey "k", "5:30:7"), (resetKey "k", "-1")]
  | _ => .ofList [(counterKey "k", "5:40"), (resetKey "k", "5:0")]

def ofThree : Live := ⟨{"a", "b", "c"}, textsOf⟩

def knowing (id : String) (others : List String) : Member :=
  let address : Net.Address := ⟨.v4 [127, 0, 0, 1], 7000, 0⟩
  { Member.start id ⟨some id, address, address, [], "hivecount", millis 100, seconds 3600⟩ with
    node := ⟨textsOf id, others.map fun other => (other, textsOf other), 0⟩ }

theorem merge_exact_ofThree :
    (knowing "a" ["b", "c"]).Sees ofThree ∧ (knowing "c" ["b", "a"]).Sees ofThree ∧
      (knowing "a" ["b", "c"]).Agrees ofThree "k" (some 4) 10 (some ⟨5, 30, Word.max64⟩) ∧
      (knowing "c" ["b", "a"]).Agrees ofThree "k" (some 4) 10 (some ⟨5, 30, Word.max64⟩) := by
  have hsees : ∀ id others, (id :: others).Nodup → (id :: others).toFinset = {"a", "b", "c"} →
      (knowing id others).Sees ofThree := by
    intro id others honce hids
    have hlist : ((id, textsOf id) :: others.map fun other => (other, textsOf other)).map (·.1) = id :: others := by
      rw [List.map_cons, List.map_map]
      exact congrArg (id :: ·) (List.map_id others)
    refine ⟨?_, ?_, fun node hnode k => ?_⟩
    · exact hlist ▸ honce
    · exact hlist ▸ hids
    · rcases List.mem_cons.mp hnode with rfl | hnode
      · rfl
      · obtain ⟨other, -, rfl⟩ := List.mem_map.mp hnode
        rfl
  have ha := hsees "a" ["b", "c"] (by decide) (by decide)
  have hc := hsees "c" ["b", "a"] (by decide) (by decide)
  obtain ⟨reset, window, hreset, hwindow, hagree⟩ := merge_exact ofThree "k" 10
  obtain rfl : some 4 = reset := (ha.newest "k").unique hreset
  obtain rfl : some ⟨5, 30, Word.max64⟩ = window := (hagree _ ha).shows
  exact ⟨ha, hc, hagree _ ha, hagree _ hc⟩

end RateCounter.Mesh
