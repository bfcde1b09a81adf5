/-
  RateCounter.Proofs.Mesh.Agreed — no hit is lost in a window that all nodes agree on.

  At some time every member of a mesh knows what all of them publish (`Synchronised`), a key
  has an open window, and all entries with its start have its end. From then on, as long as
  the window lasts and the key is not reset, values that a node publishes concur with the
  window (`Values.Concur`): an entry with its start has its end, an entry that started later
  was over from the first, and the newest marker lies before it. Each node goes on to know of
  an entry with that start, so every hit joins the window, whatever the node has heard of the
  others (`View.window?_of_concur`). And each node's own entry has as many hits more as the
  node has had (`Values.Grown`), which no sweep and no delivery changes.

  - `no_hit_is_lost`: whichever nodes are hit, whatever is delivered, swept or done to other
    keys in between, every hit joins the window; and once all members hear of each other
    again, each of them shows it with all the hits in it.
-/

import RateCounter.Proofs.Mesh.Transparency

namespace RateCounter.Mesh

open View (hits isAfter)

variable {key : String} {w : SharedWindow} {t₀ now t : Int}

/-! ## Values that concur with a window -/

namespace Values

/-- What is published of the key goes together with its being open, from `t₀` on. -/
structure Concur (values : Values) (key : String) (w : SharedWindow) (t₀ : Int) : Prop where
  ends : ∀ e, values.entryOf key = some e → e.start = w.start → e.ends = w.ends
  lapsed : ∀ e, values.entryOf key = some e → w.start < e.start → e.ends ≤ t₀
  marker : ∀ m, values.markerOf key = some m → m < w.start

/-- The entry of the key has this start. -/
def Joins (values : Values) (key : String) (start : Int) : Prop := ∃ e, values.entryOf key = some e ∧ e.start = start

variable {values values' values'' : Values}

/-- Some hits have been added to what concurs with the window. -/
structure Grown (key : String) (w : SharedWindow) (t₀ : Int) (added : Nat) (values values' : Values) : Prop where
  concur : values'.Concur key w t₀
  joins : values.Joins key w.start → values'.Joins key w.start
  hitsIn : values'.hitsIn key w.start = min (values.hitsIn key w.start + added) Word.max64

theorem Grown.then {a : Nat} (h : Grown key w t₀ a values values') (h' : Grown key w t₀ 0 values' values'') :
    Grown key w t₀ a values values'' where
  concur := h'.concur
  joins := fun hjoins => h'.joins (h.joins hjoins)
  hitsIn := by
    rw [h'.hitsIn, h.hitsIn]
    omega

/-- Nothing that concerns the key has changed. -/
theorem Concur.unchanged (h : values.Concur key w t₀) (hentry : values'.entryOf key = values.entryOf key)
    (hmarker : values'.markerOf key = values.markerOf key) : Grown key w t₀ 0 values values' := by
  refine ⟨⟨?_, ?_, ?_⟩, ?_, ?_⟩
  · rw [hentry]; exact h.ends
  · rw [hentry]; exact h.lapsed
  · rw [hmarker]; exact h.marker
  · unfold Joins; rw [hentry]; exact id
  · have hle := values.hitsIn_le key w.start
    have hsame : values'.hitsIn key w.start = values.hitsIn key w.start := by
      unfold Values.hitsIn
      rw [hentry]
    omega

/-- A sweep that leaves the entry with a start, if there is one, leaves its hits. -/
theorem hitsIn_swept {start : Int} (hkept : ∀ e, values.entryOf key = some e → e.start = start → now < e.ends) :
    (values.swept now).hitsIn key start = values.hitsIn key start := by
  unfold Values.hitsIn
  rw [entryOf_swept]
  cases he : values.entryOf key with
  | none => rfl
  | some e =>
    by_cases hstart : e.start = start
    · simp [Option.filter, hkept e he hstart]
    · by_cases hopen : now < e.ends
      · simp [Option.filter, hopen]
      · simp [Option.filter, hopen, hstart]

/-- A sweep leaves the entry with the window's start: it ends with the window. -/
theorem Concur.swept (h : values.Concur key w t₀) (hnow : now < w.ends) :
    Grown key w t₀ 0 values (values.swept now) := by
  have hkept : ∀ e, values.entryOf key = some e → e.start = w.start → now < e.ends := by
    intro e he hstart
    rw [h.ends e he hstart]
    exact hnow
  have hsub : ∀ e, (values.swept now).entryOf key = some e → values.entryOf key = some e := by
    intro e he
    rw [entryOf_swept] at he
    exact (Option.filter_eq_some_iff.mp he).1
  refine ⟨⟨fun e he => h.ends e (hsub e he), fun e he => h.lapsed e (hsub e he), ?_⟩, ?_, ?_⟩
  · intro m hm
    rw [markerOf_swept] at hm
    exact h.marker m (Option.filter_eq_some_iff.mp hm).1
  · rintro ⟨e, he, hstart⟩
    refine ⟨e, ?_, hstart⟩
    rw [entryOf_swept, he]
    exact Option.filter_eq_some_iff.mpr ⟨rfl, decide_eq_true (hkept e he hstart)⟩
  · have hle := values.hitsIn_le key w.start
    rw [hitsIn_swept hkept]
    omega

/-- A hit that joins the window. -/
theorem Concur.hit (h : values.Concur key w t₀) {c : Nat}
    (hc : c = min (values.hitsIn key w.start + 1) Word.max64) (hfits : Entry.Fits ⟨w.start, w.ends, c⟩) :
    Grown key w t₀ 1 values (values.insert (counterKey key) (Entry.toText ⟨w.start, w.ends, c⟩)) := by
  have hentry : Values.entryOf (values.insert (counterKey key) (Entry.toText ⟨w.start, w.ends, c⟩)) key =
      some ⟨w.start, w.ends, c⟩ := by
    rw [entryOf_insert_entry values key key hfits, if_pos rfl]
  have hmarker := values.markerOf_insert_entry key key (Entry.toText ⟨w.start, w.ends, c⟩)
  generalize values.insert (counterKey key) (Entry.toText ⟨w.start, w.ends, c⟩) = values' at hentry hmarker ⊢
  refine ⟨⟨?_, ?_, ?_⟩, fun _ => ⟨_, hentry, rfl⟩, ?_⟩
  · intro e he _
    rw [hentry, Option.some.injEq] at he
    exact he ▸ rfl
  · intro e he hlate
    rw [hentry, Option.some.injEq] at he
    subst he
    exact absurd hlate (Int.lt_irrefl _)
  · intro m hm
    rw [hmarker] at hm
    exact h.marker m hm
  · rw [← hc]
    unfold Values.hitsIn
    rw [hentry]
    simp

end Values

/-! ## The window that a view shows -/

namespace View

variable {view : View}

theorem isAfter_latestReset_iff {start : Int} : isAfter start (view.latestReset key) = true ↔
    ∀ values ∈ view, ∀ m, values.markerOf key = some m → m < start := by
  cases hnewest : view.latestReset key with
  | none =>
    refine ⟨fun _ values hvalues m hm => ?_, fun _ => rfl⟩
    have hmem : m ∈ view.markers key := List.mem_filterMap.mpr ⟨values, hvalues, hm⟩
    rw [List.max?_eq_none_iff.mp hnewest] at hmem
    exact absurd hmem List.not_mem_nil
  | some newest =>
    obtain ⟨hmem, hmax⟩ := List.max?_eq_some_iff.mp hnewest
    constructor
    · intro hafter values hvalues m hm
      have hle : m ≤ newest := hmax m (List.mem_filterMap.mpr ⟨values, hvalues, hm⟩)
      exact Int.lt_of_le_of_lt hle (of_decide_eq_true hafter)
    · intro hmarkers
      obtain ⟨values, hvalues, hm⟩ := List.mem_filterMap.mp hmem
      exact decide_eq_true (hmarkers values hvalues newest hm)

/-- Values that concur with a window, one of them with an entry in it, show that window. -/
theorem window?_of_concur (hconcur : ∀ values ∈ view, values.Concur key w t₀)
    (hjoins : ∃ values ∈ view, values.Joins key w.start) (hle : w.start ≤ w.ends) (ht : t₀ ≤ t) (hlast : t < w.ends) :
    view.window? key t = some ⟨w.start, w.ends, min (view.hitsIn key w.start) Word.max64⟩ := by
  have hends : ∀ e ∈ view.entries key, e.start = w.start → e.ends = w.ends := by
    intro e he
    obtain ⟨values, hvalues, hentry⟩ := mem_entries.mp he
    exact (hconcur values hvalues).ends e hentry
  have hafter : isAfter w.start (view.latestReset key) = true :=
    isAfter_latestReset_iff.mpr fun values hvalues => (hconcur values hvalues).marker
  have hgroup : view.group key t w.start = (view.entries key).filter fun e => decide (e.start = w.start) := by
    unfold group
    rw [openEntries_eq, List.filter_filter]
    apply List.filter_congr
    intro e he
    by_cases hstart : e.start = w.start
    · have hopen : view.isOpen key t e = true :=
        isOpen_iff.mpr ⟨hends e he hstart ▸ hlast, hstart ▸ hafter⟩
      simp [hstart, hopen]
    · simp [hstart]
  obtain ⟨values, hvalues, e, hentry, hstart⟩ := hjoins
  have he : e ∈ view.group key t w.start := by
    rw [hgroup]
    exact List.mem_filter.mpr ⟨mem_entries.mpr ⟨values, hvalues, hentry⟩, decide_eq_true hstart⟩
  have hall : ∀ e ∈ view.group key t w.start, e.ends = w.ends := by
    intro e he
    obtain ⟨hopen, hstart⟩ := mem_group.mp he
    exact hends e (mem_openEntries.mp hopen).1 hstart
  refine window?_eq_some_iff.mpr ⟨⟨e, he⟩, ?_, ?_⟩
  · intro e' he'
    obtain ⟨hmem, hopen, -⟩ := mem_openEntries.mp he'
    obtain ⟨values', hvalues', hentry'⟩ := mem_entries.mp hmem
    by_cases hlate : w.start < e'.start
    · have := (hconcur values' hvalues').lapsed e' hentry' hlate
      omega
    · exact Int.not_lt.mp hlate
  · rw [combine_eq (combine_ends_eq (List.ne_nil_of_mem he) hall hle) (combine_total _ _), hgroup]
    rfl

/-- What is published concurs with the window that it shows, if all entries with its start have its end. -/
theorem concur_of_window? (hw : view.window? key t₀ = some w)
    (hagreed : ∀ e ∈ view.entries key, e.start = w.start → e.ends = w.ends) :
    ∀ values ∈ view, values.Concur key w t₀ := by
  have hshows := window?_eq_some_iff.mp hw
  have hafter := hshows.isAfter_start
  intro values hvalues
  have hmem {e : Entry} (he : values.entryOf key = some e) : e ∈ view.entries key :=
    mem_entries.mpr ⟨values, hvalues, he⟩
  refine ⟨fun e he => hagreed e (hmem he), ?_, isAfter_latestReset_iff.mp hafter values hvalues⟩
  intro e he hlate
  by_cases hopen : t₀ < e.ends
  · have hcounts : e ∈ view.openEntries key t₀ := by
      refine mem_openEntries.mpr ⟨hmem he, hopen, isAfter_of_lt (fun m hm => ?_) hlate⟩
      rw [hm] at hafter
      exact Int.le_of_lt (of_decide_eq_true hafter)
    have := hshows.latest e hcounts
    omega
  · exact Int.not_lt.mp hopen

end View

/-! ## One node -/

/-- 1 if it is a hit of the key with an accepted length, else 0. -/
def hitsBy (key : String) : Operation → Nat
  | .increment k window => if k = key ∧ (Window.accept window).isOk = true then 1 else 0
  | _ => 0

namespace Node

open Values (Grown)

variable {n : Node}

theorem Grown.pace {added : Nat} {values : Values} (h : Grown key w t₀ added values n.own) (hlast : now < w.ends) :
    Grown key w t₀ added values (n.pace now).own := by
  rcases pace_own n now with hown | hown
  · rw [hown]; exact h
  · rw [hown]; exact h.then (h.concur.swept hlast)

section

variable (hconcur : ∀ values ∈ n.view, values.Concur key w t₀) (hjoins : ∃ values ∈ n.view, values.Joins key w.start)
  (hle : w.start ≤ w.ends)

include hconcur hjoins hle

/-- A hit joins the window. -/
theorem entryFor_of_concur (length : Int) (ht : t₀ ≤ now) (hlast : now < w.ends) : ∃ total,
    n.entryFor key length now = (⟨w.start, w.ends, n.ownCount key w.start⟩, ⟨w.start, w.ends, total⟩) := by
  have hwindow : n.window? key now = some _ := View.window?_of_concur hconcur hjoins hle ht hlast
  have hjoined : n.entryFor key length now = _ := entryFor_joined hwindow
  exact ⟨_, hjoined⟩

omit hle in
theorem joined_fits (start : Int) : Entry.Fits ⟨w.start, w.ends, n.ownCount key start⟩ := by
  obtain ⟨values, hvalues, e, hentry, hstart⟩ := hjoins
  have hends := (hconcur values hvalues).ends e hentry hstart
  have hfits := values.entryOf_fits hentry
  exact ⟨hstart ▸ hfits.start, hends ▸ hfits.ends, (ownCount_bounds n key start).2⟩

theorem increment_grown (length : Int) (ht : t₀ ≤ now) (hlast : now < w.ends) :
    Grown key w t₀ 1 n.own (n.increment key length now).1.own := by
  obtain ⟨total, hentry⟩ := entryFor_of_concur hconcur hjoins hle length ht hlast
  have hown := hconcur n.own List.mem_cons_self
  have hpublished := hown.hit (ownCount_eq_hits n key w.start) (joined_fits hconcur hjoins w.start)
  show Grown key w t₀ 1 n.own ((n.publish (counterKey key) (n.entryFor key length now).1.toText).pace now).own
  rw [hentry]
  exact Grown.pace hpublished hlast

/-- Whatever a node is asked for adds to its own hits in the window those that are hits of the key. -/
theorem perform_grown {now : Instant} (ht : t₀ ≤ now.toMillis) (hlast : now.toMillis < w.ends) {op : Operation}
    (hreset : op ≠ .reset key) : Grown key w t₀ (hitsBy key op) n.own (n.perform op now).1.own := by
  have hown := hconcur n.own List.mem_cons_self
  unfold perform
  cases op with
  | increment k window =>
    dsimp only [hitsBy]
    cases haccept : Window.accept window with
    | error e =>
      rw [if_neg fun h => Bool.false_ne_true h.2]
      exact hown.unchanged rfl rfl
    | ok ns =>
      by_cases hkey : k = key
      · rw [if_pos ⟨hkey, rfl⟩, hkey]
        exact increment_grown hconcur hjoins hle (lengthOf ns) ht hlast
      · rw [if_neg fun h => hkey h.1]
        refine Grown.pace (n := n.publish (counterKey k) _) (hown.unchanged ?_ ?_) hlast
        · exact n.own.entryOf_insert_ne (fun h => hkey (counterKey_inj.mp h)) _
        · exact n.own.markerOf_insert_ne (counterKey_ne_resetKey k key) _
  | reset k =>
    refine hown.unchanged ?_ ?_
    · exact n.own.entryOf_insert_ne (counterKey_ne_resetKey key k).symm _
    · exact n.own.markerOf_insert_ne (fun h => hreset (by rw [resetKey_inj.mp h])) _
  | count k => exact hown.unchanged rfl rfl
  | resetTime k =>
    dsimp only
    split
    · exact hown.unchanged rfl rfl
    · exact hown.unchanged rfl rfl

end

end Node

/-! ## All nodes -/

def Event.hitsOn (key : String) : Event → Nat
  | .call _ op => hitsBy key op
  | _ => 0

/-- The hits of a key among the events. -/
def hitsOn (key : String) : List (Instant × Event) → Nat
  | [] => 0
  | (_, event) :: events => event.hitsOn key + hitsOn key events

namespace Network

open Values (Grown)

variable {net : Network} {holder : Nat} {added : Nat}

/-- Every member knows the current values of all others. -/
def Synchronised (net : Network) : Prop := ∀ (i : Nat) (m : Member), net.members[i]? = some m →
  m.node.others.Perm ((net.members.eraseIdx i).map fun other => (other.id, other.node.own))

/-- All that any member knows of concurs with the window, one member has an entry in it that all others know of,
    and hits have been added to it. -/
structure Agreed (net : Network) (holder : Nat) (key : String) (w : SharedWindow) (t₀ : Int) (added : Nat) : Prop where
  ids : (net.members.map Member.id).Nodup
  concur : ∀ (j : Nat) (m : Member), net.members[j]? = some m → ∀ values ∈ m.node.view, values.Concur key w t₀
  held : ∃ m, net.members[holder]? = some m ∧ m.node.own.Joins key w.start ∧
    ∀ (j : Nat) (m' : Member), net.members[j]? = some m' → j ≠ holder →
      ∃ values, (m.id, values) ∈ m'.node.others ∧ values.Joins key w.start
  total : min (net.published.hitsIn key w.start) Word.max64 = min (w.total + added) Word.max64

theorem ids_change (net : Network) (j : Nat) (f : Node → Node) :
    (net.change j f).members.map Member.id = net.members.map Member.id := by
  apply List.ext_getElem?
  intro i
  rw [List.getElem?_map, List.getElem?_map, getElem?_change, Option.map_map]
  congr 1
  funext m
  show (if j = i then _ else m).id = m.id
  split <;> rfl

theorem length_after (net : Network) (now : Instant) (event : Event) :
    (net.after now event).members.length = net.members.length :=
  (length_exchange _).symm.trans (length_step net now event)

theorem length_run (net : Network) (events : List (Instant × Event)) :
    (net.run events).members.length = net.members.length := by
  induction events generalizing net with
  | nil => rfl
  | cons event events ih => exact (ih _).trans (length_after net event.1 event.2)

namespace Agreed

theorem joins (h : net.Agreed holder key w t₀ added) {j : Nat} {m : Member} (hm : net.members[j]? = some m) :
    ∃ values ∈ m.node.view, values.Joins key w.start := by
  obtain ⟨first, hfirst, hown, hothers⟩ := h.held
  by_cases hj : j = holder
  · subst hj
    rw [hm, Option.some.injEq] at hfirst
    subst hfirst
    exact ⟨m.node.own, List.mem_cons_self, hown⟩
  · obtain ⟨values, hvalues, hjoins⟩ := hothers j m hm hj
    exact ⟨values, List.mem_cons_of_mem _ (List.mem_map.mpr ⟨_, hvalues, rfl⟩), hjoins⟩

/-- A member adds hits to its own values. -/
theorem change (h : net.Agreed holder key w t₀ added) {j : Nat} {m : Member} (hm : net.members[j]? = some m)
    {f : Node → Node} (hothers : (f m.node).others = m.node.others) {more : Nat}
    (hown : Grown key w t₀ more m.node.own (f m.node).own) :
    (net.change j f).Agreed holder key w t₀ (added + more) := by
  refine ⟨?_, ?_, ?_, ?_⟩
  · rw [ids_change]
    exact h.ids
  · intro i m' hm' values hvalues
    obtain ⟨old, hold, ⟨rfl, rfl⟩ | ⟨-, rfl⟩⟩ := change_cases hm'
    · obtain rfl : m = old := Option.some.inj (hm.symm.trans hold)
      rcases List.mem_cons.mp hvalues with rfl | hvalues
      · exact hown.concur
      · rw [hothers] at hvalues
        exact h.concur j m hm values (List.mem_cons_of_mem _ hvalues)
    · exact h.concur i m' hold values hvalues
  · obtain ⟨first, hfirst, hjoins, htold⟩ := h.held
    have hkept : ∃ m', (net.change j f).members[holder]? = some m' ∧ m'.id = first.id ∧
        m'.node.own.Joins key w.start := by
      refine ⟨_, by rw [getElem?_change, hfirst]; rfl, ?_⟩
      split
      · next hij =>
        subst hij
        obtain rfl : m = first := Option.some.inj (hm.symm.trans hfirst)
        exact ⟨rfl, hown.joins hjoins⟩
      · exact ⟨rfl, hjoins⟩
    obtain ⟨first', hfirst', hid, hjoins'⟩ := hkept
    refine ⟨first', hfirst', hjoins', fun i m' hm' hne => ?_⟩
    rw [hid]
    obtain ⟨old, hold, ⟨rfl, rfl⟩ | ⟨-, rfl⟩⟩ := change_cases hm'
    · obtain rfl : m = old := Option.some.inj (hm.symm.trans hold)
      show ∃ values, _ ∈ (f m.node).others ∧ _
      rw [hothers]
      exact htold j m hm hne
    · exact htold i m' hold hne
  · obtain ⟨before, after, hmembers, rfl⟩ := split_at hm
    have htotal := h.total
    have hmore := hown.hitsIn
    unfold published at htotal ⊢
    rw [change_eq hmembers]
    rw [hmembers] at htotal
    rw [List.map_append, List.map_cons, View.hitsIn_append, View.hitsIn_cons] at htotal ⊢
    show min (_ + ((f m.node).own.hitsIn key w.start + _)) _ = _
    rw [hmore]
    omega

theorem call (h : net.Agreed holder key w t₀ added) (hle : w.start ≤ w.ends) {now : Instant}
    (ht : t₀ ≤ now.toMillis) (hlast : now.toMillis < w.ends) {j : Nat} {m : Member} (hm : net.members[j]? = some m)
    {op : Operation} (hreset : op ≠ .reset key) :
    (net.after now (.call j op)).Agreed holder key w t₀ (added + hitsBy key op) :=
  h.change hm (f := fun n => (n.perform op now).1) (Node.perform_others m.node op now)
    (Node.perform_grown (h.concur j m hm) (h.joins hm) hle ht hlast hreset)

theorem sweep (h : net.Agreed holder key w t₀ added) {now : Instant} (hlast : now.toMillis < w.ends) (j : Nat) :
    (net.after now (.sweep j)).Agreed holder key w t₀ added := by
  show (net.change j fun n => n.sweep now.toMillis).Agreed holder key w t₀ added
  cases hm : net.members[j]? with
  | none => rw [change_none hm]; exact h
  | some m =>
    have hown := h.concur j m hm m.node.own List.mem_cons_self
    exact h.change hm (f := fun n => n.sweep now.toMillis) rfl (hown.swept hlast)

/-- A delivery from the holder brings an entry in the window; one from any other member leaves what is known of the
    holder's. -/
theorem deliver (h : net.Agreed holder key w t₀ added) (sender receiver : Nat) :
    (net.deliver sender receiver).Agreed holder key w t₀ added := by
  have hpublished := deliver_published net sender receiver
  unfold Network.deliver at hpublished ⊢
  cases hs : net.members[sender]? with
  | none => exact h
  | some s =>
    rw [hs] at hpublished
    dsimp only at hpublished ⊢
    have hnew := h.concur sender s hs s.node.own List.mem_cons_self
    refine ⟨?_, ?_, ?_, ?_⟩
    · rw [ids_change]
      exact h.ids
    · intro i m' hm' values hvalues
      obtain ⟨old, hold, ⟨rfl, rfl⟩ | ⟨-, rfl⟩⟩ := change_cases hm'
      · rcases List.mem_cons.mp hvalues with rfl | hvalues
        · exact h.concur receiver old hold old.node.own List.mem_cons_self
        · rcases List.mem_cons.mp hvalues with rfl | hvalues
          · exact hnew
          · obtain ⟨other, hother, rfl⟩ := List.mem_map.mp hvalues
            exact h.concur receiver old hold _
              (List.mem_cons_of_mem _ (List.mem_map_of_mem (List.mem_filter.mp hother).1))
      · exact h.concur i m' hold values hvalues
    · obtain ⟨first, hfirst, hjoins, htold⟩ := h.held
      have hkept : ∃ m', (net.change receiver fun n => n.receive s.id s.node.own).members[holder]? = some m' ∧
          m'.id = first.id ∧ m'.node.own.Joins key w.start := by
        refine ⟨_, by rw [getElem?_change, hfirst]; rfl, ?_⟩
        split <;> exact ⟨rfl, hjoins⟩
      obtain ⟨first', hfirst', hid, hjoins'⟩ := hkept
      refine ⟨first', hfirst', hjoins', fun i m' hm' hne => ?_⟩
      rw [hid]
      obtain ⟨old, hold, ⟨rfl, rfl⟩ | ⟨-, rfl⟩⟩ := change_cases hm'
      · obtain ⟨values, hvalues, hknown⟩ := htold receiver old hold hne
        by_cases hid : first.id = s.id
        · -- Ids tell members apart, so it is the holder that has sent its values.
          have hsender : holder = sender := by
            have hlt : holder < (net.members.map Member.id).length := by
              rw [List.length_map]
              exact (List.getElem?_eq_some_iff.mp hfirst).1
            refine (List.getElem?_inj hlt h.ids).mp ?_
            rw [List.getElem?_map, List.getElem?_map, hfirst, hs, Option.map_some, Option.map_some, hid]
          subst hsender
          rw [hfirst, Option.some.injEq] at hs
          subst hs
          exact ⟨first.node.own, List.mem_cons_self, hjoins⟩
        · refine ⟨values, List.mem_cons_of_mem _ (List.mem_filter.mpr ⟨hvalues, ?_⟩), hknown⟩
          simpa using hid
      · exact htold i m' hold hne
    · rw [hpublished]
      exact h.total

/-- Any event at a time in the window but a reset of the key. -/
theorem after (h : net.Agreed holder key w t₀ added) (hle : w.start ≤ w.ends) {now : Instant}
    (htime : t₀ ≤ now.toMillis ∧ now.toMillis < w.ends) {event : Event} (hplaced : event.Placed net.members.length)
    (hreset : ∀ i, event ≠ .call i (.reset key)) :
    (net.after now event).Agreed holder key w t₀ (added + event.hitsOn key) := by
  cases event with
  | call i op =>
    have hm := List.getElem?_eq_getElem (l := net.members) hplaced
    exact h.call hle htime.1 htime.2 hm fun hop => hreset i (by rw [hop])
  | sweep i => exact h.sweep htime.2 i
  | deliver sender receiver => exact h.deliver sender receiver

theorem run {events : List (Instant × Event)} (h : net.Agreed holder key w t₀ added) (hle : w.start ≤ w.ends)
    (htimes : ∀ event ∈ events, t₀ ≤ event.1.toMillis ∧ event.1.toMillis < w.ends)
    (hplaced : ∀ event ∈ events, event.2.Placed net.members.length)
    (hresets : ∀ event ∈ events, ∀ i, event.2 ≠ .call i (.reset key)) :
    (net.run events).Agreed holder key w t₀ (added + hitsOn key events) := by
  induction events generalizing net added with
  | nil => exact h
  | cons event events ih =>
    have hfirst := h.after hle (htimes event List.mem_cons_self) (hplaced event List.mem_cons_self)
      (hresets event List.mem_cons_self)
    have hrest := ih hfirst (fun e he => htimes e (List.mem_cons_of_mem _ he))
      (fun e he => length_after net event.1 event.2 ▸ hplaced e (List.mem_cons_of_mem _ he))
      fun e he => hresets e (List.mem_cons_of_mem _ he)
    rw [hitsOn, ← Nat.add_assoc]
    exact hrest

/-- What all members publish shows the window with all the hits in it. -/
theorem window?_published (h : net.Agreed holder key w t₀ added) (hle : w.start ≤ w.ends) (ht : t₀ ≤ t)
    (hlast : t < w.ends) :
    net.published.window? key t = some ⟨w.start, w.ends, min (w.total + added) Word.max64⟩ := by
  rw [← h.total]
  refine View.window?_of_concur ?_ ?_ hle ht hlast
  · intro values hvalues
    obtain ⟨m, hm, rfl⟩ := List.mem_map.mp hvalues
    obtain ⟨j, hj⟩ := List.mem_iff_getElem?.mp hm
    exact h.concur j m hj m.node.own List.mem_cons_self
  · obtain ⟨first, hfirst, hjoins, -⟩ := h.held
    exact ⟨first.node.own, List.mem_map.mpr ⟨first, List.mem_of_getElem? hfirst, rfl⟩, hjoins⟩

end Agreed

/-! ## Synchronised members -/

theorem eraseIdx_split {α : Type} (before : List α) (a : α) (after : List α) :
    (before ++ a :: after).eraseIdx before.length = before ++ after := by
  rw [List.eraseIdx_append_of_length_le (Nat.le_refl _), Nat.sub_self, List.eraseIdx_cons_zero]

theorem exchange_synchronised (h : net.Whole) : net.exchange.Synchronised := by
  intro i m hm
  rw [getElem?_exchange] at hm
  obtain ⟨old, hold, rfl⟩ := Option.map_eq_some_iff.mp hm
  obtain ⟨before, after, hmembers, rfl⟩ := split_at hold
  have hknown (m : Member) (j : Nat) :
      ((net.exchangeFor m j).id, (net.exchangeFor m j).node.own) = (m.id, m.node.own) := by
    unfold exchangeFor
    split <;> rfl
  have hothers : (net.exchangeFor old before.length).node.others =
      (before ++ after).map fun other => (other.id, other.node.own) := by
    unfold exchangeFor
    rw [if_pos (h.live old (List.mem_of_getElem? hold)), heardBy_whole h hmembers]
  have hrest : (net.exchange.members.eraseIdx before.length).map (fun other => (other.id, other.node.own)) =
      (net.members.eraseIdx before.length).map fun other => (other.id, other.node.own) := by
    apply List.ext_getElem?
    intro j
    rw [List.getElem?_map, List.getElem?_map, List.getElem?_eraseIdx, List.getElem?_eraseIdx]
    split
    · rw [getElem?_exchange, Option.map_map]
      congr 1
      funext m
      exact hknown m j
    · rw [getElem?_exchange, Option.map_map]
      congr 1
      funext m
      exact hknown m (j + 1)
  rw [hothers, hrest, hmembers, eraseIdx_split]

/-- The view of a synchronised member is what all members publish. -/
theorem Synchronised.view_perm (h : net.Synchronised) {i : Nat} {m : Member} (hm : net.members[i]? = some m) :
    m.node.view.Perm net.published := by
  have hothers := (h i m hm).map (·.2)
  rw [List.map_map] at hothers
  obtain ⟨before, after, hmembers, rfl⟩ := split_at hm
  rw [hmembers, eraseIdx_split] at hothers
  unfold published
  rw [hmembers, List.map_append, List.map_cons]
  rw [List.map_append] at hothers
  exact (hothers.cons m.node.own).trans List.perm_middle.symm

/-- A synchronised mesh whose entries agree on the window that one member shows. -/
theorem Synchronised.agreed (h : net.Synchronised) (hids : (net.members.map Member.id).Nodup) {m : Member}
    (hm : m ∈ net.members) (hw : m.node.window? key t₀ = some w)
    (hagreed : ∀ e ∈ net.published.entries key, e.start = w.start → e.ends = w.ends) :
    w.start ≤ w.ends ∧ ∃ holder, net.Agreed holder key w t₀ 0 := by
  obtain ⟨i, hi⟩ := List.mem_iff_getElem?.mp hm
  have hpublished : net.published.window? key t₀ = some w := (View.window?_perm (h.view_perm hi) key t₀).symm.trans hw
  have hshows := View.window?_eq_some_iff.mp hpublished
  have hle : w.start ≤ w.ends := (hshows.ends_le_iff.mp (Int.le_refl _)).1
  have hconcur := View.concur_of_window? hpublished hagreed
  obtain ⟨e, he⟩ := hshows.inhabited
  obtain ⟨hopen, hstart⟩ := View.mem_group.mp he
  obtain ⟨values, hvalues, hentry⟩ := View.mem_entries.mp (View.mem_openEntries.mp hopen).1
  obtain ⟨first, hfirst, rfl⟩ := List.mem_map.mp hvalues
  obtain ⟨holder, hholder⟩ := List.mem_iff_getElem?.mp hfirst
  refine ⟨hle, holder, hids, ?_, ⟨first, hholder, ⟨e, hentry, hstart⟩, ?_⟩, ?_⟩
  · intro j m hm values hvalues
    exact hconcur values ((h.view_perm hm).mem_iff.mp hvalues)
  · intro j m hm hne
    refine ⟨first.node.own, (h j m hm).mem_iff.mpr (List.mem_map.mpr ⟨first, ?_, rfl⟩), e, hentry, hstart⟩
    exact List.mem_eraseIdx_iff_getElem?.mpr ⟨holder, fun heq => hne heq.symm, hholder⟩
  · have hshown := View.window?_of_concur hconcur ⟨first.node.own, hvalues, e, hentry, hstart⟩ hle (Int.le_refl t₀)
      hshows.lt_ends
    rw [hpublished, Option.some.injEq] at hshown
    have htotal := congrArg SharedWindow.total hshown
    dsimp only at htotal
    omega

theorem Whole.run (h : net.Whole) (events : List (Instant × Event)) : (net.run events).Whole := by
  induction events generalizing net with
  | nil => exact h
  | cons event events ih => exact ih (h.after event.1 event.2)

end Network

open Network in
/-- While a window lasts that all members know of and agree on, and its key is not reset, every hit of the key
    joins it, whichever member is hit and whatever it has heard of the others since. When all members hear of each
    other again, each of them shows the window with all the hits in it, at any time in it. -/
theorem no_hit_is_lost {net : Network} (hwhole : net.Whole) (hids : (net.members.map Member.id).Nodup)
    (hsynchronised : net.Synchronised) {m : Member} (hm : m ∈ net.members)
    (hwindow : m.node.window? key t₀ = some w)
    (hagreed : ∀ e ∈ net.published.entries key, e.start = w.start → e.ends = w.ends)
    {events : List (Instant × Event)}
    (htimes : ∀ event ∈ events, t₀ ≤ event.1.toMillis ∧ event.1.toMillis < w.ends)
    (hplaced : ∀ event ∈ events, event.2.Placed net.members.length)
    (hresets : ∀ event ∈ events, ∀ i, event.2 ≠ .call i (.reset key)) :
    (∀ before now i window after, events = before ++ (now, .call i (.increment key window)) :: after →
      Window.accept window = .ok window → ∃ m total, (net.run before).members[i]? = some m ∧
        (m.node.increment key (Node.lengthOf window) now.toMillis).2 = ⟨w.start, w.ends, total⟩ ∧
        (m.node.perform (.increment key window) now).2 = .ok (.count total)) ∧
      ∀ m ∈ (net.run events).exchange.members, ∀ t, t₀ ≤ t → t < w.ends →
        m.node.window? key t = some ⟨w.start, w.ends, min (w.total + hitsOn key events) maxCount⟩ := by
  obtain ⟨hle, holder, h⟩ := hsynchronised.agreed hids hm hwindow hagreed
  constructor
  · rintro before now i window after rfl haccept
    have hhere : (now, Event.call i (.increment key window)) ∈
        before ++ (now, .call i (.increment key window)) :: after := List.mem_append_right _ List.mem_cons_self
    have hbefore := h.run hle (fun e he => htimes e (List.mem_append_left _ he))
      (fun e he => hplaced e (List.mem_append_left _ he)) fun e he => hresets e (List.mem_append_left _ he)
    have hlt : i < (net.run before).members.length := by
      rw [length_run]
      exact hplaced _ hhere
    have hi := List.getElem?_eq_getElem hlt
    obtain ⟨total, hentry⟩ := Node.entryFor_of_concur (hbefore.concur i _ hi) (hbefore.joins hi) hle
      (Node.lengthOf window) (htimes _ hhere).1 (htimes _ hhere).2
    have hreport : ((net.run before).members[i].node.increment key (Node.lengthOf window) now.toMillis).2 =
        ⟨w.start, w.ends, total⟩ := congrArg Prod.snd hentry
    refine ⟨_, total, hi, hreport, ?_⟩
    unfold Node.perform
    dsimp only
    rw [haccept]
    exact congrArg (fun w => Except.ok (Value.count w.total)) hreport
  · intro m hm t ht hlast
    obtain ⟨i, hi⟩ := List.mem_iff_getElem?.mp hm
    have hview := exchange_view (hwhole.run events) hi
    have hshown := (h.run hle htimes hplaced hresets).window?_published hle ht hlast
    rw [Nat.zero_add] at hshown
    exact (View.window?_perm hview key t).trans hshown

/-- Two members, once both have heard of a hit. -/
def hitAndHeard : Network :=
  ((Network.joined (Network.onOneHost ["a", "b"])).run [(0, .call 0 (.increment "k" (seconds 60)))]).exchange

/-- Hits at both members, of which only one is heard of by the other; the clock is stepped back by a second. -/
def apart : List (Instant × Event) :=
  [(seconds 2, .call 1 (.increment "k" (seconds 30))), (seconds 3, .call 0 (.increment "k" (seconds 90))),
    (seconds 3, .deliver 0 1), (seconds 3, .call 0 (.reset "other")), (seconds 2, .sweep 1),
    (seconds 2, .call 1 (.increment "k" (millis 1)))]

theorem no_hit_is_lost_apart : ∃ m ∈ hitAndHeard.members, m.node.window? "k" 1000 = some ⟨0, 60000, 1⟩ ∧
    (∀ event ∈ apart, 1000 ≤ event.1.toMillis ∧ event.1.toMillis < 60000) ∧
    ∀ m ∈ (hitAndHeard.run apart).exchange.members, m.node.window? "k" 59999 = some ⟨0, 60000, 4⟩ := by
  have hcluster : ∀ a ∈ Network.onOneHost ["a", "b"], ∀ b ∈ Network.onOneHost ["a", "b"],
      a.2.clusterId = b.2.clusterId := by decide
  have hbefore := (Network.linked_whole _ hcluster).exchange.run [(0, .call 0 (.increment "k" (seconds 60)))]
  have hwhole : hitAndHeard.Whole := hbefore.exchange
  have hsynchronised : hitAndHeard.Synchronised := Network.exchange_synchronised hbefore
  have hids : (hitAndHeard.members.map Member.id).Nodup := by decide
  obtain ⟨m, hm, hwindow⟩ : ∃ m ∈ hitAndHeard.members, m.node.window? "k" 1000 = some ⟨0, 60000, 1⟩ :=
    ⟨_, List.mem_cons_self, rfl⟩
  have hagreed : ∀ e ∈ hitAndHeard.published.entries "k", e.start = 0 → e.ends = 60000 := by decide +kernel
  have htimes : ∀ event ∈ apart, 1000 ≤ event.1.toMillis ∧ event.1.toMillis < 60000 := by decide
  have hplaced : ∀ event ∈ apart, event.2.Placed hitAndHeard.members.length := by decide
  have hresets : ∀ event ∈ apart, ∀ i, event.2 ≠ .call i (.reset "k") := by simp [apart]
  refine ⟨m, hm, hwindow, htimes, fun m' hm' => ?_⟩
  exact (no_hit_is_lost hwhole hids hsynchronised hm hwindow hagreed htimes hplaced hresets).2 m' hm' 59999
    (by decide) (by decide)

end RateCounter.Mesh
