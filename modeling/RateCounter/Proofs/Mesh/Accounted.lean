/-
  RateCounter.Proofs.Mesh.Accounted — no window shows a hit that was not made, or one twice.

  Here nothing is assumed of how members hear of each other. All values that a member has
  ever had stay at hand (`Chronicle.sent`): any of them may come to any other member at any
  time, late, again, or after newer ones. A member may lose another at any time, and hear of
  it again later, so the members that are live to it may be any. The clock may show whatever
  it likes, hits may have any length, and what each of them reports is recorded
  (`Chronicle.reports`).

  Of a member's values, in whatever version, the entry of a key has at most as many hits as
  the member has reported in a window with that start (`Chronicle.Within`): a hit adds one to
  its entry only if that has the start of the window reported. A member knows at most one
  version of each other member's values, and none of its own but those it has (`Sound`). So
  what it adds up is at most what all of them have reported (`Sound.hitsIn_le`).

  - `Accounted.after`, `Accounted.run`: all hits stay accounted for, whatever happens.
  - `never_overcounts`: whatever has happened to a mesh, no window that a member shows, and
    none that a hit has reported, has more hits than were reported with its start by then.
-/

import RateCounter.Proofs.Mesh.Run

namespace RateCounter.Mesh

/-! ## Hits of any length -/

namespace Node

variable {now : Int}

/-- A hit publishes an entry that can be read back, however long its window. -/
theorem entryFor_readable (n : Node) (key : String) (length : Int) (hnow : IsTime now) :
    (n.entryFor key length now).1.Fits := by
  cases hw : n.window? key now with
  | none =>
    rw [entryFor_opened hw]
    have hone : 1 ≤ Word.max64 := by decide
    exact ⟨opening_isTime _ hnow, addTime_isTime _ _, hone⟩
  | some w =>
    rw [entryFor_joined hw]
    have hshows := View.window?_eq_some_iff.mp hw
    have hfits : ∀ e ∈ n.view.group key now w.start, e.Fits := by
      intro e he
      have hknown := (View.mem_openEntries.mp (View.mem_group.mp he).1).1
      obtain ⟨values, -, hentry⟩ := View.mem_entries.mp hknown
      exact values.entryOf_fits hentry
    obtain ⟨e, he⟩ := hshows.inhabited
    have hstart : IsTime w.start := (View.mem_group.mp he).2 ▸ (hfits e he).start
    have hle : w.start ≤ w.ends := (hshows.ends_le_iff.mp (Int.le_refl _)).1
    have hlast : w.ends ≤ maxTime := hshows.ends_le_iff.mpr ⟨hstart.2, fun e he => (hfits e he).ends.2⟩
    exact ⟨hstart, ⟨Int.le_trans hstart.1 hle, hlast⟩, (ownCount_bounds n key w.start).2⟩

/-- A hit adds one to the hits that the node has in the window it reports, if it has any. -/
theorem entryFor_count (n : Node) (key : String) (length now : Int) :
    (n.entryFor key length now).1.start = (n.entryFor key length now).2.start ∧
      (n.entryFor key length now).1.count ≤ n.own.hitsIn key (n.entryFor key length now).2.start + 1 := by
  cases hw : n.window? key now with
  | none =>
    rw [entryFor_opened hw]
    exact ⟨rfl, Nat.le_add_left 1 _⟩
  | some w =>
    rw [entryFor_joined hw]
    have hcount := ownCount_eq_hits n key w.start
    refine ⟨rfl, ?_⟩
    show n.ownCount key w.start ≤ n.own.hitsIn key w.start + 1
    unfold Values.hitsIn
    omega

/-- A hit reports no more hits than those that the node knows of, and itself. -/
theorem report_le (n : Node) (key : String) (length now : Int) :
    (n.entryFor key length now).2.total ≤ n.view.hitsIn key (n.entryFor key length now).2.start + 1 := by
  cases hw : n.window? key now with
  | none =>
    rw [entryFor_opened hw]
    exact Nat.le_add_left 1 _
  | some w =>
    rw [entryFor_joined hw]
    have htotal := (View.window?_eq_some_iff.mp hw).total
    have hle := View.hits_group_le n.view key now w.start
    show addCount w.total 1 ≤ n.view.hitsIn key w.start + 1
    unfold addCount
    omega

end Node

/-! ## What is reported -/

/-- The window that a hit of a member has reported. -/
structure Report where
  member : String
  key : String
  window : SharedWindow
  deriving DecidableEq, Repr

namespace Report

def isOf (r : Report) (key : String) (start : Int) : Bool := decide (r.key = key ∧ r.window.start = start)

/-- The hits of a key reported in a window with this start. -/
def count (reports : List Report) (key : String) (start : Int) : Nat := reports.countP fun r => r.isOf key start

/-- Those of one member. -/
def countOf (reports : List Report) (member key : String) (start : Int) : Nat :=
  reports.countP fun r => decide (r.member = member) && r.isOf key start

variable {reports : List Report} {key : String} {start : Int}

theorem countOf_cons_self (reports : List Report) (member key : String) (w : SharedWindow) :
    countOf (⟨member, key, w⟩ :: reports) member key w.start = countOf reports member key w.start + 1 := by
  unfold countOf
  exact List.countP_cons_of_pos (by simp [isOf])

theorem countOf_le_cons (r : Report) (reports : List Report) (member key : String) (start : Int) :
    countOf reports member key start ≤ countOf (r :: reports) member key start := by
  unfold countOf
  exact (List.sublist_cons_self r reports).countP_le

/-- What is left without the reports of one member has all those of the others. -/
theorem countOf_others {a b : String} (hab : a ≠ b) (reports : List Report) (key : String) (start : Int) :
    countOf (reports.filter fun r => !decide (r.member = b)) a key start = countOf reports a key start := by
  unfold countOf
  rw [List.countP_filter]
  apply List.countP_congr
  intro r _
  by_cases ha : r.member = a
  · have hb : r.member ≠ b := fun h => hab (ha.symm.trans h)
    simp [ha, hab]
  · simp [ha]

theorem count_split (reports : List Report) (member key : String) (start : Int) : count reports key start =
    countOf reports member key start + count (reports.filter fun r => !decide (r.member = member)) key start := by
  unfold count countOf
  rw [List.countP_eq_countP_filter_add reports _ fun r => decide (r.member = member), List.countP_filter]
  congr 1
  apply List.countP_congr
  intro r _
  rw [Bool.and_comm]

end Report

/-- Values of several members, each with at most the hits that the member has reported, have together at most
    those that all have reported. -/
theorem View.hitsIn_le_count {reports : List Report} {known : List (String × Values)} {key : String} {start : Int}
    (hids : (known.map (·.1)).Nodup)
    (hknown : ∀ m ∈ known, m.2.hitsIn key start ≤ Report.countOf reports m.1 key start) :
    View.hitsIn (known.map (·.2)) key start ≤ Report.count reports key start := by
  induction known generalizing reports with
  | nil => exact Nat.zero_le _
  | cons m known ih =>
    obtain ⟨hfresh, hrest⟩ := List.nodup_cons.mp hids
    have hfirst := hknown m List.mem_cons_self
    have hothers : View.hitsIn (known.map (·.2)) key start ≤
        Report.count (reports.filter fun r => !decide (r.member = m.1)) key start := by
      refine ih hrest fun other hother => ?_
      have hid : other.1 ∈ known.map (·.1) := List.mem_map_of_mem hother
      have hne : other.1 ≠ m.1 := fun heq => hfresh (by rwa [heq] at hid)
      rw [Report.countOf_others hne]
      exact hknown other (List.mem_cons_of_mem _ hother)
    rw [List.map_cons, View.hitsIn_cons, Report.count_split reports m.1]
    omega

/-! ## Chronicles -/

inductive Happening where
  | hit (member : Nat) (key : String) (length : Int)
  | reset (member : Nat) (key : String)
  | sweep (member : Nat)
  /-- Some values that a member has had come to another. -/
  | deliver (letter receiver : Nat)
  /-- A member takes another for dead. -/
  | lose (member : Nat) (id : String)
  deriving DecidableEq, Repr

structure Chronicle where
  net : Network
  /-- All values that members have had, each with the member's id. -/
  sent : List (String × Values)
  /-- What hits have reported. -/
  reports : List Report

namespace Chronicle

def start (members : List (String × ClusterConfig)) : Chronicle :=
  ⟨Network.fresh members, members.map fun (id, _) => (id, {}), []⟩

/-- A member changes its own values. -/
def publish (c : Chronicle) (i : Nat) (f : Node → Node) : Chronicle :=
  match c.net.members[i]? with
  | none => c
  | some m => { c with net := c.net.change i f, sent := (m.id, (f m.node).own) :: c.sent }

/-- Records the window that a hit of a member reports. -/
def report (c : Chronicle) (i : Nat) (key : String) (length now : Int) : Chronicle :=
  match c.net.members[i]? with
  | none => c
  | some m => { c with reports := ⟨m.id, key, (m.node.increment key length now).2⟩ :: c.reports }

/-- What is delivered replaces what the receiver knew of the sender. No one takes its own values from others. -/
def receive (c : Chronicle) (letter i : Nat) : Chronicle :=
  match c.sent[letter]?, c.net.members[i]? with
  | some (id, values), some m =>
    if id = m.id then c else { c with net := c.net.change i fun n => n.receive id values }
  | _, _ => c

def after (c : Chronicle) (now : Int) : Happening → Chronicle
  | .hit i key length => (c.report i key length now).publish i fun n => (n.increment key length now).1
  | .reset i key => c.publish i fun n => n.reset key now
  | .sweep i => c.publish i fun n => n.sweep now
  | .deliver letter i => c.receive letter i
  | .lose i id => { c with net := c.net.change i fun n => n.forget id }

def run (c : Chronicle) (happenings : List (Int × Happening)) : Chronicle :=
  happenings.foldl (fun c happening => c.after happening.1 happening.2) c

/-- The hits of a key that all members have reported in windows with this start. -/
def reported (c : Chronicle) (key : String) (start : Int) : Nat := Report.count c.reports key start

/-! ## Members that are accounted for -/

/-- Each entry has at most the hits that the member has reported in a window with its start. -/
def Within (reports : List Report) (id : String) (values : Values) : Prop :=
  values.All fun key e => e.count ≤ Report.countOf reports id key e.start

/-- All that a member has and knows of is within the reports, and it knows no two versions of anyone's values. -/
structure Sound (reports : List Report) (id : String) (n : Node) : Prop where
  own : Within reports id n.own
  others : ∀ other ∈ n.others, Within reports other.1 other.2
  ids : (id :: n.others.map (·.1)).Nodup

variable {reports : List Report} {id : String} {values : Values} {n : Node} {now : Int}

theorem Within.cons (h : Within reports id values) (r : Report) : Within (r :: reports) id values :=
  fun key e he => Nat.le_trans (h key e he) (Report.countOf_le_cons r reports id key e.start)

theorem Within.hitsIn_le (h : Within reports id values) (key : String) (start : Int) :
    values.hitsIn key start ≤ Report.countOf reports id key start := by
  by_cases hin : ∃ e, values.entryOf key = some e ∧ e.start = start
  · obtain ⟨e, he, rfl⟩ := hin
    rw [Values.hitsIn_of_entry he]
    exact h key e he
  · rw [Values.hitsIn_of_other fun e he hstart => hin ⟨e, he, hstart⟩]
    exact Nat.zero_le _

/-- A hit is within what has been reported once it has reported its window. -/
theorem Within.increment (h : Within reports id n.own) (key : String) (length : Int) (hnow : IsTime now) :
    Within (⟨id, key, (n.increment key length now).2⟩ :: reports) id (n.increment key length now).1.own := by
  have hreadable := n.entryFor_readable key length hnow
  obtain ⟨hstart, hcount⟩ := n.entryFor_count key length now
  have hwithin := h.hitsIn_le key (n.entryFor key length now).2.start
  have hwindow : (n.increment key length now).2 = (n.entryFor key length now).2 := rfl
  have hpublished : Within (⟨id, key, (n.increment key length now).2⟩ :: reports) id
      (n.publish (counterKey key) (n.entryFor key length now).1.toText).own := by
    refine Values.All.insert_entry (h.cons _) hreadable ?_
    rw [hwindow, hstart, Report.countOf_cons_self]
    omega
  show Within _ id ((n.publish (counterKey key) (n.entryFor key length now).1.toText).pace now).own
  rcases Node.pace_own (n.publish (counterKey key) (n.entryFor key length now).1.toText) now with hown | hown
  · rw [hown]; exact hpublished
  · rw [hown]; exact hpublished.swept now

namespace Sound

theorem start (id : String) : Sound [] id Node.start where
  own := Values.all_empty
  others := fun _ hother => absurd hother List.not_mem_nil
  ids := List.nodup_cons.mpr ⟨List.not_mem_nil, List.nodup_nil⟩

theorem cons (h : Sound reports id n) (r : Report) : Sound (r :: reports) id n where
  own := h.own.cons r
  others := fun other hother => (h.others other hother).cons r
  ids := h.ids

theorem of_own (h : Sound reports id n) {n' : Node} (hown : Within reports id n'.own) (hothers : n'.others = n.others) :
    Sound reports id n' where
  own := hown
  others := hothers ▸ h.others
  ids := hothers ▸ h.ids

theorem increment (h : Sound reports id n) (key : String) (length : Int) (hnow : IsTime now) :
    Sound (⟨id, key, (n.increment key length now).2⟩ :: reports) id (n.increment key length now).1 :=
  (h.cons _).of_own (h.own.increment key length hnow) (n.increment_others key length now)

theorem forget (h : Sound reports id n) (other : String) : Sound reports id (n.forget other) := by
  have hkept : (n.forget other).others.Sublist n.others := List.filter_sublist
  exact ⟨h.own, fun o ho => h.others o (hkept.mem ho), h.ids.sublist ((hkept.map _).cons_cons id)⟩

/-- New values of another member take the place of those known before. -/
theorem receive (h : Sound reports id n) {other : String} (hvalues : Within reports other values) (hne : other ≠ id) :
    Sound reports id (n.receive other values) := by
  have hkept := h.forget other
  obtain ⟨hself, hids⟩ := List.nodup_cons.mp hkept.ids
  have hfresh : other ∉ (n.forget other).others.map (·.1) := by
    intro hid
    obtain ⟨o, ho, rfl⟩ := List.mem_map.mp hid
    simpa using (List.mem_filter.mp ho).2
  refine ⟨h.own, fun o ho => ?_, List.nodup_cons.mpr ⟨fun hid => ?_, List.nodup_cons.mpr ⟨hfresh, hids⟩⟩⟩
  · rcases List.mem_cons.mp ho with rfl | ho
    · exact hvalues
    · exact hkept.others o ho
  · rcases List.mem_cons.mp hid with heq | hid
    · exact hne heq.symm
    · exact hself hid

/-- All that a member knows of has together at most the hits that have been reported. -/
theorem hitsIn_le (h : Sound reports id n) (key : String) (start : Int) :
    n.view.hitsIn key start ≤ Report.count reports key start := by
  have hview : n.view = ((id, n.own) :: n.others).map (·.2) := rfl
  rw [hview]
  refine View.hitsIn_le_count h.ids fun other hother => ?_
  rcases List.mem_cons.mp hother with rfl | hother
  · exact h.own.hitsIn_le key start
  · exact (h.others other hother).hitsIn_le key start

end Sound

/-! ## All hits are accounted for -/

structure Accounted (c : Chronicle) : Prop where
  sent : ∀ letter ∈ c.sent, Within c.reports letter.1 letter.2
  members : ∀ m ∈ c.net.members, Sound c.reports m.id m.node
  /-- No hit has reported more than had been reported by then, itself included. -/
  totals : ∀ r earlier, r :: earlier <:+ c.reports → r.window.total ≤ Report.count (r :: earlier) r.key r.window.start

variable {c : Chronicle}

theorem accounted_start (members : List (String × ClusterConfig)) : (start members).Accounted := by
  refine ⟨fun letter hletter => ?_, fun m hm => ?_, fun r earlier hsuffix => ?_⟩
  · obtain ⟨_, -, rfl⟩ := List.mem_map.mp hletter
    exact Values.all_empty
  · obtain ⟨_, -, rfl⟩ := List.mem_map.mp hm
    exact Sound.start _
  · exact absurd (List.suffix_nil.mp hsuffix) (List.cons_ne_nil _ _)

namespace Accounted

theorem member (h : c.Accounted) {i : Nat} {m : Member} (hm : c.net.members[i]? = some m) :
    Sound c.reports m.id m.node :=
  h.members m (List.mem_of_getElem? hm)

theorem report (h : c.Accounted) (i : Nat) (key : String) (length now : Int) :
    (c.report i key length now).Accounted := by
  unfold Chronicle.report
  cases hm : c.net.members[i]? with
  | none => exact h
  | some m =>
    dsimp only
    refine ⟨fun letter hletter => (h.sent letter hletter).cons _, fun m hm => (h.members m hm).cons _, ?_⟩
    intro r earlier hsuffix
    rcases List.suffix_cons_iff.mp hsuffix with heq | hsuffix
    · obtain ⟨rfl, rfl⟩ := List.cons.inj heq
      have hle := m.node.report_le key length now
      have hknown := (h.member hm).hitsIn_le key (m.node.entryFor key length now).2.start
      have hself : Report.count (⟨m.id, key, (m.node.increment key length now).2⟩ :: c.reports) key
          (m.node.increment key length now).2.start =
            Report.count c.reports key (m.node.entryFor key length now).2.start + 1 :=
        List.countP_cons_of_pos (by simp [Report.isOf])
      rw [hself]
      exact Nat.le_trans hle (Nat.succ_le_succ hknown)
    · exact h.totals r earlier hsuffix

theorem change (h : c.Accounted) {i : Nat} {f : Node → Node}
    (hf : ∀ m, c.net.members[i]? = some m → Sound c.reports m.id (f m.node)) :
    ({ c with net := c.net.change i f } : Chronicle).Accounted := by
  refine ⟨h.sent, fun m hm => ?_, h.totals⟩
  obtain ⟨j, hj⟩ := List.mem_iff_getElem?.mp hm
  obtain ⟨old, hold, ⟨rfl, rfl⟩ | ⟨-, rfl⟩⟩ := Network.change_cases hj
  · exact hf old hold
  · exact h.member hold

theorem publish (h : c.Accounted) {i : Nat} {f : Node → Node}
    (hf : ∀ m, c.net.members[i]? = some m → Sound c.reports m.id (f m.node)) : (c.publish i f).Accounted := by
  unfold Chronicle.publish
  cases hm : c.net.members[i]? with
  | none => exact h
  | some m =>
    refine { h.change hf with sent := fun letter hletter => ?_ }
    rcases List.mem_cons.mp hletter with rfl | hletter
    · exact (hf m hm).own
    · exact h.sent letter hletter

theorem hit (h : c.Accounted) (i : Nat) (key : String) (length : Int) (hnow : IsTime now) :
    (c.after now (.hit i key length)).Accounted := by
  refine (h.report i key length now).publish fun m hm => ?_
  have hmember : c.net.members[i]? = some m := by
    rw [← hm]
    unfold Chronicle.report
    split <;> rfl
  have hreports : (c.report i key length now).reports =
      ⟨m.id, key, (m.node.increment key length now).2⟩ :: c.reports := by
    unfold Chronicle.report
    rw [hmember]
  rw [hreports]
  exact (h.member hmember).increment key length hnow

/-- Old values may come late: they were accounted for when they were sent. -/
theorem receive (h : c.Accounted) (letter i : Nat) : (c.receive letter i).Accounted := by
  unfold Chronicle.receive
  split
  · next id values m hletter hm =>
    split
    · exact h
    · next hne =>
      refine h.change fun m' hm' => ?_
      obtain rfl : m = m' := Option.some.inj (hm.symm.trans hm')
      exact (h.member hm).receive (h.sent _ (List.mem_of_getElem? hletter)) hne
  · exact h

theorem after (h : c.Accounted) (hnow : IsTime now) (happening : Happening) : (c.after now happening).Accounted := by
  cases happening with
  | hit i key length => exact h.hit i key length hnow
  | reset i key => exact h.publish fun m hm => (h.member hm).of_own ((h.member hm).own.insert_marker _ _) rfl
  | sweep i => exact h.publish fun m hm => (h.member hm).of_own ((h.member hm).own.swept now) rfl
  | deliver letter i => exact h.receive letter i
  | lose i id => exact h.change fun m hm => (h.member hm).forget id

theorem run {happenings : List (Int × Happening)} (h : c.Accounted)
    (hshown : ∀ happening ∈ happenings, IsTime happening.1) : (c.run happenings).Accounted := by
  induction happenings generalizing c with
  | nil => exact h
  | cons happening happenings ih =>
    exact ih (h.after (hshown _ List.mem_cons_self) happening.2) fun later hlater =>
      hshown later (List.mem_cons_of_mem _ hlater)

end Accounted

end Chronicle

/-- However values travel and whatever the clock shows, no window that a member shows, and none that a hit has
    reported, has more hits than were reported with its start by then. -/
theorem never_overcounts (members : List (String × ClusterConfig)) {happenings : List (Int × Happening)}
    (hshown : ∀ happening ∈ happenings, IsTime happening.1) :
    let c := (Chronicle.start members).run happenings
    (∀ m ∈ c.net.members, ∀ key now w, m.node.window? key now = some w → w.total ≤ c.reported key w.start) ∧
      ∀ r earlier, r :: earlier <:+ c.reports → r.window.total ≤ Report.count (r :: earlier) r.key r.window.start := by
  intro c
  have haccounted : c.Accounted := (Chronicle.accounted_start members).run hshown
  refine ⟨fun m hm key now w hw => ?_, haccounted.totals⟩
  have hshows := View.window?_eq_some_iff.mp hw
  have hgroup := View.hits_group_le m.node.view key now w.start
  have hknown : m.node.view.hitsIn key w.start ≤ c.reported key w.start :=
    (haccounted.members m hm).hitsIn_le key w.start
  have htotal := hshows.total
  omega

/-- After a reset the second member takes the first for dead, and then hears of its hit once more; the clock is
    stepped back meanwhile. -/
def heardAgain : List (Int × Happening) :=
  [(2000, .hit 0 "k" 60000), (2000, .deliver 0 1), (3000, .hit 1 "k" 30000), (4000, .reset 0 "k"), (4000, .lose 1 "a"),
    (1000, .deliver 2 1), (1000, .deliver 2 1)]

theorem never_overcounts_heardAgain : (∀ happening ∈ heardAgain, IsTime happening.1) ∧
    ∃ m ∈ ((Chronicle.start (Network.onOneHost ["a", "b"])).run heardAgain).net.members,
      m.node.window? "k" 5000 = some ⟨2000, 62000, 2⟩ ∧
        2 ≤ ((Chronicle.start (Network.onOneHost ["a", "b"])).run heardAgain).reported "k" 2000 := by
  have hshown : ∀ happening ∈ heardAgain, IsTime happening.1 := by decide
  obtain ⟨m, hm, hwindow⟩ : ∃ m ∈ ((Chronicle.start (Network.onOneHost ["a", "b"])).run heardAgain).net.members,
      m.node.window? "k" 5000 = some ⟨2000, 62000, 2⟩ := ⟨_, List.mem_cons_of_mem _ List.mem_cons_self, rfl⟩
  exact ⟨hshown, m, hm, hwindow, (never_overcounts _ hshown).1 m hm "k" 5000 _ hwindow⟩

end RateCounter.Mesh
