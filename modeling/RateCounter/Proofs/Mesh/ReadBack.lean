/-
  RateCounter.Proofs.Mesh.ReadBack — whether a node that has counted a hit reads back the
  window it has reported.

  The window that a hit reports is made of open entries, but the count that it publishes
  continues the node's own entry, whether that is still open or not. Where another member
  has opened a window with the same start and a later end, the node's own hits may be over
  while the window is open (`lapsedHits`); the next hit brings them back into it.

  - `increment_reads_back_iff`: in every state that a run of the mesh gets into, a hit is
    read back as reported exactly if there are no such hits, or the count stands at its
    limit anyway; and unless the clock or the newest marker stands at the last time there is,
    after which no window can be. Otherwise those hits are what is read back in excess.
  - `a_longer_window_revives_lapsed_hits`: it happens.
  - `one_length_reads_back`: it does not happen to a key whose hits all have one length.
-/

import RateCounter.Proofs.Mesh.Run

namespace RateCounter.Mesh

namespace Node

open View (hits isOpen isAfter opening)

variable {n : Node} {key : String} {now length : Int} {w : SharedWindow}

/-- The node's own hits that are over, though the window that they started in is not. -/
def lapsedHits (n : Node) (key : String) (now : Int) : Nat :=
  match n.window? key now, n.ownEntry? key with
  | some w, some e => if e.start = w.start ∧ e.ends ≤ now then e.count else 0
  | _, _ => 0

/-- Those of some entries that are part of the window. -/
def within (n : Node) (key : String) (now : Int) (w : SharedWindow) (es : List Entry) : List Entry :=
  (es.filter (n.view.isOpen key now)).filter fun e => decide (e.start = w.start)

theorem within_cons (n : Node) (key : String) (now : Int) (w : SharedWindow) (e : Entry) (es : List Entry) :
    n.within key now w (e :: es) =
      if n.view.isOpen key now e = true ∧ e.start = w.start then e :: n.within key now w es
      else n.within key now w es := by
  unfold within
  by_cases hopen : n.view.isOpen key now e = true
  · by_cases hstart : e.start = w.start
    · simp [hopen, hstart]
    · simp [hopen, hstart]
  · simp [hopen]

theorem within_append (n : Node) (key : String) (now : Int) (w : SharedWindow) (es es' : List Entry) :
    n.within key now w (es ++ es') = n.within key now w es ++ n.within key now w es' := by
  unfold within
  rw [List.filter_append, List.filter_append]

theorem group_eq (n : Node) (key : String) (now : Int) (w : SharedWindow) : n.view.group key now w.start =
    n.within key now w (n.own.entryOf key).toList ++ n.within key now w (n.theirs.entries key) := by
  rw [← within_append, ← entries_view]
  rfl

theorem window_total (hw : n.window? key now = some w) : w.total =
    min (hits (n.within key now w (n.own.entryOf key).toList) + hits (n.within key now w (n.theirs.entries key)))
      Word.max64 := by
  rw [(View.window?_eq_some_iff.mp hw).total, group_eq, View.hits_append]

/-- The count that a hit publishes: the node's own in the window, those that are over, and one more. -/
theorem ownCount_eq (hw : n.window? key now = some w) : n.ownCount key w.start =
    min (hits (n.within key now w (n.own.entryOf key).toList) + n.lapsedHits key now + 1) Word.max64 := by
  have hafter := (View.window?_eq_some_iff.mp hw).isAfter_start
  have hown : n.ownEntry? key = n.own.entryOf key := rfl
  rw [ownCount_eq_hits]
  unfold lapsedHits
  rw [hw, hown]
  cases n.own.entryOf key with
  | none => rfl
  | some e =>
    rw [Option.toList_some, within_cons]
    by_cases hstart : e.start = w.start
    · by_cases hopen : now < e.ends
      · have hover : ¬ e.ends ≤ now := by omega
        simp [View.isOpen_iff, hstart, hafter, hopen, hover, within]
      · have hover : e.ends ≤ now := by omega
        simp [View.isOpen_iff, hstart, hopen, hover, within]
    · simp [hstart, within]

/-! ## One hit -/

theorem isOpen_publish (n : Node) (key text : String) (now : Int) :
    (n.publish (counterKey key) text).view.isOpen key now = n.view.isOpen key now := by
  funext e
  unfold View.isOpen
  rw [latestReset_publish]

theorem openEntries_publish (n : Node) (key : String) (now : Int) {e : Entry} (hfits : e.Fits) :
    (n.publish (counterKey key) e.toText).view.openEntries key now =
      if n.view.isOpen key now e then e :: (n.theirs.entries key).filter (n.view.isOpen key now)
      else (n.theirs.entries key).filter (n.view.isOpen key now) := by
  rw [View.openEntries_eq, isOpen_publish, entries_publish n key hfits, List.filter_cons]

/-- Whatever the others have open was open before. -/
theorem mem_openEntries_of_theirs {e : Entry} (he : e ∈ (n.theirs.entries key).filter (n.view.isOpen key now)) :
    e ∈ n.view.openEntries key now := by
  rw [View.openEntries_eq, entries_view, List.filter_append]
  exact List.mem_append_right _ he

theorem window?_publish_joined (h : n.Regular) (hw : n.window? key now = some w) {c : Nat}
    (hc : 1 ≤ c ∧ c ≤ Word.max64) :
    (n.publish (counterKey key) (Entry.toText ⟨w.start, w.ends, c⟩)).window? key now =
      some ⟨w.start, w.ends, min (c + hits (n.within key now w (n.theirs.entries key))) Word.max64⟩ := by
  obtain ⟨hfits, hregular⟩ := window?_entry h hw hc
  have hshows := View.window?_eq_some_iff.mp hw
  have hself : n.view.isOpen key now ⟨w.start, w.ends, c⟩ = true :=
    View.isOpen_iff.mpr ⟨hshows.lt_ends, hshows.isAfter_start⟩
  have hopen := openEntries_publish n key now hfits
  rw [if_pos hself] at hopen
  generalize n.publish (counterKey key) (Entry.toText ⟨w.start, w.ends, c⟩) = n' at hopen ⊢
  have hgroup : n'.view.group key now w.start =
      ⟨w.start, w.ends, c⟩ :: n.within key now w (n.theirs.entries key) := by
    unfold View.group
    rw [hopen, List.filter_cons, if_pos (by simp)]
    rfl
  have hends : (View.combine w.start (⟨w.start, w.ends, c⟩ :: n.within key now w (n.theirs.entries key))).ends =
      w.ends := by
    apply Int.le_antisymm
    · refine View.combine_ends_le_iff.mpr ⟨hregular.starts, fun e he => ?_⟩
      rcases List.mem_cons.mp he with rfl | he
      · exact Int.le_refl _
      · refine hshows.le_ends ?_
        rw [group_eq]
        exact List.mem_append_right _ he
    · exact View.le_combine_ends (e := ⟨w.start, w.ends, c⟩) List.mem_cons_self
  refine View.window?_eq_some_iff.mpr ⟨⟨⟨w.start, w.ends, c⟩, ?_⟩, ?_, ?_⟩
  · rw [hgroup]; exact List.mem_cons_self
  · rw [hopen]
    intro e he
    rcases List.mem_cons.mp he with rfl | he
    · exact Int.le_refl _
    · exact hshows.latest e (mem_openEntries_of_theirs he)
  · rw [hgroup, View.combine_eq hends (View.combine_total _ _), View.hits_cons]

theorem window?_publish_opened (hw : n.window? key now = none) {e : Entry} (hfits : e.Fits) (hle : e.start ≤ e.ends) :
    (n.publish (counterKey key) e.toText).window? key now =
      if n.view.isOpen key now e then some ⟨e.start, e.ends, e.count⟩ else none := by
  have hnone : (n.theirs.entries key).filter (n.view.isOpen key now) = [] := by
    rw [List.eq_nil_iff_forall_not_mem]
    intro e' he'
    have hopen := mem_openEntries_of_theirs he'
    rw [View.window?_eq_none_iff.mp hw] at hopen
    exact List.not_mem_nil hopen
  have hopen := openEntries_publish n key now hfits
  rw [hnone] at hopen
  generalize n.publish (counterKey key) e.toText = n' at hopen ⊢
  by_cases hself : n.view.isOpen key now e = true
  · rw [if_pos hself] at hopen ⊢
    have hgroup : n'.view.group key now e.start = [e] := by
      unfold View.group
      rw [hopen]
      simp
    have hcombined : View.combine e.start [e] = ⟨e.start, e.ends, e.count⟩ := by
      refine View.combine_eq (View.combine_ends_eq (by simp) (by simp) hle) ?_
      rw [View.combine_total, View.hits_cons, View.hits_nil]
      exact Nat.min_eq_left hfits.count
    refine View.window?_eq_some_iff.mpr ⟨⟨e, ?_⟩, ?_, ?_⟩
    · rw [hgroup]; exact List.mem_cons_self
    · rw [hopen]; simp
    · rw [hgroup, hcombined]
  · rw [if_neg hself] at hopen ⊢
    exact View.window?_eq_none_iff.mpr hopen

theorem one_le_total (n : Node) (key : String) (length now : Int) : 1 ≤ (n.increment key length now).2.total := by
  show 1 ≤ (n.entryFor key length now).2.total
  cases hw : n.window? key now with
  | some w =>
    rw [entryFor_joined hw]
    exact Nat.le_min.mpr ⟨Nat.le_add_left 1 _, by decide⟩
  | none => simp only [entryFor_opened hw, Nat.le_refl]

theorem min_carried (own theirs lapsed : Nat) : min (min (own + lapsed + 1) Word.max64 + theirs) Word.max64 =
    addCount (addCount (min (own + theirs) Word.max64) 1) lapsed := by
  unfold addCount
  omega

theorem lapsedHits_opened (hw : n.window? key now = none) : n.lapsedHits key now = 0 := by
  unfold lapsedHits
  rw [hw]

/-- No window of the key can be open from now on, there being no later time. -/
def TimeIsUp (n : Node) (key : String) (now : Int) : Prop := now = maxTime ∨ n.view.latestReset key = some maxTime

instance (n : Node) (key : String) (now : Int) : Decidable (n.TimeIsUp key now) := inferInstanceAs (Decidable (_ ∨ _))

theorem not_timeIsUp_of_window (h : n.Regular) (hw : n.window? key now = some w) : ¬ n.TimeIsUp key now := by
  have hshows := View.window?_eq_some_iff.mp hw
  obtain ⟨hfits, -⟩ := window?_entry h hw (ownCount_bounds n key w.start)
  have hstart : w.start ≤ maxTime := hfits.start.2
  have hends : w.ends ≤ maxTime := hfits.ends.2
  rintro (hnow | hmarker)
  · have := hshows.lt_ends
    omega
  · have hafter := hshows.isAfter_start
    rw [hmarker] at hafter
    have : maxTime < w.start := of_decide_eq_true hafter
    omega

theorem isOpen_opened_iff (n : Node) (key : String) (hlength : 1 ≤ length) (hnow : IsTime now) :
    n.view.isOpen key now ⟨n.openingTime key now, addTime (n.openingTime key now) length, 1⟩ = true ↔
      ¬ n.TimeIsUp key now := by
  have hends : now < addTime (n.openingTime key now) length ↔ now ≠ maxTime := by
    have hlate : now ≤ n.openingTime key now := View.le_opening _ _
    obtain ⟨hlow, hhigh⟩ : IsTime (n.openingTime key now) := opening_isTime _ hnow
    obtain ⟨-, hlast⟩ := hnow
    unfold addTime
    omega
  unfold TimeIsUp
  rw [View.isOpen_iff, openingTime_eq, not_or]
  exact and_congr hends (View.isAfter_opening (fun m hm => View.latestReset_isTime hm) hnow.2)

/-- What a node reads back after a hit: nothing if time is up, else the window that was reported, with the
    lapsed hits in it. -/
theorem window?_increment (h : n.Regular) (hlength : 1 ≤ length ∧ length ≤ markerLifetime) (hnow : IsTime now)
    (key : String) :
    (n.increment key length now).1.window? key now =
      if n.TimeIsUp key now then none
      else some { (n.increment key length now).2 with
        total := addCount (n.increment key length now).2.total (n.lapsedHits key now) } := by
  obtain ⟨hfits, hregular⟩ := entryFor_fits hlength hnow h key
  have hpublished : (n.publish (counterKey key) (n.entryFor key length now).1.toText).Regular :=
    All.of_own h (h.own.insert_entry hfits hregular) rfl
  show ((n.publish (counterKey key) (n.entryFor key length now).1.toText).pace now).window? key now =
    if n.TimeIsUp key now then none
    else some { (n.entryFor key length now).2 with
      total := addCount (n.entryFor key length now).2.total (n.lapsedHits key now) }
  rw [window?_pace hpublished (Int.le_refl now)]
  cases hw : n.window? key now with
  | some w =>
    rw [if_neg (not_timeIsUp_of_window h hw), entryFor_joined hw,
      window?_publish_joined h hw (ownCount_bounds n key w.start), ownCount_eq hw, min_carried, ← window_total hw]
  | none =>
    have hopen := isOpen_opened_iff n key hlength.1 hnow
    rw [entryFor_opened hw] at hfits hregular ⊢
    rw [window?_publish_opened hw hfits hregular.starts, lapsedHits_opened hw]
    by_cases hlast : n.TimeIsUp key now
    · rw [if_pos hlast, if_neg fun hself => hopen.mp hself hlast]
    · rw [if_neg hlast, if_pos (hopen.mpr hlast)]
      rfl

/-- The next hit is read back as reported. -/
def CarriesNothing (n : Node) (key : String) (now : Int) : Prop :=
  ¬ n.TimeIsUp key now ∧ (n.lapsedHits key now = 0 ∨ ∃ w, n.window? key now = some w ∧ maxCount ≤ w.total + 1)

theorem carried_iff (n : Node) (key : String) (length now : Int) :
    addCount (n.increment key length now).2.total (n.lapsedHits key now) = (n.increment key length now).2.total ↔
      n.lapsedHits key now = 0 ∨ ∃ w, n.window? key now = some w ∧ maxCount ≤ w.total + 1 := by
  show addCount (n.entryFor key length now).2.total (n.lapsedHits key now) = (n.entryFor key length now).2.total ↔ _
  cases hw : n.window? key now with
  | some w =>
    rw [entryFor_joined hw]
    simp only [Option.some.injEq, exists_eq_left']
    unfold addCount maxCount
    omega
  | none =>
    rw [entryFor_opened hw, lapsedHits_opened hw]
    exact ⟨fun _ => .inl rfl, fun _ => rfl⟩

end Node

open Node in
/-- After any run of the mesh and at any time, a hit is read back as reported, as a window and as a count,
    exactly if it carries nothing over; else the lapsed hits are read back on top. -/
theorem increment_reads_back_iff (members : List (String × ClusterConfig)) {events : List (Instant × Event)}
    (hshown : Shown events) {i : Nat} {m : Member} (hm : ((Network.fresh members).run events).members[i]? = some m)
    (key : String) {window : Nat} (hwindow : Window.accept window = .ok window) {now : Instant}
    (hnow : IsTime now.toMillis) :
    ∃ n w c, m.node.increment key (lengthOf window) now.toMillis = (n, w) ∧
      m.node.perform (.increment key window) now = (n, .ok (.count w.total)) ∧
      n.perform (.count key) now = (n, .ok (.count c)) ∧
      (n.window? key now.toMillis = some w ↔ m.node.CarriesNothing key now.toMillis) ∧
      (c = w.total ↔ m.node.CarriesNothing key now.toMillis) ∧
      (¬ m.node.TimeIsUp key now.toMillis → c = addCount w.total (m.node.lapsedHits key now.toMillis)) := by
  have hregular := Network.run_regular members hshown m (List.mem_of_getElem? hm)
  have hread := window?_increment hregular (accept_length hwindow) hnow key
  have hcarried := carried_iff m.node key (lengthOf window) now.toMillis
  have hone := one_le_total m.node key (lengthOf window) now.toMillis
  rcases hinc : m.node.increment key (lengthOf window) now.toMillis with ⟨n, w⟩
  rw [hinc] at hread hcarried hone
  dsimp only at hread hcarried hone
  have hperform : m.node.perform (.increment key window) now = (n, .ok (.count w.total)) := by
    simp only [perform, hwindow, hinc]
  refine ⟨n, w, _, rfl, hperform, rfl, ?_⟩
  unfold CarriesNothing
  rw [hread, ← hcarried]
  by_cases hlast : m.node.TimeIsUp key now.toMillis
  · rw [if_pos hlast]
    simp only [hlast, not_true_eq_false, false_and, iff_false, Option.map_none, Option.getD_none]
    exact ⟨by simp, by omega, fun h => h.elim⟩
  · rw [if_neg hlast, and_iff_right hlast, Option.some.injEq]
    exact ⟨⟨fun h => congrArg SharedWindow.total h, fun h => by rw [h]⟩, Iff.rfl, fun _ => rfl⟩

/-- The first of two nodes opens a window of 10 ms, the second one of 60 ms at the same time. -/
def lengthened : List (Instant × Event) :=
  [(0, .call 0 (.increment "k" (millis 10))), (0, .call 1 (.increment "k" (millis 60))), (0, .deliver 1 0)]

def lengthenedMesh : Network := (Network.fresh (Network.onOneHost ["a", "b"])).run lengthened

theorem increment_reads_back_lengthened : ∃ m, lengthenedMesh.members[0]? = some m ∧ Shown lengthened ∧
    Window.accept (millis 60) = .ok (millis 60) ∧ IsTime (Instant.toMillis (millis 15)) ∧
    ∃ n w c, m.node.increment "k" (Node.lengthOf (millis 60)) (Instant.toMillis (millis 15)) = (n, w) ∧
      m.node.perform (.increment "k" (millis 60)) (millis 15) = (n, .ok (.count w.total)) ∧
      n.perform (.count "k") (millis 15) = (n, .ok (.count c)) ∧
      (n.window? "k" (Instant.toMillis (millis 15)) = some w ↔
        m.node.CarriesNothing "k" (Instant.toMillis (millis 15))) ∧
      (c = w.total ↔ m.node.CarriesNothing "k" (Instant.toMillis (millis 15))) ∧
      (¬ m.node.TimeIsUp "k" (Instant.toMillis (millis 15)) →
        c = addCount w.total (m.node.lapsedHits "k" (Instant.toMillis (millis 15)))) := by
  obtain ⟨m, hm⟩ : ∃ m, lengthenedMesh.members[0]? = some m := ⟨_, rfl⟩
  have hshown : Shown lengthened := by decide
  exact ⟨m, hm, hshown, rfl, by decide, increment_reads_back_iff _ hshown hm "k" rfl (by decide)⟩

/-- 15 ms later the hit of the first node is over, and its next hit reports 2; but it reads back 3. -/
theorem a_longer_window_revives_lapsed_hits :
    Shown lengthened ∧ lengthened.Pairwise (fun a b => a.1 ≤ b.1) ∧ ∃ m, lengthenedMesh.members[0]? = some m ∧
      (m.node.increment "k" 60 15).2 = ⟨0, 60, 2⟩ ∧
      (m.node.increment "k" 60 15).1.window? "k" 15 = some ⟨0, 60, 3⟩ ∧
      (m.node.perform (.increment "k" (millis 60)) (millis 15)).2 = .ok (.count 2) ∧
      ((m.node.perform (.increment "k" (millis 60)) (millis 15)).1.perform (.count "k") (millis 15)).2 =
        .ok (.count 3) := by
  refine ⟨by decide, by decide, _, rfl, ?_, ?_, ?_, ?_⟩
  · decide +kernel
  · decide +kernel
  · rfl
  · rfl

/-! ## Hits of one length -/

namespace Node

variable {n : Node} {key : String} {now length : Int}

/-- The entry is regular and, if it is one of the key, has the length. -/
def OfLength (key : String) (length : Int) (key' : String) (e : Entry) : Prop :=
  e.Regular ∧ (key' = key → e.ends = addTime e.start length)

theorem All.regular {L : Int} (h : n.All (OfLength key L)) : n.Regular :=
  fun values hvalues key' e he => (h values hvalues key' e he).1

theorem window_ends {L : Int} (h : n.All (OfLength key L)) {w : SharedWindow} (hw : n.window? key now = some w) :
    w.ends = addTime w.start L := by
  have hshows := View.window?_eq_some_iff.mp hw
  have hends : ∀ e ∈ n.view.group key now w.start, e.ends = addTime w.start L := by
    intro e he
    obtain ⟨hopen, hstart⟩ := View.mem_group.mp he
    rw [(h.entries key e (View.mem_openEntries.mp hopen).1).2 rfl, hstart]
  obtain ⟨e, he⟩ := hshows.inhabited
  have hle : w.start ≤ addTime w.start L := by
    obtain ⟨-, hregular, hstart⟩ := group_fits h.regular he
    have hstarts := hregular.starts
    rw [hends e he, hstart] at hstarts
    exact hstarts
  have hcombined := congrArg SharedWindow.ends hshows.combined
  rw [View.combine_ends_eq (List.ne_nil_of_mem he) hends hle] at hcombined
  exact hcombined.symm

theorem lapsedHits_of_length {L : Int} (h : n.All (OfLength key L)) : n.lapsedHits key now = 0 := by
  unfold lapsedHits
  split
  · rename_i w e hw he
    have hopen := (View.window?_eq_some_iff.mp hw).lt_ends
    rw [window_ends h hw] at hopen
    have hends := (h.own key e he).2 rfl
    rw [if_neg]
    rintro ⟨hstart, hover⟩
    rw [hends, hstart] at hover
    omega
  · rfl

theorem entryFor_ofLength {L : Int} (h : n.All (OfLength key L)) {key' : String}
    (hlength : 1 ≤ length ∧ length ≤ markerLifetime) (hnow : IsTime now) (hL : key' = key → length = L) :
    OfLength key L key' (n.entryFor key' length now).1 := by
  refine ⟨(entryFor_fits hlength hnow h.regular key').2, fun hkey => ?_⟩
  subst hkey
  cases hw : n.window? key' now with
  | some w =>
    rw [entryFor_joined hw]
    exact window_ends h hw
  | none =>
    rw [entryFor_opened hw, hL rfl]

end Node

/-- A key whose hits all have one length is always read back as reported, until the last time there is. -/
theorem one_length_reads_back (members : List (String × ClusterConfig)) {events : List (Instant × Event)}
    (hshown : Shown events) {key : String} {L : Int}
    (hlengths : ∀ now i ns, (now, Event.call i (.increment key ns)) ∈ events → Node.lengthOf ns = L)
    {i : Nat} {m : Member} (hm : ((Network.fresh members).run events).members[i]? = some m) {now : Int}
    (hlast : ¬ m.node.TimeIsUp key now) : m.node.CarriesNothing key now := by
  have hall : ((Network.fresh members).run events).All (Node.OfLength key L) := by
    refine (Network.fresh_all members).run fun i op now he n hn => ?_
    have htime := hshown _ he
    refine Node.All.perform htime hn.regular hn fun key' ns hop hw => ?_
    refine Node.entryFor_ofLength hn (Node.accept_length hw) htime fun hkey => ?_
    subst hkey hop
    exact hlengths now i ns he
  exact ⟨hlast, .inl (Node.lapsedHits_of_length (hall m (List.mem_of_getElem? hm)))⟩

end RateCounter.Mesh
