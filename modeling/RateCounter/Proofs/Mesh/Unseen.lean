/-
  RateCounter.Proofs.Mesh.Unseen — what a sweep, and an operation on another key, changes for
  no one who reads.

  Gossip is as loose here as it can be. All values that members have had stay at hand, and
  what comes to a member of another is put together from them place by place: every text is
  one that the other has published there at some time, of whatever age, and any may be
  missing (`PiecedFrom`). Members may take each other for dead and hear of each other again,
  and the clock may be stepped back (`Network.Gossiped`).

  A window is seen through the entries and the markers of all values in a view, so values
  that say the same of a key may stand in for each other (`window?_congr`). A sweep takes
  away an entry that is over, or a marker whose life is; the entries that a mesh ever has are
  regular, and none that starts before such a marker is still open.

  - `Gossiped.regular`: whatever gossip brings, every entry that some member knows of, or may
    come to know of, is regular.
  - `sweeps_and_other_keys_unseen`: from then on a member that has swept, by itself or within
    a hit, or has been asked for another key, shows the same windows as if it had not; and so
    does every member that hears of it.
-/

import RateCounter.Proofs.Mesh.Run

namespace RateCounter

/-- The key that an operation is about. -/
def Operation.key : Operation → String
  | .increment key _ => key
  | .count key => key
  | .resetTime key => key
  | .reset key => key

namespace Mesh

/-! ## Values that look alike -/

theorem View.window?_congr {values values' : Values} {key : String}
    (hentry : values'.entryOf key = values.entryOf key) (hmarker : values'.markerOf key = values.markerOf key)
    (view : View) (t : Int) : window? (values' :: view) key t = window? (values :: view) key t := by
  have hentries : entries (values' :: view) key = entries (values :: view) key := by
    rw [entries_cons, entries_cons, hentry]
  have hreset : latestReset (values' :: view) key = latestReset (values :: view) key := by
    rw [latestReset_cons, latestReset_cons, hmarker]
  unfold window? openEntries
  rw [hentries, hreset]

namespace Values

/-- Whoever knows regular entries only, and comes to know these values, sees the same windows of the key in
    either case. -/
def LooksLike (key : String) (now : Int) (values values' : Values) : Prop :=
  ∀ view : View, (∀ v ∈ view, v.All fun _ e => e.Regular) → ∀ t, now ≤ t →
    View.window? (values' :: view) key t = View.window? (values :: view) key t

variable {key : String} {now : Int} {values values' values'' : Values}

theorem LooksLike.refl (key : String) (now : Int) (values : Values) : LooksLike key now values values :=
  fun _ _ _ _ => rfl

theorem LooksLike.trans (h : LooksLike key now values values') (h' : LooksLike key now values' values'') :
    LooksLike key now values values'' :=
  fun view hview t ht => (h' view hview t ht).trans (h view hview t ht)

theorem LooksLike.of_eq (hentry : values'.entryOf key = values.entryOf key)
    (hmarker : values'.markerOf key = values.markerOf key) : LooksLike key now values values' :=
  fun view _ t _ => View.window?_congr hentry hmarker view t

theorem looksLike_swept (h : values.All fun _ e => e.Regular) (key : String) (now : Int) :
    LooksLike key now values (values.swept now) := by
  intro view hview t ht
  refine View.window?_swept (fun e he => ?_) ht
  obtain ⟨v, hv, hentry⟩ := View.mem_entries.mp he
  rcases List.mem_cons.mp hv with rfl | hv
  · exact h key e hentry
  · exact hview v hv key e hentry

/-- What is published for one key says nothing of another. -/
theorem looksLike_insert_entry {other : String} (hne : other ≠ key) (text : String) :
    LooksLike key now values (values.insert (counterKey other) text) :=
  .of_eq (values.entryOf_insert_ne (fun h => hne (counterKey_inj.mp h)) text)
    (values.markerOf_insert_entry other key text)

theorem looksLike_insert_marker {other : String} (hne : other ≠ key) (text : String) :
    LooksLike key now values (values.insert (resetKey other) text) :=
  .of_eq (values.entryOf_insert_marker other key text)
    (values.markerOf_insert_ne (fun h => hne (resetKey_inj.mp h)) text)

end Values

namespace Node

variable {n : Node} {key : String} {now : Int}

theorem looksLike_pace (h : n.own.All fun _ e => e.Regular) (key : String) (now : Int) :
    Values.LooksLike key now n.own (n.pace now).own := by
  rcases pace_own n now with hown | hown
  · rw [hown]; exact .refl key now n.own
  · rw [hown]; exact Values.looksLike_swept h key now

/-- What a hit publishes, before its sweep. -/
def hitValues (n : Node) (key : String) (length now : Int) : Values :=
  n.own.insert (counterKey key) (n.entryFor key length now).1.toText

theorem hitValues_regular (h : n.Regular) (hnow : IsTime now) {window ns : Nat} (hw : Window.accept window = .ok ns)
    (key : String) : (n.hitValues key (lengthOf ns) now).All fun _ e => e.Regular := by
  obtain ⟨hfits, hregular⟩ := entryFor_fits (accept_length hw) hnow h key
  exact h.own.insert_entry hfits hregular

/-- The sweep that a hit may make changes no window, not even that of the hit. -/
theorem looksLike_increment (h : n.Regular) (hnow : IsTime now) {window ns : Nat} (hw : Window.accept window = .ok ns)
    (hit key : String) :
    Values.LooksLike key now (n.hitValues hit (lengthOf ns) now) (n.increment hit (lengthOf ns) now).1.own :=
  looksLike_pace (n := n.publish (counterKey hit) (n.entryFor hit (lengthOf ns) now).1.toText)
    (hitValues_regular h hnow hw hit) key now

theorem looksLike_perform (h : n.Regular) {now : Instant} (hnow : IsTime now.toMillis) {op : Operation}
    (hne : op.key ≠ key) : Values.LooksLike key now.toMillis n.own (n.perform op now).1.own := by
  cases op with
  | increment hit window =>
    unfold perform
    dsimp only
    split
    · exact .refl key _ n.own
    · next ns hw =>
      have hpublished : Values.LooksLike key now.toMillis n.own (n.hitValues hit (lengthOf ns) now.toMillis) :=
        Values.looksLike_insert_entry hne _
      exact hpublished.trans (looksLike_increment h hnow hw hit key)
  | count => exact .refl key _ n.own
  | resetTime other =>
    unfold perform
    dsimp only
    split <;> exact .refl key _ n.own
  | reset other => exact Values.looksLike_insert_marker hne _

end Node

/-! ## Gossip -/

/-- Each text is one that the member has had in its place at some time. -/
def PiecedFrom (past : List (String × Values)) (id : String) (values : Values) : Prop :=
  ∀ place text : String, values[place]? = some text → ∃ had : Values, (id, had) ∈ past ∧ had[place]? = some text

theorem PiecedFrom.all {P : String → Entry → Prop} {past : List (String × Values)} {id : String} {values : Values}
    (h : PiecedFrom past id values) (hpast : ∀ had ∈ past, had.2.All P) : values.All P := by
  intro key e he
  obtain ⟨text, htext, hread⟩ := Option.bind_eq_some_iff.mp he
  obtain ⟨had, hmem, hplace⟩ := h (counterKey key) text htext
  exact hpast (id, had) hmem key e (Option.bind_eq_some_iff.mpr ⟨text, hplace, hread⟩)

theorem Node.All.forget {P : String → Entry → Prop} {n : Node} (h : n.All P) (id : String) : (n.forget id).All P := by
  intro values hmem
  rcases List.mem_cons.mp hmem with rfl | hmem
  · exact h.own
  · obtain ⟨other, hother, rfl⟩ := List.mem_map.mp hmem
    exact h _ (List.mem_cons_of_mem _ (List.mem_map_of_mem (List.mem_filter.mp hother).1))

namespace Network

/-- The states that operations, sweeps and gossip lead a mesh to, with all values that its members have had. -/
inductive Gossiped (members : List (String × ClusterConfig)) : Network → List (String × Values) → Prop
  | start : Gossiped members (fresh members) []
  | call {net : Network} {past : List (String × Values)} {i : Nat} {m : Member} (op : Operation) {now : Instant} :
      IsTime now.toMillis → net.members[i]? = some m → Gossiped members net past →
      Gossiped members (net.change i fun n => (n.perform op now).1) ((m.id, (m.node.perform op now).1.own) :: past)
  | sweep {net : Network} {past : List (String × Values)} {i : Nat} {m : Member} (now : Int) :
      net.members[i]? = some m → Gossiped members net past →
      Gossiped members (net.change i fun n => n.sweep now) ((m.id, (m.node.sweep now).own) :: past)
  | hear {net : Network} {past : List (String × Values)} (i : Nat) {id : String} {values : Values} :
      PiecedFrom past id values → Gossiped members net past →
      Gossiped members (net.change i fun n => n.receive id values) past
  /-- A member takes another for dead. -/
  | lose {net : Network} {past : List (String × Values)} (i : Nat) (id : String) :
      Gossiped members net past → Gossiped members (net.change i fun n => n.forget id) past

variable {members : List (String × ClusterConfig)} {net : Network} {past : List (String × Values)}

theorem Gossiped.regular (h : Gossiped members net past) :
    (net.All fun _ e => e.Regular) ∧ ∀ had ∈ past, had.2.All fun _ e => e.Regular := by
  induction h with
  | start => exact ⟨fresh_all members, fun _ hhad => absurd hhad List.not_mem_nil⟩
  | @call net past i m op now hnow hm _ ih =>
    obtain ⟨hnet, hpast⟩ := ih
    have hm' : m.node.Regular := hnet m (List.mem_of_getElem? hm)
    refine ⟨hnet.change i fun n hn => Node.Regular.perform hnow hn op, fun had hhad => ?_⟩
    rcases List.mem_cons.mp hhad with rfl | hhad
    · exact (Node.Regular.perform hnow hm' op).own
    · exact hpast had hhad
  | @sweep net past i m now hm _ ih =>
    obtain ⟨hnet, hpast⟩ := ih
    refine ⟨hnet.change i fun n hn => hn.sweep now, fun had hhad => ?_⟩
    rcases List.mem_cons.mp hhad with rfl | hhad
    · exact (hnet m (List.mem_of_getElem? hm)).own.swept now
    · exact hpast had hhad
  | hear i hpieced _ ih =>
    obtain ⟨hnet, hpast⟩ := ih
    exact ⟨hnet.change i fun n hn => hn.receive _ (hpieced.all hpast), hpast⟩
  | lose i id _ ih => exact ⟨ih.1.change i fun n hn => hn.forget id, ih.2⟩

/-- From `now` on a member with the id shows the same windows of the key in either state, and so does every
    member of the mesh that hears of it. -/
structure AlikeFrom (net : Network) (id key : String) (now : Int) (n n' : Node) : Prop where
  itself : ∀ t, now ≤ t → n'.window? key t = n.window? key t
  others : ∀ m ∈ net.members, ∀ t, now ≤ t →
    (m.node.receive id n'.own).window? key t = (m.node.receive id n.own).window? key t

/-- Nothing but a member's own values tells its states apart. -/
theorem alikeFrom_of_looksLike (hnet : net.All fun _ e => e.Regular) {n n' : Node} (hn : n.Regular)
    (hothers : n'.others = n.others) {key : String} {now : Int} (h : Values.LooksLike key now n.own n'.own)
    (id : String) : AlikeFrom net id key now n n' where
  itself t ht := by
    have htheirs : ∀ v ∈ n.theirs, v.All fun _ e => e.Regular := fun v hv => hn v (List.mem_cons_of_mem _ hv)
    have hview : n'.view = n'.own :: n.theirs := by
      unfold Node.view Node.theirs
      rw [hothers]
    unfold Node.window?
    rw [hview]
    exact h n.theirs htheirs t ht
  others m hm t ht := by
    -- What is heard stands behind the values of the member that hears it.
    have hfront (values : Values) : (m.node.receive id values).window? key t =
        View.window? (values :: (m.node.forget id).view) key t :=
      View.window?_perm (.swap values m.node.own _) key t
    rw [hfront, hfront]
    exact h _ ((hnet m hm).forget id) t ht

end Network

open Network (Gossiped AlikeFrom)

/-- A sweep, by hand or within a hit, and an operation on another key change no window that anyone sees from
    then on. -/
theorem sweeps_and_other_keys_unseen {members : List (String × ClusterConfig)} {net : Network}
    {past : List (String × Values)} (h : Gossiped members net past) {m : Member} (hm : m ∈ net.members) :
    (∀ now key, AlikeFrom net m.id key now m.node (m.node.sweep now)) ∧
      (∀ (now : Instant) hit ns key, IsTime now.toMillis → Window.accept ns = .ok ns →
        AlikeFrom net m.id key now.toMillis
          (m.node.publish (counterKey hit) (m.node.entryFor hit (Node.lengthOf ns) now.toMillis).1.toText)
          (m.node.perform (.increment hit ns) now).1) ∧
      ∀ (now : Instant) op key, IsTime now.toMillis → op.key ≠ key →
        AlikeFrom net m.id key now.toMillis m.node (m.node.perform op now).1 := by
  have hnet := h.regular.1
  have hnode : m.node.Regular := hnet m hm
  refine ⟨fun now key => ?_, fun now hit ns key hnow hw => ?_, fun now op key hnow hne => ?_⟩
  · have hothers : (m.node.sweep now).others = m.node.others := rfl
    exact Network.alikeFrom_of_looksLike hnet hnode hothers (Values.looksLike_swept hnode.own key now) m.id
  · have hpublished : Node.Regular (m.node.publish (counterKey hit)
        (m.node.entryFor hit (Node.lengthOf ns) now.toMillis).1.toText) :=
      Node.All.of_own hnode (Node.hitValues_regular hnode hnow hw hit) rfl
    have hperform : (m.node.perform (.increment hit ns) now).1 =
        (m.node.increment hit (Node.lengthOf ns) now.toMillis).1 := by
      unfold Node.perform
      simp only [hw]
    have hothers : (m.node.increment hit (Node.lengthOf ns) now.toMillis).1.others = m.node.others :=
      Node.increment_others ..
    rw [hperform]
    exact Network.alikeFrom_of_looksLike hnet hpublished hothers (Node.looksLike_increment hnode hnow hw hit key) m.id
  · have hothers : (m.node.perform op now).1.others = m.node.others := Node.perform_others ..
    exact Network.alikeFrom_of_looksLike hnet hnode hothers (Node.looksLike_perform hnode hnow hne) m.id

/-- What a member publishes that hits a key for the longest time there is. -/
def longHit : Values := (Node.start.perform (.increment "k" maxWindow) 0).1.own

/-- The second member makes that hit, and the first hears of it and resets the key. -/
def resetHit : Network :=
  let hit := (Network.fresh (Network.onOneHost ["a", "b"])).change 1 fun n => (n.perform (.increment "k" maxWindow) 0).1
  (hit.change 0 fun n => n.receive "b" longHit).change 0 fun n => (n.perform (.reset "k") 0).1

theorem resetHit_gossiped : ∃ past, Gossiped (Network.onOneHost ["a", "b"]) resetHit past := by
  have htime : IsTime (Instant.toMillis 0) := by decide
  have hfresh : Gossiped (Network.onOneHost ["a", "b"]) (Network.fresh (Network.onOneHost ["a", "b"])) [] := .start
  have hhit : Gossiped (Network.onOneHost ["a", "b"]) _ [("b", longHit)] :=
    .call (i := 1) (.increment "k" maxWindow) htime rfl hfresh
  have hpieced : PiecedFrom [("b", longHit)] "b" longHit := fun _ _ htext => ⟨longHit, List.mem_cons_self, htext⟩
  exact ⟨_, .call (.reset "k") htime rfl (.hear 0 hpieced hhit)⟩

/-- The marker is swept in the millisecond after the last that the hit it hides could be open in; a hit of a key
    that is spelled like the place of the first one's counter goes unseen as well. -/
theorem sweeps_and_other_keys_unseen_lastMarker : ∃ past, Gossiped (Network.onOneHost ["a", "b"]) resetHit past ∧
    ∃ m ∈ resetHit.members, m.node.own.markerOf "k" = some 0 ∧ (m.node.sweep 31622400001).own.markerOf "k" = none ∧
      AlikeFrom resetHit m.id "k" 31622400001 m.node (m.node.sweep 31622400001) ∧
      Window.accept maxWindow = .ok maxWindow ∧
      AlikeFrom resetHit m.id "k" 0
        (m.node.publish (counterKey "k") (m.node.entryFor "k" (Node.lengthOf maxWindow) 0).1.toText)
        (m.node.perform (.increment "k" maxWindow) 0).1 ∧
      (Operation.increment "counter|k" maxWindow).key ≠ "k" ∧
      AlikeFrom resetHit m.id "k" 0 m.node (m.node.perform (.increment "counter|k" maxWindow) 0).1 := by
  obtain ⟨past, h⟩ := resetHit_gossiped
  obtain ⟨m, hm, hbefore, hafter⟩ : ∃ m ∈ resetHit.members, m.node.own.markerOf "k" = some 0 ∧
      (m.node.sweep 31622400001).own.markerOf "k" = none :=
    ⟨_, List.mem_cons_self, by decide +kernel, by decide +kernel⟩
  have htime : IsTime (Instant.toMillis 0) := by decide
  have haccept : Window.accept maxWindow = .ok maxWindow := rfl
  have hne : (Operation.increment "counter|k" maxWindow).key ≠ "k" := by decide
  obtain ⟨hswept, hhit, hother⟩ := sweeps_and_other_keys_unseen h hm
  exact ⟨past, h, m, hm, hbefore, hafter, hswept 31622400001 "k", haccept, hhit 0 "k" maxWindow "k" htime haccept, hne,
    hother 0 (.increment "counter|k" maxWindow) "k" htime hne⟩

end Mesh

end RateCounter
