/-
  RateCounter.Proofs.Mesh.Transparency — a mesh whose members always hear of each other at
  once answers as one node.

  After every event all members exchange their values (`Network.answers`), so they have one
  view: the values that all of them publish, each with its own first (`exchange_view`). A
  ledger that holds for what they publish therefore holds for every member, whichever of them
  serves a call and whichever has swept (`step_holds`). The answers of the mesh are those of
  the ledger (`Network.answers_ledger`), and so are those of a node alone.

  - `answers_of_one_node`: at times that never go back, the answers of a mesh of any number of
    members are those of a single node to the same calls, at the same times.
-/

import RateCounter.Proofs.Mesh.Ledger
import RateCounter.Proofs.Mesh.Run

namespace RateCounter.Mesh

/-- It is no call, or one to a member of a mesh of this size. -/
def Event.Placed (size : Nat) : Event → Prop
  | .call i _ => i < size
  | _ => True

instance (size : Nat) : (event : Event) → Decidable (event.Placed size)
  | .call i _ => inferInstanceAs (Decidable (i < size))
  | .sweep _ | .deliver _ _ => inferInstanceAs (Decidable True)

def callOf? : Instant × Event → Option (Instant × Operation)
  | (now, .call _ op) => some (now, op)
  | _ => none

/-- The operations among the events, without the members that serve them. -/
def calls (events : List (Instant × Event)) : List (Instant × Operation) := events.filterMap callOf?

def Ledger.answers (l : Ledger) : List (Instant × Operation) → List Outcome
  | [] => []
  | (now, op) :: rest => (l.perform op now).2 :: Ledger.answers (l.perform op now).1 rest

/-- The answers of one node on its own. -/
def Node.answers (n : Node) : List (Instant × Operation) → List Outcome
  | [] => []
  | (now, op) :: rest => (n.perform op now).2 :: Node.answers (n.perform op now).1 rest

namespace Network

/-- Members that have not done anything yet, all of them linked. -/
def joined (members : List (String × ClusterConfig)) : Network :=
  exchange { fresh members with linked := fun _ _ => true }

/-- What an event is answered with: nothing if it is no call, or there is no such member. -/
def answer? (net : Network) (now : Instant) : Event → Option Outcome
  | .call i op => net.members[i]?.map fun m => (m.node.perform op now).2
  | _ => none

/-- The answers of a mesh that exchanges its values after every event. -/
def answers (net : Network) : List (Instant × Event) → List Outcome
  | [] => []
  | (now, event) :: rest => (net.answer? now event).toList ++ answers (net.after now event).exchange rest

/-- The values that each of the members publishes. -/
def published (net : Network) : View := net.members.map fun m => m.node.own

/-- All members hear of all others. -/
structure Whole (net : Network) : Prop where
  linked : ∀ i j, net.linked i j = true
  live : ∀ m ∈ net.members, m.live = true
  cluster : ∀ a ∈ net.members, ∀ b ∈ net.members, a.config.clusterId = b.config.clusterId

variable {net : Network}

/-! ## Exchanges -/

theorem split_at {α : Type} {l : List α} {i : Nat} {a : α} (h : l[i]? = some a) :
    ∃ before after, l = before ++ a :: after ∧ before.length = i := by
  obtain ⟨hlt, rfl⟩ := List.getElem?_eq_some_iff.mp h
  refine ⟨l.take i, l.drop (i + 1), ?_, ?_⟩
  · rw [List.getElem_cons_drop, List.take_append_drop]
  · rw [List.length_take]; omega

theorem heardBy_whole (h : net.Whole) {before after : List Member} {m : Member}
    (hmembers : net.members = before ++ m :: after) : net.heardBy before.length m = before ++ after := by
  have hfilter : net.heardBy before.length m =
      (net.members.zipIdx.filter fun other => other.2 != before.length).map (·.1) := by
    unfold heardBy
    congr 1
    apply List.filter_congr
    intro other hother
    have hin : other.1 ∈ net.members := List.fst_mem_of_mem_zipIdx hother
    have hm : m ∈ net.members := by
      rw [hmembers]; exact List.mem_append_right _ List.mem_cons_self
    show (other.2 != before.length && other.1.live && _ && net.linked other.2 before.length) = _
    rw [h.live _ hin, h.linked, h.cluster _ hin m hm]
    simp
  have hbefore : (before.zipIdx.filter fun other => other.2 != before.length) = before.zipIdx := by
    rw [List.filter_eq_self]
    intro other hother
    have := List.snd_lt_of_mem_zipIdx hother
    simp only [bne_iff_ne, ne_eq]
    omega
  have hafter : ((after.zipIdx (before.length + 1)).filter fun other => other.2 != before.length) =
      after.zipIdx (before.length + 1) := by
    rw [List.filter_eq_self]
    intro other hother
    have := List.le_snd_of_mem_zipIdx hother
    simp only [bne_iff_ne, ne_eq]
    omega
  rw [hfilter, hmembers, List.zipIdx_append, List.zipIdx_cons, List.filter_append, List.filter_cons, Nat.zero_add,
    hbefore, hafter, if_neg (by simp), List.map_append, List.zipIdx_map_fst, List.zipIdx_map_fst]

theorem getElem?_exchange (net : Network) (i : Nat) :
    net.exchange.members[i]? = net.members[i]?.map fun m => net.exchangeFor m i := by
  show (net.members.zipIdx.map fun member => net.exchangeFor member.1 member.2)[i]? = _
  rw [List.getElem?_map, List.getElem?_zipIdx]
  cases net.members[i]? with
  | none => rfl
  | some m => simp

theorem exchangeFor_own (net : Network) (m : Member) (i : Nat) : (net.exchangeFor m i).node.own = m.node.own := by
  unfold exchangeFor
  split <;> rfl

theorem published_exchange (net : Network) : net.exchange.published = net.published := by
  apply List.ext_getElem?
  intro i
  show (net.exchange.members.map _)[i]? = (net.members.map _)[i]?
  rw [List.getElem?_map, List.getElem?_map, getElem?_exchange, Option.map_map]
  congr 1
  funext m
  exact exchangeFor_own net m i

/-- After an exchange every member's view is what all members publish. -/
theorem exchange_view (h : net.Whole) {i : Nat} {m : Member} (hm : net.exchange.members[i]? = some m) :
    m.node.view.Perm net.published := by
  rw [getElem?_exchange] at hm
  obtain ⟨old, hold, rfl⟩ := Option.map_eq_some_iff.mp hm
  obtain ⟨before, after, hmembers, rfl⟩ := split_at hold
  have hlive := h.live old (List.mem_of_getElem? hold)
  have hview : (net.exchangeFor old before.length).node.view =
      old.node.own :: (before ++ after).map fun m => m.node.own := by
    unfold exchangeFor
    rw [if_pos hlive, heardBy_whole h hmembers]
    show old.node.own :: ((before ++ after).map fun o => (o.id, o.node.own)).map (·.2) = _
    rw [List.map_map]
    rfl
  have hpublished : net.published =
      before.map (fun m => m.node.own) ++ old.node.own :: after.map fun m => m.node.own := by
    unfold published
    rw [hmembers, List.map_append, List.map_cons]
  rw [hview, hpublished, List.map_append]
  exact List.perm_middle.symm

theorem Whole.of_members (h : net.Whole) {net' : Network} (hlinked : ∀ i j, net'.linked i j = true)
    (hsame : ∀ m ∈ net'.members, ∃ old ∈ net.members, m.live = old.live ∧ m.config = old.config) : net'.Whole := by
  refine ⟨hlinked, fun m hm => ?_, fun a ha b hb => ?_⟩
  · obtain ⟨old, hold, hlive, -⟩ := hsame m hm
    rw [hlive]; exact h.live old hold
  · obtain ⟨olda, holda, -, hconfiga⟩ := hsame a ha
    obtain ⟨oldb, holdb, -, hconfigb⟩ := hsame b hb
    rw [hconfiga, hconfigb]; exact h.cluster olda holda oldb holdb

theorem Whole.exchange (h : net.Whole) : net.exchange.Whole := by
  have hsame : ∀ m ∈ net.exchange.members, ∃ old ∈ net.members, m.live = old.live ∧ m.config = old.config := by
    intro m hm
    obtain ⟨i, hi⟩ := List.mem_iff_getElem?.mp hm
    rw [getElem?_exchange] at hi
    obtain ⟨old, hold, rfl⟩ := Option.map_eq_some_iff.mp hi
    refine ⟨old, List.mem_of_getElem? hold, ?_⟩
    unfold exchangeFor
    split <;> exact ⟨rfl, rfl⟩
  exact h.of_members h.linked hsame

/-! ## Steps -/

theorem change_eq {before after : List Member} {m : Member} (hmembers : net.members = before ++ m :: after)
    (f : Node → Node) : (net.change before.length f).members = before ++ { m with node := f m.node } :: after := by
  unfold change
  rw [hmembers]
  show (before ++ m :: after).modify before.length _ = _
  rw [List.modify_eq_take_cons_drop (by simp)]
  simp

/-- A member that changes its own values only has them in its view, as the others will. -/
theorem change_view {i : Nat} {m : Member} (hm : net.members[i]? = some m) (hview : m.node.view.Perm net.published)
    {f : Node → Node} (hothers : (f m.node).others = m.node.others) :
    (f m.node).view.Perm (net.change i f).published := by
  obtain ⟨before, after, hmembers, rfl⟩ := split_at hm
  unfold published at hview ⊢
  rw [change_eq hmembers]
  rw [hmembers] at hview
  rw [List.map_append, List.map_cons] at hview ⊢
  have hrest : (m.node.others.map (·.2)).Perm (before.map (fun m => m.node.own) ++ after.map fun m => m.node.own) :=
    (hview.trans List.perm_middle).cons_inv
  unfold Node.view
  rw [hothers]
  exact (hrest.cons _).trans List.perm_middle.symm

theorem change_none {i : Nat} (hm : net.members[i]? = none) (f : Node → Node) : net.change i f = net := by
  unfold change
  rw [List.modify_eq_self (List.getElem?_eq_none_iff.mp hm)]

theorem Whole.change (h : net.Whole) (i : Nat) (f : Node → Node) : (net.change i f).Whole := by
  have hsame : ∀ m ∈ (net.change i f).members, ∃ old ∈ net.members, m.live = old.live ∧ m.config = old.config := by
    intro m hm
    obtain ⟨j, hj⟩ := List.mem_iff_getElem?.mp hm
    rw [getElem?_change] at hj
    obtain ⟨old, hold, rfl⟩ := Option.map_eq_some_iff.mp hj
    refine ⟨old, List.mem_of_getElem? hold, ?_⟩
    split <;> exact ⟨rfl, rfl⟩
  exact h.of_members h.linked hsame

theorem Whole.after (h : net.Whole) (now : Instant) (event : Event) : (net.after now event).Whole := by
  cases event with
  | call i op => exact h.change i fun n => (n.perform op now).1
  | sweep i => exact h.change i fun n => n.sweep now.toMillis
  | deliver sender receiver =>
    show (net.deliver sender receiver).Whole
    unfold deliver
    cases net.members[sender]? with
    | none => exact h
    | some m => exact h.change receiver fun n => n.receive m.id m.node.own

theorem deliver_published (net : Network) (sender receiver : Nat) :
    (net.deliver sender receiver).published = net.published := by
  unfold deliver
  cases net.members[sender]? with
  | none => rfl
  | some m =>
    apply List.ext_getElem?
    intro j
    show ((net.change receiver _).members.map _)[j]? = (net.members.map _)[j]?
    rw [List.getElem?_map, List.getElem?_map, getElem?_change, Option.map_map]
    congr 1
    funext m'
    show (if receiver = j then _ else m').node.own = m'.node.own
    split <;> rfl

theorem length_exchange (net : Network) : net.exchange.members.length = net.members.length := by
  show (net.members.zipIdx.map _).length = _
  rw [List.length_map, List.length_zipIdx]

theorem length_change (net : Network) (i : Nat) (f : Node → Node) :
    (net.change i f).members.length = net.members.length := by
  show (net.members.modify i _).length = _
  rw [List.length_modify]

theorem length_step (net : Network) (now : Instant) (event : Event) :
    (net.after now event).exchange.members.length = net.members.length := by
  rw [length_exchange]
  cases event with
  | call i op => exact length_change net i _
  | sweep i => exact length_change net i _
  | deliver sender receiver =>
    show (net.deliver sender receiver).members.length = _
    unfold deliver
    cases net.members[sender]? with
    | none => rfl
    | some m => exact length_change net receiver _

/-- All members know what all of them publish. -/
def InStep (net : Network) : Prop := ∀ (i : Nat) (m : Member), net.members[i]? = some m → m.node.view.Perm net.published

theorem exchange_inStep (h : net.Whole) : net.exchange.InStep := by
  intro i m hm
  rw [published_exchange]
  exact exchange_view h hm

/-! ## Runs -/

variable {l : Ledger}

/-- A member answers a call as the ledger that holds for what all members publish, and the ledger holds again. -/
theorem call_holds (hstep : net.InStep) {now : Instant} (hnow : IsTime now.toMillis)
    (h : l.Holds now.toMillis net.published) {i : Nat} {m : Member} (hm : net.members[i]? = some m) (op : Operation) :
    (m.node.perform op now).2 = (l.perform op now).2 ∧
      (l.perform op now).1.Holds now.toMillis (net.after now (.call i op)).published := by
  have hview := hstep i m hm
  obtain ⟨hanswer, hafter⟩ := Node.perform_holds hnow (h.perm hview.symm) op
  have hothers := Node.perform_others m.node op now
  exact ⟨hanswer, hafter.perm (change_view (f := fun n => (n.perform op now).1) hm hview hothers)⟩

/-- The ledger does not notice sweeps. -/
theorem sweep_holds (hstep : net.InStep) {now : Instant} (h : l.Holds now.toMillis net.published) (i : Nat) :
    l.Holds now.toMillis (net.after now (.sweep i)).published := by
  show l.Holds now.toMillis (net.change i fun n => n.sweep now.toMillis).published
  cases hm : net.members[i]? with
  | none => rw [change_none hm]; exact h
  | some m =>
    have hview := hstep i m hm
    have hafter : l.Holds now.toMillis (m.node.sweep now.toMillis).view := (h.perm hview.symm).swept
    exact hafter.perm (change_view (f := fun n => n.sweep now.toMillis) hm hview rfl)

theorem toMillis_mono {a b : Int} (h : a ≤ b) : Instant.toMillis a ≤ Instant.toMillis b := by
  unfold Instant.toMillis
  rw [Int.fdiv_eq_ediv_of_nonneg _ (by decide), Int.fdiv_eq_ediv_of_nonneg _ (by decide)]
  exact Int.ediv_le_ediv (by decide) h

theorem answers_ledger {events : List (Instant × Event)} (hshown : Shown events)
    (hordered : events.Pairwise fun a b => a.1 ≤ b.1)
    (hplaced : ∀ event ∈ events, event.2.Placed net.members.length) (hwhole : net.Whole) (hstep : net.InStep)
    {t : Int} (ht : ∀ event ∈ events, t ≤ event.1.toMillis) (h : l.Holds t net.published) :
    net.answers events = l.answers (calls events) := by
  induction events generalizing net l t with
  | nil => rfl
  | cons event events ih =>
    obtain ⟨now, event⟩ := event
    obtain ⟨hfirst, hrest⟩ := List.pairwise_cons.mp hordered
    have hnow : IsTime now.toMillis := hshown _ List.mem_cons_self
    have h : l.Holds now.toMillis net.published := h.later (ht _ List.mem_cons_self)
    have hnext := hwhole.after now event
    have hlength : (net.after now event).exchange.members.length = net.members.length := length_step net now event
    -- Whatever the event is, the rest is answered as by a ledger that holds after it.
    have hanswers (l' : Ledger) (h' : l'.Holds now.toMillis (net.after now event).published) :
        (net.after now event).exchange.answers events = l'.answers (calls events) := by
      refine ih (fun e he => hshown e (List.mem_cons_of_mem _ he)) hrest ?_ hnext.exchange (exchange_inStep hnext)
        (fun e he => toMillis_mono (hfirst e he)) (by rw [published_exchange]; exact h')
      intro e he
      rw [hlength]
      exact hplaced e (List.mem_cons_of_mem _ he)
    show (net.answer? now event).toList ++ (net.after now event).exchange.answers events = _
    cases event with
    | call i op =>
      have hlt : i < net.members.length := hplaced _ List.mem_cons_self
      have hm := List.getElem?_eq_getElem hlt
      obtain ⟨hanswer, hafter⟩ := call_holds hstep hnow h hm op
      show (net.members[i]?.map fun m => (m.node.perform op now).2).toList ++ _ = _
      rw [hanswers _ hafter, hm]
      show (net.members[i].node.perform op now).2 :: _ = (l.perform op now).2 :: _
      rw [hanswer]
      rfl
    | sweep i => exact hanswers l (sweep_holds hstep h i)
    | deliver sender receiver =>
      refine hanswers l ?_
      show l.Holds now.toMillis (net.deliver sender receiver).published
      rw [deliver_published]
      exact h

end Network

namespace Network

theorem linked_whole (members : List (String × ClusterConfig))
    (hcluster : ∀ a ∈ members, ∀ b ∈ members, a.2.clusterId = b.2.clusterId) :
    Whole { fresh members with linked := fun _ _ => true } := by
  refine ⟨fun _ _ => rfl, fun m hm => ?_, fun a ha b hb => ?_⟩
  · obtain ⟨_, -, rfl⟩ := List.mem_map.mp hm
    rfl
  · obtain ⟨idA, hidA, rfl⟩ := List.mem_map.mp ha
    obtain ⟨idB, hidB, rfl⟩ := List.mem_map.mp hb
    exact hcluster idA hidA idB hidB

theorem joined_published (members : List (String × ClusterConfig)) :
    ∀ values ∈ (joined members).published, values = {} := by
  intro values hvalues
  unfold joined at hvalues
  rw [published_exchange] at hvalues
  obtain ⟨m, hm, rfl⟩ := List.mem_map.mp hvalues
  obtain ⟨_, -, rfl⟩ := List.mem_map.mp hm
  rfl

theorem length_joined (members : List (String × ClusterConfig)) : (joined members).members.length = members.length := by
  unfold joined
  rw [length_exchange]
  exact List.length_map _

end Network

/-! ## One node -/

theorem callOf?_time {event : Instant × Event} {op : Instant × Operation} (h : callOf? event = some op) :
    op.1 = event.1 := by
  obtain ⟨now, event⟩ := event
  cases event with
  | call i op => cases h; rfl
  | sweep i => cases h
  | deliver sender receiver => cases h

theorem calls_ordered {events : List (Instant × Event)} (h : events.Pairwise fun a b => a.1 ≤ b.1) :
    (calls events).Pairwise fun a b => a.1 ≤ b.1 := by
  refine h.filterMap callOf? fun a b hab opa ha opb hb => ?_
  rw [callOf?_time ha, callOf?_time hb]
  exact hab

theorem Node.answers_ledger {n : Node} {l : Ledger} {ops : List (Instant × Operation)}
    (hshown : ∀ op ∈ ops, IsTime op.1.toMillis) (hordered : ops.Pairwise fun a b => a.1 ≤ b.1) {t : Int}
    (ht : ∀ op ∈ ops, t ≤ op.1.toMillis) (h : l.Holds t n.view) : n.answers ops = l.answers ops := by
  induction ops generalizing n l t with
  | nil => rfl
  | cons op ops ih =>
    obtain ⟨now, op⟩ := op
    obtain ⟨hfirst, hrest⟩ := List.pairwise_cons.mp hordered
    obtain ⟨hanswer, hafter⟩ :=
      perform_holds (hshown _ List.mem_cons_self) (h.later (ht _ List.mem_cons_self)) op
    show (n.perform op now).2 :: _ = (l.perform op now).2 :: _
    rw [hanswer]
    exact congrArg _ (ih (fun o ho => hshown o (List.mem_cons_of_mem _ ho)) hrest
      (fun o ho => Network.toMillis_mono (hfirst o ho)) hafter)

open Network in
/-- However many members a mesh has, whichever of them serve the calls, and whenever they sweep: if all of
    them exchange their values after every event, they answer as a single node does. -/
theorem answers_of_one_node (members : List (String × ClusterConfig))
    (hcluster : ∀ a ∈ members, ∀ b ∈ members, a.2.clusterId = b.2.clusterId) {events : List (Instant × Event)}
    (hshown : Shown events) (hordered : events.Pairwise fun a b => a.1 ≤ b.1)
    (hplaced : ∀ event ∈ events, event.2.Placed members.length) :
    (joined members).answers events = Node.start.answers (calls events) := by
  have hwhole := linked_whole members hcluster
  have hearly : ∀ event ∈ events, minTime ≤ event.1.toMillis :=
    fun event he => (hshown event he).1
  have hmesh : (joined members).answers events = Ledger.blank.answers (calls events) := by
    refine answers_ledger hshown hordered ?_ hwhole.exchange (exchange_inStep hwhole) hearly
      (Ledger.holds_blank (joined_published members) minTime)
    intro event he
    rw [length_joined]
    exact hplaced event he
  have hcalls : ∀ op ∈ calls events, ∃ event ∈ events, op.1 = event.1 := by
    intro op hop
    obtain ⟨event, hevent, hcall⟩ := List.mem_filterMap.mp hop
    exact ⟨event, hevent, callOf?_time hcall⟩
  have hnode : Node.start.answers (calls events) = Ledger.blank.answers (calls events) := by
    refine Node.answers_ledger ?_ (calls_ordered hordered) ?_ (Ledger.holds_blank ?_ minTime)
    · intro op hop
      obtain ⟨event, he, htime⟩ := hcalls op hop
      exact htime ▸ hshown event he
    · intro op hop
      obtain ⟨event, he, htime⟩ := hcalls op hop
      exact htime ▸ hearly event he
    · exact fun values hvalues => List.mem_singleton.mp hvalues
  exact hmesh.trans hnode.symm

/-- Two nodes that count and reset one key, with a sweep and a delivery in between. -/
def shared : List (Instant × Event) :=
  [(0, .call 0 (.increment "k" (seconds 60))), (seconds 1, .call 1 (.increment "k" (seconds 30))),
    (seconds 61, .sweep 0), (seconds 61, .call 1 (.increment "k" (seconds 60))), (seconds 61, .call 1 (.reset "k")),
    (seconds 61, .deliver 1 0), (seconds 61, .call 0 (.increment "k" (seconds 60))), (seconds 62, .call 1 (.count "k"))]

theorem answers_of_one_node_shared :
    (∀ a ∈ Network.onOneHost ["a", "b"], ∀ b ∈ Network.onOneHost ["a", "b"], a.2.clusterId = b.2.clusterId) ∧
      Shown shared ∧ (shared.Pairwise fun a b => a.1 ≤ b.1) ∧ (∀ event ∈ shared, event.2.Placed 2) ∧
      (Network.joined (Network.onOneHost ["a", "b"])).answers shared = Node.start.answers (calls shared) :=
  ⟨by decide, by decide, by decide, by decide,
    answers_of_one_node _ (by decide) (by decide : Shown shared) (by decide) (by decide)⟩

example : Node.start.answers (calls shared) =
    [.ok (.count 1), .ok (.count 2), .ok (.count 1), .ok .done, .ok (.count 1), .ok (.count 1)] := by
  rfl

end RateCounter.Mesh
