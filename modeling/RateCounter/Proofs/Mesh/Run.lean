/-
  RateCounter.Proofs.Mesh.Run — what happens to a mesh, and what stays true of it.

  An event is an operation or a sweep at one member, or the delivery of one member's current
  values to another; a run is any sequence of events, each at the time that the clock shows
  (`Network.run`). Nothing is assumed of which deliveries there are, and nothing of the clock
  but that its milliseconds fit in 64 bits (`Shown`), as they do at all representable
  instants: it may be stepped back.

  - `All.run`: what operations keep of all the entries that a node knows of, a run keeps for
    all members.
  - `run_regular`: whatever happens, every entry that some member knows of is regular.
-/

import RateCounter.Mesh.Network
import RateCounter.Proofs.Mesh.Node

namespace RateCounter.Mesh

inductive Event where
  | call (member : Nat) (op : Operation)
  | sweep (member : Nat)
  | deliver (sender receiver : Nat)
  deriving DecidableEq, Repr

/-- The clock can show the time of every event. -/
def Shown (events : List (Instant × Event)) : Prop := ∀ event ∈ events, IsTime event.1.toMillis

instance (events : List (Instant × Event)) : Decidable (Shown events) := inferInstanceAs (Decidable (∀ _ ∈ _, _))

theorem toMillis_isTime {now : Int} (h : Instant.Representable now) : IsTime (Instant.toMillis now) := by
  have hlow : (-8334601228800000000000 : Int) ≤ now := h.1
  have hhigh : now ≤ (8210266876799999999999 : Int) := h.2
  have hmillis : Instant.toMillis now = now / 1000000 := Int.fdiv_eq_ediv_of_nonneg _ (by decide)
  unfold IsTime minTime maxTime Word.min63 Word.max63
  rw [hmillis]
  omega

theorem Node.All.receive {P : String → Entry → Prop} {n : Node} (h : n.All P) (id : String) {values : Values}
    (hv : values.All P) : (n.receive id values).All P := by
  intro values' hmem
  rcases List.mem_cons.mp hmem with rfl | hmem
  · exact h.own
  rcases List.mem_cons.mp hmem with rfl | hmem
  · exact hv
  · obtain ⟨other, hother, rfl⟩ := List.mem_map.mp hmem
    exact h _ (List.mem_cons_of_mem _ (List.mem_map_of_mem (List.mem_filter.mp hother).1))

namespace Network

/-- Members that have not done anything yet. -/
def fresh (members : List (String × ClusterConfig)) : Network :=
  isolated (members.map fun (id, config) => Member.start id config)

/-- The settings of members that run on one host. -/
def onOneHost (ids : List String) : List (String × ClusterConfig) :=
  ids.zipIdx.map fun (id, i) =>
    let address : Net.Address := ⟨.v4 [127, 0, 0, 1], 7000 + i, 0⟩
    (id, ⟨some id, address, address, [], "hivecount", millis 100, seconds 3600⟩)

def after (net : Network) (now : Instant) : Event → Network
  | .call i op => net.change i fun n => (n.perform op now).1
  | .sweep i => net.change i fun n => n.sweep now.toMillis
  | .deliver sender receiver => net.deliver sender receiver

def run (net : Network) (events : List (Instant × Event)) : Network :=
  events.foldl (fun net event => net.after event.1 event.2) net

/-- All entries that any member knows of. -/
def All (P : String → Entry → Prop) (net : Network) : Prop := ∀ m ∈ net.members, m.node.All P

variable {P : String → Entry → Prop} {net : Network}

theorem fresh_all (members : List (String × ClusterConfig)) : (fresh members).All P := by
  intro m hm
  obtain ⟨_, -, rfl⟩ := List.mem_map.mp hm
  exact Node.all_start

theorem getElem?_change (net : Network) (i : Nat) (f : Node → Node) (j : Nat) :
    (net.change i f).members[j]? = net.members[j]?.map fun m => if i = j then { m with node := f m.node } else m := by
  unfold change
  rw [List.getElem?_modify]
  cases net.members[j]? with
  | none => rfl
  | some m => split <;> rfl

/-- A member of the mesh after a change is the one that has changed, or was there before. -/
theorem change_cases {i j : Nat} {f : Node → Node} {m : Member} (h : (net.change i f).members[j]? = some m) :
    ∃ old, net.members[j]? = some old ∧ (i = j ∧ m = { old with node := f old.node } ∨ i ≠ j ∧ m = old) := by
  rw [getElem?_change] at h
  obtain ⟨old, hold, rfl⟩ := Option.map_eq_some_iff.mp h
  by_cases hij : i = j
  · exact ⟨old, hold, .inl ⟨hij, if_pos hij⟩⟩
  · exact ⟨old, hold, .inr ⟨hij, if_neg hij⟩⟩

theorem All.change (h : net.All P) (i : Nat) {f : Node → Node} (hf : ∀ n : Node, n.All P → (f n).All P) :
    (net.change i f).All P := by
  intro m hm
  obtain ⟨j, hj⟩ := List.mem_iff_getElem?.mp hm
  rw [getElem?_change] at hj
  obtain ⟨old, hold, rfl⟩ := Option.map_eq_some_iff.mp hj
  have hknown := h old (List.mem_of_getElem? hold)
  split
  · exact hf _ hknown
  · exact hknown

/-- Only an operation can break what holds of all entries. -/
theorem All.after (h : net.All P) (now : Instant) (event : Event)
    (hcall : ∀ i op, event = .call i op → ∀ n : Node, n.All P → (n.perform op now).1.All P) :
    (net.after now event).All P := by
  cases event with
  | call i op => exact h.change i (hcall i op rfl)
  | sweep i => exact h.change i fun n hn => hn.sweep _
  | deliver sender receiver =>
    show (net.deliver sender receiver).All P
    unfold deliver
    cases hm : net.members[sender]? with
    | none => exact h
    | some m =>
      have hvalues := (h m (List.mem_of_getElem? hm)).own
      exact h.change receiver fun n hn => hn.receive m.id hvalues

theorem All.run {events : List (Instant × Event)} (h : net.All P)
    (hcall : ∀ i op now, (now, Event.call i op) ∈ events → ∀ n : Node, n.All P → (n.perform op now).1.All P) :
    (net.run events).All P := by
  induction events generalizing net with
  | nil => exact h
  | cons event events ih =>
    have hfirst := h.after event.1 event.2 fun i op he =>
      hcall i op event.1 (by rw [← he]; exact List.mem_cons_self)
    exact ih hfirst fun i op now he => hcall i op now (List.mem_cons_of_mem _ he)

theorem run_regular (members : List (String × ClusterConfig)) {events : List (Instant × Event)}
    (hshown : Shown events) : ∀ m ∈ ((fresh members).run events).members, m.node.Regular :=
  All.run (fresh_all members) fun _ op _ he _ hn => Node.Regular.perform (hshown _ he) hn op

end Network

end RateCounter.Mesh
