/-
  RateCounter.Mesh.Network — the members of a mesh and what they know of each other.

  Every member has values of its own and keeps the values of the others as it last received
  them (`deliver`). In an exchange every live member receives the values of the live members
  of its cluster that it has a link to, and forgets all others (`exchange`). Which links
  there are is given from outside.
-/

import RateCounter.Mesh.Node
import RateCounter.Mesh.Settings

namespace RateCounter.Mesh

structure Member where
  id : String
  config : ClusterConfig
  node : Node
  live : Bool

namespace Member

def start (id : String) (config : ClusterConfig) : Member := ⟨id, config, .start, true⟩

/-- The ids of the live members that a member knows of, in ascending order. -/
def liveIds (m : Member) : List String :=
  (m.id :: m.node.others.map (·.1)).mergeSort fun a b => decide (a ≤ b)

/-- The values of a member as this one knows them. -/
def knownValues? (m : Member) (id : String) : Option Values :=
  if id = m.id then some m.node.own else m.node.others.lookup id

end Member

namespace Node

/-- Replaces what is known of another member's values. -/
def receive (n : Node) (id : String) (values : Values) : Node :=
  { n with others := (id, values) :: n.others.filter fun other => other.1 != id }

def forget (n : Node) (id : String) : Node := { n with others := n.others.filter fun other => other.1 != id }

/-- Deletes a value of the node's own. -/
def withdraw (n : Node) (key : String) : Node := { n with own := n.own.erase key }

end Node

structure Network where
  members : List Member
  /-- Whether values get from one member to another, by position. -/
  linked : Nat → Nat → Bool

namespace Network

/-- Members that do not hear of each other. -/
def isolated (members : List Member) : Network := ⟨members, fun _ _ => false⟩

def position? (net : Network) (id : String) : Option Nat := net.members.findIdx? fun m => m.id == id

def find? (net : Network) (id : String) : Option Member := net.members.find? fun m => m.id == id

def change (net : Network) (i : Nat) (f : Node → Node) : Network :=
  { net with members := net.members.modify i fun m => { m with node := f m.node } }

/-- One member receives the current values of another. -/
def deliver (net : Network) (sender receiver : Nat) : Network :=
  match net.members[sender]? with
  | none => net
  | some m => net.change receiver fun n => n.receive m.id m.node.own

/-- The members whose values get to member `i`. -/
def heardBy (net : Network) (i : Nat) (m : Member) : List Member :=
  (net.members.zipIdx.filter fun (other, j) =>
    j != i && other.live && other.config.clusterId == m.config.clusterId && net.linked j i).map (·.1)

def exchangeFor (net : Network) (m : Member) (i : Nat) : Member :=
  if m.live then { m with node := { m.node with others := (net.heardBy i m).map fun o => (o.id, o.node.own) } }
  else m

/-- All live members exchange their values. -/
def exchange (net : Network) : Network :=
  { net with members := net.members.zipIdx.map fun (m, i) => net.exchangeFor m i }

/-- A member leaves; the others learn of it. -/
def stop (net : Network) (i : Nat) : Network :=
  exchange { net with members := net.members.modify i fun m => { m with live := false } }

end Network

end RateCounter.Mesh
