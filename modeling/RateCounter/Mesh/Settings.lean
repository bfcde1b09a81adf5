/-
  RateCounter.Mesh.Settings — the settings of a mesh backend and the cluster they describe.

  Only the address to listen on is required. The address told to the others is the same
  unless another is given. A node without an id of its own gets a random one.
-/

import RateCounter.Settings
import RateCounter.Text.Quoted
import RateCounter.Time.Text

namespace RateCounter.Mesh

open Settings (Problem)

structure MeshSettings where
  listenAddr : Net.Address
  advertiseAddr : Option Net.Address
  nodeId : Option String
  clusterId : String
  seedNodes : List String
  gossipIntervalMs : UInt64
  deadNodeGracePeriodSecs : UInt64
  healthCheckTimeoutMs : UInt64
  deriving DecidableEq, Repr

/-- What a node needs to join a cluster; times in nanoseconds. -/
structure ClusterConfig where
  nodeId : Option String
  listenAddr : Net.Address
  advertiseAddr : Net.Address
  seedNodes : List String
  clusterId : String
  gossipInterval : Nat
  deadNodeGracePeriod : Nat
  deriving DecidableEq, Repr

namespace MeshSettings

def fieldNames : List String :=
  ["listen_addr", "advertise_addr", "node_id", "cluster_id", "seed_nodes", "gossip_interval_ms",
   "dead_node_grace_period_secs", "health_check_timeout_ms"]

/-- Settings of which the required address may still be missing. -/
structure Draft where
  listenAddr : Option Net.Address
  advertiseAddr : Option Net.Address
  nodeId : Option String
  clusterId : String
  seedNodes : List String
  gossipIntervalMs : UInt64
  deadNodeGracePeriodSecs : UInt64
  healthCheckTimeoutMs : UInt64
  deriving DecidableEq, Repr

def Draft.default : Draft := ⟨none, none, none, "hivecount", [], 100, 3600, 250⟩

def readField (d : Draft) (name : String) (value : Json) : Except Problem Draft :=
  if name = "listen_addr" then
    (Settings.address value).map fun a => { d with listenAddr := some a }
  else if name = "advertise_addr" then
    (Settings.optional Settings.address value).map fun a => { d with advertiseAddr := a }
  else if name = "node_id" then
    (Settings.optional Settings.text value).map fun id => { d with nodeId := id }
  else if name = "cluster_id" then
    (Settings.text value).map fun id => { d with clusterId := id }
  else if name = "seed_nodes" then
    (Settings.texts value).map fun seeds => { d with seedNodes := seeds }
  else if name = "gossip_interval_ms" then
    (Settings.word64 value).map fun n => { d with gossipIntervalMs := n }
  else if name = "dead_node_grace_period_secs" then
    (Settings.word64 value).map fun n => { d with deadNodeGracePeriodSecs := n }
  else if name = "health_check_timeout_ms" then
    (Settings.word64 value).map fun n => { d with healthCheckTimeoutMs := n }
  else .error (.unknownField name fieldNames)

def Draft.finish (d : Draft) : Except Problem MeshSettings :=
  match d.listenAddr with
  | none => .error (.missingField "listen_addr")
  | some listenAddr =>
    .ok ⟨listenAddr, d.advertiseAddr, d.nodeId, d.clusterId, d.seedNodes, d.gossipIntervalMs,
      d.deadNodeGracePeriodSecs, d.healthCheckTimeoutMs⟩

def read (fields : Json.Fields) : Except Problem MeshSettings :=
  (Settings.readFields readField Draft.default fields).bind Draft.finish

def clusterConfig (s : MeshSettings) : ClusterConfig where
  nodeId := s.nodeId
  listenAddr := s.listenAddr
  advertiseAddr := s.advertiseAddr.getD s.listenAddr
  seedNodes := s.seedNodes
  clusterId := s.clusterId
  gossipInterval := millis s.gossipIntervalMs.toNat
  deadNodeGracePeriod := seconds s.deadNodeGracePeriodSecs.toNat

end MeshSettings

/-- A description of a node, its addresses written by `address`. -/
def ClusterConfig.describe (c : ClusterConfig) (address : Net.Address → String) : String :=
  let id := Text.quoted (c.nodeId.getD "")
  "Cluster \x7b node_id: " ++ id ++ ", config: ClusterConfig \x7b node_id: " ++ id ++
    ", listen_addr: " ++ address c.listenAddr ++ ", advertise_addr: " ++ address c.advertiseAddr ++
    ", seed_nodes: " ++ Text.quotedList c.seedNodes ++ ", cluster_id: " ++ Text.quoted c.clusterId ++
    ", gossip_interval: " ++ Span.inLargestUnit c.gossipInterval ++
    ", dead_node_grace_period: " ++ Span.inLargestUnit c.deadNodeGracePeriod ++ " \x7d \x7d"

end RateCounter.Mesh
