/-
  RateCounter.Registry — which factory builds the backends of a kind, and building a group.

  A factory may fail, and may leave a trace in a state `σ` of its own. A group is built
  only from a sound configuration all of whose kinds are registered; then the factories run
  one after the other in configured order and stop at the first that fails
  (`Registry.group`). Nothing else runs a factory.
-/

import Std.Data.TreeMap.Basic
import RateCounter.Config
import RateCounter.Failover
import RateCounter.Mesh.Node
import RateCounter.Mesh.Settings
import RateCounter.Store.Settings

namespace RateCounter

/-- Builds a backend state of type `α`. -/
abbrev Factory (σ α : Type) := BackendSpec → σ → Except Error α × σ

/-- The factories by kind; kinds are listed in ascending order. -/
structure Registry (σ α : Type) where
  factories : Std.TreeMap String (Factory σ α)

namespace Registry

variable {σ α β : Type}

def empty : Registry σ α := ⟨{}⟩

/-- A later factory replaces an earlier one of its kind. -/
def register (r : Registry σ α) (kind : String) (factory : Factory σ α) : Registry σ α :=
  ⟨r.factories.insert kind factory⟩

def contains (r : Registry σ α) (kind : String) : Bool := r.factories.contains kind

def kinds (r : Registry σ α) : List String := r.factories.keys

def describe (r : Registry σ α) : String :=
  "BackendRegistry \x7b kinds: " ++ Text.quotedList r.kinds ++ " \x7d"

def unknownKind (r : Registry σ α) (b : BackendSpec) : Error := .configuration (.unknownKind b.name b.kind r.kinds)

/-- Builds one backend. -/
def build (r : Registry σ α) (b : BackendSpec) (trace : σ) : Except Error α × σ :=
  match r.factories[b.kind]? with
  | none => (.error (r.unknownKind b), trace)
  | some factory => factory b trace

/-- Builds backends in order, up to the first that fails. -/
def buildAll (r : Registry σ α) : List BackendSpec → σ → Except Error (List α) × σ
  | [], trace => (.ok [], trace)
  | b :: rest, trace =>
    match r.build b trace with
    | (.error e, trace) => (.error e, trace)
    | (.ok state, trace) =>
      match buildAll r rest trace with
      | (.error e, trace) => (.error e, trace)
      | (.ok states, trace) => (.ok (state :: states), trace)

/-! ## Groups -/

/-- A group of freshly built backends, none of them checked yet. -/
def assemble {B : Backend} (c : Config) (backends : List B.State) : Failover B where
  names := c.backends.map BackendSpec.name
  backends := backends
  monitor := Monitor.start c.backends.length c.interval c.checkTimeout c.failureThreshold.toNat
  rotation := Rotation.start c.strategy
  timeout := c.operationTimeout

def group {B : Backend} (r : Registry σ B.State) (c : Config) (trace : σ) : Except Error (Failover B) × σ :=
  match c.check with
  | .error e => (.error (.configuration e), trace)
  | .ok () =>
    match c.backends.find? fun b => !r.contains b.kind with
    | some b => (.error (r.unknownKind b), trace)
    | none =>
      match r.buildAll c.backends trace with
      | (.error e, trace) => (.error e, trace)
      | (.ok backends, trace) => (.ok (assemble c backends), trace)

/-! ## Built-in kinds -/

/-- Reads the settings of a backend by `read`, or tells what is wrong with them. -/
def typedSettings {τ : Type} (read : Json.Fields → Except Settings.Problem τ) (b : BackendSpec) : Except Error τ :=
  match read b.settings with
  | .ok settings => .ok settings
  | .error problem => .error (.configuration (.badSettings b.name b.kind problem))

/-- A factory without a trace, from the settings of a backend. -/
def ofSettings {τ : Type} (read : Json.Fields → Except Settings.Problem τ) (make : τ → α) : Factory σ α :=
  fun b trace => ((typedSettings read b).map make, trace)

/-- A memory store or a node of the mesh. -/
abbrev Builtin : Backend := Store.backend.sum Mesh.Node.backend

/-- The kinds `memory` and `mesh`. -/
def builtin (put : Builtin.State → α) : Registry σ α :=
  (empty.register "memory" (ofSettings StoreSettings.read fun s => put (.inl s.store))).register "mesh"
    (ofSettings Mesh.MeshSettings.read fun _ => put (.inr Mesh.Node.start))

end Registry

end RateCounter
