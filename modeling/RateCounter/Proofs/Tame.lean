/-
  RateCounter.Proofs.Tame — backends whose calls do not turn for ever at one instant.

  A memory store, a node of the mesh, a store with faults and either of two tame backends
  are tame. That a group of tame backends is tame itself is shown in
  `RateCounter.Proofs.Failover.Reference`.
-/

import RateCounter.Mesh.Node
import RateCounter.Proofs.Alone
import RateCounter.Simulation.Faulty

namespace RateCounter

/-- In any length of time an operation or a health check takes finitely many turns. -/
structure Backend.Tame (B : Backend) : Prop where
  operate : B.operate.Tame
  probe : B.probe.Tame

theorem Backend.Tame.sum {A B : Backend} (hA : A.Tame) (hB : B.Tame) : (A.sum B).Tame :=
  ⟨hA.operate.sum hB.operate, hA.probe.sum hB.probe⟩

theorem Store.tame : Store.backend.Tame :=
  ⟨Service.tame_of_one_wait fun _ f _ => f.elim, Service.tame_of_one_wait fun _ f _ => f.elim⟩

theorem Mesh.Node.tame : Mesh.Node.backend.Tame :=
  ⟨Service.tame_of_one_wait fun _ f _ => f.elim, Service.tame_of_one_wait fun _ f _ => f.elim⟩

theorem Simulation.FaultyStore.tame : Simulation.FaultyStore.backend.Tame :=
  ⟨Service.tame_of_one_wait fun _ _ _ => ⟨_, _, rfl⟩, Service.tame_of_one_wait fun _ _ _ => ⟨_, _, rfl⟩⟩

end RateCounter
