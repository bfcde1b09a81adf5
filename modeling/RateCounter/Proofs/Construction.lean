/-
  RateCounter.Proofs.Construction — how a group is built from a configuration.

  Whatever was registered and whatever the factories do, one of four things happens
  (`Construction`), and the first three build nothing:
  - the configuration is refused, and no factory runs;
  - a kind is not registered: the first backend of such a kind is named, with all kinds that
    are, and no factory runs;
  - the factories last registered run in configured order, each after the one before, and one
    fails: its error is returned and none runs after it;
  - all of them succeed, and the group has one fresh record for each backend.

  Factories leave a trace. One that did not run has left the trace as it was.
  - `group_constructed`: this is so of every list of registrations. No backend is looked for
    under a kind that is missing.
-/

import Mathlib.Data.List.Induction
import Mathlib.Data.String.Basic
import Std.Data.TreeMap.Lemmas
import RateCounter.Registry

namespace RateCounter.Registry

variable {σ α : Type}

/-! ## Registrations -/

/-- A registry after some registrations, one after the other. -/
def ofRegistrations (regs : List (String × Factory σ α)) : Registry σ α :=
  regs.foldl (fun r reg => r.register reg.1 reg.2) empty

def lastRegistered (regs : List (String × Factory σ α)) (kind : String) : Option (Factory σ α) :=
  regs.reverse.lookup kind

theorem ofRegistrations_append (regs : List (String × Factory σ α)) (reg : String × Factory σ α) :
    ofRegistrations (regs ++ [reg]) = (ofRegistrations regs).register reg.1 reg.2 := by
  simp only [ofRegistrations, List.foldl_append, List.foldl_cons, List.foldl_nil]

theorem factories_ofRegistrations (regs : List (String × Factory σ α)) (kind : String) :
    (ofRegistrations regs).factories[kind]? = lastRegistered regs kind := by
  induction regs using List.reverseRecOn with
  | nil => simp [ofRegistrations, lastRegistered, empty]
  | append_singleton regs reg ih =>
    rw [ofRegistrations_append, register, Std.TreeMap.getElem?_insert, ih]
    unfold lastRegistered
    rw [List.reverse_append, List.reverse_singleton, List.singleton_append, List.lookup_cons]
    by_cases hkind : kind = reg.1
    · simp [hkind]
    · have hne : (kind == reg.1) = false := beq_false_of_ne hkind
      rw [hne]
      simp [Ne.symm hkind]

/-- The kinds that are listed are those that were registered. -/
theorem mem_kinds (regs : List (String × Factory σ α)) (kind : String) :
    kind ∈ (ofRegistrations regs).kinds ↔ kind ∈ regs.map Prod.fst := by
  unfold kinds
  rw [Std.TreeMap.mem_keys]
  induction regs using List.reverseRecOn with
  | nil => simp [ofRegistrations, empty]
  | append_singleton regs reg ih =>
    rw [ofRegistrations_append, register, Std.TreeMap.mem_insert, ih, Std.LawfulEqCmp.compare_eq_iff_eq]
    simp [or_comm, eq_comm]

theorem kinds_ascending (r : Registry σ α) : r.kinds.Pairwise (· < ·) :=
  (Std.TreeMap.ordered_keys (t := r.factories)).imp fun h => compareOfLessAndEq_eq_lt.mp h

theorem contains_iff (regs : List (String × Factory σ α)) (kind : String) :
    (ofRegistrations regs).contains kind = true ↔ kind ∈ regs.map Prod.fst := by
  rw [← mem_kinds, contains, kinds, Std.TreeMap.contains_iff_mem, Std.TreeMap.mem_keys]

theorem exists_lastRegistered {regs : List (String × Factory σ α)} {kind : String} (h : kind ∈ regs.map Prod.fst) :
    ∃ make, lastRegistered regs kind = some make := by
  rw [← mem_kinds, kinds, Std.TreeMap.mem_keys, Std.TreeMap.mem_iff_isSome_getElem?, factories_ofRegistrations] at h
  exact Option.isSome_iff_exists.mp h

theorem build_of_lastRegistered {regs : List (String × Factory σ α)} {b : BackendSpec} {make : Factory σ α}
    (h : lastRegistered regs b.kind = some make) (trace : σ) : (ofRegistrations regs).build b trace = make b trace := by
  simp only [build, factories_ofRegistrations, h]

/-! ## Factories one after the other -/

/-- Backends built in order, each by the factory last registered for its kind and from the trace that the one before
    left. -/
inductive BuiltInOrder (regs : List (String × Factory σ α)) : List BackendSpec → σ → List α → σ → Prop
  | nil (trace : σ) : BuiltInOrder regs [] trace [] trace
  | cons {b : BackendSpec} {bs : List BackendSpec} {make : Factory σ α} {state : α} {states : List α}
      {trace trace₁ trace' : σ} : lastRegistered regs b.kind = some make → make b trace = (.ok state, trace₁) →
      BuiltInOrder regs bs trace₁ states trace' → BuiltInOrder regs (b :: bs) trace (state :: states) trace'

/-- Some were built, and the next factory failed. -/
inductive FailedInOrder (regs : List (String × Factory σ α)) (bs : List BackendSpec) (trace : σ) (e : Error)
    (trace' : σ) : Prop
  | stop {built later : List BackendSpec} {b : BackendSpec} {states : List α} {make : Factory σ α} {trace₁ : σ} :
      bs = built ++ b :: later → BuiltInOrder regs built trace states trace₁ → lastRegistered regs b.kind = some make →
      make b trace₁ = (.error e, trace') → FailedInOrder regs bs trace e trace'

variable {regs : List (String × Factory σ α)}

theorem BuiltInOrder.buildAll {bs : List BackendSpec} {states : List α} {trace trace' : σ}
    (h : BuiltInOrder regs bs trace states trace') :
    (ofRegistrations regs).buildAll bs trace = (.ok states, trace') := by
  induction h with
  | nil => rfl
  | cons hmake hbuilt _ ih => simp only [Registry.buildAll, build_of_lastRegistered hmake, hbuilt, ih]

/-- The factories run in order until one fails. -/
theorem buildAll_inOrder {bs : List BackendSpec} (hbs : ∀ b ∈ bs, b.kind ∈ regs.map Prod.fst) (trace : σ) :
    (∃ states trace', BuiltInOrder regs bs trace states trace') ∨
      ∃ e trace', FailedInOrder regs bs trace e trace' ∧
        (ofRegistrations regs).buildAll bs trace = (.error e, trace') := by
  induction bs generalizing trace with
  | nil => exact .inl ⟨[], trace, .nil trace⟩
  | cons b bs ih =>
    obtain ⟨hb, hbs⟩ := List.forall_mem_cons.mp hbs
    obtain ⟨make, hmake⟩ := exists_lastRegistered hb
    have hbuild := build_of_lastRegistered hmake trace
    cases hrun : make b trace with
    | mk result trace₁ =>
      rw [hrun] at hbuild
      cases result with
      | error e =>
        exact .inr ⟨e, trace₁, .stop rfl (.nil trace) hmake hrun, by simp only [Registry.buildAll, hbuild]⟩
      | ok state =>
        rcases ih hbs trace₁ with ⟨states, trace', h⟩ | ⟨e, trace', ⟨rfl, hbuilt, hmake', hrun'⟩, hall⟩
        · exact .inl ⟨state :: states, trace', .cons hmake hrun h⟩
        · exact .inr ⟨e, trace', .stop (List.cons_append ..).symm (.cons hmake hrun hbuilt) hmake' hrun',
            by simp only [Registry.buildAll, hbuild, hall]⟩

/-! ## Groups -/

/-- What building a group may come to. -/
inductive Construction {B : Backend} (regs : List (String × Factory σ B.State)) (c : Config) (trace : σ) :
    Except Error (Failover B) × σ → Prop
  | refused {e : ConfigError} : c.check = .error e → Construction regs c trace (.error (.configuration e), trace)
  | unknown {before after : List BackendSpec} {b : BackendSpec} {kinds : List String} : c.check = .ok () →
      c.backends = before ++ b :: after → (∀ b' ∈ before, b'.kind ∈ regs.map Prod.fst) →
      b.kind ∉ regs.map Prod.fst → kinds.Pairwise (· < ·) → (∀ kind, kind ∈ kinds ↔ kind ∈ regs.map Prod.fst) →
      Construction regs c trace (.error (.configuration (.unknownKind b.name b.kind kinds)), trace)
  | failed {e : Error} {trace' : σ} : c.check = .ok () → (∀ b ∈ c.backends, b.kind ∈ regs.map Prod.fst) →
      FailedInOrder regs c.backends trace e trace' → Construction regs c trace (.error e, trace')
  | built {states : List B.State} {trace' : σ} : c.check = .ok () → (∀ b ∈ c.backends, b.kind ∈ regs.map Prod.fst) →
      BuiltInOrder regs c.backends trace states trace' → Construction regs c trace (.ok (assemble c states), trace')

/-- What is true of every group that is built, and of every attempt to build one. -/
structure Constructed {B : Backend} (regs : List (String × Factory σ B.State)) (c : Config) (trace : σ)
    (outcome : Except Error (Failover B) × σ) : Prop where
  steps : Construction regs c trace outcome
  ok_iff : (∃ g, outcome.1 = .ok g) ↔ c.check = .ok () ∧ (∀ b ∈ c.backends, b.kind ∈ regs.map Prod.fst) ∧
    ∃ states trace', BuiltInOrder regs c.backends trace states trace'
  fresh : ∀ g, outcome.1 = .ok g → g.names = c.backends.map BackendSpec.name ∧
    g.monitor.records = List.replicate c.backends.length ⟨true, none, 0, none, false⟩
  /-- A factory is found for every backend that is built. -/
  found : (∀ b ∈ c.backends, b.kind ∈ regs.map Prod.fst) → ∀ b ∈ c.backends, ∃ make,
    lastRegistered regs b.kind = some make ∧ ∀ trace, (ofRegistrations regs).build b trace = make b trace

theorem group_construction {B : Backend} (regs : List (String × Factory σ B.State)) (c : Config) (trace : σ) :
    Construction regs c trace ((ofRegistrations regs).group c trace) := by
  unfold group
  cases hcheck : c.check with
  | error e => exact .refused hcheck
  | ok =>
    cases hfind : c.backends.find? fun b => !(ofRegistrations regs).contains b.kind with
    | some b =>
      obtain ⟨hb, before, after, hsplit, hbefore⟩ := List.find?_eq_some_iff_append.mp hfind
      refine .unknown hcheck hsplit (fun b' hb' => ?_) ?_ (kinds_ascending _) (mem_kinds regs)
      · exact (contains_iff regs b'.kind).mp (by simpa using hbefore b' hb')
      · rw [← contains_iff]
        simpa using hb
    | none =>
      have hknown : ∀ b ∈ c.backends, b.kind ∈ regs.map Prod.fst := fun b hb =>
        (contains_iff regs b.kind).mp (by simpa using List.find?_eq_none.mp hfind b hb)
      rcases buildAll_inOrder hknown trace with ⟨states, trace', h⟩ | ⟨e, trace', h, hall⟩
      · simp only [h.buildAll]
        exact .built hcheck hknown h
      · simp only [hall]
        exact .failed hcheck hknown h

/-- Every group of `c` that is built starts with the configured names and with records as good as new. -/
theorem group_constructed {B : Backend} (regs : List (String × Factory σ B.State)) (c : Config) (trace : σ) :
    Constructed regs c trace ((ofRegistrations regs).group c trace) := by
  have hsteps := group_construction regs c trace
  refine ⟨hsteps, ⟨fun ⟨g, hg⟩ => ?_, fun ⟨hcheck, hknown, states, trace', h⟩ => ?_⟩, fun g hg => ?_, ?_⟩
  · generalize (ofRegistrations regs).group c trace = outcome at hsteps hg
    cases hsteps with
    | refused | unknown | failed => cases hg
    | built hcheck hknown h => exact ⟨hcheck, hknown, _, _, h⟩
  · have hfind : (c.backends.find? fun b => !(ofRegistrations regs).contains b.kind) = none :=
      List.find?_eq_none.mpr fun b hb => by simpa using (contains_iff regs b.kind).mpr (hknown b hb)
    exact ⟨assemble c states, by simp only [group, hcheck, hfind, h.buildAll]⟩
  · generalize (ofRegistrations regs).group c trace = outcome at hsteps hg
    cases hsteps with
    | refused | unknown | failed => cases hg
    | built hcheck hknown h =>
      cases hg
      exact ⟨rfl, rfl⟩
  · intro hknown b hb
    obtain ⟨make, hmake⟩ := exists_lastRegistered (hknown b hb)
    exact ⟨make, hmake, build_of_lastRegistered hmake⟩

end RateCounter.Registry
