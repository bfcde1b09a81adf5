/-
  RateCounter.Proofs.Failover.Mirrored — backends that do the same, seen through a view.

  A service mirrors another one if each of its turns, seen through a view of the states and
  of the waiting calls, is the turn of the other (`Service.Mirrors`). Everything services are
  put together from keeps this, and a group looks at its backends only by their services: so
  groups of backends that mirror others mirror the groups of the others (`mirrors_backend`).
-/

import RateCounter.Proofs.Failover.Reference

namespace RateCounter

/-! ## Services -/

namespace Service

variable {σ σ' τ τ' υ α ρ ρ' : Type}

/-- A state and a turn, seen through a view of each. -/
def seen {φ ψ : Type} (state : σ → τ) (flight : φ → ψ) (p : σ × Turn φ ρ) : τ × Turn ψ ρ :=
  (state p.1, p.2.map flight id)

/-- `T` does with what is seen what `S` does. -/
structure Mirrors (S : Service σ α ρ) (T : Service τ α ρ) (state : σ → τ) (flight : S.Flight → T.Flight) : Prop where
  start : ∀ clock a s, T.start clock a (state s) = seen state flight (S.start clock a s)
  resume : ∀ clock f s, T.resume clock (flight f) (state s) = seen state flight (S.resume clock f s)
  abandon : ∀ f s, T.abandon (flight f) (state s) = state (S.abandon f s)
  wake : ∀ f, T.wake (flight f) = S.wake f

theorem seen_id {φ : Type} (p : σ × Turn φ ρ) : seen id id p = p := by
  obtain ⟨s, r | f⟩ := p <;> rfl

theorem seen_seen {φ ψ χ : Type} (state : σ → τ) (flight : φ → ψ) (state' : τ → υ) (flight' : ψ → χ)
    (p : σ × Turn φ ρ) : seen state' flight' (seen state flight p) = seen (state' ∘ state) (flight' ∘ flight) p := by
  obtain ⟨s, r | f⟩ := p <;> rfl

theorem seen_flight? {φ ψ : Type} (state : σ → τ) (flight : φ → ψ) (p : σ × Turn φ ρ) :
    (seen state flight p).2.flight? = p.2.flight?.map flight := by
  obtain ⟨s, r | f⟩ := p <;> rfl

theorem Mirrors.refl (S : Service σ α ρ) : S.Mirrors S id id :=
  ⟨fun _ _ _ => (seen_id _).symm, fun _ _ _ => (seen_id _).symm, fun _ _ => rfl, fun _ => rfl⟩

def Bounded.map {φ ψ : Type} (flight : φ → ψ) (b : Bounded φ) : Bounded ψ := ⟨b.deadline, flight b.flight⟩

namespace Mirrors

variable {S : Service σ α ρ} {T : Service τ α ρ} {state : σ → τ} {flight : S.Flight → T.Flight}

theorem trans {U : Service υ α ρ} {state' : τ → υ} {flight' : T.Flight → U.Flight} (h : S.Mirrors T state flight)
    (h' : T.Mirrors U state' flight') : S.Mirrors U (state' ∘ state) (flight' ∘ flight) := by
  refine ⟨fun clock a s => ?_, fun clock f s => ?_, fun f s => ?_, fun f => (h'.wake _).trans (h.wake f)⟩
  · rw [Function.comp_apply, h'.start, h.start, seen_seen]
  · rw [Function.comp_apply, Function.comp_apply, h'.resume, h.resume, seen_seen]
  · rw [Function.comp_apply, Function.comp_apply, h'.abandon, h.abandon, Function.comp_apply]

theorem mapReply (h : S.Mirrors T state flight) (r : ρ → ρ') :
    (S.mapReply r).Mirrors (T.mapReply r) state flight := by
  have hseen : ∀ p : σ × Turn S.Flight ρ,
      ((seen state flight p).1, (seen state flight p).2.map id r) = seen state flight (p.1, p.2.map id r) := by
    rintro ⟨s, r' | f⟩ <;> rfl
  refine ⟨fun clock a s => ?_, fun clock f s => ?_, h.abandon, h.wake⟩
  · exact (congrArg (fun p => (p.1, p.2.map id r)) (h.start clock a s)).trans (hseen _)
  · exact (congrArg (fun p => (p.1, p.2.map id r)) (h.resume clock f s)).trans (hseen _)

theorem sum {U : Service σ' α ρ} {V : Service τ' α ρ} {state' : σ' → τ'} {flight' : U.Flight → V.Flight}
    (h : S.Mirrors T state flight) (h' : U.Mirrors V state' flight') :
    (S.sum U).Mirrors (T.sum V) (Sum.map state state') (Sum.map flight flight') := by
  have hinl : ∀ p : σ × Turn S.Flight ρ, seen Sum.inl Sum.inl (seen state flight p) =
      seen (Sum.map state state') (Sum.map flight flight') (seen Sum.inl Sum.inl p) := fun p => by
    rw [seen_seen, seen_seen]
    rfl
  have hinr : ∀ p : σ' × Turn U.Flight ρ, seen Sum.inr Sum.inr (seen state' flight' p) =
      seen (Sum.map state state') (Sum.map flight flight') (seen Sum.inr Sum.inr p) := fun p => by
    rw [seen_seen, seen_seen]
    rfl
  refine ⟨fun clock a s => ?_, fun clock f s => ?_, fun f s => ?_, fun f => ?_⟩
  · cases s with
    | inl s => exact (congrArg (seen Sum.inl Sum.inl) (h.start clock a s)).trans (hinl _)
    | inr s => exact (congrArg (seen Sum.inr Sum.inr) (h'.start clock a s)).trans (hinr _)
  · match f, s with
    | .inl f, .inl s => exact (congrArg (seen Sum.inl Sum.inl) (h.resume clock f s)).trans (hinl _)
    | .inr f, .inr s => exact (congrArg (seen Sum.inr Sum.inr) (h'.resume clock f s)).trans (hinr _)
    | .inl f, .inr s => rfl
    | .inr f, .inl s => rfl
  · match f, s with
    | .inl f, .inl s => exact congrArg Sum.inl (h.abandon f s)
    | .inr f, .inr s => exact congrArg Sum.inr (h'.abandon f s)
    | .inl f, .inr s => rfl
    | .inr f, .inl s => rfl
  · cases f with
    | inl f => exact h.wake f
    | inr f => exact h'.wake f

/-! ### Under a time limit -/

theorem poll (h : S.Mirrors T state flight) (clock : Clock) (f : S.Flight) (s : σ) :
    T.poll clock (flight f) (state s) = seen state flight (S.poll clock f s) := by
  unfold Service.poll
  rw [h.wake f]
  split
  · exact h.resume clock f s
  · rfl

theorem bound (h : S.Mirrors T state flight) (clock : Clock) (deadline : Nat) (p : σ × Turn S.Flight ρ) :
    T.bound clock deadline (seen state flight p) = seen state (Bounded.map flight) (S.bound clock deadline p) := by
  obtain ⟨s, r | f⟩ := p
  · rfl
  · show T.expire clock ⟨deadline, flight f⟩ (state s) = seen _ _ (S.expire clock ⟨deadline, f⟩ s)
    unfold expire
    dsimp only
    split
    · rw [h.abandon]
      rfl
    · rfl

theorem within (h : S.Mirrors T state flight) (limit : Nat) :
    (S.within limit).Mirrors (T.within limit) state (Bounded.map flight) := by
  refine ⟨fun clock a s => ?_, fun clock b s => ?_, fun b s => h.abandon b.flight s, fun b => ?_⟩
  · exact (congrArg (T.bound clock (clock.mono + limit)) (h.start clock a s)).trans (h.bound ..)
  · exact (congrArg (T.bound clock b.deadline) (h.poll clock b.flight s)).trans (h.bound ..)
  · exact congrArg (earlier · (some b.deadline)) (h.wake b.flight)

/-! ### One call per state -/

theorem startEach (h : S.Mirrors T state flight) (clock : Clock) (a : α) (ss : List σ) :
    T.startEach clock a (ss.map state) =
      ((S.startEach clock a ss).1.map state, (S.startEach clock a ss).2.map (Option.map flight)) := by
  induction ss with
  | nil => rfl
  | cons s ss ih =>
    simp only [List.map_cons, Service.startEach, ih, h.start, seen_flight?]
    rfl

theorem pollEach (h : S.Mirrors T state flight) (clock : Clock) (fs : List (Option S.Flight)) (ss : List σ) :
    T.pollEach clock (fs.map (Option.map flight)) (ss.map state) =
      ((S.pollEach clock fs ss).1.map state, (S.pollEach clock fs ss).2.map (Option.map flight)) := by
  induction fs generalizing ss with
  | nil => cases ss <;> rfl
  | cons o fs ih =>
    cases ss with
    | nil => cases o <;> rfl
    | cons s ss =>
      cases o with
      | none => simp only [List.map_cons, Option.map_none, Service.pollEach, ih]
      | some f =>
        simp only [List.map_cons, Option.map_some, Service.pollEach, ih, h.poll, seen_flight?]
        rfl

theorem abandonEach (h : S.Mirrors T state flight) (fs : List (Option S.Flight)) (ss : List σ) :
    T.abandonEach (fs.map (Option.map flight)) (ss.map state) = (S.abandonEach fs ss).map state := by
  induction fs generalizing ss with
  | nil => cases ss <;> rfl
  | cons o fs ih =>
    cases ss with
    | nil => cases o <;> rfl
    | cons s ss =>
      cases o with
      | none => simp only [List.map_cons, Option.map_none, Service.abandonEach, ih]
      | some f => simp only [List.map_cons, Option.map_some, Service.abandonEach, ih, h.abandon]

theorem wakeEach (h : S.Mirrors T state flight) (fs : List (Option S.Flight)) :
    T.wakeEach (fs.map (Option.map flight)) = S.wakeEach fs := by
  induction fs with
  | nil => rfl
  | cons o fs ih =>
    cases o with
    | none => exact ih
    | some f => exact congrArg₂ earlier (h.wake f) ih

theorem joined_map {φ ψ : Type} (flight : φ → ψ) (fs : List (Option φ)) :
    joined (fs.map (Option.map flight)) = (joined fs).map (List.map (Option.map flight)) id := by
  have hall : (fs.map (Option.map flight)).all Option.isNone = fs.all Option.isNone := by
    rw [List.all_map]
    exact congrArg (fs.all ·) (funext fun o => Option.isNone_map)
  unfold joined
  rw [hall]
  split <;> rfl

theorem each (h : S.Mirrors T state flight) :
    S.each.Mirrors T.each (List.map state) (List.map (Option.map flight)) := by
  have hjoined : ∀ p : List σ × List (Option S.Flight),
      ((p.1.map state, joined (p.2.map (Option.map flight))) : List τ × Turn (List (Option T.Flight)) Unit) =
        seen (List.map state) (List.map (Option.map flight)) (p.1, joined p.2) := fun p =>
    congrArg (p.1.map state, ·) (joined_map flight p.2)
  refine ⟨fun clock a ss => ?_, fun clock fs ss => ?_, h.abandonEach, h.wakeEach⟩
  · exact (congrArg (fun p => (p.1, joined p.2)) (h.startEach clock a ss)).trans (hjoined _)
  · exact (congrArg (fun p => (p.1, joined p.2)) (h.pollEach clock fs ss)).trans (hjoined _)

end Mirrors

end Service

/-! ## Backends -/

/-- What `A` does, seen through `state`, is what `B` does. -/
structure Backend.Mirrors (A B : Backend) (state : A.State → B.State) : Prop where
  operate : ∃ flight, A.operate.Mirrors B.operate state flight
  probe : ∃ flight, A.probe.Mirrors B.probe state flight

namespace Backend.Mirrors

variable {A B C D : Backend} {state : A.State → B.State}

theorem refl (A : Backend) : A.Mirrors A id := ⟨⟨_, .refl _⟩, ⟨_, .refl _⟩⟩

theorem trans {state' : B.State → C.State} (h : A.Mirrors B state) (h' : B.Mirrors C state') :
    A.Mirrors C (state' ∘ state) where
  operate :=
    let ⟨_, h⟩ := h.operate
    let ⟨_, h'⟩ := h'.operate
    ⟨_, h.trans h'⟩
  probe :=
    let ⟨_, h⟩ := h.probe
    let ⟨_, h'⟩ := h'.probe
    ⟨_, h.trans h'⟩

theorem sum {state' : C.State → D.State} (h : A.Mirrors B state) (h' : C.Mirrors D state') :
    (A.sum C).Mirrors (B.sum D) (Sum.map state state') where
  operate :=
    let ⟨_, h⟩ := h.operate
    let ⟨_, h'⟩ := h'.operate
    ⟨_, h.sum h'⟩
  probe :=
    let ⟨_, h⟩ := h.probe
    let ⟨_, h'⟩ := h'.probe
    ⟨_, h.sum h'⟩

end Backend.Mirrors

/-! ## Checks -/

namespace Monitor

open Service (seen Bounded)

variable {A B : Backend} {state : A.State → B.State} {checkFlight : A.probe.Flight → B.probe.Flight}

def Watch.map (state : A.State → B.State) (w : Watch A) : Watch B := ⟨w.monitor, w.backends.map state⟩

theorem mirrors_check (h : A.probe.Mirrors B.probe state checkFlight) (m : Monitor) :
    (check A m).Mirrors (check B m) (Prod.map id state) (Bounded.map checkFlight) := by
  have hobserve : ∀ (clock : Clock) (r : Health) (p : A.State × Turn (Bounded A.probe.Flight) (Option Bool)),
      m.observe clock r (seen state (Bounded.map checkFlight) p) =
        seen (Prod.map id state) (Bounded.map checkFlight) (m.observe clock r p) := by
    rintro clock r ⟨b, answer | f⟩ <;> rfl
  have hwithin := h.within m.timeout
  refine ⟨fun clock _ w => ?_, fun clock f w => ?_, fun f w => ?_, hwithin.wake⟩
  · unfold check
    dsimp only [Prod.map_fst, Prod.map_snd, id_eq]
    split
    · exact (congrArg (m.observe clock w.1) (hwithin.start clock () w.2)).trans (hobserve ..)
    · rfl
  · exact (congrArg (m.observe clock w.1) (hwithin.resume clock f w.2)).trans (hobserve ..)
  · exact congrArg (({ w.1 with claimed := false } : Health), ·) (hwithin.abandon f w.2)

theorem Watch.pairs_map (state : A.State → B.State) (w : Watch A) :
    (w.map state).pairs = w.pairs.map (Prod.map id state) := List.zip_map_right ..

theorem Watch.setPairs_map (state : A.State → B.State) (w : Watch A) (ps : List (Watched A)) :
    (w.map state).setPairs (ps.map (Prod.map id state)) = (w.setPairs ps).map state := by
  simp only [setPairs, map, List.map_map, List.length_map, List.map_append, List.map_drop]
  rfl

theorem mirrors_refresh (h : A.probe.Mirrors B.probe state checkFlight) :
    (refresh A).Mirrors (refresh B) (Watch.map state) (List.map (Option.map (Bounded.map checkFlight))) := by
  have hset : ∀ (w : Watch A) (p : List (Watched A) × Turn (Checks A) Unit)
      (q : List (Watched B) × Turn (Checks B) Unit), q = seen (List.map (Prod.map id state)) (List.map (Option.map (Bounded.map checkFlight))) p →
      ((w.map state).setPairs q.1, q.2) =
        seen (Watch.map state) (List.map (Option.map (Bounded.map checkFlight))) (w.setPairs p.1, p.2) := by
    rintro w p _ rfl
    exact congrArg (·, _) (w.setPairs_map state p.1)
  refine ⟨fun clock _ w => ?_, fun clock checks w => ?_, fun checks w => ?_, fun checks => ?_⟩
  · have heach := (mirrors_check h w.monitor).each.start clock () w.pairs
    rw [← w.pairs_map] at heach
    exact hset w _ _ heach
  · have heach := (mirrors_check h w.monitor).each.resume clock checks w.pairs
    rw [← w.pairs_map] at heach
    exact hset w _ _ heach
  · have heach := (mirrors_check h w.monitor).each.abandon checks w.pairs
    rw [← w.pairs_map] at heach
    exact (congrArg (w.map state).setPairs heach).trans (w.setPairs_map state _)
  · -- The wake-up times do not depend on the monitor.
    let m : Monitor := .start 0 0 0 0
    have heach := (mirrors_check h m).each.wake checks
    exact (checksWake_eq m _).trans (heach.trans (checksWake_eq m checks).symm)

end Monitor

/-! ## Groups -/

namespace Failover

open Service (seen Bounded)
open Monitor (Checks)

variable {A B : Backend} {state : A.State → B.State} {flight : A.operate.Flight → B.operate.Flight}
  {checkFlight : A.probe.Flight → B.probe.Flight}

def mapStates (state : A.State → B.State) (g : Failover A) : Failover B where
  names := g.names
  backends := g.backends.map state
  monitor := g.monitor
  rotation := g.rotation
  timeout := g.timeout

def mapChecks (checkFlight : A.probe.Flight → B.probe.Flight) (checks : Checks A) : Checks B :=
  checks.map (Option.map (Bounded.map checkFlight))

def Execution.map (flight : A.operate.Flight → B.operate.Flight) (checkFlight : A.probe.Flight → B.probe.Flight) :
    Execution A → Execution B
  | .checking op checks => .checking op (mapChecks checkFlight checks)
  | .attempting op i attempt rest fs => .attempting op i (attempt.map flight) rest fs

theorem mapStates_setBackend (state : A.State → B.State) (g : Failover A) (i : Nat) (b : A.State) :
    (g.mapStates state).setBackend i (state b) = (g.setBackend i b).mapStates state := by
  simp only [setBackend, mapStates, List.map_set]

theorem getElem?_mapStates (state : A.State → B.State) (g : Failover A) (i : Nat) :
    (g.mapStates state).backends[i]? = g.backends[i]?.map state := List.getElem?_map ..

theorem mirrors_refresh (h : A.probe.Mirrors B.probe state checkFlight) :
    (refresh A).Mirrors (refresh B) (mapStates state) (mapChecks checkFlight) := by
  have hset : ∀ (g : Failover A) (p : Monitor.Watch A × Turn (Checks A) Unit),
      ((g.mapStates state).setWatch (p.1.map state), p.2.map (mapChecks checkFlight) id) =
        seen (mapStates state) (mapChecks checkFlight) (g.setWatch p.1, p.2) := fun _ _ => rfl
  have hrefresh := Monitor.mirrors_refresh h
  refine ⟨fun clock a g => ?_, fun clock checks g => ?_, fun checks g => ?_, hrefresh.wake⟩
  · exact (congrArg (fun p => ((g.mapStates state).setWatch p.1, p.2)) (hrefresh.start clock a g.watch)).trans
      (hset g _)
  · exact (congrArg (fun p => ((g.mapStates state).setWatch p.1, p.2)) (hrefresh.resume clock checks g.watch)).trans
      (hset g _)
  · exact congrArg (g.mapStates state).setWatch (hrefresh.abandon checks g.watch)

/-- The candidates left, after attempts that look alike. -/
theorem seen_afterAttempt {clock : Clock} {op : Operation} {rest : List Nat}
    (hrest : ∀ fs (g : Failover A), tryEach clock op rest fs (g.mapStates state) =
      seen (mapStates state) (Execution.map flight checkFlight) (tryEach clock op rest fs g))
    (i : Nat) (fs : List Failure) (g : Failover A) (p : A.State × Turn (Bounded A.operate.Flight) (Option Outcome)) :
    afterAttempt clock op i rest fs (g.mapStates state) (seen state (Bounded.map flight) p) =
      seen (mapStates state) (Execution.map flight checkFlight) (afterAttempt clock op i rest fs g p) := by
  obtain ⟨b, answer | attempt⟩ := p
  · cases hout : outcomeOf op g.timeout answer with
    | ok value =>
      have hmap : outcomeOf op (g.mapStates state).timeout answer = .ok value := hout
      simp only [seen, Turn.map, id_eq, afterAttempt, hout, hmap, mapStates_setBackend]
      rfl
    | error e =>
      have hmap : outcomeOf op (g.mapStates state).timeout answer = .error e := hout
      simp only [seen, Turn.map, id_eq, afterAttempt, hout, hmap, mapStates_setBackend]
      exact hrest (fs ++ [⟨g.nameAt i, e⟩]) ((g.setBackend i b).failAt i e)
  · exact congrArg (·, _) (mapStates_setBackend state g i b)

theorem seen_tryEach (h : A.operate.Mirrors B.operate state flight) (clock : Clock) (op : Operation) (cs : List Nat)
    (fs : List Failure) (g : Failover A) : tryEach clock op cs fs (g.mapStates state) =
      seen (mapStates state) (Execution.map flight checkFlight) (tryEach clock op cs fs g) := by
  induction cs generalizing fs g with
  | nil => rfl
  | cons i cs ih =>
    have hmap := getElem?_mapStates state g i
    cases hb : g.backends[i]? with
    | none =>
      rw [hb] at hmap
      simp only [tryEach, hb, hmap, Option.map_none]
      exact ih fs g
    | some b =>
      rw [hb] at hmap
      rw [tryEach_cons clock op cs fs hb, tryEach_cons clock op cs fs hmap]
      have hstart := (h.within g.timeout).start clock op b
      exact (congrArg (afterAttempt clock op i cs fs (g.mapStates state)) hstart).trans (seen_afterAttempt ih i fs g _)

theorem seen_afterChecks (h : A.operate.Mirrors B.operate state flight) (clock : Clock) (op : Operation)
    (p : Failover A × Turn (Checks A) Unit) :
    afterChecks clock op (seen (mapStates state) (mapChecks checkFlight) p) =
      seen (mapStates state) (Execution.map flight checkFlight) (afterChecks clock op p) := by
  obtain ⟨g, u | checks⟩ := p
  · exact seen_tryEach h clock op (g.rotation.candidates g.monitor.flags).1 []
      { g with rotation := (g.rotation.candidates g.monitor.flags).2 }
  · rfl

theorem mirrors_operate (h : A.operate.Mirrors B.operate state flight)
    (hprobe : A.probe.Mirrors B.probe state checkFlight) :
    (operate A).Mirrors (operate B) (mapStates state) (Execution.map flight checkFlight) := by
  have hrefresh := mirrors_refresh hprobe
  refine ⟨fun clock op g => ?_, fun clock x g => ?_, fun x g => ?_, fun x => ?_⟩
  · cases hop : refusal? op with
    | some e =>
      rw [startOperation_refused hop, startOperation_refused hop]
      rfl
    | none =>
      rw [startOperation_accepted hop, startOperation_accepted hop, hrefresh.start]
      exact seen_afterChecks h clock op _
  · cases x with
    | checking op checks =>
      exact (congrArg (afterChecks clock op) (hrefresh.resume clock checks g)).trans (seen_afterChecks h clock op _)
    | attempting op i attempt rest fs =>
      have hmap := getElem?_mapStates state g i
      simp only [operate, resumeOperation, Execution.map]
      cases hb : g.backends[i]? with
      | none =>
        rw [hb] at hmap
        simp only [hmap, Option.map_none]
        exact seen_tryEach h clock op rest fs g
      | some b =>
        rw [hb] at hmap
        simp only [hmap, Option.map_some]
        have hresume := (h.within g.timeout).resume clock attempt b
        exact (congrArg (afterAttempt clock op i rest fs (g.mapStates state)) hresume).trans
          (seen_afterAttempt (seen_tryEach h clock op rest) i fs g _)
  · cases x with
    | checking op checks => exact hrefresh.abandon checks g
    | attempting op i attempt rest fs =>
      have hmap := getElem?_mapStates state g i
      simp only [operate, abandonOperation, Execution.map]
      cases hb : g.backends[i]? with
      | none =>
        rw [hb] at hmap
        simp only [hmap, Option.map_none]
      | some b =>
        rw [hb] at hmap
        simp only [hmap, Option.map_some, Bounded.map, h.abandon]
        exact mapStates_setBackend ..
  · cases x with
    | checking op checks => exact hrefresh.wake checks
    | attempting op i attempt rest fs => exact congrArg (earlier · (some attempt.deadline)) (h.wake attempt.flight)

theorem mirrors_probe (h : A.probe.Mirrors B.probe state checkFlight) :
    (probe A).Mirrors (probe B) (mapStates state) (mapChecks checkFlight) := by
  have hanswer : ∀ p : Failover A × Turn (Checks A) Unit,
      probe.answerHealth B (seen (mapStates state) (mapChecks checkFlight) p) =
        seen (mapStates state) (mapChecks checkFlight) (probe.answerHealth A p) := by
    rintro ⟨g, u | checks⟩ <;> rfl
  have hrefresh := mirrors_refresh h
  refine ⟨fun clock a g => ?_, fun clock checks g => ?_, hrefresh.abandon, hrefresh.wake⟩
  · exact (congrArg (probe.answerHealth B) (hrefresh.start clock a g)).trans (hanswer _)
  · exact (congrArg (probe.answerHealth B) (hrefresh.resume clock checks g)).trans (hanswer _)

/-- A group does not look at its backends but by what they do. -/
theorem mirrors_backend (h : A.Mirrors B state) : (backend A).Mirrors (backend B) (mapStates state) := by
  obtain ⟨flight, hoperate⟩ := h.operate
  obtain ⟨checkFlight, hprobe⟩ := h.probe
  exact ⟨⟨_, (mirrors_operate hoperate hprobe).mapReply _⟩, ⟨_, mirrors_probe hprobe⟩⟩

end Failover

end RateCounter
