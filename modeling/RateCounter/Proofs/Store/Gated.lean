/-
  RateCounter.Proofs.Store.Gated — memory stores that an operation may fail to get to.

  An operation on such a backend may hang, wait or fail before it gets to the store. If it
  gets there it is carried out and answered in one turn, so that it has changed the store
  exactly if it returns a value (`Passed`). Health checks, and operations that are given up,
  leave the store alone. A store with faults is such a backend (`FaultyStore.gated`). Where
  only some backends of a group are such stores, turns lead from one store to another in the
  same way (`PartlyGated`).
-/

import RateCounter.Proofs.Alone
import RateCounter.Proofs.Store.Open
import RateCounter.Simulation.Faulty

namespace RateCounter

/-! ## Calls that leave a part of the state alone -/

/-- Calls that change nothing of the state that can be seen by `view`. -/
structure Service.Leaves {σ α ρ τ : Type} (S : Service σ α ρ) (view : σ → τ) : Prop where
  start : ∀ clock a s, view (S.start clock a s).1 = view s
  resume : ∀ clock f s, view (S.resume clock f s).1 = view s
  abandon : ∀ f s, view (S.abandon f s) = view s

namespace Service.Leaves

variable {σ α ρ τ : Type} {S : Service σ α ρ} {view : σ → τ}

theorem poll (h : S.Leaves view) (clock : Clock) (f : S.Flight) (s : σ) : view (S.poll clock f s).1 = view s := by
  unfold Service.poll
  split
  · exact h.resume clock f s
  · rfl

theorem bound (h : S.Leaves view) (clock : Clock) (deadline : Nat) (p : σ × Turn S.Flight ρ) :
    view (S.bound clock deadline p).1 = view p.1 := by
  obtain ⟨s, reply | f⟩ := p
  · rfl
  · rcases Nat.lt_or_ge clock.mono deadline with hearly | hlate
    · rw [Service.bound_waiting s f hearly]
    · rw [Service.bound_late s f hlate]
      exact h.abandon f s

theorem within (h : S.Leaves view) (limit : Nat) : (S.within limit).Leaves view where
  start clock a s := (h.bound ..).trans (h.start clock a s)
  resume clock b s := (h.bound ..).trans (h.poll clock b.flight s)
  abandon b s := h.abandon b.flight s

theorem startEach (h : S.Leaves view) (clock : Clock) (a : α) (ss : List σ) :
    (S.startEach clock a ss).1.map view = ss.map view := by
  induction ss with
  | nil => rfl
  | cons s ss ih => exact congrArg₂ List.cons (h.start clock a s) ih

theorem pollEach (h : S.Leaves view) (clock : Clock) (fs : List (Option S.Flight)) (ss : List σ) :
    (S.pollEach clock fs ss).1.map view = ss.map view := by
  induction fs generalizing ss with
  | nil => rfl
  | cons o fs ih =>
    cases ss with
    | nil => cases o <;> rfl
    | cons s ss =>
      cases o with
      | none => exact congrArg (List.cons (view s)) (ih ss)
      | some f => exact congrArg₂ List.cons (h.poll clock f s) (ih ss)

theorem abandonEach (h : S.Leaves view) (fs : List (Option S.Flight)) (ss : List σ) :
    (S.abandonEach fs ss).map view = ss.map view := by
  induction fs generalizing ss with
  | nil => rfl
  | cons o fs ih =>
    cases ss with
    | nil => cases o <;> rfl
    | cons s ss =>
      cases o with
      | none => exact congrArg (List.cons (view s)) (ih ss)
      | some f => exact congrArg₂ List.cons (h.abandon f s) (ih ss)

end Service.Leaves

/-! ## Stores behind gates -/

/-- What a turn of an operation does to the store: nothing while it waits or when it fails,
    and otherwise exactly the operation. -/
def Passed {σ φ ρ : Type} (store : σ → Store) (operation : φ → Operation) (value? : ρ → Option Value) (clock : Clock)
    (op : Operation) (s : σ) : σ × Turn φ ρ → Prop
  | (s', .waiting f) => operation f = op ∧ store s' = store s
  | (s', .done reply) =>
    match value? reply with
    | some v => (store s).perform op clock.wall = (store s', .ok v)
    | none => store s' = store s

/-- Backends that are memory stores which an operation may fail to get to. -/
structure Gated (B : Backend) (store : B.State → Store) (operation : B.operate.Flight → Operation) : Prop where
  start : ∀ clock op b, Passed store operation Except.toOption clock op b (B.operate.start clock op b)
  resume : ∀ clock f b, Passed store operation Except.toOption clock (operation f) b (B.operate.resume clock f b)
  abandon : ∀ f b, store (B.operate.abandon f b) = store b
  probe : B.probe.Leaves store

namespace Gated

variable {B : Backend} {store : B.State → Store} {operation : B.operate.Flight → Operation}

/-- The operation of an attempt. -/
def attempted (operation : B.operate.Flight → Operation) (attempt : Service.Bounded B.operate.Flight) : Operation :=
  operation attempt.flight

def inTime? (answer : Option Outcome) : Option Value := answer.bind Except.toOption

theorem bound (hB : Gated B store operation) {clock : Clock} {op : Operation} {b : B.State} (deadline : Nat)
    {p : B.State × Turn B.operate.Flight Outcome} (hp : Passed store operation Except.toOption clock op b p) :
    Passed store (attempted operation) inTime? clock op b (B.operate.bound clock deadline p) := by
  obtain ⟨b', reply | f⟩ := p
  · exact hp
  · rcases Nat.lt_or_ge clock.mono deadline with hearly | hlate
    · rw [Service.bound_waiting b' f hearly]
      exact hp
    · rw [Service.bound_late b' f hlate]
      exact (hB.abandon f b').trans hp.2

theorem within_start (hB : Gated B store operation) (limit : Nat) (clock : Clock) (op : Operation) (b : B.State) :
    Passed store (attempted operation) inTime? clock op b ((B.operate.within limit).start clock op b) :=
  hB.bound _ (hB.start clock op b)

theorem within_resume (hB : Gated B store operation) (limit : Nat) (clock : Clock)
    (attempt : Service.Bounded B.operate.Flight) (b : B.State) :
    Passed store (attempted operation) inTime? clock (attempted operation attempt) b
      ((B.operate.within limit).resume clock attempt b) := by
  refine hB.bound _ ?_
  unfold Service.poll
  split
  · exact hB.resume clock attempt.flight b
  · exact ⟨rfl, rfl⟩

end Gated

/-! ## Stores among other backends -/

/-- How a turn of an operation leads from one store to another. -/
def Carries {φ ρ : Type} (operation : φ → Operation) (value? : ρ → Option Value) (clock : Clock) (op : Operation)
    (s s' : Store) : Turn φ ρ → Prop
  | .waiting f => operation f = op ∧ s' = s
  | .done reply =>
    match value? reply with
    | some v => s.perform op clock.wall = (s', .ok v)
    | none => s' = s

/-- Backends some of which are such stores. -/
structure PartlyGated (B : Backend) (store? : B.State → Option Store) (operation : B.operate.Flight → Operation) :
    Prop where
  start : ∀ clock op b s, store? b = some s → ∃ s', store? (B.operate.start clock op b).1 = some s' ∧
    Carries operation Except.toOption clock op s s' (B.operate.start clock op b).2
  resume : ∀ clock f b s, store? b = some s → ∃ s', store? (B.operate.resume clock f b).1 = some s' ∧
    Carries operation Except.toOption clock (operation f) s s' (B.operate.resume clock f b).2
  abandon : ∀ f b, store? (B.operate.abandon f b) = store? b
  probe : B.probe.Leaves store?

theorem Passed.carries {σ φ ρ : Type} {store : σ → Store} {operation : φ → Operation} {value? : ρ → Option Value}
    {clock : Clock} {op : Operation} {s : σ} {p : σ × Turn φ ρ} (h : Passed store operation value? clock op s p) :
    Carries operation value? clock op (store s) (store p.1) p.2 := by
  obtain ⟨s', reply | f⟩ := p <;> exact h

theorem Gated.partly {B : Backend} {store : B.State → Store} {operation : B.operate.Flight → Operation}
    (hB : Gated B store operation) : PartlyGated B (fun b => some (store b)) operation where
  start clock op b _ hs := ⟨_, rfl, Option.some.inj hs ▸ (hB.start clock op b).carries⟩
  resume clock f b _ hs := ⟨_, rfl, Option.some.inj hs ▸ (hB.resume clock f b).carries⟩
  abandon f b := congrArg some (hB.abandon f b)
  probe := ⟨fun clock a b => congrArg some (hB.probe.start clock a b),
    fun clock f b => congrArg some (hB.probe.resume clock f b), fun f b => congrArg some (hB.probe.abandon f b)⟩

namespace PartlyGated

variable {B : Backend} {store? : B.State → Option Store} {operation : B.operate.Flight → Operation}

theorem bound (hB : PartlyGated B store? operation) {clock : Clock} {op : Operation} {s : Store} (deadline : Nat)
    {p : B.State × Turn B.operate.Flight Outcome}
    (hp : ∃ s', store? p.1 = some s' ∧ Carries operation Except.toOption clock op s s' p.2) :
    ∃ s', store? (B.operate.bound clock deadline p).1 = some s' ∧
      Carries (Gated.attempted operation) Gated.inTime? clock op s s' (B.operate.bound clock deadline p).2 := by
  obtain ⟨b', reply | f⟩ := p
  · exact hp
  · obtain ⟨s', hs', hcarries⟩ := hp
    rcases Nat.lt_or_ge clock.mono deadline with hearly | hlate
    · rw [Service.bound_waiting b' f hearly]
      exact ⟨s', hs', hcarries⟩
    · rw [Service.bound_late b' f hlate]
      exact ⟨s', (hB.abandon f b').trans hs', hcarries.2⟩

theorem within_start (hB : PartlyGated B store? operation) (limit : Nat) (clock : Clock) (op : Operation) {b : B.State}
    {s : Store} (hs : store? b = some s) : ∃ s', store? ((B.operate.within limit).start clock op b).1 = some s' ∧
      Carries (Gated.attempted operation) Gated.inTime? clock op s s' ((B.operate.within limit).start clock op b).2 :=
  hB.bound _ (hB.start clock op b s hs)

theorem within_resume (hB : PartlyGated B store? operation) (limit : Nat) (clock : Clock)
    (attempt : Service.Bounded B.operate.Flight) {b : B.State} {s : Store} (hs : store? b = some s) :
    ∃ s', store? ((B.operate.within limit).resume clock attempt b).1 = some s' ∧
      Carries (Gated.attempted operation) Gated.inTime? clock (Gated.attempted operation attempt) s s'
        ((B.operate.within limit).resume clock attempt b).2 := by
  refine hB.bound _ ?_
  unfold Service.poll
  split
  · exact hB.resume clock attempt.flight b s hs
  · exact ⟨s, hs, rfl, rfl⟩

/-- Beside backends of another kind. -/
theorem inl (hB : PartlyGated B store? operation) {C : Backend} (other : C.operate.Flight → Operation) :
    PartlyGated (B.sum C) (Sum.elim store? fun _ => none) (Sum.elim operation other) := by
  have hcarries : ∀ {clock op s s'} {turn : Turn B.operate.Flight Outcome},
      Carries operation Except.toOption clock op s s' turn →
      Carries (Sum.elim operation other) Except.toOption clock op s s' (turn.map Sum.inl id) := by
    intro clock op s s' turn h
    cases turn <;> exact h
  refine ⟨fun clock op b s hs => ?_, fun clock f b s hs => ?_, fun f b => ?_, fun clock a b => ?_,
    fun clock f b => ?_, fun f b => ?_⟩
  · cases b with
    | inl b =>
      obtain ⟨s', hs', h⟩ := hB.start clock op b s hs
      exact ⟨s', hs', hcarries h⟩
    | inr c => cases hs
  · cases b with
    | inl b =>
      cases f with
      | inl f =>
        obtain ⟨s', hs', h⟩ := hB.resume clock f b s hs
        exact ⟨s', hs', hcarries h⟩
      | inr f => exact ⟨s, hs, rfl, rfl⟩
    | inr c => cases hs
  · cases f <;> cases b <;> first | rfl | exact hB.abandon ..
  · cases b with
    | inl b => exact hB.probe.start clock a b
    | inr c => rfl
  · cases f <;> cases b <;> first | rfl | exact hB.probe.resume ..
  · cases f <;> cases b <;> first | rfl | exact hB.probe.abandon ..

end PartlyGated

/-- An operation that the store refuses leaves it as it was. -/
theorem Store.perform_refused {s : Store} {op : Operation} {now : Instant} {e : BackendError}
    (h : (s.perform op now).2 = .error e) : (s.perform op now).1 = s := by
  cases op with
  | increment key length =>
    by_cases haccepts : s.Accepts key length now
    · simp only [Store.perform, s.increment_accepted haccepts] at h
      cases h
    · obtain ⟨e', hrefused⟩ := s.increment_refused haccepts
      simp only [Store.perform, hrefused]
  | count key => cases h
  | resetTime key => cases h
  | reset key => cases h

namespace Simulation.FaultyStore

theorem finish_passed (clock : Clock) (op : Operation) (fail : Option BackendError) {s s₀ : FaultyStore}
    (hs : s.store = s₀.store) : Passed FaultyStore.store Held.op Except.toOption clock op s₀
      ((finish clock op fail s).1, .done (finish clock op fail s).2) := by
  cases fail with
  | some e => exact hs
  | none =>
    have hfinish : finish clock op none s =
        ({ s with store := (s.store.perform op clock.wall).1 }, (s.store.perform op clock.wall).2) := rfl
    rw [hfinish]
    cases hout : (s.store.perform op clock.wall).2 with
    | ok v =>
      show s₀.store.perform op clock.wall = ((s.store.perform op clock.wall).1, .ok v)
      rw [← hs]
      exact Prod.ext rfl hout
    | error e => exact (Store.perform_refused hout).trans hs

/-- Failing, hanging and delayed operations do not get to the store. -/
theorem gated : Gated backend FaultyStore.store Held.op where
  start clock op s := by
    show Passed FaultyStore.store Held.op Except.toOption clock op s (operate.start clock op s)
    unfold operate
    dsimp only
    split
    · exact ⟨rfl, rfl⟩
    · exact finish_passed clock op s.faults.fail rfl
  resume clock f s := finish_passed clock f.op f.fail rfl
  abandon _ _ := rfl
  probe := by
    refine ⟨fun clock _ s => ?_, fun _ _ _ => rfl, fun _ _ => rfl⟩
    show (probe.start clock () s).1.store = s.store
    unfold probe
    dsimp only
    split <;> rfl

end Simulation.FaultyStore

end RateCounter
