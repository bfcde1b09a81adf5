/-
  RateCounter.Proofs.Prompt — calls that wait for nothing but timers that lie ahead.

  A prompt service does in one turn all that is due by then: a call that is left waiting has
  its timer in the future, or none. As time goes in whole nanoseconds, such a call takes
  finitely many turns in any length of time: prompt services are tame (`PromptBy.tame`).
  What becomes of prompt calls under a time limit is told in `RateCounter.Proofs.Delay`.

  A memory store, a node of the mesh, a store with faults and either of two prompt backends
  are prompt. That a group of prompt backends is prompt itself is shown in
  `RateCounter.Proofs.Failover.Prompt`.
-/

import RateCounter.Proofs.Tame

namespace RateCounter

namespace Service

variable {σ τ α ρ ρ' : Type}

/-- After a turn at `clock`: the call is over, or it is a good one whose timer lies ahead. -/
inductive Ahead (S : Service σ α ρ) (good : σ → S.Flight → Prop) (clock : Clock) : σ × Turn S.Flight ρ → Prop
  | done (s : σ) (r : ρ) : Ahead S good clock (s, .done r)
  | waiting {s : σ} {f : S.Flight} : good s f → (∀ t, S.wake f = some t → clock.mono < t) →
      Ahead S good clock (s, .waiting f)

/-- Good are the waiting calls that come about, with the states that they find. -/
structure PromptBy (S : Service σ α ρ) (good : σ → S.Flight → Prop) : Prop where
  start : ∀ clock a s, S.Ahead good clock (S.start clock a s)
  resume : ∀ clock f s, good s f → S.Ahead good clock (S.resume clock f s)

def Prompt (S : Service σ α ρ) : Prop := ∃ good, S.PromptBy good

variable {S : Service σ α ρ} {good : σ → S.Flight → Prop} {clock : Clock} {p : σ × Turn S.Flight ρ}

theorem Ahead.of_waiting {s : σ} {f : S.Flight} (h : S.Ahead good clock (s, .waiting f)) :
    good s f ∧ ∀ t, S.wake f = some t → clock.mono < t := by
  cases h with
  | waiting hgood hwake => exact ⟨hgood, hwake⟩

/-- A call that is not due has its timer ahead of it already. -/
theorem PromptBy.poll (h : S.PromptBy good) (clock : Clock) {s : σ} {f : S.Flight} (hgood : good s f) :
    S.Ahead good clock (S.poll clock f s) := by
  unfold Service.poll
  split
  · exact h.resume clock f s hgood
  · rename_i hdue
    refine .waiting hgood fun t ht => ?_
    simpa [isDue, ht] using hdue

theorem PromptBy.tame (h : S.PromptBy good) : S.Tame := by
  intro limit clock a s
  have hstart := h.start clock a s
  generalize S.start clock a s = p at hstart
  generalize clock.mono + limit = deadline
  -- On the time left: every turn is later than the one before it.
  induction hk : deadline - clock.mono using Nat.strongRecOn generalizing clock p with
  | ind k ih =>
    cases hstart with
    | done s r => exact ⟨_, _, _, .answered ..⟩
    | @waiting s f hgood hwake =>
      by_cases hlate : deadline ≤ clock.mono
      · exact ⟨_, _, _, .late hlate⟩
      by_cases hdue : ∃ t, S.wake f = some t ∧ t ≤ deadline
      · obtain ⟨t, ht, hle⟩ := hdue
        have hlt := hwake t ht
        have hmono : (clock.waitUntil t).mono = t := by rw [Clock.waitUntil_mono]; omega
        obtain ⟨c, s', answer, hends⟩ := ih (deadline - t) (by omega) (clock.waitUntil t) _
          (h.resume (clock.waitUntil t) f s hgood) (by rw [hmono])
        exact ⟨c, s', answer, .turn (by omega) ht hle hends⟩
      · exact ⟨_, _, _, .hung (by omega) fun t ht => Nat.lt_of_not_le fun hle => hdue ⟨t, ht, hle⟩⟩

theorem Prompt.tame (h : S.Prompt) : S.Tame :=
  let ⟨_, h⟩ := h
  h.tame

/-! ## Services put together from others -/

theorem prompt_instant (answer : Clock → α → σ → σ × ρ) : (instant answer).Prompt :=
  ⟨fun _ _ => True, fun _ _ _ => .done .., fun _ f => f.elim⟩

theorem Ahead.bound (h : S.Ahead good clock p) (deadline limit : Nat) :
    (S.within limit).Ahead (fun s b => good s b.flight) clock (S.bound clock deadline p) := by
  cases h with
  | done s r => exact .done ..
  | @waiting s f hgood hwake =>
    unfold Service.bound expire
    dsimp only
    split
    · exact .done ..
    · rename_i hlate
      refine .waiting hgood fun t ht => ?_
      rcases earlier_eq_some ht with ht | ht
      · exact hwake t ht
      · exact Option.some.inj ht ▸ Nat.lt_of_not_le hlate

theorem PromptBy.within (h : S.PromptBy good) (limit : Nat) :
    (S.within limit).PromptBy fun s b => good s b.flight where
  start clock a s := (h.start clock a s).bound _ limit
  resume clock _ _ hgood := (h.poll clock hgood).bound _ limit

theorem Ahead.mapReply (h : S.Ahead good clock p) (r : ρ → ρ') :
    (S.mapReply r).Ahead good clock (p.1, p.2.map id r) := by
  cases h with
  | done => exact .done ..
  | waiting hgood hwake => exact .waiting hgood hwake

theorem PromptBy.mapReply (h : S.PromptBy good) (r : ρ → ρ') : (S.mapReply r).PromptBy good where
  start clock a s := (h.start clock a s).mapReply r
  resume clock f s hgood := (h.resume clock f s hgood).mapReply r

theorem Ahead.focus (h : S.Ahead good clock p) {get : τ → σ} {set : σ → τ → τ} (hget : ∀ s t, get (set s t) = s)
    (t : τ) : (S.focus get set).Ahead (fun t f => good (get t) f) clock (set p.1 t, p.2) := by
  cases h with
  | done => exact .done ..
  | @waiting s f hgood hwake =>
    have hgood : good (get (set s t)) f := (hget s t).symm ▸ hgood
    exact .waiting hgood hwake

theorem PromptBy.focus (h : S.PromptBy good) {get : τ → σ} {set : σ → τ → τ} (hget : ∀ s t, get (set s t) = s) :
    (S.focus get set).PromptBy fun t f => good (get t) f where
  start clock a t := (h.start clock a (get t)).focus hget t
  resume clock f t hgood := (h.resume clock f (get t) hgood).focus hget t

/-- Calls find the kind of state that they were started on. -/
def goodSum {T : Service τ α ρ} (good : σ → S.Flight → Prop) (good' : τ → T.Flight → Prop) :
    σ ⊕ τ → (S.sum T).Flight → Prop
  | .inl s, .inl f => good s f
  | .inr t, .inr f => good' t f
  | _, _ => False

theorem PromptBy.sum {T : Service τ α ρ} {good' : τ → T.Flight → Prop} (hS : S.PromptBy good)
    (hT : T.PromptBy good') : (S.sum T).PromptBy (goodSum good good') := by
  have hinl : ∀ {clock} {p : σ × Turn S.Flight ρ}, S.Ahead good clock p →
      (S.sum T).Ahead (goodSum good good') clock (.inl p.1, p.2.map .inl id) := fun h => by
    cases h with
    | done => exact .done ..
    | @waiting s f hgood hwake =>
      have hsum : goodSum (T := T) good good' (.inl s) (.inl f) := hgood
      exact .waiting hsum hwake
  have hinr : ∀ {clock} {p : τ × Turn T.Flight ρ}, T.Ahead good' clock p →
      (S.sum T).Ahead (goodSum good good') clock (.inr p.1, p.2.map .inr id) := fun h => by
    cases h with
    | done => exact .done ..
    | @waiting t f hgood hwake =>
      have hsum : goodSum (S := S) good good' (.inr t) (.inr f) := hgood
      exact .waiting hsum hwake
  refine ⟨fun clock a s => ?_, fun clock f s hgood => ?_⟩
  · cases s with
    | inl s => exact hinl (hS.start clock a s)
    | inr t => exact hinr (hT.start clock a t)
  · match s, f, hgood with
    | .inl s, .inl f, hgood => exact hinl (hS.resume clock f s hgood)
    | .inr t, .inr f, hgood => exact hinr (hT.resume clock f t hgood)

/-- Calls that wait at most once are prompt if they do not wait for what is due. -/
theorem prompt_of_one_wait (hstart : ∀ clock a s, S.Ahead (fun _ _ => True) clock (S.start clock a s))
    (hresume : ∀ clock f s, ∃ s' r, S.resume clock f s = (s', .done r)) : S.Prompt := by
  refine ⟨fun _ _ => True, hstart, fun clock f s _ => ?_⟩
  obtain ⟨s', r, hr⟩ := hresume clock f s
  rw [hr]
  exact .done ..

end Service

/-! ## Backends -/

/-- Operations and health checks do not wait for what is due. -/
structure Backend.Prompt (B : Backend) : Prop where
  operate : B.operate.Prompt
  probe : B.probe.Prompt

theorem Backend.Prompt.tame {B : Backend} (hB : B.Prompt) : B.Tame := ⟨hB.operate.tame, hB.probe.tame⟩

theorem Backend.Prompt.sum {A B : Backend} (hA : A.Prompt) (hB : B.Prompt) : (A.sum B).Prompt where
  operate :=
    let ⟨_, hA⟩ := hA.operate
    let ⟨_, hB⟩ := hB.operate
    ⟨_, hA.sum hB⟩
  probe :=
    let ⟨_, hA⟩ := hA.probe
    let ⟨_, hB⟩ := hB.probe
    ⟨_, hA.sum hB⟩

theorem Store.prompt : Store.backend.Prompt := ⟨Service.prompt_instant _, Service.prompt_instant _⟩

theorem Mesh.Node.prompt : Mesh.Node.backend.Prompt := ⟨Service.prompt_instant _, Service.prompt_instant _⟩

namespace Simulation.FaultyStore

theorem goesOn_ahead {hanging : Bool} {delay now t : Nat} (h : goesOn hanging delay now = some (some t)) : now < t := by
  unfold goesOn at h
  split at h
  · cases h
  · split at h
    · cases h
    · cases h
      omega

theorem prompt : backend.Prompt where
  operate := Service.prompt_of_one_wait (fun clock op s => by
    simp only [backend, operate]
    split
    · rename_i wake hwake
      refine .waiting trivial fun t ht => goesOn_ahead (hwake.trans (congrArg some ht))
    · exact .done ..) fun _ _ _ => ⟨_, _, rfl⟩
  probe := Service.prompt_of_one_wait (fun clock _ s => by
    simp only [backend, probe]
    split
    · rename_i wake hwake
      refine .waiting trivial fun t ht => goesOn_ahead (hwake.trans (congrArg some ht))
    · exact .done ..) fun _ _ _ => ⟨_, _, rfl⟩

end Simulation.FaultyStore

end RateCounter
