/-
  RateCounter.Proofs.Failover.Prompt — groups of prompt backends are prompt.

  A turn of the checks gives one to every check that is due, and a turn of an operation goes
  on from one candidate to the next until an attempt has to wait. So what is left waiting
  waits for timers ahead: those of the backends, and the deadlines of checks and attempts
  (`prompt_backend`). The same is true of groups nested to any depth (`prompt_tree`).
-/

import RateCounter.Proofs.Failover.Reference
import RateCounter.Proofs.Health.CheckTurns
import RateCounter.Proofs.Prompt

namespace RateCounter

/-! ## One call per state -/

namespace Service

variable {σ α ρ : Type} {S : Service σ α ρ} {good : σ → S.Flight → Prop} {clock : Clock}

/-- Every call that is in flight at a position is a good one for the state there. -/
def goodEach (good : σ → S.Flight → Prop) (ss : List σ) (fs : List (Option S.Flight)) : Prop :=
  ∀ (i : Nat) s f, ss[i]? = some s → fs[i]?.join = some f → good s f

theorem wakeEach_eq_some {fs : List (Option S.Flight)} {t : Nat} (h : S.wakeEach fs = some t) :
    ∃ (i : Nat) (f : S.Flight), fs[i]?.join = some f ∧ S.wake f = some t := by
  induction fs with
  | nil => cases h
  | cons o fs ih =>
    have hlater : S.wakeEach fs = some t → ∃ i f, (o :: fs)[i]?.join = some f ∧ S.wake f = some t := fun h => by
      obtain ⟨i, f, hf, ht⟩ := ih h
      exact ⟨i + 1, f, hf, ht⟩
    cases o with
    | none => exact hlater h
    | some f =>
      rcases earlier_eq_some h with h | h
      · exact ⟨0, f, rfl, h⟩
      · exact hlater h

/-- Calls on all states are ahead if each of them is. -/
theorem ahead_joined {ss : List σ} {fs : List (Option S.Flight)}
    (h : ∀ (i : Nat) f, fs[i]?.join = some f → ∃ s, ss[i]? = some s ∧ S.Ahead good clock (s, .waiting f)) :
    S.each.Ahead (goodEach good) clock (ss, joined fs) := by
  unfold joined
  split
  · exact .done ..
  · refine .waiting (S := S.each) (fun i s f hs hf => ?_) fun t ht => ?_
    · obtain ⟨s', hs', hahead⟩ := h i f hf
      obtain rfl := Option.some.inj (hs.symm.trans hs')
      exact hahead.of_waiting.1
    · obtain ⟨i, f, hf, hw⟩ := wakeEach_eq_some ht
      obtain ⟨s, -, hahead⟩ := h i f hf
      exact hahead.of_waiting.2 t hw

theorem ahead_flight {p : σ × Turn S.Flight ρ} (h : S.Ahead good clock p) {f : S.Flight}
    (hf : p.2.flight? = some f) : S.Ahead good clock (p.1, .waiting f) := by
  cases h with
  | done => cases hf
  | waiting hgood hwake =>
    cases hf
    exact .waiting hgood hwake

theorem PromptBy.each (h : S.PromptBy good) : S.each.PromptBy (goodEach good) where
  start clock a ss := ahead_joined fun i f hf => by
    rw [flight_startEach] at hf
    obtain ⟨s, hs, hf⟩ := Option.bind_eq_some_iff.mp hf
    refine ⟨(S.start clock a s).1, by rw [getElem?_startEach, hs]; rfl, ahead_flight (h.start clock a s) hf⟩
  resume clock (fs : List (Option S.Flight)) ss hgood := ahead_joined fun i f hf => by
    rw [flight_pollEach] at hf
    obtain ⟨s, hs, hf⟩ := Option.bind_eq_some_iff.mp hf
    obtain ⟨g, hg, hf⟩ := Option.bind_eq_some_iff.mp hf
    refine ⟨(S.poll clock g s).1, by rw [S.getElem?_pollEach clock ss hg, hs]; rfl,
      ahead_flight (h.poll clock (hgood i s g hs hg)) hf⟩

end Service

/-! ## Checks -/

namespace Monitor

open Service (PromptBy goodEach)

variable {B : Backend} {good : B.State → B.probe.Flight → Prop}

/-- Of a record and its backend only the backend matters. -/
def goodCheck (good : B.State → B.probe.Flight → Prop) (p : Watched B) (b : Service.Bounded B.probe.Flight) : Prop :=
  good p.2 b.flight

theorem ahead_observe {clock : Clock} (m : Monitor) (h : Health)
    {p : B.State × Turn (Service.Bounded B.probe.Flight) (Option Bool)}
    (hp : (B.probe.within m.timeout).Ahead (fun s b => good s b.flight) clock p) :
    (check B m).Ahead (goodCheck good) clock (m.observe clock h p) := by
  obtain ⟨b, answer | f⟩ := p
  · exact .done ..
  · obtain ⟨hgood, hwake⟩ := hp.of_waiting
    exact .waiting (S := check B m) hgood hwake

theorem prompt_check (h : B.probe.PromptBy good) (m : Monitor) : (check B m).PromptBy (goodCheck good) where
  start clock _ p := by
    unfold check
    dsimp only
    split
    · exact ahead_observe m p.1 ((h.within m.timeout).start clock () p.2)
    · exact .done ..
  resume clock b p hgood := ahead_observe m p.1 ((h.within m.timeout).resume clock b p.2 hgood)

theorem ahead_setPairs {clock : Clock} {w : Watch B} {p : List (Watched B) × Turn (Checks B) Unit}
    (hlen : p.1.length = w.pairs.length) (hp : (check B w.monitor).each.Ahead (goodEach (goodCheck good)) clock p) :
    (refresh B).Ahead (fun w checks => goodEach (S := check B w.monitor) (goodCheck good) w.pairs checks) clock
      (w.setPairs p.1, p.2) := by
  obtain ⟨ps, u | checks⟩ := p
  · exact .done ..
  · obtain ⟨hgood, hwake⟩ := hp.of_waiting
    refine .waiting (S := refresh B) ?_ fun t ht => hwake t ((checksWake_eq w.monitor checks).symm.trans ht)
    rw [w.pairs_setPairs hlen]
    exact hgood

theorem prompt_refresh (h : B.probe.PromptBy good) : (refresh B).PromptBy fun w checks =>
    goodEach (S := check B w.monitor) (goodCheck good) w.pairs checks where
  start clock _ w :=
    ahead_setPairs (Service.length_startEach ..) ((prompt_check h w.monitor).each.start clock () w.pairs)
  resume clock checks w hgood :=
    ahead_setPairs (Service.length_pollEach ..) ((prompt_check h w.monitor).each.resume clock checks w.pairs hgood)

end Monitor

/-! ## Groups -/

namespace Failover

open Service (Ahead PromptBy)

variable {B : Backend} {goodCheck : Failover B → (refresh B).Flight → Prop} {good : B.State → B.operate.Flight → Prop}
  {clock : Clock}

/-- An operation waits for its checks, or for the attempt at the backend at a position. -/
def goodExecution (goodCheck : Failover B → (refresh B).Flight → Prop) (good : B.State → B.operate.Flight → Prop)
    (g : Failover B) : Execution B → Prop
  | .checking _ checks => goodCheck g checks
  | .attempting _ i attempt _ _ => ∀ b, g.backends[i]? = some b → good b attempt.flight

/-- The candidates left, after an attempt that was ahead. -/
theorem ahead_afterAttempt {op : Operation} {rest : List Nat}
    (hrest : ∀ fs g, (operate B).Ahead (goodExecution goodCheck good) clock (tryEach clock op rest fs g)) {i : Nat}
    (fs : List Failure) (g : Failover B) {p : B.State × Turn (Service.Bounded B.operate.Flight) (Option Outcome)}
    (hp : (B.operate.within g.timeout).Ahead (fun s b => good s b.flight) clock p) :
    (operate B).Ahead (goodExecution goodCheck good) clock (afterAttempt clock op i rest fs g p) := by
  obtain ⟨b, answer | attempt⟩ := p
  · simp only [afterAttempt]
    split
    · exact .done ..
    · exact hrest ..
  · obtain ⟨hgood, hwake⟩ := hp.of_waiting
    refine .waiting (S := operate B) (fun b' hb' => ?_) hwake
    obtain ⟨hi, rfl⟩ := List.getElem?_eq_some_iff.mp hb'
    have hself : ((g.setBackend i b).backends)[i] = b := List.getElem_set_self ..
    rw [hself]
    exact hgood

theorem ahead_tryEach (h : B.operate.PromptBy good) (op : Operation) (cs : List Nat) (fs : List Failure)
    (g : Failover B) : (operate B).Ahead (goodExecution goodCheck good) clock (tryEach clock op cs fs g) := by
  induction cs generalizing fs g with
  | nil => exact .done ..
  | cons i cs ih =>
    cases hb : g.backends[i]? with
    | none =>
      simp only [tryEach, hb]
      exact ih fs g
    | some b =>
      rw [tryEach_cons clock op cs fs hb]
      exact ahead_afterAttempt ih fs g ((h.within g.timeout).start clock op b)

theorem ahead_afterChecks (h : B.operate.PromptBy good) (op : Operation)
    {p : Failover B × Turn (refresh B).Flight Unit} (hp : (refresh B).Ahead goodCheck clock p) :
    (operate B).Ahead (goodExecution goodCheck good) clock (afterChecks clock op p) := by
  cases hp with
  | done g u => exact ahead_tryEach h op ..
  | waiting hgood hwake => exact .waiting (S := operate B) hgood hwake

theorem prompt_operate (hchecks : (refresh B).PromptBy goodCheck) (h : B.operate.PromptBy good) :
    (operate B).PromptBy (goodExecution goodCheck good) where
  start clock op g := by
    cases hop : refusal? op with
    | some e =>
      simp only [operate, startOperation, hop]
      exact .done ..
    | none =>
      rw [startOperation_accepted hop]
      exact ahead_afterChecks h op (hchecks.start clock () g)
  resume clock x g hgood := by
    cases x with
    | checking op checks => exact ahead_afterChecks h op (hchecks.resume clock checks g hgood)
    | attempting op i attempt rest fs =>
      simp only [operate, resumeOperation]
      cases hb : g.backends[i]? with
      | none => exact ahead_tryEach h op ..
      | some b =>
        exact ahead_afterAttempt (ahead_tryEach h op rest) fs g
          ((h.within g.timeout).resume clock attempt b (hgood b hb))

theorem ahead_answerHealth {p : Failover B × Turn (refresh B).Flight Unit} (hp : (refresh B).Ahead goodCheck clock p) :
    (probe B).Ahead goodCheck clock (probe.answerHealth B p) := by
  cases hp with
  | done => exact .done ..
  | waiting hgood hwake => exact .waiting (S := probe B) hgood hwake

theorem prompt_backend (hB : B.Prompt) : (backend B).Prompt := by
  obtain ⟨good, hoperate⟩ := hB.operate
  obtain ⟨goodProbe, hprobe⟩ := hB.probe
  have hchecks := (Monitor.prompt_refresh hprobe).focus watch_setWatch
  exact ⟨⟨_, (prompt_operate hchecks hoperate).mapReply _⟩,
    ⟨_, fun clock a g => ahead_answerHealth (hchecks.start clock a g),
      fun clock f g hgood => ahead_answerHealth (hchecks.resume clock f g hgood)⟩⟩

end Failover

theorem Simulation.prompt_tree (n : Nat) : (tree n).Prompt := by
  have hleaf : leaf.Prompt := (Store.prompt.sum Mesh.Node.prompt).sum FaultyStore.prompt
  induction n with
  | zero => exact hleaf
  | succ n ih => exact hleaf.sum (Failover.prompt_backend ih)

end RateCounter
