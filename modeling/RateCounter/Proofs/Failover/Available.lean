/-
  RateCounter.Proofs.Failover.Available — when an operation of a group succeeds.

  A group tries its candidates only: the backends whose records are healthy once the due
  checks are over, or all of them if no record is. A candidate gets its turn when those
  before it have failed (`TurnOf`), and time may have passed by then.

  - `operate_available`: on every group that comes from a configuration, every operation
    that is not refused ends; with a value exactly if one of the candidates would complete
    it in time when its turn comes, and with all failures otherwise.
  - `a_mended_backend_is_skipped`: a backend that is no candidate does not help, though it
    would complete the operation.
-/

import RateCounter.Proofs.Failover.Reference

namespace RateCounter.Failover

variable {B : Backend}

/-- The operation, begun now, is answered with a value in time. -/
def Completes (B : Backend) (op : Operation) (limit : Nat) (clock : Clock) (b : B.State) : Prop :=
  ∃ clock' b' v, B.operate.Ends (clock.mono + limit) clock (B.operate.start clock op b) clock' b' (some (.ok v))

/-- The record at the position is healthy, or no record is. -/
def IsCandidate (g : Failover B) (i : Nat) : Prop :=
  ∃ h, g.monitor.records[i]? = some h ∧ (h.healthy = true ∨ ∀ h' ∈ g.monitor.records, h'.healthy = false)

/-- The turn of the candidate at `i` comes at `clock'`: those before it have been attempted and have failed. -/
def TurnOf (c : Config) (op : Operation) (clock : Clock) (g : Failover B) (i : Nat) (clock' : Clock) : Prop :=
  ∃ failed : List (Attempt B), Attempts op c.operationTimeoutMs.toNat g.backends clock failed clock' ∧
    (∀ a ∈ failed, ∃ e, a.outcome op c.operationTimeoutMs.toNat = .error e) ∧
    failed.map Attempt.position ++ [i] <+: (g.rotation.candidates g.monitor.flags).1

/-- What the candidates have to do with the result of an operation, from the end of the checks on. -/
structure Availability (c : Config) (op : Operation) (clock : Clock) (g : Failover B) (r : Result) : Prop where
  /-- It is enough that one of them would complete the operation, whenever its turn comes. -/
  enough : ∀ i b, g.IsCandidate i → g.backends[i]? = some b →
    (∀ clock', TurnOf c op clock g i clock' → Completes B op c.operationTimeout clock' b) → ∃ v, r = .ok v
  /-- A value comes from one that does so, and whose turn has come. -/
  needed : ∀ v, r = .ok v → ∃ i b, g.IsCandidate i ∧ g.backends[i]? = some b ∧
    (∃ clock', TurnOf c op clock g i clock') ∧
    ∀ clock', TurnOf c op clock g i clock' → Completes B op c.operationTimeout clock' b
  otherwise : (∃ v, r = .ok v) ∨ ∃ failures, r = .error (.allBackendsFailed op.name failures)

/-! ## Candidates -/

theorem mem_candidates_iff (g : Failover B) (i : Nat) :
    i ∈ (g.rotation.candidates g.monitor.flags).1 ↔ g.IsCandidate i := by
  have hflag : ∀ {flag : Bool}, g.monitor.flags[i]? = some flag ↔
      ∃ h, g.monitor.records[i]? = some h ∧ h.healthy = flag := by
    simp [Monitor.flags]
  have hnone : true ∉ g.monitor.flags ↔ ∀ h ∈ g.monitor.records, h.healthy = false := by
    simp [Monitor.flags]
  have hlt : i < g.monitor.flags.length ↔ ∃ h, g.monitor.records[i]? = some h := by
    simp [Monitor.flags, List.getElem?_eq_some_iff]
  rw [Rotation.mem_candidates_iff, hflag, hnone, hlt]
  constructor
  · rintro (⟨h, hr, hhealthy⟩ | ⟨⟨h, hr⟩, hall⟩)
    · exact ⟨h, hr, .inl hhealthy⟩
    · exact ⟨h, hr, .inr hall⟩
  · rintro ⟨h, hr, hhealthy | hall⟩
    · exact .inl ⟨h, hr, hhealthy⟩
    · exact .inr ⟨⟨h, hr⟩, hall⟩

/-- In a list without repetitions a place is known by what stands there. -/
theorem prefix_unique {xs ys cs : List Nat} {i : Nat} (hcs : cs.Nodup) (hx : xs ++ [i] <+: cs)
    (hy : ys ++ [i] <+: cs) : xs = ys := by
  have hplace : ∀ {zs : List Nat}, zs ++ [i] <+: cs → cs.idxOf i = zs.length := by
    rintro zs ⟨rest, rfl⟩
    have hnew : i ∉ zs := fun hi => by
      rw [List.append_assoc, List.nodup_append] at hcs
      exact hcs.2.2 i hi i (by simp) rfl
    simp [List.idxOf_append, hnew]
  have hlen : xs.length = ys.length := (hplace hx).symm.trans (hplace hy)
  have hsame := (List.prefix_of_prefix_length_le hx hy (by simp [hlen])).eq_of_length (by simp [hlen])
  exact List.append_cancel_right hsame

/-! ## Attempts -/

section Attempts

variable {op : Operation} {ms : Nat} {bs : List B.State} {clock clock' : Clock}

/-- The attempts up to one of them, and that one. -/
theorem Attempts.split {before after : List (Attempt B)} {a : Attempt B}
    (h : Attempts op ms bs clock (before ++ a :: after) clock') :
    ∃ clock₁ b clock₂, Attempts op ms bs clock before clock₁ ∧ bs[a.position]? = some b ∧
      B.operate.Ends (clock₁.mono + millis ms) clock₁ (B.operate.start clock₁ op b) clock₂ a.left a.answer := by
  induction before generalizing clock with
  | nil =>
    cases h with
    | cons hb hends _ => exact ⟨clock, _, _, .nil clock, hb, hends⟩
  | cons x before ih =>
    cases h with
    | cons hx hxends h =>
      obtain ⟨clock₁, b, clock₂, hbefore, hb, hends⟩ := ih h
      exact ⟨clock₁, b, clock₂, .cons hx hxends hbefore, hb, hends⟩

/-- The positions of attempts tell when they are over. -/
theorem Attempts.clock_unique {xs ys : List (Attempt B)} {c₁ c₂ : Clock} (hx : Attempts op ms bs clock xs c₁)
    (hy : Attempts op ms bs clock ys c₂) (h : xs.map Attempt.position = ys.map Attempt.position) : c₁ = c₂ := by
  induction hx generalizing ys with
  | nil =>
    obtain rfl : ys = [] := List.map_eq_nil_iff.mp h.symm
    cases hy
    rfl
  | cons hb hends _ ih =>
    cases hy with
    | nil => cases h
    | cons hb' hends' hy =>
      obtain ⟨hposition, h⟩ := List.cons.inj h
      rw [hposition, hb', Option.some.injEq] at hb
      subst hb
      obtain ⟨rfl, -, -⟩ := hends.unique hends'
      exact ih hy h

end Attempts

variable {c : Config} {op : Operation} {clock clock' : Clock} {g g' : Failover B} {tried : List (Attempt B)}

/-- The turn of a candidate comes but once. -/
theorem TurnOf.unique {i : Nat} {c₁ c₂ : Clock} (h₁ : TurnOf c op clock g i c₁) (h₂ : TurnOf c op clock g i c₂) :
    c₁ = c₂ := by
  obtain ⟨failed₁, hattempts₁, -, horder₁⟩ := h₁
  obtain ⟨failed₂, hattempts₂, -, horder₂⟩ := h₂
  have hsame := prefix_unique (g.rotation.candidates_nodup g.monitor.flags).1 horder₁ horder₂
  exact hattempts₁.clock_unique hattempts₂ hsame

/-- The candidate that gave the value completes the operation in its turn. -/
theorem Reference.value_completes {v : Value} (h : Reference c op clock g tried clock' g' (.ok v)) :
    ∃ i b, g.IsCandidate i ∧ g.backends[i]? = some b ∧ (∃ clock₂, TurnOf c op clock g i clock₂) ∧
      ∀ clock₂, TurnOf c op clock g i clock₂ → Completes B op c.operationTimeout clock₂ b := by
  have horder := h.order
  have hattempts := h.attempts
  cases h.returned with
  | @value failed last _ hfailed hlast =>
    obtain ⟨clock₁, b, clock₂, hbefore, hb, hends⟩ := hattempts.split
    rw [List.map_append, List.map_singleton] at horder
    have hturn : TurnOf c op clock g last.position clock₁ := ⟨failed, hbefore, hfailed, horder⟩
    refine ⟨last.position, b, (mem_candidates_iff g _).mp (horder.subset (by simp)), hb, ⟨clock₁, hturn⟩, ?_⟩
    intro clock₃ hturn'
    obtain rfl := hturn.unique hturn'
    exact ⟨clock₂, last.left, v, hlast ▸ hends⟩

/-- No candidate completes the operation in its turn if all failed. -/
theorem Reference.exhausted_fails {e : Error} (h : Reference c op clock g tried clock' g' (.error e)) {i : Nat}
    {b : B.State} (hi : g.IsCandidate i) (hb : g.backends[i]? = some b) :
    ∃ clock₂, TurnOf c op clock g i clock₂ ∧ ¬ Completes B op c.operationTimeout clock₂ b := by
  have hattempts := h.attempts
  cases h.returned with
  | exhausted hall hfailures =>
    rw [← mem_candidates_iff, ← hall] at hi
    obtain ⟨a, ha, rfl⟩ := List.mem_map.mp hi
    have herror : ∀ x ∈ tried, ∃ e, x.outcome op c.operationTimeoutMs.toNat = .error e :=
      ((List.forall₂_and_left ..).mp (hfailures.imp fun _ f hf => ⟨⟨f.error, hf.2⟩, trivial⟩)).1
    obtain ⟨before, after, rfl⟩ := List.append_of_mem ha
    obtain ⟨clock₁, b', clock₂, hbefore, hb', hends⟩ := hattempts.split
    obtain rfl : b = b' := Option.some.inj (hb.symm.trans hb')
    refine ⟨clock₁, ⟨before, hbefore, fun x hx => herror x (List.mem_append_left _ hx), ?_⟩, ?_⟩
    · simp [← hall]
    · rintro ⟨clock₃, b₃, v, hcompletes⟩
      obtain ⟨-, -, hanswer⟩ := hends.unique hcompletes
      obtain ⟨e, he⟩ := herror a ha
      simp [Attempt.outcome, hanswer] at he

/-! ## The operation -/

/-- Any history of failures, checks and calls under way, any interval, threshold and strategy. -/
theorem operate_available (hB : B.Tame) {c : Config} {g : Failover B} (hg : Reach c g) (clock : Clock) {op : Operation}
    (hop : refusal? op = none) :
    ∃ fuel clock₁ g₁ clock' g' r,
      (refresh B).call fuel clock () g = (clock₁, g₁, some ()) ∧
        (operate B).call fuel clock op g = (clock', g', some r) ∧ Availability c op clock₁ g₁ r := by
  obtain ⟨k, n, clock₁, g₁, tried, clock', g', r, hchecks, -, -, hrun, href⟩ := operate_reference hB hg clock hop
  refine ⟨n + k, clock₁, g₁, clock', g', r, hchecks.settle (by omega), hrun.settle (Nat.le_refl _), ?_, ?_, ?_⟩
  · intro i b hi hb hcompletes
    cases r with
    | ok v => exact ⟨v, rfl⟩
    | error e =>
      obtain ⟨clock₂, hturn, hfails⟩ := href.exhausted_fails hi hb
      exact absurd (hcompletes clock₂ hturn) hfails
  · rintro v rfl
    exact href.value_completes
  · cases href.returned with
    | value => exact .inl ⟨_, rfl⟩
    | exhausted => exact .inr ⟨_, rfl⟩

theorem operate_available_firstHangs :
    Simulation.FaultyStore.backend.Tame ∧ Reach firstHangs hangingPair ∧ refusal? (.count "k") = none ∧
      ∃ fuel clock₁ g₁ clock' g' r,
        (refresh _).call fuel ⟨0, 0⟩ () hangingPair = (clock₁, g₁, some ()) ∧
          (operate _).call fuel ⟨0, 0⟩ (.count "k") hangingPair = (clock', g', some r) ∧
          Availability firstHangs (.count "k") clock₁ g₁ r :=
  ⟨Simulation.FaultyStore.tame, hangingPair_reach, rfl,
    operate_available Simulation.FaultyStore.tame hangingPair_reach ⟨0, 0⟩ rfl⟩

/-! ## A backend that is no candidate -/

open Simulation (Faults FaultyStore)

def refused : BackendError := .unavailable "connection refused"

def faulty : Registry Unit FaultyStore.backend.State :=
  Registry.empty.register "faulty" fun _ trace => (.ok (.ofFaults Faults.none), trace)

def twoStores : Config := .ofBackends [⟨"a", "faulty", []⟩, ⟨"b", "faulty", []⟩]

def pair : Failover FaultyStore.backend :=
  Registry.assemble twoStores [.ofFaults Faults.none, .ofFaults Faults.none]

/-- Fails the operations of one of the backends from now on, and mends the others. -/
def failing (i : Nat) (g : Failover FaultyStore.backend) : Failover FaultyStore.backend :=
  { g with backends := g.backends.mapIdx fun j s =>
      { s with faults := { Faults.none with fail := if j = i then some refused else none } } }

/-- The first backend failed once and is mended, the second is broken since. -/
def mended : Failover FaultyStore.backend := failing 1 ((operate _).start ⟨0, 0⟩ (.count "k") (failing 0 pair)).1

theorem failing_reach {g : Failover FaultyStore.backend} (i : Nat) (hg : Reach twoStores g) :
    Reach twoStores (failing i g) := .outside _ List.length_mapIdx hg

/-- The first backend would answer at once, but its record is unhealthy and no check is due. -/
theorem a_mended_backend_is_skipped :
    Reach twoStores mended ∧ refusal? (.count "k") = none ∧
      (∃ b, mended.backends[0]? = some b ∧ Completes _ (.count "k") twoStores.operationTimeout ⟨0, 0⟩ b) ∧
      ((operate _).call 0 ⟨0, 0⟩ (.count "k") mended).2.2 =
        some (.error (.allBackendsFailed "get_count" [⟨"b", refused⟩])) := by
  refine ⟨failing_reach 1 (.start _ _ (failing_reach 0 (.built faulty () rfl))), rfl, ?_, ?_⟩
  · exact ⟨_, rfl, _, _, _, .answered ..⟩
  · rfl

end RateCounter.Failover
