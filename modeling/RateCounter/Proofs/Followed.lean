/-
  RateCounter.Proofs.Followed — calls that get their turns at given instants.

  `follow` gives a call a turn at each of some instants as long as it waits. Nothing is asked
  of the instants: they may be early, late, or end before the call does, which then still
  waits and may be given up.
  - `follow_lift`: a call made of another one follows it, until that one is over.
  - `follow_each`: calls on the states of a list, all at once, stand at every position as the
    call there stands by itself.
-/

import RateCounter.Proofs.Health.CheckTurns

namespace RateCounter.Service

variable {σ τ α β ρ ρ' : Type}

/-- How a call stands that was given turns. -/
structure Stand (S : Service σ α ρ) where
  /-- When it had its last turn. -/
  last : Clock
  /-- The instants it did not need any more. -/
  spare : List Clock
  state : σ
  turn : Turn S.Flight ρ

/-- Gives a call a turn at each of the instants, as long as it waits. -/
def follow (S : Service σ α ρ) : Clock → σ × Turn S.Flight ρ → List Clock → Stand S
  | clock, (s, .done r), instants => ⟨clock, instants, s, .done r⟩
  | clock, (s, .waiting f), [] => ⟨clock, [], s, .waiting f⟩
  | _, (s, .waiting f), now :: instants => follow S now (S.poll now f s) instants

theorem follow_nil (S : Service σ α ρ) (clock : Clock) (p : σ × Turn S.Flight ρ) :
    S.follow clock p [] = ⟨clock, [], p.1, p.2⟩ := by
  obtain ⟨s, r | f⟩ := p <;> rfl

@[simp] theorem follow_done (S : Service σ α ρ) (clock : Clock) (s : σ) (r : ρ) (instants : List Clock) :
    S.follow clock (s, .done r) instants = ⟨clock, instants, s, .done r⟩ := by
  cases instants <;> rfl

variable {S : Service σ α ρ} {T : Service τ β ρ'}

/-- A call waits only when there is no instant left. -/
theorem follow_waiting {clock last : Clock} {p : σ × Turn S.Flight ρ} {instants spare : List Clock} {s : σ}
    {f : S.Flight} (h : S.follow clock p instants = ⟨last, spare, s, .waiting f⟩) : spare = [] := by
  induction instants generalizing clock p with
  | nil => exact (congrArg Stand.spare ((follow_nil S clock p).symm.trans h)).symm
  | cons now instants ih =>
    obtain ⟨s', r | f'⟩ := p
    · cases h
    · exact ih h

/-- How a call that waits waits on behalf of another: until the same timer, and for the same turn. -/
structure Waits (S : Service σ α ρ) (T : Service τ β ρ') (view : Clock → σ × Turn S.Flight ρ → τ × Turn T.Flight ρ')
    (s : σ) (f : S.Flight) (t : τ) (g : T.Flight) : Prop where
  here : ∀ clock, view clock (s, .waiting f) = (t, .waiting g)
  wake : T.wake g = S.wake f
  resume : ∀ now, T.resume now g t = view now (S.resume now f s)

theorem Waits.poll {view : Clock → σ × Turn S.Flight ρ → τ × Turn T.Flight ρ'} {s : σ} {f : S.Flight} {t : τ}
    {g : T.Flight} (h : Waits S T view s f t g) (now : Clock) : T.poll now g t = view now (S.poll now f s) := by
  unfold Service.poll
  rw [h.wake]
  by_cases hdue : isDue (S.wake f) now.mono = true
  · rw [if_pos hdue, if_pos hdue, h.resume]
  · rw [if_neg hdue, if_neg hdue, h.here]

theorem poll_inv {I : σ → Prop} (hinv : ∀ now f s, I s → I (S.resume now f s).1) {s : σ} (hs : I s) (now : Clock)
    (f : S.Flight) : I (S.poll now f s).1 := by
  unfold Service.poll
  split
  · exact hinv now f s hs
  · exact hs

theorem follow_inv {I : σ → Prop} (hinv : ∀ now f s, I s → I (S.resume now f s).1) {p : σ × Turn S.Flight ρ}
    (hp : I p.1) (clock : Clock) (instants : List Clock) : I (S.follow clock p instants).state := by
  induction instants generalizing clock p with
  | nil =>
    obtain ⟨s, r | f⟩ := p
    · exact hp
    · exact hp
  | cons now instants ih =>
    obtain ⟨s, r | f⟩ := p
    · exact hp
    · exact ih (poll_inv hinv hp now f) now

/-- What a call waits for goes on under it as it would by itself. -/
theorem follow_lift (view : Clock → σ × Turn S.Flight ρ → τ × Turn T.Flight ρ') {I : σ → Prop}
    (hwait : ∀ s f, I s → ∃ t g, Waits S T view s f t g) (hinv : ∀ now f s, I s → I (S.resume now f s).1)
    {p : σ × Turn S.Flight ρ} (hp : I p.1) (clock : Clock) (instants : List Clock) :
    T.follow clock (view clock p) instants =
      let q := S.follow clock p instants
      T.follow q.last (view q.last (q.state, q.turn)) q.spare := by
  induction instants generalizing clock p with
  | nil =>
    obtain ⟨s, r | f⟩ := p
    · rw [follow_done]
    · rfl
  | cons now instants ih =>
    obtain ⟨s, r | f⟩ := p
    · rw [follow_done]
    · obtain ⟨t, g, h⟩ := hwait s f hp
      calc T.follow clock (view clock (s, .waiting f)) (now :: instants)
        _ = T.follow now (T.poll now g t) instants := by rw [h.here]; rfl
        _ = T.follow now (view now (S.poll now f s)) instants := by rw [h.poll]
        _ = _ := ih (poll_inv hinv hp now f) now

/-- The same where the one call is over when the other is. -/
theorem follow_map (view : Clock → σ × Turn S.Flight ρ → τ × Turn T.Flight ρ') {I : σ → Prop}
    (hwait : ∀ s f, I s → ∃ t g, Waits S T view s f t g) (hinv : ∀ now f s, I s → I (S.resume now f s).1)
    (hdone : ∀ clock s r, ∃ t r', view clock (s, .done r) = (t, .done r')) {p : σ × Turn S.Flight ρ} (hp : I p.1)
    (clock : Clock) (instants : List Clock) :
    T.follow clock (view clock p) instants =
      let q := S.follow clock p instants
      ⟨q.last, q.spare, (view q.last (q.state, q.turn)).1, (view q.last (q.state, q.turn)).2⟩ := by
  have hstate := follow_inv hinv hp clock instants
  rw [follow_lift view hwait hinv hp]
  generalize hq : S.follow clock p instants = q at hstate ⊢
  obtain ⟨last, spare, s, r | f⟩ := q
  · obtain ⟨t, r', hview⟩ := hdone last s r
    simp only [hview, follow_done]
  · obtain ⟨t, g, h⟩ := hwait s f hstate
    obtain rfl := follow_waiting hq
    simp only [h.here]
    rfl

/-- A call on a part of a state. -/
theorem follow_focus {get : τ → σ} {set : σ → τ → τ} (hget : ∀ s t, get (set s t) = s)
    (hset : ∀ s s' t, set s (set s' t) = set s t) (p : σ × Turn S.Flight ρ) (t : τ) (clock : Clock)
    (instants : List Clock) :
    (S.focus get set).follow clock (set p.1 t, p.2) instants =
      let q := S.follow clock p instants
      ⟨q.last, q.spare, set q.state t, q.turn⟩ :=
  follow_map (S := S) (T := S.focus get set) (I := fun _ => True) (fun _ p => (set p.1 t, p.2))
    (fun s f _ => ⟨set s t, f, fun _ => rfl, rfl, fun now => by
      show (set (S.resume now f (get (set s t))).1 (set s t), (S.resume now f (get (set s t))).2) = _
      rw [hget, hset]
      rfl⟩)
    (fun _ _ _ _ => trivial) (fun _ _ _ => ⟨_, _, rfl⟩) trivial clock instants

/-! ## One call per state -/

theorem joined_waiting {φ : Type} {fs gs : List (Option φ)} (h : joined fs = .waiting gs) :
    gs = fs ∧ ∃ (i : Nat) (f : φ), fs[i]?.join = some f := by
  unfold joined at h
  split at h
  · cases h
  · rename_i hsome
    cases h
    simp only [List.all_eq_true, not_forall] at hsome
    obtain ⟨o, ho, hne⟩ := hsome
    obtain ⟨f, rfl⟩ := Option.ne_none_iff_exists'.mp (mt Option.isNone_iff_eq_none.mpr hne)
    obtain ⟨i, hi⟩ := List.getElem?_of_mem ho
    exact ⟨rfl, i, f, by rw [hi]; rfl⟩

theorem poll_each {now : Clock} {fs : List (Option S.Flight)} {ss : List σ} (hfs : joined fs = .waiting fs) :
    S.each.poll now fs ss =
      if isDue (S.wakeEach fs) now.mono then ((S.pollEach now fs ss).1, joined (S.pollEach now fs ss).2)
      else (ss, joined fs) := by
  rw [hfs]
  rfl

/-- The flights that are left, those that are over being none. -/
def Stand.flights (q : Stand S.each) : List (Option S.Flight) := q.turn.flight?.getD []

/-- Where no call waits none begins to. -/
theorem each_joined (clock : Clock) (ss : List σ) (fs : List (Option S.Flight)) (instants : List Clock) :
    ∃ gs, (S.each.follow clock (ss, joined fs) instants).turn = joined gs ∧
      ∀ i : Nat, fs[i]?.join = none → gs[i]?.join = none := by
  induction instants generalizing clock ss fs with
  | nil =>
    rw [follow_nil]
    exact ⟨fs, rfl, fun _ hi => hi⟩
  | cons now instants ih =>
    rcases hj : joined fs with r | gs
    · exact ⟨fs, hj.symm, fun _ hi => hi⟩
    · obtain ⟨rfl, -⟩ := joined_waiting hj
      show ∃ hs, (S.each.follow now (S.each.poll now gs ss) instants).turn = joined hs ∧ _
      rw [poll_each hj]
      split
      · obtain ⟨hs, hturn, hnone⟩ := ih now (S.pollEach now gs ss).1 (S.pollEach now gs ss).2
        exact ⟨hs, hturn, fun i hi => hnone i (S.flight_pollEach_none now ss hi)⟩
      · exact ih now ss gs

/-- The list of calls stands at a position as the call there. -/
theorem follow_each {ss : List σ} {fs : List (Option S.Flight)} {i : Nat} {p : σ × Turn S.Flight ρ}
    (hs : ss[i]? = some p.1) (hf : fs[i]?.join = p.2.flight?) (clock start : Clock) (instants : List Clock) :
    (S.each.follow clock (ss, joined fs) instants).state[i]? = some (S.follow start p instants).state ∧
      (S.each.follow clock (ss, joined fs) instants).flights[i]?.join = (S.follow start p instants).turn.flight? := by
  induction instants generalizing clock start ss fs p with
  | nil =>
    rw [follow_nil, follow_nil]
    exact ⟨hs, (flight_joined fs i).trans hf⟩
  | cons now instants ih =>
    obtain ⟨s, turn⟩ := p
    rcases hj : joined fs with r | gs
    · -- All calls are over, so the one at `i` is.
      have hover : fs[i]?.join = none := by
        rw [← flight_joined fs i, hj]
        rfl
      obtain ⟨r', rfl⟩ : ∃ r', turn = .done r' := by
        cases turn with
        | done r' => exact ⟨r', rfl⟩
        | waiting f => exact nomatch hover.symm.trans hf
      exact ⟨hs, rfl⟩
    · obtain ⟨rfl, -⟩ := joined_waiting hj
      show (S.each.follow now (S.each.poll now gs ss) instants).state[i]? = _ ∧
        (S.each.follow now (S.each.poll now gs ss) instants).flights[i]?.join = _
      rw [poll_each hj]
      by_cases hdue : isDue (S.wakeEach gs) now.mono = true
      · have hstate := S.getElem?_pollEach now ss hf
        have hflight := S.flight_pollEach now gs ss i
        rw [hs] at hstate hflight
        rw [hf] at hflight
        rw [if_pos hdue]
        cases turn with
        | done r =>
          have hdone := ih (p := (s, .done r)) hstate hflight now start
          rw [follow_done] at hdone ⊢
          exact hdone
        | waiting f => exact ih hstate hflight now now
      · rw [if_neg hdue]
        cases turn with
        | done r =>
          have hdone := ih (p := (s, .done r)) hs hf now start
          rw [follow_done] at hdone ⊢
          exact hdone
        | waiting f =>
          have hearly : S.poll now f s = (s, .waiting f) := poll_early s fun u hu => by
            obtain ⟨t, ht, hle⟩ := wakeEach_le (List.mem_of_getElem? (Option.join_eq_some_iff.mp hf)) hu
            have hlate : ¬ t ≤ now.mono := fun h => hdue (by simpa [isDue, ht] using h)
            omega
          show _ = some (S.follow now (S.poll now f s) instants).state ∧
            _ = (S.follow now (S.poll now f s) instants).turn.flight?
          rw [hearly]
          exact ih (p := (s, .waiting f)) hs hf now now

end RateCounter.Service
