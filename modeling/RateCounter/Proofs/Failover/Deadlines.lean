/-
  RateCounter.Proofs.Failover.Deadlines — until when a call waits.

  A check that is begun has the check timeout from then on, an attempt the operation
  timeout; a turn at the deadline or later finds it over. So it is known of every call under
  way until when what it waits for can last (`Timely`).

  - `Led.answersInTwoTurns`: beside a first backend that never fails, every call under way
    returns a value in its second turn from now on, if its checks have had their time before
    the first, and its attempt before the second.
-/

import RateCounter.Proofs.Failover.Leading

namespace RateCounter

/-! ## Bounded calls -/

namespace Service

variable {σ α ρ : Type} {S : Service σ α ρ} {clock : Clock}

/-- What still waits after a turn has not reached its deadline. -/
theorem bound_waits {deadline : Nat} {p : σ × Turn S.Flight ρ} {b : Bounded S.Flight}
    (h : (S.bound clock deadline p).2 = .waiting b) : b.deadline = deadline ∧ clock.mono < deadline := by
  obtain ⟨s, reply | f⟩ := p
  · cases h
  · rcases Nat.lt_or_ge clock.mono deadline with hearly | hlate
    · rw [bound_waiting s f hearly] at h
      cases h
      exact ⟨rfl, hearly⟩
    · rw [bound_late s f hlate] at h
      cases h

theorem before_deadline {timer : Option Nat} {deadline now : Nat}
    (h : isDue (earlier timer (some deadline)) now = false) : now < deadline := by
  cases timer with
  | none => simpa [earlier, isDue] using h
  | some t =>
    have hmin : now < min t deadline := by simpa [earlier, isDue] using h
    omega

end Service

theorem Turn.flight?_eq_some {φ ρ : Type} {turn : Turn φ ρ} {f : φ} (h : turn.flight? = some f) :
    turn = .waiting f := by
  cases turn with
  | done reply => cases h
  | waiting f' => exact congrArg Turn.waiting (Option.some.inj h)

/-! ## Checks -/

namespace Monitor

variable {B : Backend} {clock : Clock} {m : Monitor} {w : Watch B} {checks : Checks B}

theorem flight_observe (m : Monitor) (clock : Clock) (r : Health)
    (p : B.State × Turn (Service.Bounded B.probe.Flight) (Option Bool)) :
    (m.observe clock r p).2.flight? = p.2.flight? := by
  obtain ⟨b, answer | f⟩ := p <;> rfl

theorem check_started {p : Watched B} {f : Service.Bounded B.probe.Flight}
    (h : ((check B m).start clock () p).2.flight? = some f) : f.deadline = clock.mono + m.timeout := by
  unfold check at h
  dsimp only at h
  split at h
  · exact (Service.bound_waits (Turn.flight?_eq_some ((flight_observe ..).symm.trans h))).1
  · cases h

theorem check_polled {p : Watched B} {f f' : Service.Bounded B.probe.Flight}
    (h : ((check B m).poll clock f p).2.flight? = some f') : f'.deadline = f.deadline ∧ clock.mono < f.deadline := by
  unfold Service.poll at h
  split at h
  · exact Service.bound_waits (Turn.flight?_eq_some ((flight_observe ..).symm.trans h))
  · rename_i hnotDue
    cases h
    exact ⟨rfl, Service.before_deadline (Bool.eq_false_iff.mpr hnotDue)⟩

/-- No check lasts longer than until the limit. -/
def Within (limit : Nat) (checks : Checks B) : Prop :=
  ∀ (i : Nat) (f : Service.Bounded B.probe.Flight), checks[i]?.join = some f → f.deadline ≤ limit

theorem startChecks_within (clock : Clock) (w : Watch B) :
    Within (clock.mono + w.monitor.timeout) ((startChecks clock w).2.flight?.getD []) := by
  intro i f hf
  have hstart := (Service.flight_startEach (check B w.monitor) clock () w.pairs i).symm.trans
    ((Service.flight_joined _ i).symm.trans hf)
  obtain ⟨p, -, hp⟩ := Option.bind_eq_some_iff.mp hstart
  exact Nat.le_of_eq (check_started hp)

/-- A check that still waits was waiting before, and has not reached its deadline. -/
theorem resumeChecks_waits {i : Nat} {f : Service.Bounded B.probe.Flight}
    (h : ((check B w.monitor).pollEach clock checks w.pairs).2[i]?.join = some f) :
    ∃ f₀, checks[i]?.join = some f₀ ∧ f.deadline = f₀.deadline ∧ clock.mono < f₀.deadline := by
  have hpolled := (Service.flight_pollEach (check B w.monitor) clock checks w.pairs i).symm.trans h
  obtain ⟨p, -, hp⟩ := Option.bind_eq_some_iff.mp hpolled
  obtain ⟨f₀, hf₀, hpoll⟩ := Option.bind_eq_some_iff.mp hp
  exact ⟨f₀, hf₀, check_polled hpoll⟩

theorem resumeChecks_within {limit : Nat} (h : Within limit checks) :
    Within limit ((resumeChecks clock checks w).2.flight?.getD []) := by
  intro i f hf
  obtain ⟨f₀, hf₀, hsame, -⟩ := resumeChecks_waits ((Service.flight_joined _ i).symm.trans hf)
  exact hsame ▸ h i f₀ hf₀

theorem resumeChecks_over (h : Within clock.mono checks) : (resumeChecks clock checks w).2 = .done () := by
  have hnone : ((check B w.monitor).pollEach clock checks w.pairs).2.all Option.isNone = true := by
    refine List.all_eq_true.mpr fun o ho => ?_
    obtain ⟨i, hi⟩ := List.mem_iff_getElem?.mp ho
    cases o with
    | none => rfl
    | some f =>
      obtain ⟨f₀, hf₀, -, hearly⟩ := resumeChecks_waits (congrArg Option.join hi)
      exact absurd (h i f₀ hf₀) (Nat.not_le.mpr hearly)
  show Service.joined ((check B w.monitor).pollEach clock checks w.pairs).2 = .done ()
  simp only [Service.joined, hnone, if_true]

end Monitor

/-! ## Operations -/

namespace Failover

variable {B : Backend} {clock : Clock} {op : Operation} {g : Failover B} {x : Execution B}

open Monitor (Checks)

/-- An attempt is under way that lasts until the limit at most. -/
def Execution.Attempts (limit : Nat) : Execution B → Prop
  | .checking .. => False
  | .attempting _ _ attempt _ _ => attempt.deadline ≤ limit

/-- Checks or an attempt, and until when they can last. -/
def Execution.Within (checked tried : Nat) : Execution B → Prop
  | .checking _ checks => Monitor.Within checked checks
  | .attempting _ _ attempt _ _ => attempt.deadline ≤ tried

theorem Execution.Attempts.within {checked tried : Nat} (h : x.Attempts tried) : x.Within checked tried := by
  cases x with
  | checking op checks => exact h.elim
  | attempting op i attempt rest fs => exact h

theorem Execution.Within.later {checked checked' tried tried' : Nat} (h : x.Within checked tried)
    (hchecked : checked ≤ checked') (htried : tried ≤ tried') : x.Within checked' tried' := by
  cases x with
  | checking op checks => exact fun i f hf => Nat.le_trans (h i f hf) hchecked
  | attempting op i attempt rest fs => exact Nat.le_trans h htried

theorem Execution.Attempts.later {tried tried' : Nat} (h : x.Attempts tried) (htried : tried ≤ tried') :
    x.Attempts tried' := by
  cases x with
  | checking op checks => exact h
  | attempting op i attempt rest fs => exact Nat.le_trans h htried

theorem afterAttempt_attempts {limit : Nat} {rest : List Nat}
    (hrest : ∀ (fs : List Failure) (g' : Failover B), g'.timeout = g.timeout → ∀ x,
      (tryEach clock op rest fs g').2 = .waiting x → x.Attempts limit)
    {i : Nat} {fs : List Failure} {p : B.State × Turn (Service.Bounded B.operate.Flight) (Option Outcome)}
    (hp : ∀ attempt, p.2 = .waiting attempt → attempt.deadline ≤ limit)
    (hx : (afterAttempt clock op i rest fs g p).2 = .waiting x) : x.Attempts limit := by
  obtain ⟨b, answer | attempt⟩ := p
  · simp only [afterAttempt] at hx
    split at hx
    · cases hx
    · rename_i e _
      exact hrest _ ((g.setBackend i b).failAt i e) rfl x hx
  · cases hx
    exact hp attempt rfl

theorem tryEach_attempts (clock : Clock) (op : Operation) (cs : List Nat) (fs : List Failure) (g : Failover B) :
    ∀ x, (tryEach clock op cs fs g).2 = .waiting x → x.Attempts (clock.mono + g.timeout) := by
  induction cs generalizing fs g with
  | nil => exact fun x hx => nomatch hx
  | cons i cs ih =>
    intro x hx
    cases hb : g.backends[i]? with
    | none =>
      simp only [tryEach, hb] at hx
      exact ih fs g x hx
    | some b =>
      rw [tryEach_cons clock op cs fs hb] at hx
      refine afterAttempt_attempts (fun fs' g' htimeout => htimeout ▸ ih fs' g') (fun attempt hattempt => ?_) hx
      exact Nat.le_of_eq (Service.bound_waits hattempt).1

theorem dispatch_attempts (hx : (dispatch clock op g).2 = .waiting x) : x.Attempts (clock.mono + g.timeout) :=
  tryEach_attempts clock op (g.rotation.candidates g.monitor.flags).1 []
    { g with rotation := (g.rotation.candidates g.monitor.flags).2 } x hx

theorem afterChecks_within {checked : Nat} {p : Failover B × Turn (Checks B) Unit}
    (hchecks : Monitor.Within checked (p.2.flight?.getD []))
    (hx : (afterChecks clock op p).2 = .waiting x) : x.Within checked (clock.mono + p.1.timeout) := by
  obtain ⟨g, u | checks⟩ := p
  · exact (dispatch_attempts hx).within
  · cases hx
    exact hchecks

theorem start_within (hx : ((operate B).start clock op g).2 = .waiting x) :
    x.Within (clock.mono + g.monitor.timeout) (clock.mono + g.timeout) := by
  cases hop : refusal? op with
  | some e =>
    rw [startOperation_refused hop] at hx
    cases hx
  | none =>
    rw [startOperation_accepted hop] at hx
    have htimeout : ((refresh B).start clock () g).1.timeout = g.timeout :=
      congrArg Frame.timeout (refresh_frame clock g)
    exact htimeout ▸ afterChecks_within (Monitor.startChecks_within clock g.watch) hx

theorem attempting_attempts {i : Nat} {attempt : Service.Bounded B.operate.Flight} {rest : List Nat} {fs : List Failure}
    (hx : ((operate B).resume clock (.attempting op i attempt rest fs) g).2 = .waiting x) :
    x.Attempts (max attempt.deadline (clock.mono + g.timeout)) := by
  have htry : ∀ (fs : List Failure) (g' : Failover B), g'.timeout = g.timeout → ∀ x,
      (tryEach clock op rest fs g').2 = .waiting x → x.Attempts (max attempt.deadline (clock.mono + g.timeout)) := by
    intro fs g' htimeout x hx
    exact (htimeout ▸ tryEach_attempts clock op rest fs g' x hx).later (Nat.le_max_right ..)
  simp only [operate, resumeOperation] at hx
  cases hb : g.backends[i]? with
  | none =>
    simp only [hb] at hx
    exact htry fs g rfl x hx
  | some b =>
    simp only [hb] at hx
    refine afterAttempt_attempts htry (fun attempt' hattempt => ?_) hx
    exact Nat.le_trans (Nat.le_of_eq (Service.bound_waits hattempt).1) (Nat.le_max_left ..)

theorem resume_within {checked tried : Nat} (h : x.Within checked tried) (htried : clock.mono + g.timeout ≤ tried)
    {x' : Execution B} (hx : ((operate B).resume clock x g).2 = .waiting x') : x'.Within checked tried := by
  cases x with
  | checking op checks =>
    have htimeout : ((refresh B).resume clock checks g).1.timeout = g.timeout :=
      congrArg Frame.timeout (resumeRefresh_frame clock checks g)
    exact (afterChecks_within (Monitor.resumeChecks_within h) hx).later (Nat.le_refl _) (htimeout ▸ htried)
  | attempting op i attempt rest fs =>
    exact (attempting_attempts hx).within.later (Nat.le_refl _) (Nat.max_le.mpr ⟨h, htried⟩)

/-- When the checks have had their time, the next turn goes on to the attempts. -/
theorem resume_checked {tried : Nat} (h : x.Within clock.mono tried) (htried : clock.mono + g.timeout ≤ tried)
    {x' : Execution B} (hx : ((operate B).resume clock x g).2 = .waiting x') : x'.Attempts tried := by
  cases x with
  | checking op checks =>
    have hover : (refresh B).resume clock checks g = (((refresh B).resume clock checks g).1, .done ()) :=
      Prod.ext rfl (Monitor.resumeChecks_over h)
    have hafter : (afterChecks clock op ((refresh B).resume clock checks g)).2 = .waiting x' := hx
    rw [hover] at hafter
    have htimeout : ((refresh B).resume clock checks g).1.timeout = g.timeout :=
      congrArg Frame.timeout (resumeRefresh_frame clock checks g)
    exact (dispatch_attempts hafter).later (htimeout ▸ htried)
  | attempting op i attempt rest fs => exact (attempting_attempts hx).later (Nat.max_le.mpr ⟨h, htried⟩)

/-- When the attempt at the first backend has had its time, the next turn has its value. -/
theorem resume_answered {operation : B.operate.Flight → Operation} {caller : Nat} (hfirst : x.AtFirst operation)
    (hattempts : x.Attempts clock.mono) {b : B.State} (hb : g.backends[0]? = some b)
    (hnone : Unfailing 0 (resumeNotes caller clock x g)) : ∃ v, ((operate B).resume clock x g).2 = .done (.ok v) := by
  cases x with
  | checking op checks => exact hattempts.elim
  | attempting op i attempt rest fs =>
    obtain ⟨rfl, -⟩ := hfirst
    have hnotes : resumeNotes caller clock (.attempting op 0 attempt rest fs) g = tryNotes caller clock op
        (attemptsAfter g.timeout clock op 0 rest g.backends ((B.operate.within g.timeout).resume clock attempt b)) := by
      simp only [resumeNotes, resumeTries, hb, List.append_nil, Execution.operation]
    rw [hnotes] at hnone
    simp only [operate, resumeOperation, hb]
    rcases afterAttempt_unfailing hnone with ⟨b', attempt', hwaiting⟩ | ⟨b', v, hdone⟩
    · have hearly := (Service.bound_waits (congrArg Prod.snd hwaiting)).2
      exact absurd hattempts (Nat.not_le.mpr hearly)
    · rw [hdone]
      exact ⟨v, rfl⟩

end Failover

/-! ## Traffic -/

namespace Traffic

variable {B : Backend} {store? : B.State → Option Store} {operation : B.operate.Flight → Operation} {s₀ : Store}
  {m₀ : Monitor} {t : Traffic B}

open Failover (Execution Result refusal?)

/-- Until when the operations under way can wait for what they wait for now. -/
def Timely (t : Traffic B) : Prop :=
  ∀ (k : Nat) (x : Execution B), t.callers[k]? = some (.operating x) →
    x.Within (t.clock.mono + t.group.monitor.timeout) (t.clock.mono + t.group.timeout)

theorem Timely.after (h : t.Timely) (move : Move B) : (t.after move).Timely := by
  intro k x hk
  have hframe := t.frame_after move
  rw [show (t.after move).group.monitor.timeout = _ from congrArg Frame.checkTimeout hframe,
    show (t.after move).group.timeout = _ from congrArg Frame.timeout hframe]
  refine Execution.Within.later ?_ (Nat.add_le_add_right (t.clock_after move) t.group.monitor.timeout)
    (Nat.add_le_add_right (t.clock_after move) t.group.timeout)
  rcases t.callers_after move with hsame | ⟨j, c, c', -, hj, hgoes, hplace⟩ | ⟨c, hbegins, hplace⟩
  · exact h k x (hsame ▸ hk)
  · rcases place_cases (number_le hj) (hplace ▸ hk) with ⟨-, hc'⟩ | ⟨-, hold⟩
    · cases hgoes with
      | operation x₀ => exact Failover.resume_within (h j x₀ hj) (Nat.le_refl _) (Caller.ofOperation_eq hc'.symm)
      | refresh checks => exact absurd hc'.symm (Caller.ofRefresh_ne _ x)
      | operationDropped => cases hc'
      | refreshDropped => cases hc'
    · exact h k x hold
  · rcases place_cases (Nat.le_refl _) (hplace ▸ hk) with ⟨-, hc⟩ | ⟨-, hold⟩
    · cases hbegins with
      | operation op => exact Failover.start_within (Caller.ofOperation_eq hc.symm)
      | refresh => exact absurd hc.symm (Caller.ofRefresh_ne _ x)
    · exact h k x hold

theorem Timely.run (h : t.Timely) (moves : List (Move B)) : (t.run moves).Timely := by
  induction moves generalizing t with
  | nil => exact h
  | cons move moves ih => exact ih (h.after move)

theorem timely_opened (g : Failover B) (interval timeout threshold : Nat) (clock : Clock) :
    (opened g interval timeout threshold clock).Timely :=
  fun _ _ hk => nomatch hk

/-- All that is known of a moment of the traffic. -/
structure Led (store? : B.State → Option Store) (operation : B.operate.Flight → Operation) (s₀ : Store) (m₀ : Monitor)
    (t : Traffic B) : Prop where
  kept : Kept m₀ t
  booked : Booked t
  timely : t.Timely
  leading : Leading store? operation s₀ t

theorem Led.run (h : Led store? operation s₀ m₀ t) (hB : PartlyGated B store? operation) (h₀ : Fresh m₀)
    {moves : List (Move B)} (hmoves : ∀ move ∈ moves, SparesFirst store? move) {t' : Traffic B}
    (ht' : t' = t.run moves) (hnone : Unfailing 0 t'.log) : Led store? operation s₀ m₀ t' := by
  subst ht'
  exact ⟨h.kept.run h₀ moves, h.booked.run h.kept h₀ moves, h.timely.run moves,
    h.leading.run hB h.kept h₀ hmoves hnone⟩

theorem Led.after (h : Led store? operation s₀ m₀ t) (hB : PartlyGated B store? operation) (h₀ : Fresh m₀)
    {move : Move B} (hmove : SparesFirst store? move) (hnone : Unfailing 0 (t.after move).log) :
    Led store? operation s₀ m₀ (t.after move) := by
  have hrun : t.after move = t.run [move] := rfl
  exact h.run hB h₀ (List.forall_mem_singleton.mpr hmove) hrun hnone

theorem led_opened {g : Failover B} (hstrategy : g.rotation.strategy = .firstHealthy)
    (hs : g.firstStore store? = some s₀) (interval timeout threshold : Nat) (clock : Clock) :
    Led store? operation s₀ (.start g.backends.length interval timeout threshold)
      (opened g interval timeout threshold clock) :=
  ⟨kept_opened g interval timeout threshold clock, booked_opened g interval timeout threshold clock,
    timely_opened g interval timeout threshold clock, leading_opened hstrategy hs interval timeout threshold clock⟩

/-- A turn of a call under way: the call goes on with its operation, or returns a value. -/
theorem Led.turned (h : Led store? operation s₀ m₀ t) (hB : PartlyGated B store? operation) (h₀ : Fresh m₀) {k : Nat}
    {x : Execution B} (hk : t.callers[k]? = some (.operating x)) (hnone : Unfailing 0 (t.after (.turn k)).log) :
    (∃ v, (t.after (.turn k)).callers[k]? = some (.returned x.operation (.ok v))) ∨
      ∃ x', ((Failover.operate B).resume t.clock x t.group).2 = .waiting x' ∧ x'.operation = x.operation ∧
        (t.after (.turn k)).callers[k]? = some (.operating x') := by
  have hcaller : (t.after (.turn k)).callers[k]? =
      some (.ofOperation x.operation ((Failover.operate B).resume t.clock x t.group).2) := by
    rw [after_turn hk]
    exact (getElem?_place (number_le hk) _ k).trans (if_pos rfl)
  have hled := h.after hB h₀ (show SparesFirst store? (.turn k) from trivial) hnone
  cases hturn : ((Failover.operate B).resume t.clock x t.group).2 with
  | done result =>
    rw [hturn] at hcaller
    obtain ⟨v, rfl⟩ := (hled.leading.answered k _ _ hcaller).mpr (h.leading.waiting k x hk).2
    exact .inl ⟨v, hcaller⟩
  | waiting x' =>
    rw [hturn] at hcaller
    exact .inr ⟨x', rfl, (Failover.resume_ended t.clock x t.group).operation x' hturn, hcaller⟩

/-- Whatever the others do meanwhile, every call under way returns a value in its second turn from now on, if
    the check timeout has passed before the first and the operation timeout between the two. -/
def AnswersInTwoTurns (store? : B.State → Option Store) (t : Traffic B) : Prop :=
  ∀ (k : Nat) (x : Execution B) (moves₁ moves₂ : List (Move B)), t.callers[k]? = some (.operating x) →
    (∀ move ∈ moves₁ ++ moves₂, SparesFirst store? move ∧ move ≠ .turn k ∧ move ≠ .drop k) →
    ∀ t₁ t₂, t₁ = t.run moves₁ → t₂ = (t₁.after (.turn k)).run moves₂ →
    t.clock.mono + t.group.monitor.timeout ≤ t₁.clock.mono → t₁.clock.mono + t.group.timeout ≤ t₂.clock.mono →
    Unfailing 0 (t₂.after (.turn k)).log →
    ∃ v, (t₂.after (.turn k)).callers[k]? = some (.returned x.operation (.ok v))

theorem Led.answersInTwoTurns (h : Led store? operation s₀ m₀ t) (hB : PartlyGated B store? operation)
    (h₀ : Fresh m₀) : t.AnswersInTwoTurns store? := by
  intro k x moves₁ moves₂ hk hmoves t₁ t₂ ht₁ ht₂ hchecks hattempt hnone
  have hspares := fun move hmove => (hmoves move hmove).1
  have hleaves := fun move hmove => (hmoves move hmove).2
  have hnone₂ : Unfailing 0 t₂.log := unfailing_after hnone
  have hnoneₖ : Unfailing 0 (t₁.after (.turn k)).log := unfailing_run (ht₂ ▸ hnone₂)
  have hnone₁ : Unfailing 0 t₁.log := unfailing_after hnoneₖ
  have hled₁ := h.run hB h₀ (fun move hmove => hspares move (List.mem_append_left _ hmove)) ht₁ hnone₁
  have hledₖ := hled₁.after hB h₀ (show SparesFirst store? (.turn k) from trivial) hnoneₖ
  have hled₂ := hledₖ.run hB h₀ (fun move hmove => hspares move (List.mem_append_right _ hmove)) ht₂ hnone₂
  have hk₁ : t₁.callers[k]? = some (.operating x) :=
    ht₁ ▸ t.caller_run (fun move hmove => hleaves move (List.mem_append_left _ hmove)) hk
  have hkeeps : ∀ {c}, (t₁.after (.turn k)).callers[k]? = some c → t₂.callers[k]? = some c := fun hc =>
    ht₂ ▸ caller_run _ (fun move hmove => hleaves move (List.mem_append_right _ hmove)) hc
  have htimeout : t₁.group.timeout = t.group.timeout := by
    rw [ht₁]
    exact congrArg Frame.timeout (t.frame_run moves₁)
  rcases hled₁.turned hB h₀ hk₁ hnoneₖ with ⟨v, hreturned⟩ | ⟨x', hwaiting, hsame, hgoes⟩
  · refine ⟨v, ?_⟩
    rw [after_turn (hkeeps hreturned)]
    exact hkeeps hreturned
  · -- The checks have had their time before the first turn, and the attempt before the second.
    have hx : x.Within t₁.clock.mono (t₁.clock.mono + t₁.group.timeout) := by
      rw [htimeout]
      exact (h.timely k x hk).later hchecks
        (Nat.add_le_add_right (Nat.le_trans (Nat.le_add_right ..) hchecks) t.group.timeout)
    have hattempts : x'.Attempts t₂.clock.mono :=
      (Failover.resume_checked hx (Nat.le_refl _) hwaiting).later (htimeout ▸ hattempt)
    have hk₂ := hkeeps hgoes
    rcases hled₂.turned hB h₀ hk₂ hnone with ⟨v, hreturned⟩ | ⟨x'', hwaits, -, -⟩
    · exact ⟨v, hsame ▸ hreturned⟩
    · obtain ⟨b, hb⟩ : ∃ b, t₂.group.backends[0]? = some b := ⟨_, List.getElem?_eq_getElem hled₂.leading.populated⟩
      rw [after_turn hk₂] at hnone
      obtain ⟨v, hdone⟩ := Failover.resume_answered (hled₂.leading.waiting k x' hk₂).1 hattempts hb
        (unfailing_append.mp hnone).1
      exact nomatch hdone.symm.trans hwaits

end Traffic

end RateCounter
