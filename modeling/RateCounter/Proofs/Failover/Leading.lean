/-
  RateCounter.Proofs.Failover.Leading — a first backend that never fails, among any others.

  The strategy is `firstHealthy`, and in the place of the first backend there is a memory
  store that an operation may have to wait for (`PartlyGated`). As long as no failure is
  noted of it, its record is healthy whenever the candidates are chosen, whichever calls are
  checking it meanwhile and whatever the other backends do. So it is the first candidate of
  every call, and a call is over when it has answered (`Leads`).

  `Leading` holds after every run (`Leading.run`): the first store has become what it is by
  what was carried out, nothing was carried out anywhere else, and every call that is over
  has returned a value, unless it was refused.
-/

import RateCounter.Proofs.Failover.Landed
import RateCounter.Proofs.Failover.Unfailing

namespace RateCounter

/-! ## Turns -/

namespace Failover

variable {B : Backend} {store? : B.State → Option Store} {operation : B.operate.Flight → Operation} {caller : Nat}
  {clock : Clock} {op : Operation} {g : Failover B} {s : Store}

open Monitor (Checks)

/-- The store in the place of the first backend. -/
def firstStore (store? : B.State → Option Store) (g : Failover B) : Option Store := g.backends[0]?.bind store?

theorem firstStore_of_views {g' : Failover B} (h : g'.backends.map store? = g.backends.map store?) :
    g'.firstStore store? = g.firstStore store? := by
  have hfirst : ∀ g : Failover B, g.firstStore store? = (g.backends.map store?)[0]?.join := fun g => by
    rw [List.getElem?_map, firstStore]
    cases g.backends[0]? <;> rfl
  rw [hfirst, hfirst, h]

theorem firstStore_setFirst {g : Failover B} (hlt : 0 < g.backends.length) (b : B.State) :
    (g.setBackend 0 b).firstStore store? = store? b := by
  unfold firstStore setBackend
  rw [List.getElem?_set_self hlt]
  rfl

theorem firstStore_eq_some_iff : g.firstStore store? = some s ↔ ∃ b, g.backends[0]? = some b ∧ store? b = some s :=
  Option.bind_eq_some_iff

/-- An attempt under way is at the first backend, and at the operation that is under way. -/
def Execution.AtFirst (operation : B.operate.Flight → Operation) : Execution B → Prop
  | .checking .. => True
  | .attempting op i attempt _ _ => i = 0 ∧ operation attempt.flight = op

/-- In a turn of an operation the first store becomes another by what is noted of it, and nothing is
    carried out elsewhere. The operation then waits for the first backend or returns a value. -/
structure Leads (store? : B.State → Option Store) (operation : B.operate.Flight → Operation) (notes : List Note)
    (s : Store) (p : Failover B × Turn (Execution B) Result) : Prop where
  executed : ∃ s', p.1.firstStore store? = some s' ∧ Executed s (Note.about 0 notes) s'
  atFirst : ∀ x, p.2 = .waiting x → x.AtFirst operation
  answered : ∀ result, p.2 = .done result → ∃ v, result = .ok v
  position : ∀ n ∈ notes, n.carried? ≠ none → n.position = 0

/-- Notes of nothing carried out, before those of a turn. -/
theorem Leads.idle {notes later : List Note} (hnotes : ∀ n ∈ notes, n.carried? = none)
    {p : Failover B × Turn (Execution B) Result} (h : Leads store? operation later s p) :
    Leads store? operation (later ++ notes) s p where
  executed := by
    obtain ⟨s', hs', hexecuted⟩ := h.executed
    refine ⟨s', hs', ?_⟩
    rw [Note.about_append]
    exact (Executed.idle (fun n hn => hnotes n (Note.mem_about.mp hn).1) s).append hexecuted
  atFirst := h.atFirst
  answered := h.answered
  position n hn hcarried := by
    rcases List.mem_append.mp hn with hn | hn
    · exact h.position n hn hcarried
    · exact absurd (hnotes n hn) hcarried

theorem afterAttempt_leads {rest : List Nat} {fs : List Failure} (hlt : 0 < g.backends.length)
    {p : B.State × Turn (Service.Bounded B.operate.Flight) (Option Outcome)}
    (hp : ∃ s', store? p.1 = some s' ∧ Carries (Gated.attempted operation) Gated.inTime? clock op s s' p.2)
    (hnone : Unfailing 0 (tryNotes caller clock op (attemptsAfter g.timeout clock op 0 rest g.backends p))) :
    Leads store? operation (tryNotes caller clock op (attemptsAfter g.timeout clock op 0 rest g.backends p)) s
      (afterAttempt clock op 0 rest fs g p) := by
  obtain ⟨s', hs', hcarries⟩ := hp
  rcases afterAttempt_unfailing hnone with ⟨b, attempt, rfl⟩ | ⟨b, v, rfl⟩
  · obtain ⟨hop, rfl⟩ := hcarries
    refine ⟨⟨s', (firstStore_setFirst hlt b).trans hs', .nil⟩, fun x hx => ?_, nofun, nofun⟩
    cases hx
    exact ⟨rfl, hop⟩
  · refine ⟨⟨s', (firstStore_setFirst hlt b).trans hs', ?_⟩, nofun, fun result hresult => ?_, fun n hn _ => ?_⟩
    · exact .perform (n := ⟨some caller, 0, clock, .tried op (.ok v)⟩) rfl .nil hcarries
    · cases hresult
      exact ⟨v, rfl⟩
    · exact List.mem_singleton.mp hn ▸ rfl

theorem afterChecks_leads (hB : PartlyGated B store? operation) {p : Failover B × Turn (Checks B) Unit}
    (hstrategy : p.1.rotation.strategy = .firstHealthy) (hs : p.1.firstStore store? = some s)
    (hflag : p.1.monitor.flags[0]? = some true)
    (hnone : Unfailing 0 (tryNotes caller clock op (triesAfter clock op p))) :
    Leads store? operation (tryNotes caller clock op (triesAfter clock op p)) s (afterChecks clock op p) := by
  obtain ⟨g, u | checks⟩ := p
  · obtain ⟨b, hb, hstore⟩ := firstStore_eq_some_iff.mp hs
    obtain ⟨rest, hcandidates⟩ := Rotation.candidates_firstHealthy hstrategy hflag
    have htries : triesAfter clock op (g, .done u) = attemptsAfter g.timeout clock op 0 rest g.backends
        ((B.operate.within g.timeout).start clock op b) := by
      simp only [triesAfter, hcandidates]
      exact attempts_cons g.timeout clock op rest hb
    have hdispatch : afterChecks clock op (g, .done u) =
        afterAttempt clock op 0 rest [] g ((B.operate.within g.timeout).start clock op b) := by
      simp only [afterChecks, dispatch, hcandidates]
      exact tryEach_cons clock op rest [] hb
    rw [htries] at hnone ⊢
    rw [hdispatch]
    exact afterAttempt_leads (List.getElem?_eq_some_iff.mp hb).1 (hB.within_start g.timeout clock op hstore) hnone
  · refine ⟨⟨s, hs, .nil⟩, fun x hx => ?_, nofun, nofun⟩
    cases hx
    trivial

theorem start_leads (hB : PartlyGated B store? operation) (hop : refusal? op = none)
    (hstrategy : g.rotation.strategy = .firstHealthy) (hsize : g.monitor.records.length = g.backends.length)
    (hs : g.firstStore store? = some s) (hflag : ((refresh B).start clock () g).1.monitor.flags[0]? = some true)
    (hnone : Unfailing 0 (startNotes caller clock op g)) :
    Leads store? operation (startNotes caller clock op g) s ((operate B).start clock op g) := by
  unfold startNotes startTries at hnone ⊢
  simp only [hop] at hnone ⊢
  rw [startOperation_accepted hop]
  have hviews : ((refresh B).start clock () g).1.firstStore store? = g.firstStore store? :=
    firstStore_of_views (Monitor.startChecks_views hB.probe clock hsize)
  have hstrategy₁ := (congrArg Frame.strategy (refresh_frame clock g)).trans hstrategy
  exact (afterChecks_leads hB hstrategy₁ (hviews.trans hs) hflag (unfailing_append.mp hnone).1).idle
    Monitor.startNotes_carried

theorem resume_leads (hB : PartlyGated B store? operation) {x : Execution B} (hx : x.AtFirst operation)
    (hstrategy : g.rotation.strategy = .firstHealthy) (hsize : g.monitor.records.length = g.backends.length)
    (hs : g.firstStore store? = some s)
    (hflag : ∀ op checks, x = .checking op checks →
      ((refresh B).resume clock checks g).1.monitor.flags[0]? = some true)
    (hnone : Unfailing 0 (resumeNotes caller clock x g)) :
    Leads store? operation (resumeNotes caller clock x g) s ((operate B).resume clock x g) := by
  cases x with
  | checking op checks =>
    have hviews : ((refresh B).resume clock checks g).1.firstStore store? = g.firstStore store? :=
      firstStore_of_views (Monitor.resumeChecks_views hB.probe clock checks hsize)
    have hstrategy₁ := (congrArg Frame.strategy (resumeRefresh_frame clock checks g)).trans hstrategy
    exact (afterChecks_leads hB hstrategy₁ (hviews.trans hs) (hflag op checks rfl) (unfailing_append.mp hnone).1).idle
      Monitor.resumeNotes_carried
  | attempting op i attempt rest fs =>
    obtain ⟨rfl, hop⟩ := hx
    obtain ⟨b, hb, hstore⟩ := firstStore_eq_some_iff.mp hs
    have htries : resumeTries clock (.attempting op 0 attempt rest fs) g = attemptsAfter g.timeout clock op 0 rest
        g.backends ((B.operate.within g.timeout).resume clock attempt b) := by
      simp only [resumeTries, hb]
    have hresume : (operate B).resume clock (.attempting op 0 attempt rest fs) g =
        afterAttempt clock op 0 rest fs g ((B.operate.within g.timeout).resume clock attempt b) := by
      simp only [operate, resumeOperation, hb]
    have hnotes : resumeNotes caller clock (.attempting op 0 attempt rest fs) g = tryNotes caller clock op
        (attemptsAfter g.timeout clock op 0 rest g.backends ((B.operate.within g.timeout).resume clock attempt b)) := by
      simp only [resumeNotes, htries, List.append_nil, Execution.operation]
    rw [hnotes] at hnone ⊢
    rw [hresume]
    exact afterAttempt_leads (List.getElem?_eq_some_iff.mp hb).1
      (hop ▸ hB.within_resume g.timeout clock attempt hstore) hnone

theorem abandon_firstStore (hB : PartlyGated B store? operation) (x : Execution B)
    (hsize : g.monitor.records.length = g.backends.length) :
    ((operate B).abandon x g).firstStore store? = g.firstStore store? := by
  cases x with
  | checking op checks => exact firstStore_of_views (Monitor.abandonChecks_views hB.probe checks (w := g.watch) hsize)
  | attempting op i attempt rest fs =>
    simp only [operate, abandonOperation]
    cases hb : g.backends[i]? with
    | none => rfl
    | some b => exact firstStore_of_views (views_kept hb (hB.abandon attempt.flight b))

end Failover

/-! ## Calls -/

namespace Caller

variable {B : Backend}

/-- The operation that is called, unless the call was dropped. -/
def asks : Caller B → Option Operation
  | operating x => some x.operation
  | returned op _ => some op
  | _ => none

theorem asks_ofRefresh (turn : Turn (Failover.refresh B).Flight Unit) : (ofRefresh turn).asks = none := by
  cases turn <;> rfl

theorem ofOperation_returned {op op' : Operation} {turn : Turn (Failover.operate B).Flight Failover.Result}
    {result : Failover.Result} (h : ofOperation op turn = .returned op' result) : op' = op ∧ turn = .done result := by
  cases turn with
  | done r =>
    cases h
    exact ⟨rfl, rfl⟩
  | waiting x => exact nomatch h

end Caller

namespace Traffic

variable {B : Backend} {store? : B.State → Option Store} {operation : B.operate.Flight → Operation} {s₀ : Store}
  {m₀ : Monitor} {t : Traffic B}

open Failover (Execution Result refusal?)

/-- A move that does not change the store of the first backend from outside. -/
def SparesFirst (store? : B.State → Option Store) : Move B → Prop
  | .outside change => ∀ b s, store? b = some s → store? (change 0 b) = some s
  | _ => True

/-- Between the first store, the log and the calls, from the store `s₀` on. -/
structure Leading (store? : B.State → Option Store) (operation : B.operate.Flight → Operation) (s₀ : Store)
    (t : Traffic B) : Prop where
  strategy : t.group.rotation.strategy = .firstHealthy
  executed : ∃ s, t.group.firstStore store? = some s ∧ Executed s₀ (Note.about 0 t.log) s
  waiting : ∀ (k : Nat) (x : Execution B), t.callers[k]? = some (.operating x) →
    x.AtFirst operation ∧ refusal? x.operation = none
  answered : ∀ (k : Nat) (op : Operation) (result : Result), t.callers[k]? = some (.returned op result) →
    ((∃ v, result = .ok v) ↔ refusal? op = none)
  position : ∀ n ∈ t.log, n.carried? ≠ none → n.position = 0

theorem Leading.populated (h : Leading store? operation s₀ t) : 0 < t.group.backends.length := by
  obtain ⟨s, hs, -⟩ := h.executed
  obtain ⟨b, hb, -⟩ := Failover.firstStore_eq_some_iff.mp hs
  exact (List.getElem?_eq_some_iff.mp hb).1

theorem Leading.moved (h : Leading store? operation s₀ t) {k : Nat} {notes : List Note} {g : Failover B} {c : Caller B}
    (hk : k ≤ t.callers.length) (hframe : g.frame = t.group.frame)
    (hexecuted : ∀ s, t.group.firstStore store? = some s →
      ∃ s', g.firstStore store? = some s' ∧ Executed s (Note.about 0 notes) s')
    (hwaiting : ∀ x, c = .operating x → x.AtFirst operation ∧ refusal? x.operation = none)
    (hanswered : ∀ op result, c = .returned op result → ((∃ v, result = .ok v) ↔ refusal? op = none))
    (hposition : ∀ n ∈ notes, n.carried? ≠ none → n.position = 0) :
    Leading store? operation s₀ (t.moved k notes g c) where
  strategy := (congrArg Frame.strategy hframe).trans h.strategy
  executed := by
    obtain ⟨s, hs, hbefore⟩ := h.executed
    obtain ⟨s', hs', hnow⟩ := hexecuted s hs
    exact ⟨s', hs', Note.about_append 0 notes t.log ▸ hbefore.append hnow⟩
  waiting j x hj := by
    rcases place_cases hk hj with ⟨-, hc⟩ | ⟨-, hold⟩
    · exact hwaiting x hc.symm
    · exact h.waiting j x hold
  answered j op result hj := by
    rcases place_cases hk hj with ⟨-, hc⟩ | ⟨-, hold⟩
    · exact hanswered op result hc.symm
    · exact h.answered j op result hold
  position n hn hcarried := by
    rcases List.mem_append.mp hn with hn | hn
    · exact hposition n hn hcarried
    · exact h.position n hn hcarried

/-- A turn of an operation that is not refused. -/
theorem Leading.led (h : Leading store? operation s₀ t) {k : Nat} {notes : List Note} {op : Operation}
    {p : Failover B × Turn (Execution B) Result} (hk : k ≤ t.callers.length) (hframe : p.1.frame = t.group.frame)
    (hop : refusal? op = none) (hsame : ∀ x, p.2 = .waiting x → x.operation = op)
    (hleads : ∀ s, t.group.firstStore store? = some s → Failover.Leads store? operation notes s p) :
    Leading store? operation s₀ (t.moved k notes p.1 (.ofOperation op p.2)) := by
  obtain ⟨s, hs, -⟩ := id h.executed
  have hled := hleads s hs
  refine h.moved hk hframe (fun s hs => (hleads s hs).executed) (fun x hx => ?_) (fun op' result hresult => ?_)
    hled.position
  · have hturn := Caller.ofOperation_eq hx
    exact ⟨hled.atFirst x hturn, (hsame x hturn).symm ▸ hop⟩
  · obtain ⟨rfl, hdone⟩ := Caller.ofOperation_returned hresult
    exact iff_of_true (hled.answered result hdone) hop

/-- A call that leaves the first store alone and is no operation. -/
theorem Leading.passed (h : Leading store? operation s₀ t) {k : Nat} {notes : List Note} {g : Failover B} {c : Caller B}
    (hk : k ≤ t.callers.length) (hframe : g.frame = t.group.frame)
    (hfirst : g.firstStore store? = t.group.firstStore store?) (hnotes : ∀ n ∈ notes, n.carried? = none)
    (hasks : c.asks = none) : Leading store? operation s₀ (t.moved k notes g c) := by
  refine h.moved hk hframe (fun s hs => ⟨s, hfirst.trans hs, ?_⟩) (fun x hx => ?_) (fun op result hresult => ?_)
    fun n hn hcarried => absurd (hnotes n hn) hcarried
  · exact .idle (fun n hn => hnotes n (Note.mem_about.mp hn).1) s
  · exact nomatch hx ▸ hasks
  · exact nomatch hresult ▸ hasks

theorem Leading.operated (h : Leading store? operation s₀ t) (hB : PartlyGated B store? operation) (hkept : Kept m₀ t)
    (h₀ : Fresh m₀) (op : Operation) (hnone : Unfailing 0 (t.after (.operate op)).log) :
    Leading store? operation s₀ (t.after (.operate op)) := by
  have hframe := Failover.start_frame t.clock op t.group
  cases hop : refusal? op with
  | some e =>
    have hnotes : Failover.startNotes t.callers.length t.clock op t.group = [] := by
      simp only [Failover.startNotes, Failover.startTries, hop]
      rfl
    refine h.moved (Nat.le_refl _) hframe (fun s hs => ⟨s, ?_, ?_⟩) (fun x hx => ?_) (fun op' result hresult => ?_)
      fun n hn _ => ?_
    · rw [Failover.startOperation_refused hop]
      exact hs
    · rw [hnotes]
      exact .nil
    · rw [Failover.startOperation_refused hop] at hx
      cases hx
    · rw [Failover.startOperation_refused hop] at hresult
      cases hresult
      simp [hop]
    · rw [hnotes] at hn
      exact absurd hn List.not_mem_nil
  | none =>
    refine h.led (Nat.le_refl _) hframe hop (Failover.start_ended t.clock op t.group).operation fun s hs => ?_
    obtain ⟨hnew, hold⟩ := unfailing_append.mp hnone
    refine Failover.start_leads hB hop h.strategy hkept.size hs ?_ hnew
    have hchecks : Unfailing 0 (Monitor.startNotes t.callers.length t.clock t.group.watch) := by
      have hsplit := hnew
      simp only [Failover.startNotes, hop] at hsplit
      exact (unfailing_append.mp hsplit).2
    exact hkept.flag_turned h₀ (Monitor.startChecks_turned t.callers.length t.clock t.group.watch) h.populated
      (unfailing_append.mpr ⟨hchecks, hold⟩)

theorem Leading.resumed (h : Leading store? operation s₀ t) (hB : PartlyGated B store? operation) (hkept : Kept m₀ t)
    (h₀ : Fresh m₀) {k : Nat} {c : Caller B} (hk : t.callers[k]? = some c) (hnone : Unfailing 0 (t.resumed k c).log) :
    Leading store? operation s₀ (t.resumed k c) := by
  have hle := number_le hk
  cases c with
  | operating x =>
    obtain ⟨hfirst, hop⟩ := h.waiting k x hk
    refine h.led hle (Failover.resume_frame ..) hop (Failover.resume_ended t.clock x t.group).operation fun s hs => ?_
    obtain ⟨hnew, hold⟩ := unfailing_append.mp hnone
    refine Failover.resume_leads hB hfirst h.strategy hkept.size hs (fun op checks hx => ?_) hnew
    subst hx
    have hclaimed := hkept.claimed k
    rw [checksOf_caller hk] at hclaimed
    exact hkept.flag_turned h₀ (Monitor.resumeChecks_turned k t.clock hclaimed hkept.size) h.populated
      (unfailing_append.mpr ⟨(unfailing_append.mp hnew).2, hold⟩)
  | refreshing checks =>
    exact h.passed hle (Failover.resumeRefresh_frame ..)
      (Failover.firstStore_of_views (Monitor.resumeChecks_views hB.probe t.clock checks hkept.size))
      Monitor.resumeNotes_carried (Caller.asks_ofRefresh _)
  | returned op result => exact h
  | refreshed => exact h
  | dropped => exact h

theorem Leading.abandoned (h : Leading store? operation s₀ t) (hB : PartlyGated B store? operation) (hkept : Kept m₀ t)
    {k : Nat} {c : Caller B} (hk : t.callers[k]? = some c) : Leading store? operation s₀ (t.abandoned k c) := by
  have hle := number_le hk
  cases c with
  | operating x =>
    exact h.passed hle (Failover.abandon_frame ..) (Failover.abandon_firstStore hB x hkept.size)
      (fun n hn => Note.carried?_cut (Failover.mem_abandonNotes hn)) rfl
  | refreshing checks =>
    exact h.passed hle (Failover.abandonRefresh_frame ..)
      (Failover.firstStore_of_views (Monitor.abandonChecks_views hB.probe checks hkept.size))
      (fun n hn => Note.carried?_cut (Monitor.mem_abandonNotes hn)) rfl
  | returned op result => exact h
  | refreshed => exact h
  | dropped => exact h

theorem Leading.after (h : Leading store? operation s₀ t) (hB : PartlyGated B store? operation) (hkept : Kept m₀ t)
    (h₀ : Fresh m₀) {move : Move B} (hmove : SparesFirst store? move) (hnone : Unfailing 0 (t.after move).log) :
    Leading store? operation s₀ (t.after move) := by
  cases move with
  | operate op => exact h.operated hB hkept h₀ op hnone
  | refresh =>
    exact h.passed (Nat.le_refl _) (Failover.refresh_frame ..)
      (Failover.firstStore_of_views (Monitor.startChecks_views hB.probe t.clock hkept.size))
      Monitor.startNotes_carried (Caller.asks_ofRefresh _)
  | turn k =>
    have hturn : t.after (.turn k) = t.callers[k]?.elim t (t.resumed k) := rfl
    rw [hturn] at hnone ⊢
    cases hk : t.callers[k]? with
    | none => exact h
    | some c =>
      rw [hk] at hnone
      exact h.resumed hB hkept h₀ hk hnone
  | drop k =>
    show Leading store? operation s₀ (t.callers[k]?.elim t (t.abandoned k))
    cases hk : t.callers[k]? with
    | none => exact h
    | some c => exact h.abandoned hB hkept hk
  | report i result =>
    have hbackends : (t.reported i result).group.backends = t.group.backends := by cases result <;> rfl
    have hfirst : (t.reported i result).group.firstStore store? = t.group.firstStore store? :=
      congrArg (fun bs : List B.State => bs[0]?.bind store?) hbackends
    obtain ⟨s, hs, hexecuted⟩ := h.executed
    have hidle : ∀ n ∈ [(⟨none, i, t.clock, .reported result⟩ : Note)], n.carried? = none := fun n hn => by
      rw [List.mem_singleton.mp hn]
      rfl
    refine ⟨(congrArg Frame.strategy (t.frame_after (.report i result))).trans h.strategy, ⟨s, hfirst.trans hs, ?_⟩,
      h.waiting, h.answered, fun n hn hcarried => ?_⟩
    · exact Note.about_append 0 [_] t.log ▸ hexecuted.append (.idle (fun n hn => hidle n (Note.mem_about.mp hn).1) s)
    · rcases List.mem_cons.mp hn with rfl | hn
      · exact absurd rfl hcarried
      · exact h.position n hn hcarried
  | outside change =>
    obtain ⟨s, hs, hexecuted⟩ := h.executed
    obtain ⟨b, hb, hstore⟩ := Failover.firstStore_eq_some_iff.mp hs
    refine ⟨h.strategy, ⟨s, Failover.firstStore_eq_some_iff.mpr ⟨change 0 b, ?_, hmove b s hstore⟩, hexecuted⟩,
      h.waiting, h.answered, h.position⟩
    show (t.group.backends.mapIdx change)[0]? = some (change 0 b)
    rw [List.getElem?_mapIdx, hb]
    rfl
  | pass elapsed wall => exact ⟨h.strategy, h.executed, h.waiting, h.answered, h.position⟩

theorem Leading.run (h : Leading store? operation s₀ t) (hB : PartlyGated B store? operation) (hkept : Kept m₀ t)
    (h₀ : Fresh m₀) {moves : List (Move B)} (hmoves : ∀ move ∈ moves, SparesFirst store? move)
    (hnone : Unfailing 0 (t.run moves).log) : Leading store? operation s₀ (t.run moves) := by
  induction moves generalizing t with
  | nil => exact h
  | cons move moves ih =>
    obtain ⟨hmove, hmoves⟩ := List.forall_mem_cons.mp hmoves
    have hlater : Unfailing 0 ((t.after move).run moves).log := hnone
    have hafter : Unfailing 0 (t.after move).log := unfailing_run hlater
    exact ih (h.after hB hkept h₀ hmove hafter) (hkept.after h₀ move) hmoves hnone

theorem leading_opened {g : Failover B} (hstrategy : g.rotation.strategy = .firstHealthy)
    (hs : g.firstStore store? = some s₀) (interval timeout threshold : Nat) (clock : Clock) :
    Leading store? operation s₀ (opened g interval timeout threshold clock) where
  strategy := hstrategy
  executed := ⟨s₀, hs, .nil⟩
  waiting _ _ hk := nomatch hk
  answered _ _ _ hk := nomatch hk
  position _ hn := nomatch hn

end Traffic

end RateCounter
