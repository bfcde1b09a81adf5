/-
  RateCounter.Proofs.Failover.Refused — what a group refuses, and what it never hands on.

  A group refuses an increment with a window that no backend accepts in its first turn, and
  is left as it was; nothing else that it is asked for comes to an invalid argument, or, if
  it is asked as a backend, to a fault of its own (`refuses`).

  All that an operation hands on is itself, and it is handed on only if it is not refused
  (`tries_of_comes`). So whatever such operations and health checks leave alone at every
  backend, every call on the group leaves alone, a refused one too (`spares_backend`).
-/

import RateCounter.Proofs.Failover.Landed
import RateCounter.Proofs.Health.Checkups

namespace RateCounter

/-! ## How calls can stand -/

namespace Service

variable {σ τ α ρ ρ' : Type}

/-- A call with this argument can come to stand so. It has its turns at any instants, and between
    them others change the state. -/
inductive Comes (S : Service σ α ρ) (a : α) : Turn S.Flight ρ → Prop
  | start (clock : Clock) (s : σ) : Comes S a (S.start clock a s).2
  | resume (clock : Clock) {f : S.Flight} (s : σ) : Comes S a (.waiting f) → Comes S a (S.resume clock f s).2

namespace Comes

variable {S : Service σ α ρ} {a : α}

theorem poll {f : S.Flight} (h : S.Comes a (.waiting f)) (clock : Clock) (s : σ) : S.Comes a (S.poll clock f s).2 := by
  unfold Service.poll
  split
  · exact h.resume clock s
  · exact h

theorem bound {clock : Clock} {deadline : Nat} {p : σ × Turn S.Flight ρ} (h : S.Comes a p.2) {b : Bounded S.Flight}
    (hb : (S.bound clock deadline p).2 = .waiting b) : S.Comes a (.waiting b.flight) := by
  obtain ⟨s, r | f⟩ := p
  · cases hb
  · rcases Nat.lt_or_ge clock.mono deadline with hearly | hlate
    · rw [bound_waiting s f hearly] at hb
      cases hb
      exact h
    · rw [bound_late s f hlate] at hb
      cases hb

theorem of_mapReply {r : ρ → ρ'} {turn : Turn (S.mapReply r).Flight ρ'} (h : (S.mapReply r).Comes a turn) :
    ∃ turn', S.Comes a turn' ∧ turn = turn'.map id r := by
  induction h with
  | start clock s => exact ⟨_, .start clock s, rfl⟩
  | @resume clock f s _ ih =>
    obtain ⟨turn' | f', h, hturn⟩ := ih
    · cases hturn
    · cases hturn
      exact ⟨_, h.resume clock s, rfl⟩

theorem of_mapReply_waiting {r : ρ → ρ'} {f : S.Flight} (h : (S.mapReply r).Comes a (.waiting f)) :
    S.Comes a (.waiting f) := by
  obtain ⟨r' | f', hcomes, hturn⟩ := h.of_mapReply
  · cases hturn
  · cases hturn
    exact hcomes

/-- A call on either of two kinds of state is one on the kind that it was started on. -/
theorem of_sum {T : Service τ α ρ} {turn : Turn (S.sum T).Flight ρ} (h : (S.sum T).Comes a turn) :
    (∃ turn', S.Comes a turn' ∧ turn = turn'.map .inl id) ∨ ∃ turn', T.Comes a turn' ∧ turn = turn'.map .inr id := by
  induction h with
  | start clock s =>
    cases s with
    | inl s => exact .inl ⟨_, .start clock s, rfl⟩
    | inr s => exact .inr ⟨_, .start clock s, rfl⟩
  | @resume clock f s hf ih =>
    rcases ih with ⟨r | f, h, hturn⟩ | ⟨r | f, h, hturn⟩
    · cases hturn
    · cases hturn
      cases s with
      | inl s => exact .inl ⟨_, h.resume clock s, rfl⟩
      | inr s => exact .inl ⟨_, h, rfl⟩
    · cases hturn
    · cases hturn
      cases s with
      | inl s => exact .inr ⟨_, h, rfl⟩
      | inr s => exact .inr ⟨_, h.resume clock s, rfl⟩

theorem of_sum_waiting {T : Service τ α ρ} {f : (S.sum T).Flight} (h : (S.sum T).Comes a (.waiting f)) :
    (∃ f', f = .inl f' ∧ S.Comes a (.waiting f')) ∨ ∃ f', f = .inr f' ∧ T.Comes a (.waiting f') := by
  rcases h.of_sum with ⟨r | f', hcomes, hturn⟩ | ⟨r | f', hcomes, hturn⟩
  · cases hturn
  · cases hturn
    exact .inl ⟨f', rfl, hcomes⟩
  · cases hturn
  · cases hturn
    exact .inr ⟨f', rfl, hcomes⟩

end Comes

end Service

/-! ## What operations spare -/

open Failover (refusal?)

/-- Operations that are not refused, and checks, leave alone what `view` shows. -/
structure Backend.Spares {τ : Type} (B : Backend) (view : B.State → τ) : Prop where
  start : ∀ {op}, refusal? op = none → ∀ clock b, view (B.operate.start clock op b).1 = view b
  resume : ∀ {op f}, refusal? op = none → B.operate.Comes op (.waiting f) →
    ∀ clock b, view (B.operate.resume clock f b).1 = view b
  abandon : ∀ {op f}, refusal? op = none → B.operate.Comes op (.waiting f) →
    ∀ b, view (B.operate.abandon f b) = view b
  probe : B.probe.Leaves view

namespace Backend.Spares

variable {τ υ : Type} {A B : Backend} {view : B.State → τ}

theorem map (h : B.Spares view) (f : τ → υ) : B.Spares fun b => f (view b) where
  start hop clock b := congrArg f (h.start hop clock b)
  resume hop hf clock b := congrArg f (h.resume hop hf clock b)
  abandon hop hf b := congrArg f (h.abandon hop hf b)
  probe := ⟨fun clock a b => congrArg f (h.probe.start clock a b),
    fun clock x b => congrArg f (h.probe.resume clock x b), fun x b => congrArg f (h.probe.abandon x b)⟩

/-- Nothing is to be seen, nothing changes. -/
theorem blind (B : Backend) : B.Spares fun _ => () :=
  ⟨fun _ _ _ => rfl, fun _ _ _ _ => rfl, fun _ _ _ => rfl, ⟨fun _ _ _ => rfl, fun _ _ _ => rfl, fun _ _ => rfl⟩⟩

theorem sum {view' : A.State → τ} (hA : A.Spares view') (hB : B.Spares view) :
    (A.sum B).Spares (Sum.elim view' view) := by
  refine ⟨fun hop clock b => ?_, fun hop hf clock b => ?_, fun hop hf b => ?_, ⟨fun clock a b => ?_,
    fun clock f b => ?_, fun f b => ?_⟩⟩
  · cases b with
    | inl b => exact hA.start hop clock b
    | inr b => exact hB.start hop clock b
  · rcases hf.of_sum_waiting with ⟨f, rfl, h⟩ | ⟨f, rfl, h⟩
    · cases b with
      | inl b => exact hA.resume hop h clock b
      | inr b => rfl
    · cases b with
      | inl b => rfl
      | inr b => exact hB.resume hop h clock b
  · rcases hf.of_sum_waiting with ⟨f, rfl, h⟩ | ⟨f, rfl, h⟩
    · cases b with
      | inl b => exact hA.abandon hop h b
      | inr b => rfl
    · cases b with
      | inl b => rfl
      | inr b => exact hB.abandon hop h b
  · cases b with
    | inl b => exact hA.probe.start clock a b
    | inr b => exact hB.probe.start clock a b
  · cases f <;> cases b <;> first | rfl | exact hA.probe.resume .. | exact hB.probe.resume ..
  · cases f <;> cases b <;> first | rfl | exact hA.probe.abandon .. | exact hB.probe.abandon ..

/-! ### Under a time limit -/

variable {op : Operation}

theorem bound (h : B.Spares view) (hop : refusal? op = none) (clock : Clock) (deadline : Nat)
    {p : B.State × Turn B.operate.Flight Outcome} (hp : B.operate.Comes op p.2) :
    view (B.operate.bound clock deadline p).1 = view p.1 := by
  obtain ⟨b, r | f⟩ := p
  · rfl
  · rcases Nat.lt_or_ge clock.mono deadline with hearly | hlate
    · rw [Service.bound_waiting b f hearly]
    · rw [Service.bound_late b f hlate]
      exact h.abandon hop hp b

theorem within_start (h : B.Spares view) (hop : refusal? op = none) (limit : Nat) (clock : Clock) (b : B.State) :
    view ((B.operate.within limit).start clock op b).1 = view b :=
  (h.bound hop clock _ (.start clock b)).trans (h.start hop clock b)

theorem within_resume (h : B.Spares view) (hop : refusal? op = none) (limit : Nat)
    {attempt : Service.Bounded B.operate.Flight} (hf : B.operate.Comes op (.waiting attempt.flight)) (clock : Clock)
    (b : B.State) : view ((B.operate.within limit).resume clock attempt b).1 = view b := by
  refine (h.bound hop clock attempt.deadline (hf.poll clock b)).trans ?_
  unfold Service.poll
  split
  · exact h.resume hop hf clock b
  · rfl

end Backend.Spares

/-! ## Groups -/

namespace Monitor

variable {B : Backend} {τ : Type} {view : B.State → τ}

/-- What has no partner in the other list is not checked. -/
theorem backends_setPairs_views {w : Watch B} {ps : List (Watched B)}
    (hps : ps.map (fun p => view p.2) = w.pairs.map fun p => view p.2) :
    (w.setPairs ps).backends.map view = w.backends.map view := by
  refine List.ext_getElem? fun i => ?_
  have hi : (ps[i]?.map fun p => view p.2) = w.pairs[i]?.map fun p => view p.2 := by
    rw [← List.getElem?_map, hps, List.getElem?_map]
  rw [List.getElem?_map, List.getElem?_map, backends_setPairs]
  cases hp : ps[i]? with
  | none => rfl
  | some p =>
    rw [hp] at hi
    obtain ⟨q, hq, hview⟩ := Option.map_eq_some_iff.mp hi.symm
    have hb : w.backends[i]? = some q.2 := (List.getElem?_zip_eq_some.mp hq).2
    rw [hb]
    exact congrArg some hview.symm

theorem refresh_leaves (h : B.probe.Leaves view) : (refresh B).Leaves fun w => w.backends.map view where
  start clock _ w := backends_setPairs_views ((check_leaves h w.monitor).startEach clock () w.pairs)
  resume clock checks w := backends_setPairs_views ((check_leaves h w.monitor).pollEach clock checks w.pairs)
  abandon checks w := backends_setPairs_views ((check_leaves h w.monitor).abandonEach checks w.pairs)

end Monitor

namespace Failover

open Monitor (Checks)

variable {τ : Type} {B : Backend} {view : B.State → τ} {op : Operation} {clock : Clock}

/-- What the backends show, one after the other. -/
def views (view : B.State → τ) (g : Failover B) : List τ := g.backends.map view

theorem refresh_leaves (h : B.probe.Leaves view) : (refresh B).Leaves (views view) where
  start clock a g := (Monitor.refresh_leaves h).start clock a g.watch
  resume clock checks g := (Monitor.refresh_leaves h).resume clock checks g.watch
  abandon checks g := (Monitor.refresh_leaves h).abandon checks g.watch

/-- An operation that is under way tries just that operation at the backends. -/
def Execution.Tries (op : Operation) : Execution B → Prop
  | .checking op' _ => op' = op
  | .attempting op' _ attempt _ _ => op' = op ∧ B.operate.Comes op (.waiting attempt.flight)

/-- How an operation can stand that was not refused. -/
def Stands (op : Operation) : Turn (Execution B) Result → Prop
  | .waiting x => x.Tries op
  | .done result => ∀ e, result = .error e → ∃ fs, e = .allBackendsFailed op.name fs

/-- A turn of an operation that was not refused. -/
structure Spared (view : B.State → τ) (op : Operation) (g : Failover B)
    (p : Failover B × Turn (Execution B) Result) : Prop where
  views : p.1.views view = g.views view
  stands : Stands op p.2

theorem afterAttempt_spared {rest : List Nat}
    (hrest : ∀ (fs : List Failure) (g : Failover B), Spared view op g (tryEach clock op rest fs g)) {i : Nat}
    (fs : List Failure) {g : Failover B} {b : B.State} (hb : g.backends[i]? = some b)
    {p : B.State × Turn (Service.Bounded B.operate.Flight) (Option Outcome)} (hview : view p.1 = view b)
    (hcomes : ∀ attempt, p.2 = .waiting attempt → B.operate.Comes op (.waiting attempt.flight)) :
    Spared view op g (afterAttempt clock op i rest fs g p) := by
  obtain ⟨b', answer | attempt⟩ := p
  · have hkept : (g.setBackend i b').views view = g.views view := views_kept hb hview
    simp only [afterAttempt]
    cases outcomeOf op g.timeout answer with
    | ok value =>
      refine ⟨hkept, fun e he => ?_⟩
      cases he
    | error e =>
      have h := hrest (fs ++ [⟨g.nameAt i, e⟩]) ((g.setBackend i b').failAt i e)
      exact ⟨h.views.trans hkept, h.stands⟩
  · exact ⟨views_kept hb hview, rfl, hcomes attempt rfl⟩

theorem tryEach_spared (hB : B.Spares view) (hop : refusal? op = none) (cs : List Nat) (fs : List Failure)
    (g : Failover B) : Spared view op g (tryEach clock op cs fs g) := by
  induction cs generalizing fs g with
  | nil =>
    refine ⟨rfl, fun e he => ?_⟩
    cases he
    exact ⟨fs, rfl⟩
  | cons i cs ih =>
    cases hb : g.backends[i]? with
    | none =>
      simp only [tryEach, hb]
      exact ih fs g
    | some b =>
      rw [tryEach_cons clock op cs fs hb]
      exact afterAttempt_spared ih fs hb (hB.within_start hop g.timeout clock b) fun attempt hturn =>
        (Service.Comes.start clock b).bound hturn

theorem afterChecks_spared (hB : B.Spares view) (hop : refusal? op = none) {g : Failover B}
    {p : Failover B × Turn (Checks B) Unit} (hviews : p.1.views view = g.views view) :
    Spared view op g (afterChecks clock op p) := by
  obtain ⟨g₁, u | checks⟩ := p
  · let g₂ : Failover B := { g₁ with rotation := (g₁.rotation.candidates g₁.monitor.flags).2 }
    have h : Spared view op g₂ (tryEach clock op (g₁.rotation.candidates g₁.monitor.flags).1 [] g₂) :=
      tryEach_spared hB hop _ [] g₂
    exact ⟨h.views.trans hviews, h.stands⟩
  · exact ⟨hviews, rfl⟩

theorem start_spared (hB : B.Spares view) (hop : refusal? op = none) (clock : Clock) (g : Failover B) :
    Spared view op g ((operate B).start clock op g) := by
  rw [startOperation_accepted hop]
  exact afterChecks_spared hB hop ((refresh_leaves hB.probe).start clock () g)

theorem resume_spared (hB : B.Spares view) (hop : refusal? op = none) {x : Execution B} (hx : x.Tries op)
    (clock : Clock) (g : Failover B) : Spared view op g ((operate B).resume clock x g) := by
  cases x with
  | checking op' checks =>
    cases hx
    exact afterChecks_spared hB hop ((refresh_leaves hB.probe).resume clock checks g)
  | attempting op' i attempt rest fs =>
    obtain ⟨rfl, hcomes⟩ := hx
    simp only [operate, resumeOperation]
    cases hb : g.backends[i]? with
    | none => exact tryEach_spared hB hop rest fs g
    | some b =>
      exact afterAttempt_spared (tryEach_spared hB hop rest) fs hb (hB.within_resume hop g.timeout hcomes clock b)
        fun attempt' hturn => (hcomes.poll clock b).bound hturn

theorem abandon_spared (hB : B.Spares view) (hop : refusal? op = none) {x : Execution B} (hx : x.Tries op)
    (g : Failover B) : ((operate B).abandon x g).views view = g.views view := by
  cases x with
  | checking op' checks => exact (refresh_leaves hB.probe).abandon checks g
  | attempting op' i attempt rest fs =>
    obtain ⟨rfl, hcomes⟩ := hx
    simp only [operate, abandonOperation]
    cases hb : g.backends[i]? with
    | none => rfl
    | some b => exact views_kept hb (hB.abandon hop hcomes b)

/-! ## Calls on a group -/

theorem stands_of_comes (hop : refusal? op = none) {turn : Turn (operate B).Flight Result}
    (h : (operate B).Comes op turn) : Stands op turn := by
  induction h with
  | start clock g => exact (start_spared (.blind B) hop clock g).stands
  | resume clock g _ ih => exact (resume_spared (.blind B) hop ih clock g).stands

theorem refused_of_comes {e : WindowError} (hop : refusal? op = some e) {turn : Turn (operate B).Flight Result}
    (h : (operate B).Comes op turn) : turn = .done (.error (.invalidArgument e.message)) := by
  induction h with
  | start clock g => rw [startOperation_refused hop]
  | resume clock g _ ih => cases ih

theorem tries_of_comes {x : Execution B} (h : (operate B).Comes op (.waiting x)) :
    refusal? op = none ∧ x.Tries op := by
  cases hop : refusal? op with
  | none => exact ⟨rfl, stands_of_comes hop h⟩
  | some e => exact nomatch refused_of_comes hop h

theorem start_views (hB : B.Spares view) (clock : Clock) (op : Operation) (g : Failover B) :
    ((operate B).start clock op g).1.views view = g.views view := by
  cases hop : refusal? op with
  | none => exact (start_spared hB hop clock g).views
  | some e => rw [startOperation_refused hop]

theorem resume_views (hB : B.Spares view) {x : Execution B} (hx : (operate B).Comes op (.waiting x)) (clock : Clock)
    (g : Failover B) : ((operate B).resume clock x g).1.views view = g.views view :=
  let ⟨hop, hx⟩ := tries_of_comes hx
  (resume_spared hB hop hx clock g).views

theorem abandon_views (hB : B.Spares view) {x : Execution B} (hx : (operate B).Comes op (.waiting x)) (g : Failover B) :
    ((operate B).abandon x g).views view = g.views view :=
  let ⟨hop, hx⟩ := tries_of_comes hx
  abandon_spared hB hop hx g

theorem spares_backend (hB : B.Spares view) : (backend B).Spares (views view) where
  start _ clock g := start_views hB clock _ g
  resume _ hx clock g := resume_views hB hx.of_mapReply_waiting clock g
  abandon _ hx g := abandon_views hB hx.of_mapReply_waiting g
  probe := ⟨(refresh_leaves hB.probe).start, (refresh_leaves hB.probe).resume, (refresh_leaves hB.probe).abandon⟩

/-! ## Bad windows -/

/-- Zero, or longer than any backend accepts. -/
def IsBad (window : Nat) : Prop := window = 0 ∨ maxWindow < window

theorem refusal?_increment {key : String} {window : Nat} {e : WindowError} :
    refusal? (.increment key window) = some e ↔ Window.accept window = .error e := by
  cases h : Window.accept window <;> simp [refusal?, h]

theorem isBad_iff {window : Nat} : IsBad window ↔ ∃ e, Window.accept window = .error e := by
  unfold IsBad Window.accept
  by_cases hzero : window = 0
  · simp [hzero]
  · by_cases hlong : maxWindow < window <;> simp [hzero, hlong]

/-- How groups of backends like `B` answer an increment, called on directly and as backends. -/
structure Refuses (B : Backend) (key : String) (window : Nat) : Prop where
  /-- A bad window is refused in the first turn, and nothing is changed. -/
  unchanged : IsBad window → ∃ e, Window.accept window = .error e ∧ ∀ clock (g : Failover B),
    (operate B).start clock (.increment key window) g = (g, .done (.error (.invalidArgument e.message))) ∧
      (backend B).operate.start clock (.increment key window) g =
        (g, .done (.error (.internal (Error.invalidArgument e.message).message)))
  argument : ∀ result, (operate B).Comes (.increment key window) (.done result) →
    ((∃ reason, result = .error (.invalidArgument reason)) ↔ IsBad window)
  inside : ∀ outcome, (backend B).operate.Comes (.increment key window) (.done outcome) →
    ((∃ reason, outcome = .error (.internal reason)) ↔ IsBad window)

theorem refuses (B : Backend) (key : String) (window : Nat) : Refuses B key window := by
  cases hop : refusal? (.increment key window) with
  | some e =>
    have haccept : Window.accept window = .error e := refusal?_increment.mp hop
    have hbad : IsBad window := isBad_iff.mpr ⟨e, haccept⟩
    refine ⟨fun _ => ⟨e, haccept, fun clock g => ?_⟩, fun result h => ?_, fun outcome h => ?_⟩
    · have hstart := startOperation_refused hop clock g
      refine ⟨hstart, ?_⟩
      show (((operate B).start clock (.increment key window) g).1,
        ((operate B).start clock (.increment key window) g).2.map id _) = _
      rw [hstart]
      rfl
    · cases refused_of_comes hop h
      exact iff_of_true ⟨_, rfl⟩ hbad
    · obtain ⟨turn, h, hturn⟩ := h.of_mapReply
      rw [refused_of_comes hop h] at hturn
      cases hturn
      exact iff_of_true ⟨_, rfl⟩ hbad
  | none =>
    have hgood : ¬ IsBad window := fun hbad => by
      obtain ⟨e, he⟩ := isBad_iff.mp hbad
      exact nomatch hop.symm.trans (refusal?_increment.mpr he)
    refine ⟨fun hbad => absurd hbad hgood, fun result h => iff_of_false (fun ⟨reason, hreason⟩ => ?_) hgood,
      fun outcome h => iff_of_false (fun ⟨reason, hreason⟩ => ?_) hgood⟩
    · obtain ⟨fs, hfs⟩ := stands_of_comes hop h _ hreason
      cases hfs
    · obtain ⟨result | x, h, hturn⟩ := h.of_mapReply
      · cases result with
        | ok v =>
          cases hturn
          cases hreason
        | error e =>
          obtain ⟨fs, rfl⟩ := stands_of_comes hop h e rfl
          cases hturn
          cases hreason
      · cases hturn

end Failover

end RateCounter
