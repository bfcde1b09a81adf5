/-
  RateCounter.Proofs.Failover.SingleFlight — health checks among any number of calls.

  In its first turn a call begins a check of every backend where one may begin: it is due by
  the log, and none is in flight. The other backends it leaves alone, but for the attempts it
  goes on to (`Opens`). Later it begins none, and a check that is dropped leaves no trace.

  That no other check is made is seen from the backends: in any traffic on backends that tally
  their checks, the tallies and the log agree (`Counted`).

  - `checks_single_spaced_released`: at any moment of any traffic at most one check of a
    backend is in flight, and its record is claimed just then; a check begins when it is due,
    no sooner and whenever a refresh finds it so; one that is dropped is released. These are
    all the checks that the backends are asked for (`Tallies`).
-/

import RateCounter.Proofs.Failover.Landed
import RateCounter.Proofs.Failover.MirroredTraffic
import RateCounter.Proofs.Health.Tally

namespace RateCounter

open Monitor (Checks holds)

/-! ## The first turn of a refresh -/

namespace Monitor

variable {B : Backend} {clock : Clock}

/-- What a call does in its first turn about the check of a backend: if one may begin, it does,
    and otherwise the backend is left alone. `flight` is the check if it waits then. -/
structure Considered (timeout : Nat) (clock : Clock) (may : Prop) (b b' : B.State)
    (flight : Option (Service.Bounded B.probe.Flight)) : Prop where
  begun : may → b' = ((B.probe.within timeout).start clock () b).1 ∧
    flight = ((B.probe.within timeout).start clock () b).2.flight?
  left : ¬may → b' = b ∧ flight = none

theorem Considered.congr {timeout : Nat} {may may' : Prop} {b b' : B.State}
    {flight : Option (Service.Bounded B.probe.Flight)} (h : may ↔ may')
    (hconsidered : Considered timeout clock may b b' flight) : Considered timeout clock may' b b' flight :=
  ⟨fun hmay => hconsidered.begun (h.mpr hmay), fun hnot => hconsidered.left fun hmay => hnot (h.mp hmay)⟩

/-- A turn of a check is the turn of the backend. -/
theorem observe_turn {φ : Type} (m : Monitor) (clock : Clock) (h : Health) (p : B.State × Turn φ (Option Bool)) :
    (m.observe clock h p).1.2 = p.1 ∧ (m.observe clock h p).2.flight? = p.2.flight? := by
  obtain ⟨b, answer | f⟩ := p <;> exact ⟨rfl, rfl⟩

theorem check_considered (m : Monitor) (clock : Clock) (w : Watched B) :
    Considered m.timeout clock (w.1.isStale m.interval clock.mono = true ∧ w.1.claimed = false) w.2
      ((check B m).start clock () w).1.2 ((check B m).start clock () w).2.flight? := by
  by_cases hdue : (w.1.isStale m.interval clock.mono && !w.1.claimed) = true
  · have hstart : (check B m).start clock () w =
        m.observe clock w.1 ((B.probe.within m.timeout).start clock () w.2) := if_pos hdue
    rw [hstart]
    exact ⟨fun _ => observe_turn .., fun hnot => absurd (by simpa using hdue) hnot⟩
  · have hstart : (check B m).start clock () w = (w, .done ()) := if_neg hdue
    rw [hstart]
    exact ⟨fun hmay => absurd (by simpa using hmay) hdue, fun _ => ⟨rfl, rfl⟩⟩

theorem startChecks_considered (clock : Clock) {w : Watch B} (hsize : w.monitor.records.length = w.backends.length)
    {i : Nat} {b : B.State} (hb : w.backends[i]? = some b) :
    ∃ b', (startChecks clock w).1.backends[i]? = some b' ∧
      Considered w.monitor.timeout clock (w.monitor.IsDue clock i) b b'
        ((startChecks clock w).2.flight?.getD [])[i]?.join := by
  have hi : i < w.monitor.records.length := hsize ▸ (List.getElem?_eq_some_iff.mp hb).1
  obtain ⟨r, hr⟩ : ∃ r, w.monitor.records[i]? = some r := ⟨_, List.getElem?_eq_getElem hi⟩
  have hp : w.pairs[i]? = some (r, b) := List.getElem?_zip_eq_some.mpr ⟨hr, hb⟩
  have hstate := Service.getElem?_startEach (check B w.monitor) clock () w.pairs i
  have hflight := Service.flight_startEach (check B w.monitor) clock () w.pairs i
  rw [hp] at hstate hflight
  have hjoined : ((startChecks clock w).2.flight?.getD [])[i]?.join =
      ((check B w.monitor).start clock () (r, b)).2.flight? := (Service.flight_joined _ i).trans hflight
  have hdue : r.isStale w.monitor.interval clock.mono = true ∧ r.claimed = false ↔ w.monitor.IsDue clock i :=
    ⟨fun hdue => ⟨r, hr, hdue⟩, fun ⟨r', hr', hdue⟩ => Option.some.inj (hr.symm.trans hr') ▸ hdue⟩
  refine ⟨((check B w.monitor).start clock () (r, b)).1.2, (backends_setPairs ..).trans ?_, ?_⟩
  · exact congrArg (fun p : Option (Watched B) => (p.map (·.2)).or w.backends[i]?) hstate
  · rw [hjoined]
    exact (check_considered w.monitor clock (r, b)).congr hdue

end Monitor

/-! ## Attempts -/

namespace Failover

variable {B : Backend} {τ : Type} {view : B.State → τ} {caller : Nat} {clock : Clock} {op : Operation}

/-- Attempts leave alone what operations leave alone. -/
theorem afterAttempt_leaves {rest : List Nat}
    (hrest : ∀ (fs : List Failure) (g : Failover B),
      (tryEach clock op rest fs g).1.backends.map view = g.backends.map view)
    {i : Nat} (fs : List Failure) {g : Failover B} {b : B.State} (hb : g.backends[i]? = some b)
    {p : B.State × Turn (Service.Bounded B.operate.Flight) (Option Outcome)} (hp : view p.1 = view b) :
    (afterAttempt clock op i rest fs g p).1.backends.map view = g.backends.map view := by
  have hkept := views_kept hb hp
  obtain ⟨b', answer | attempt⟩ := p
  · simp only [afterAttempt]
    cases outcomeOf op g.timeout answer with
    | ok value => exact hkept
    | error e => exact (hrest _ _).trans hkept
  · exact hkept

theorem tryEach_leaves (h : B.operate.Leaves view) (clock : Clock) (op : Operation) (cs : List Nat)
    (fs : List Failure) (g : Failover B) :
    (tryEach clock op cs fs g).1.backends.map view = g.backends.map view := by
  induction cs generalizing fs g with
  | nil => rfl
  | cons i cs ih =>
    cases hb : g.backends[i]? with
    | none =>
      simp only [tryEach, hb]
      exact ih fs g
    | some b =>
      rw [tryEach_cons clock op cs fs hb]
      exact afterAttempt_leaves ih fs hb ((h.within g.timeout).start clock op b)

theorem afterChecks_leaves (h : B.operate.Leaves view) (clock : Clock) (op : Operation)
    (p : Failover B × Turn (Checks B) Unit) :
    (afterChecks clock op p).1.backends.map view = p.1.backends.map view := by
  obtain ⟨g, u | checks⟩ := p
  · exact tryEach_leaves h clock op _ [] { g with rotation := (g.rotation.candidates g.monitor.flags).2 }
  · rfl

theorem attempting_leaves (h : B.operate.Leaves view) (clock : Clock) (op : Operation) (i : Nat)
    (attempt : Service.Bounded B.operate.Flight) (rest : List Nat) (fs : List Failure) (g : Failover B) :
    ((operate B).resume clock (.attempting op i attempt rest fs) g).1.backends.map view = g.backends.map view := by
  simp only [operate, resumeOperation]
  cases hb : g.backends[i]? with
  | none => exact tryEach_leaves h clock op rest fs g
  | some b =>
    exact afterAttempt_leaves (tryEach_leaves h clock op rest) fs hb ((h.within g.timeout).resume clock attempt b)

theorem abandonAttempt_leaves (h : B.operate.Leaves view) (op : Operation) (i : Nat)
    (attempt : Service.Bounded B.operate.Flight) (rest : List Nat) (fs : List Failure) (g : Failover B) :
    ((operate B).abandon (.attempting op i attempt rest fs) g).backends.map view = g.backends.map view := by
  simp only [operate, abandonOperation]
  cases hb : g.backends[i]? with
  | none => rfl
  | some b => exact views_kept hb (h.abandon attempt.flight b)

/-! ## Operations on backends that tally their checks -/

theorem starts_tryNotes (caller : Nat) (clock : Clock) (op : Operation) (tries : List Try) (i : Nat) :
    Note.starts i (tryNotes caller clock op tries) = [] := by
  refine Note.starts_eq_nil fun n hn => ?_
  obtain ⟨-, -, t, -, -, htried⟩ := mem_tryNotes hn
  unfold Note.begun?
  rw [htried]

theorem ends_tryNotes (caller : Nat) (clock : Clock) (op : Operation) (tries : List Try) (i : Nat) :
    Note.ends i (tryNotes caller clock op tries) = 0 := by
  refine Note.ends_eq_zero fun n hn => ?_
  obtain ⟨-, -, t, -, -, htried⟩ := mem_tryNotes hn
  rw [htried]
  rfl

/-- Attempts that follow a turn of the checks. -/
theorem Tried.tallied {notes : List Note} {held checks : Checks B.tallied} {bs : List B.tallied.State}
    {g : Failover B.tallied} {tries : List Try} {p : Failover B.tallied × Turn (Execution B.tallied) Result}
    (htried : Tried caller clock op tries checks g p) (h : Monitor.Tallied notes held checks bs g.backends)
    (hleft : p.1.backends.map Prod.snd = g.backends.map Prod.snd) :
    Monitor.Tallied (tryNotes caller clock op tries ++ notes) held (inFlight p.2) bs p.1.backends := by
  intro i s' hs'
  obtain ⟨s, hs, henters⟩ := h.left hleft i s' hs'
  refine ⟨s, hs, ?_⟩
  rw [Note.starts_append, starts_tryNotes, List.nil_append, Note.ends_append, ends_tryNotes, Nat.zero_add,
    htried.pending]
  exact henters

theorem start_tallied (caller : Nat) (clock : Clock) (op : Operation) {g : Failover B.tallied}
    (hsize : g.monitor.records.length = g.backends.length) :
    Monitor.Tallied (startNotes caller clock op g) [] (inFlight ((operate B.tallied).start clock op g).2) g.backends
      ((operate B.tallied).start clock op g).1.backends := by
  unfold startNotes startTries
  cases hop : refusal? op with
  | some e =>
    rw [startOperation_refused hop]
    exact .idle [] g.backends
  | none =>
    rw [startOperation_accepted hop]
    exact (afterChecks_tried caller clock op _).tallied (Monitor.startChecks_tallied caller clock hsize)
      (afterChecks_leaves B.tallied_operate_leaves clock op _)

theorem resume_tallied (caller : Nat) (clock : Clock) (x : Execution B.tallied) {g : Failover B.tallied}
    (hsize : g.monitor.records.length = g.backends.length) :
    Monitor.Tallied (resumeNotes caller clock x g) x.checks (inFlight ((operate B.tallied).resume clock x g).2)
      g.backends ((operate B.tallied).resume clock x g).1.backends := by
  cases x with
  | checking op checks =>
    exact (afterChecks_tried caller clock op _).tallied (Monitor.resumeChecks_tallied caller clock checks hsize)
      (afterChecks_leaves B.tallied_operate_leaves clock op _)
  | attempting op i attempt rest fs =>
    exact (attempting_tried caller clock op i attempt rest fs g).tallied (.idle [] g.backends)
      (attempting_leaves B.tallied_operate_leaves clock op i attempt rest fs g)

theorem abandon_tallied (caller : Nat) (clock : Clock) (x : Execution B.tallied) {g : Failover B.tallied}
    (hsize : g.monitor.records.length = g.backends.length) :
    Monitor.Tallied (abandonNotes caller clock x g) x.checks [] g.backends
      ((operate B.tallied).abandon x g).backends := by
  cases x with
  | checking op checks => exact Monitor.abandonChecks_tallied caller clock checks hsize
  | attempting op i attempt rest fs =>
    exact (Monitor.Tallied.idle [] g.backends).left (abandonAttempt_leaves B.tallied_operate_leaves op i attempt rest fs g)

end Failover

/-! ## Calls -/

/-- A check that is in flight after a turn of its call was so before. -/
theorem Caller.Goes.holds {B : Backend} {t : Traffic B} {c c' : Caller B} (h : Caller.Goes t c c') {i : Nat}
    (hheld : Monitor.holds c'.checks i = true) : Monitor.holds c.checks i = true := by
  cases h with
  | operation x =>
    rw [Caller.checks_ofOperation] at hheld
    exact Failover.resume_holds hheld
  | refresh checks =>
    rw [Caller.checks_ofRefresh] at hheld
    exact Monitor.resumeChecks_holds hheld
  | operationDropped x => exact nomatch hheld
  | refreshDropped checks => exact nomatch hheld

namespace Traffic

variable {B : Backend} {m₀ : Monitor} {t : Traffic B}

/-- A check of a backend is due by the log, and none is in flight. -/
def MayCheck (interval : Nat) (t : Traffic B) (i : Nat) : Prop :=
  DueAfter interval (Note.about i t.log) t.clock.mono ∧ t.checking i = 0

/-- The first turn of the call that a move begins, at one backend: a check begins there, and is noted,
    just if one may. `b'` is the backend after the checks of that turn. -/
structure Opens (interval timeout : Nat) (t : Traffic B) (move : Move B) (i : Nat) (b b' : B.State) : Prop
    extends Monitor.Considered timeout t.clock (t.MayCheck interval i) b b'
      ((t.after move).checksOf t.callers.length)[i]?.join where
  noted : ⟨some t.callers.length, i, t.clock, .begun⟩ ∈ (t.after move).log ↔ t.MayCheck interval i

/-- What holds of the checks at any moment. -/
structure SingleFlight (interval timeout : Nat) (t : Traffic B) : Prop where
  single : ∀ i, t.checking i ≤ 1
  claimed : ∀ (i : Nat) (h : Health), t.group.monitor.records[i]? = some h → (h.claimed = true ↔ t.checking i = 1)
  spaced : ∀ i n earlier, n :: earlier <:+ Note.about i t.log → n.what = .begun →
    DueAfter interval earlier n.clock.mono
  refreshed : ∀ (i : Nat) (b : B.State), t.group.backends[i]? = some b →
    ∃ b', (t.after .refresh).group.backends[i]? = some b' ∧ t.Opens interval timeout .refresh i b b'
  /-- An operation may go on to its attempts, which leave alone what operations leave alone. -/
  operated : ∀ op, Failover.refusal? op = none → ∀ (i : Nat) (b : B.State), t.group.backends[i]? = some b →
    ∃ b₁ b', (t.after (.operate op)).group.backends[i]? = some b' ∧
      t.Opens interval timeout (.operate op) i b b₁ ∧
      ∀ {τ : Type} (view : B.State → τ), B.operate.Leaves view → view b' = view b₁
  /-- A call begins no check after its first turn. -/
  later : ∀ (move : Move B) (k i : Nat), k < t.callers.length → holds ((t.after move).checksOf k) i = true →
    holds (t.checksOf k) i = true
  /-- Later a call is dropped that has a check in flight. The record is what the others made
      of it since, its claim released, and no check is in flight. -/
  dropped : ∀ (later : List (Move B)) (k i : Nat) (h : Health), t.group.monitor.records[i]? = some h →
    holds ((t.run later).checksOf k) i = true →
    ∃ since, ((t.run later).after (.drop k)).log = since ++ t.log ∧
      ((t.run later).after (.drop k)).group.monitor.records[i]? =
        some ((Note.others k (Note.about i since)).foldr (.told t.group.monitor.threshold) h).released ∧
      ((t.run later).after (.drop k)).checking i = 0

theorem Kept.checking_le (h : Kept m₀ t) (i : Nat) : t.checking i ≤ 1 := by
  rw [h.claims i]
  exact Monitor.claims_le t.group.monitor i

/-! ## Calls begin -/

theorem Kept.considered (h : Kept m₀ t) (h₀ : Fresh m₀) {i : Nat} {b : B.State} (hb : t.group.backends[i]? = some b) :
    ∃ b', (Monitor.startChecks t.clock t.group.watch).1.backends[i]? = some b' ∧
      Monitor.Considered m₀.timeout t.clock (t.MayCheck m₀.interval i) b b'
        ((Monitor.startChecks t.clock t.group.watch).2.flight?.getD [])[i]?.join := by
  have hi : i < t.group.monitor.records.length := h.size ▸ (List.getElem?_eq_some_iff.mp hb).1
  have htimeout : t.group.monitor.timeout = m₀.timeout := by
    rw [h.told]
    rfl
  obtain ⟨b', hb', hconsidered⟩ := Monitor.startChecks_considered t.clock (w := t.group.watch) h.size hb
  refine ⟨b', hb', ?_⟩
  rw [← htimeout]
  exact hconsidered.congr (h.isDue_iff h₀ (List.getElem?_eq_getElem hi))

theorem Kept.noted_iff (h : Kept m₀ t) (h₀ : Fresh m₀) {move : Move B} {notes : List Note}
    (hlog : (t.after move).log = notes ++ t.log)
    (hnotes : ∀ i, ⟨some t.callers.length, i, t.clock, .begun⟩ ∈ notes ↔ t.group.monitor.IsDue t.clock i) {i : Nat}
    (hi : i < t.group.backends.length) : ⟨some t.callers.length, i, t.clock, .begun⟩ ∈ (t.after move).log ↔
      t.MayCheck m₀.interval i := by
  obtain ⟨r, hr⟩ : ∃ r, t.group.monitor.records[i]? = some r := ⟨_, List.getElem?_eq_getElem (h.size ▸ hi)⟩
  rw [hlog, List.mem_append, hnotes, h.isDue_iff h₀ hr]
  exact or_iff_left fun hold => absurd (h.numbers _ hold _ rfl) (Nat.lt_irrefl _)

theorem Kept.refreshed (h : Kept m₀ t) (h₀ : Fresh m₀) {i : Nat} {b : B.State} (hb : t.group.backends[i]? = some b) :
    ∃ b', (t.after .refresh).group.backends[i]? = some b' ∧ t.Opens m₀.interval m₀.timeout .refresh i b b' := by
  obtain ⟨b', hb', hconsidered⟩ := h.considered h₀ hb
  have hchecks : (t.after .refresh).checksOf t.callers.length =
      (Monitor.startChecks t.clock t.group.watch).2.flight?.getD [] := by
    rw [checksOf_place (Nat.le_refl _) rfl, if_pos rfl]
    exact Caller.checks_ofRefresh ..
  refine ⟨b', hb', ?_, ?_⟩
  · rw [hchecks]
    exact hconsidered
  · exact h.noted_iff h₀ rfl (fun i => Monitor.begun_mem_startNotes h.size) (List.getElem?_eq_some_iff.mp hb).1

theorem Kept.operated (h : Kept m₀ t) (h₀ : Fresh m₀) {op : Operation} (hop : Failover.refusal? op = none) {i : Nat}
    {b : B.State} (hb : t.group.backends[i]? = some b) :
    ∃ b₁ b', (t.after (.operate op)).group.backends[i]? = some b' ∧
      t.Opens m₀.interval m₀.timeout (.operate op) i b b₁ ∧
      ∀ {τ : Type} (view : B.State → τ), B.operate.Leaves view → view b' = view b₁ := by
  obtain ⟨b₁, hb₁, hconsidered⟩ := h.considered h₀ hb
  have hi := (List.getElem?_eq_some_iff.mp hb).1
  have hstart := Failover.startOperation_accepted hop t.clock t.group
  have hchecks : (t.after (.operate op)).checksOf t.callers.length =
      (Monitor.startChecks t.clock t.group.watch).2.flight?.getD [] := by
    rw [checksOf_place (Nat.le_refl _) rfl, if_pos rfl, Caller.checks_ofOperation, hstart]
    exact (Failover.afterChecks_tried 0 t.clock op _).pending
  have hlen : (t.after (.operate op)).group.backends.length = t.group.backends.length :=
    congrArg Frame.backends (t.frame_after (.operate op))
  obtain ⟨b', hb'⟩ : ∃ b', (t.after (.operate op)).group.backends[i]? = some b' :=
    ⟨_, List.getElem?_eq_getElem (hlen ▸ hi)⟩
  refine ⟨b₁, b', hb', ⟨?_, ?_⟩, fun view hview => ?_⟩
  · rw [hchecks]
    exact hconsidered
  · exact h.noted_iff h₀ rfl (fun i => Failover.begun_mem_startNotes hop h.size) hi
  · have hleft := Failover.afterChecks_leaves hview t.clock op ((Failover.refresh B).start t.clock () t.group)
    rw [← hstart] at hleft
    obtain ⟨b₂, hb₂, hsame⟩ := Monitor.getElem?_of_map_eq hleft hb'
    obtain rfl := Option.some.inj (hb₁.symm.trans hb₂)
    exact hsame.symm

/-! ## Calls go on -/

theorem holds_after (t : Traffic B) (move : Move B) {k i : Nat} (hk : k < t.callers.length)
    (hheld : holds ((t.after move).checksOf k) i = true) : holds (t.checksOf k) i = true := by
  rcases t.callers_after move with hsame | ⟨j, c, c', -, hj, hgoes, hplace⟩ | ⟨c, -, hplace⟩
  · unfold checksOf at hheld ⊢
    rwa [hsame] at hheld
  · rw [checksOf_place (number_le hj) hplace] at hheld
    by_cases hkj : k = j
    · rw [if_pos hkj] at hheld
      rw [hkj, checksOf_caller hj]
      exact hgoes.holds hheld
    · rwa [if_neg hkj] at hheld
  · rwa [checksOf_place (Nat.le_refl _) hplace, if_neg (Nat.ne_of_lt hk)] at hheld

/-- A check that is dropped is in flight no more. -/
theorem checking_dropped {k i : Nat} (hheld : holds (t.checksOf k) i = true) :
    (t.after (.drop k)).checking i + 1 = t.checking i := by
  show (t.callers[k]?.elim t (t.abandoned k)).checking i + 1 = t.checking i
  cases hk : t.callers[k]? with
  | none =>
    unfold checksOf at hheld
    rw [hk] at hheld
    exact nomatch hheld
  | some c =>
    have hle := number_le hk
    have hcount : ∀ notes g, (t.moved k notes g .dropped).checking i + 1 = t.checking i := fun notes g => by
      have hplace := countP_place hle .dropped fun c => holds c.checks i
      rw [checksOf_eq, hheld] at hplace
      exact hplace
    rw [checksOf_caller hk] at hheld
    cases c with
    | operating x => exact hcount ..
    | refreshing checks => exact hcount ..
    | returned op result => exact nomatch hheld
    | refreshed => exact nomatch hheld
    | dropped => exact nomatch hheld

theorem Kept.freed (h : Kept m₀ t) {k i : Nat} (hheld : holds (t.checksOf k) i = true) :
    (t.after (.drop k)).checking i = 0 := by
  have hcount := checking_dropped hheld
  have hle := h.checking_le i
  omega

/-- A call that is dropped while it waits for a check has only begun it and given it up. -/
theorem Kept.begun_or_cut (h : Kept m₀ t) {k i : Nat} (hheld : holds (t.checksOf k) i = true) {n : Note}
    (hn : n ∈ Note.about i (t.after (.drop k)).log) (hcaller : n.caller = some k) :
    n.what = .begun ∨ n.what = .cut := by
  obtain ⟨cuts, hlog, hcut⟩ := t.log_dropped k
  rw [hlog, Note.about_append] at hn
  rcases List.mem_append.mp hn with hn | hn
  · exact .inr (hcut n (Note.mem_about.mp hn).1)
  · exact .inl (h.alone k i hheld n hn hcaller)

theorem Kept.dropped (h : Kept m₀ t) (h₀ : Fresh m₀) (later : List (Move B)) {k i : Nat} {r : Health}
    (hr : t.group.monitor.records[i]? = some r) (hheld : holds ((t.run later).checksOf k) i = true) :
    ∃ since, ((t.run later).after (.drop k)).log = since ++ t.log ∧
      ((t.run later).after (.drop k)).group.monitor.records[i]? =
        some ((Note.others k (Note.about i since)).foldr (.told t.group.monitor.threshold) r).released ∧
      ((t.run later).after (.drop k)).checking i = 0 := by
  have hk := h.run h₀ later
  have hdropped := hk.after h₀ (.drop k)
  have hfreed := hk.freed hheld
  have hown := fun n => hk.begun_or_cut hheld (n := n)
  obtain ⟨cuts, hcuts⟩ := (t.run later).log_after (.drop k)
  obtain ⟨since, hsince⟩ := t.log_run later
  generalize (t.run later).after (.drop k) = t' at hdropped hfreed hown hcuts
  have hlog : t'.log = (cuts ++ since) ++ t.log := by
    rw [hcuts, hsince, List.append_assoc]
  have hrecord : t'.group.monitor.records[i]? =
      some ((Note.about i (cuts ++ since)).foldr (.told t.group.monitor.threshold) r) := by
    rw [h.since hdropped hlog, Monitor.records_told, hr]
    rfl
  have hfree := Bool.toNat_eq_zero.mp ((hdropped.checking_eq hrecord).symm.trans hfreed)
  have hout : ∀ n ∈ Note.about i (cuts ++ since), (n.caller != some k) = false → n.what = .begun ∨ n.what = .cut := by
    intro n hn hcaller
    refine hown n ?_ (by simpa using hcaller)
    rw [hlog, Note.about_append]
    exact List.mem_append_left _ hn
  refine ⟨cuts ++ since, hlog, ?_, hfreed⟩
  rw [hrecord, ← Health.released_eq_self hfree]
  exact congrArg some (Health.released_filter hout t.group.monitor.threshold r)

theorem Kept.singleFlight (h : Kept m₀ t) (h₀ : Fresh m₀) : SingleFlight m₀.interval m₀.timeout t where
  single := h.checking_le
  claimed i r hr := by
    rw [h.checking_eq hr]
    exact Bool.toNat_eq_one.symm
  spaced := h.spaced
  refreshed _ _ hb := h.refreshed h₀ hb
  operated _ hop _ _ hb := h.operated h₀ hop hb
  later move _ _ hk hheld := t.holds_after move hk hheld
  dropped later _ _ _ hr hheld := h.dropped h₀ later hr hheld

/-! ## The checks that backends are asked for -/

/-- The tallies of the backends agree with the log, and the checks that are not over are in flight. -/
def Counted (t : Traffic B.tallied) : Prop :=
  ∀ (i : Nat) (s : B.tallied.State), t.group.backends[i]? = some s → s.2.started = Note.starts i t.log ∧
    s.2.ended = Note.ends i t.log ∧ s.2.started.length = s.2.ended + t.checking i

section Counted

variable {t : Traffic B.tallied}

/-- A call has a turn. -/
theorem Counted.moved (h : Counted t) {k : Nat} {notes : List Note} {g : Failover B.tallied} {c : Caller B.tallied}
    (hk : k ≤ t.callers.length)
    (htallied : Monitor.Tallied notes (t.checksOf k) c.checks t.group.backends g.backends) :
    Counted (t.moved k notes g c) := by
  intro i s' hs'
  obtain ⟨s, hs, henters⟩ := htallied i s' hs'
  obtain ⟨hstarted, hended, hflight⟩ := h i s hs
  have hcount : (t.moved k notes g c).checking i + (holds (t.checksOf k) i).toNat =
      t.checking i + (holds c.checks i).toNat := by
    have hplace := countP_place hk c fun c => holds c.checks i
    rwa [checksOf_eq] at hplace
  have hbalance := henters.balance
  refine ⟨?_, ?_, ?_⟩
  · show s'.2.started = Note.starts i (notes ++ t.log)
    rw [Note.starts_append, henters.started, hstarted]
  · show s'.2.ended = Note.ends i (notes ++ t.log)
    rw [Note.ends_append, henters.ended, hended]
  · rw [henters.started, List.length_append, henters.ended]
    omega

theorem Counted.resumed (h : Counted t) (hkept : Kept m₀ t) {k : Nat} {c : Caller B.tallied}
    (hk : t.callers[k]? = some c) : Counted (t.resumed k c) := by
  have hle := number_le hk
  have hchecks := checksOf_caller hk
  cases c with
  | operating x =>
    refine h.moved hle ?_
    rw [hchecks, Caller.checks_ofOperation]
    exact Failover.resume_tallied k t.clock x hkept.size
  | refreshing checks =>
    refine h.moved hle ?_
    rw [hchecks, Caller.checks_ofRefresh]
    exact Monitor.resumeChecks_tallied k t.clock checks hkept.size
  | returned op result => exact h
  | refreshed => exact h
  | dropped => exact h

theorem Counted.abandoned (h : Counted t) (hkept : Kept m₀ t) {k : Nat} {c : Caller B.tallied}
    (hk : t.callers[k]? = some c) : Counted (t.abandoned k c) := by
  have hle := number_le hk
  have hchecks := checksOf_caller hk
  cases c with
  | operating x =>
    refine h.moved hle ?_
    rw [hchecks]
    exact Failover.abandon_tallied k t.clock x hkept.size
  | refreshing checks =>
    refine h.moved hle ?_
    rw [hchecks]
    exact Monitor.abandonChecks_tallied k t.clock checks hkept.size
  | returned op result => exact h
  | refreshed => exact h
  | dropped => exact h

end Counted

end Traffic

/-- The same move on backends that tally their checks. -/
def Move.tallied {B : Backend} : Move B → Move B.tallied
  | operate op => .operate op
  | refresh => .refresh
  | turn k => .turn k
  | drop k => .drop k
  | report i result => .report i result
  | outside change => .outside fun i s => (change i s.1, s.2)
  | pass elapsed wall => .pass elapsed wall

theorem Move.mirrors_tallied {B : Backend} (move : Move B) : Mirrors Prod.fst move.tallied move := by
  cases move with
  | outside change => exact .outside fun _ _ => rfl
  | _ => constructor

/-- The same group, of backends that tally their checks from now on. -/
def Failover.tallied {B : Backend} (g : Failover B) : Failover B.tallied := g.mapStates fun b => (b, Tally.blank)

namespace Traffic

variable {B : Backend} {m₀ : Monitor}

/-- The same traffic without the tallies. -/
def untallied (t : Traffic B.tallied) : Traffic B :=
  map (A := B.tallied) (B := B) Prod.fst id id t

theorem Counted.after {t : Traffic B.tallied} (h : Counted t) (hkept : Kept m₀ t) (move : Move B) :
    Counted (t.after move.tallied) := by
  cases move with
  | operate op =>
    refine h.moved (Nat.le_refl _) ?_
    rw [checksOf_new, Caller.checks_ofOperation]
    exact Failover.start_tallied t.callers.length t.clock op hkept.size
  | refresh =>
    refine h.moved (Nat.le_refl _) ?_
    rw [checksOf_new, Caller.checks_ofRefresh]
    exact Monitor.startChecks_tallied t.callers.length t.clock hkept.size
  | turn k =>
    show Counted (t.callers[k]?.elim t (t.resumed k))
    cases hk : t.callers[k]? with
    | none => exact h
    | some c => exact h.resumed hkept hk
  | drop k =>
    show Counted (t.callers[k]?.elim t (t.abandoned k))
    cases hk : t.callers[k]? with
    | none => exact h
    | some c => exact h.abandoned hkept hk
  | report i result =>
    have hbackends : (t.after (.report i result)).group.backends = t.group.backends := by cases result <;> rfl
    let note : Note := ⟨none, i, t.clock, .reported result⟩
    have hstarts : ∀ j, Note.starts j [note] = [] := fun j =>
      Note.starts_eq_nil fun n hn => List.mem_singleton.mp hn ▸ rfl
    have hends : ∀ j, Note.ends j [note] = 0 := fun j => Note.ends_eq_zero fun n hn => List.mem_singleton.mp hn ▸ rfl
    intro j s hs
    obtain ⟨hstarted, hended, hflight⟩ := h j s (hbackends ▸ hs)
    refine ⟨?_, ?_, hflight⟩
    · show s.2.started = Note.starts j ([note] ++ t.log)
      rw [Note.starts_append, hstarts, hstarted, List.nil_append]
    · show s.2.ended = Note.ends j ([note] ++ t.log)
      rw [Note.ends_append, hends, hended, Nat.zero_add]
  | outside change =>
    intro j s hs
    obtain ⟨s₀, hs₀, rfl⟩ := Option.map_eq_some_iff.mp (List.getElem?_mapIdx.symm.trans hs)
    exact h j s₀ hs₀
  | pass elapsed wall => exact h

theorem Counted.run {t : Traffic B.tallied} (h : Counted t) (hkept : Kept m₀ t) (h₀ : Fresh m₀)
    (moves : List (Move B)) : Counted (t.run (moves.map Move.tallied)) := by
  induction moves generalizing t with
  | nil => exact h
  | cons move moves ih => exact ih (h.after hkept move) (hkept.after h₀ move.tallied)

theorem counted_opened (g : Failover B) (interval timeout threshold : Nat) (clock : Clock) :
    Counted (opened g.tallied interval timeout threshold clock) := by
  intro i s hs
  obtain ⟨b, -, rfl⟩ := Option.map_eq_some_iff.mp (List.getElem?_map.symm.trans hs)
  exact ⟨rfl, rfl, rfl⟩

/-- A traffic, and the same on backends that tally their checks. These are asked for the checks that
    are noted and for no others; a check is noted to be over when it is, and in flight until then. -/
structure Tallies (t : Traffic B) (u : Traffic B.tallied) : Prop where
  same : u.untallied = t
  started : ∀ (i : Nat) (s : B.tallied.State), u.group.backends[i]? = some s → s.2.started = Note.starts i t.log
  ended : ∀ (i : Nat) (s : B.tallied.State), u.group.backends[i]? = some s → s.2.ended = Note.ends i t.log
  underway : ∀ (i : Nat) (s : B.tallied.State), u.group.backends[i]? = some s →
    s.2.started.length = s.2.ended + t.checking i

theorem Counted.tallies {u : Traffic B.tallied} (h : Counted u) : Tallies u.untallied u where
  same := rfl
  started i s hs := (h i s hs).1
  ended i s hs := (h i s hs).2.1
  underway i s hs := by
    have hchecking : u.untallied.checking i = u.checking i := u.checking_map i
    rw [hchecking]
    exact (h i s hs).2.2

theorem untallied_opened (g : Failover B) (interval timeout threshold : Nat) (clock : Clock) :
    (opened g.tallied interval timeout threshold clock).untallied = opened g interval timeout threshold clock := by
  have hbackends : (g.backends.map fun b => (b, Tally.blank)).map Prod.fst = g.backends := by
    rw [List.map_map]
    exact List.map_id _
  have hsize : g.tallied.backends.length = g.backends.length := List.length_map ..
  exact congrArg₂ (fun bs size => Traffic.mk
    { g with backends := bs, monitor := .start size interval timeout threshold } clock [] []) hbackends hsize

theorem untallied_run (t : Traffic B.tallied) (moves : List (Move B)) :
    (t.run (moves.map Move.tallied)).untallied = t.untallied.run moves := by
  have hmoves : List.Forall₂ (Move.Mirrors Prod.fst) (moves.map Move.tallied) moves :=
    List.forall₂_map_left_iff.mpr (List.forall₂_same.mpr fun move _ => move.mirrors_tallied)
  exact (run_mirrored B.mirrors_tallied_operate B.probe.mirrors_tallied t hmoves).symm

/-- Any number of calls that are begun, have turns and are dropped in any order. -/
theorem checks_single_spaced_released (g : Failover B) (interval timeout threshold : Nat) (clock : Clock)
    (moves : List (Move B)) :
    let t := (opened g interval timeout threshold clock).run moves
    let u := (opened g.tallied interval timeout threshold clock).run (moves.map Move.tallied)
    SingleFlight interval timeout t ∧ Tallies t u := by
  intro t u
  have h₀ := fresh_start g.backends.length interval timeout threshold
  have hkept : Kept _ t := (kept_opened g interval timeout threshold clock).run h₀ moves
  have hcounted : Counted u := (counted_opened g interval timeout threshold clock).run
    (kept_opened g.tallied interval timeout threshold clock) (fresh_start ..) moves
  have hsame : u.untallied = t :=
    (untallied_run _ moves).trans (congrArg (run · moves) (untallied_opened g interval timeout threshold clock))
  exact ⟨hkept.singleFlight h₀, hsame ▸ hcounted.tallies⟩

/-- The check of a store that hangs, dropped and begun again. -/
example :
    let t : Traffic Simulation.FaultyStore.backend := opened Failover.hangingPair (seconds 10) (millis 500) 3 ⟨0, 0⟩
    (t.run [.refresh, .refresh]).checking 0 = 1 ∧ (t.run [.refresh, .drop 0]).checking 0 = 0 ∧
      (t.run [.refresh, .drop 0, .refresh]).checking 0 = 1 := by
  cbv

end Traffic

end RateCounter
