/-
  RateCounter.Proofs.Failover.Primary — a first backend that never fails, under `firstHealthy`.

  A session is a sequence of operations on a group, one at a time. Between them the clocks
  are moved and the backends may change by themselves; what the backends behind the first
  one do is left open, so that they may fail, hang, flap and delay the others' checks.

  - `first_answers_alone`: every session goes on to its end. If in each of its calls the
    first backend passes the check that is due and completes the operation in time, then
    each call returns what the first backend alone answers at the moment of the attempt,
    no other backend is attempted, and the first record never shows a failure.
-/

import RateCounter.Proofs.Failover.Available
import RateCounter.Proofs.Failover.Turns

namespace RateCounter.Failover

variable {B : Backend}

open Service (Runs)

/-! ## Sessions -/

inductive Step (B : Backend) where
  | operate (op : Operation)
  | advance (wall : Int) (mono : Nat)
  /-- The backends change, by their positions. -/
  | outside (change : Nat → B.State → B.State)

/-- An operation of a session, with what it found and what it left. -/
structure Visit (B : Backend) where
  op : Operation
  began : Clock
  before : Failover B
  result : Result
  ended : Clock
  after : Failover B

inductive Session : Clock → Failover B → List (Step B) → List (Visit B) → Prop
  | ended (clock : Clock) (g : Failover B) : Session clock g [] []
  | operate {fuel : Nat} {clock clock' : Clock} {g g' : Failover B} {op : Operation} {r : Result}
      {steps : List (Step B)} {visits : List (Visit B)} :
      (Failover.operate B).call fuel clock op g = (clock', g', some r) → Session clock' g' steps visits →
      Session clock g (.operate op :: steps) (⟨op, clock, g, r, clock', g'⟩ :: visits)
  | advance {wall : Int} {mono : Nat} {clock : Clock} {g : Failover B} {steps : List (Step B)}
      {visits : List (Visit B)} : Session (clock.advance wall mono) g steps visits →
      Session clock g (.advance wall mono :: steps) visits
  | outside {change : Nat → B.State → B.State} {clock : Clock} {g : Failover B} {steps : List (Step B)}
      {visits : List (Visit B)} : Session clock { g with backends := g.backends.mapIdx change } steps visits →
      Session clock g (.outside change :: steps) visits

/-- The first backend passes its check, if it is due, and then completes the operation in time. -/
structure FirstAnswers (c : Config) (clock : Clock) (op : Operation) (g : Failover B) : Prop where
  check : ∀ b, g.backends[0]? = some b → g.monitor.IsDue clock 0 → ∃ clock' b',
    B.probe.Ends (clock.mono + c.checkTimeout) clock (B.probe.start clock () b) clock' b' (some true)
  operation : ∀ fuel clock₁ g₁ b, (refresh B).call fuel clock () g = (clock₁, g₁, some ()) →
    g₁.backends[0]? = some b → Completes B op c.operationTimeout clock₁ b

/-- The first record is healthy, without failures and without an error. -/
def FirstClean (g : Failover B) : Prop := ∃ h, g.monitor.records[0]? = some h ∧ h.Clean

namespace Visit

/-- The checks led to `clock₁` and `g₁`, and the first backend and its record from `w` to `w₁` as
    its own check alone does. From there the first backend alone gave the value and was left as `b`. -/
structure Served (c : Config) (v : Visit B) (clock₁ : Clock) (g₁ : Failover B) (w w₁ : Monitor.Watched B)
    (b : B.State) (value : Value) : Prop where
  checks : ∃ fuel, (refresh B).call fuel v.began () v.before = (clock₁, g₁, some ())
  first : v.before.watch.pairs[0]? = some w ∧ g₁.watch.pairs[0]? = some w₁
  checked : ∃ fuel clock₂, (Monitor.check B v.before.monitor).call fuel v.began () w = (clock₂, w₁, some ())
  clean : w₁.1.Clean
  alone : ∃ fuel, B.operate.call fuel clock₁ v.op w₁.2 = (v.ended, b, some (.ok value))
  result : v.result = .ok value
  /-- Nothing is attempted but this. -/
  reference : Reference c v.op clock₁ g₁ [⟨0, some (.ok value), b⟩] v.ended v.after (.ok value)

/-- The call is refused without a trace, or served by the first backend. -/
structure Transparent (c : Config) (v : Visit B) : Prop where
  refused : ∀ e, refusal? v.op = some e →
    v.result = .error (.invalidArgument e.message) ∧ v.ended = v.began ∧ v.after = v.before
  served : refusal? v.op = none → ∃ clock₁ g₁ w w₁ b value, v.Served c clock₁ g₁ w w₁ b value
  before : v.before.FirstClean
  after : v.after.FirstClean

end Visit

/-! ## One call -/

theorem call_refused {op : Operation} {e : WindowError} (hop : refusal? op = some e) (fuel : Nat) (clock : Clock)
    (g : Failover B) : (operate B).call fuel clock op g = (clock, g, some (.error (.invalidArgument e.message))) := by
  rw [Service.call, startOperation_refused hop]
  simp only [Service.settle]

/-- The first candidate is the first backend; it is attempted and nothing else. -/
theorem dispatch_first {c : Config} (hfirst : c.strategy = .firstHealthy) {g : Failover B}
    (hframe : g.frame = .ofConfig c) {h : Health} {b : B.State} (hh : g.monitor.records[0]? = some h)
    (hclean : h.Clean) (hb : g.backends[0]? = some b) {op : Operation} {clock clock' : Clock} {b' : B.State} {v : Value}
    (hends : B.operate.Ends (clock.mono + c.operationTimeout) clock (B.operate.start clock op b) clock' b'
      (some (.ok v))) :
    ∃ n g', (operate B).Runs n clock (dispatch clock op g) clock' g' (.ok v) ∧
      Reference c op clock g [⟨0, some (.ok v), b'⟩] clock' g' (.ok v) ∧ g'.FirstClean := by
  have hstrategy : g.rotation.strategy = .firstHealthy := (congrArg Frame.strategy hframe).trans hfirst
  have htimeout : g.timeout = millis c.operationTimeoutMs.toNat := congrArg Frame.timeout hframe
  have hflag : g.monitor.flags[0]? = some true := by simp [Monitor.flags, hh, hclean.healthy]
  obtain ⟨rest, hcandidates⟩ := Rotation.candidates_firstHealthy hstrategy hflag
  obtain ⟨n, hrun⟩ : ∃ n, (B.operate.within g.timeout).Runs n clock ((B.operate.within g.timeout).start clock op b)
      clock' b' (some (.ok v)) := by
    rw [htimeout]
    exact Service.within_runs hends
  let a : Attempt B := ⟨0, some (.ok v), b'⟩
  refine ⟨0 + n, note op c.operationTimeoutMs.toNat g a, ?_, ?_, ?_⟩
  · have hdispatch : dispatch clock op g = tryEach clock op (0 :: rest) [] g := by
      simp only [dispatch, hcandidates]
    rw [hdispatch, tryEach_cons clock op rest [] hb]
    refine afterAttempt_runs hrun (List.getElem?_eq_some_iff.mp hb).1 ?_
    have hafter := afterAttempt_answered op htimeout clock' a rest []
    rw [show a.position = 0 from rfl, show a.left = b' from rfl, show a.answer = some (.ok v) from rfl] at hafter
    rw [hafter]
    exact .done ..
  · have hrotation : (note op c.operationTimeoutMs.toNat g a).rotation = (g.rotation.candidates g.monitor.flags).2 := by
      rw [note_rotation, hcandidates]
    have hreturned : Returned c op (g.rotation.candidates g.monitor.flags).1 ([] ++ [a]) (.ok v) := .value (by simp) rfl
    refine ⟨.cons hb hends (by simp) (.nil ..), ?_, by simp, hreturned, hrotation⟩
    rw [hcandidates]
    simp
  · refine ⟨h.succeed, ?_, rfl, rfl, rfl⟩
    rw [note_records]
    simp [hh, noted, a, Attempt.outcome]

/-- The checks leave the first record clean, and the operation is served by the first backend. -/
theorem served (hB : B.probe.Tame) {c : Config} (hfirst : c.strategy = .firstHealthy) {g : Failover B}
    (hframe : g.frame = .ofConfig c) (hclean : g.FirstClean) {clock : Clock} {op : Operation} (hop : refusal? op = none)
    (hanswers : FirstAnswers c clock op g) :
    ∃ n clock' g' value, (operate B).Runs n clock ((operate B).start clock op g) clock' g' (.ok value) ∧
      g'.frame = .ofConfig c ∧ g'.FirstClean ∧
      ∃ clock₁ g₁ w w₁ b, Visit.Served c ⟨op, clock, g, .ok value, clock', g'⟩ clock₁ g₁ w w₁ b value := by
  obtain ⟨h, hh, hclean⟩ := hclean
  have htimeout : g.monitor.timeout = c.checkTimeout := congrArg Frame.checkTimeout hframe
  have hsize : g.backends.length = g.monitor.records.length := by
    rw [show g.backends.length = c.backends.length from congrArg Frame.backends hframe]
    exact (congrArg Frame.records hframe).symm
  obtain ⟨b, hb⟩ : ∃ b, g.backends[0]? = some b :=
    ⟨_, List.getElem?_eq_getElem (hsize ▸ (List.getElem?_eq_some_iff.mp hh).1)⟩
  have hw : g.watch.pairs[0]? = some (h, b) := List.getElem?_zip_eq_some.mpr ⟨hh, hb⟩
  obtain ⟨k, clock₁, g₁, hchecks, hframe₁, -, heach⟩ := refresh_each hB g clock
  have hcall : (refresh B).call k clock () g = (clock₁, g₁, some ()) := hchecks.settle (Nat.le_refl k)
  -- Its own check is the same run as that in the refresh.
  obtain ⟨m, clock₂, w₁, hcheck, hw₁⟩ := heach 0 (h, b) hw
  have hclean₁ : w₁.1.Clean := by
    have hdue : h.isStale g.monitor.interval clock.mono = true → h.claimed = false → ∃ clock' b', B.probe.Ends
        (clock.mono + g.monitor.timeout) clock (B.probe.start clock () b) clock' b' (some true) :=
      fun hstale hfree => htimeout ▸ hanswers.check b hb ⟨h, hh, hstale, hfree⟩
    obtain ⟨m', clock₃, w₂, hcheck', hclean₂⟩ := Monitor.check_passes (w := (h, b)) hclean hdue
    obtain ⟨-, rfl, -⟩ := hcheck.unique hcheck'
    exact hclean₂
  obtain ⟨hh₁, hb₁⟩ := List.getElem?_zip_eq_some.mp hw₁
  obtain ⟨clock', b', value, hends⟩ := hanswers.operation k clock₁ g₁ w₁.2 hcall hb₁
  obtain ⟨n, g', hrun, hreference, hclean'⟩ := dispatch_first hfirst (hframe₁.trans hframe) hh₁ hclean₁ hb₁ hends
  obtain ⟨l, halone⟩ := hends.runs
  refine ⟨n + k, clock', g', value, ?_, hreference.frame.trans (hframe₁.trans hframe), hclean', clock₁, g₁, (h, b), w₁,
    b', ⟨k, hcall⟩, ⟨hw, hw₁⟩, ⟨m, clock₂, hcheck.settle (Nat.le_refl m)⟩, hclean₁,
    ⟨l, halone.settle (Nat.le_refl l)⟩, rfl, hreference⟩
  rw [startOperation_accepted hop]
  exact afterChecks_runs hchecks hrun

/-! ## Every call of a session -/

theorem Session.transparent (hB : B.probe.Tame) {c : Config} (hfirst : c.strategy = .firstHealthy) {clock : Clock}
    {g : Failover B} {steps : List (Step B)} {visits : List (Visit B)} (hs : Session clock g steps visits)
    (hframe : g.frame = .ofConfig c) (hclean : g.FirstClean)
    (hanswers : ∀ v ∈ visits, refusal? v.op = none → FirstAnswers c v.began v.op v.before) :
    ∀ v ∈ visits, v.Transparent c := by
  induction hs with
  | ended => exact fun v hv => absurd hv List.not_mem_nil
  | @operate fuel clock clock' g g' op r steps visits hcall _ ih =>
    have hlater := fun v hv => hanswers v (List.mem_cons_of_mem _ hv)
    cases hop : refusal? op with
    | some e =>
      rw [call_refused hop] at hcall
      cases hcall
      refine List.forall_mem_cons.mpr ⟨⟨fun e' he => ?_, fun h => ?_, hclean, hclean⟩, ih hframe hclean hlater⟩
      · cases hop.symm.trans he
        exact ⟨rfl, rfl, rfl⟩
      · cases hop.symm.trans h
    | none =>
      obtain ⟨n, clock₁, g₁, value, hrun, hframe₁, hclean₁, hserved⟩ :=
        served hB hfirst hframe hclean hop (hanswers _ (List.mem_cons_self ..) hop)
      obtain ⟨m, hrun'⟩ := Service.runs_of_settle hcall
      obtain ⟨rfl, rfl, rfl⟩ := hrun.unique hrun'
      obtain ⟨clock₂, g₂, w, w₁, b, hserved⟩ := hserved
      refine List.forall_mem_cons.mpr ⟨⟨fun e he => ?_, fun _ => ⟨_, _, _, _, _, _, hserved⟩, hclean, hclean₁⟩,
        ih hframe₁ hclean₁ hlater⟩
      cases hop.symm.trans he
  | advance _ ih => exact ih hframe hclean hanswers
  | @outside change clock g steps visits _ ih => exact ih ((frame_outside g change).trans hframe) hclean hanswers

/-- Sessions go on to their end. -/
theorem session_ends (hB : B.Tame) (clock : Clock) (g : Failover B) (steps : List (Step B)) :
    ∃ visits, Session clock g steps visits := by
  induction steps generalizing clock g with
  | nil => exact ⟨[], .ended clock g⟩
  | cons step steps ih =>
    cases step with
    | operate op =>
      obtain ⟨n, clock', g', r, hrun⟩ := operate_ends hB clock op g
      obtain ⟨visits, hvisits⟩ := ih clock' g'
      exact ⟨_, .operate (hrun.settle (Nat.le_refl n)) hvisits⟩
    | advance wall mono =>
      obtain ⟨visits, hvisits⟩ := ih (clock.advance wall mono) g
      exact ⟨visits, .advance hvisits⟩
    | outside change =>
      obtain ⟨visits, hvisits⟩ := ih clock { g with backends := g.backends.mapIdx change }
      exact ⟨visits, .outside hvisits⟩

theorem first_answers_alone (hB : B.Tame) {σ : Type} {r : Registry σ B.State} {c : Config} {trace : σ}
    {g : Failover B} (hg : (r.group c trace).1 = .ok g) (hfirst : c.strategy = .firstHealthy) (clock : Clock)
    (steps : List (Step B)) :
    (∃ visits, Session clock g steps visits) ∧
      ∀ visits, Session clock g steps visits →
        (∀ v ∈ visits, refusal? v.op = none → FirstAnswers c v.began v.op v.before) →
        ∀ v ∈ visits, v.Transparent c := by
  refine ⟨session_ends hB clock g steps, fun visits hs hanswers => ?_⟩
  have hframe : g.frame = .ofConfig c := (Reach.built r trace hg).frame
  obtain ⟨hcheck, states, hlen, rfl⟩ := group_ok hg
  have hsome : c.backends ≠ [] := by
    rintro hnone
    simp [Config.check, hnone] at hcheck
  refine hs.transparent hB.probe hfirst hframe ⟨.fresh, ?_, rfl, rfl, rfl⟩ hanswers
  simp [Registry.assemble, Monitor.start, List.length_pos_iff.mpr hsome]

open Simulation (Faults FaultyStore)

/-- The second of two stores hangs from now on. -/
def secondHangs : Nat → FaultyStore → FaultyStore
  | 1, s => { s with faults := { Faults.none with hanging := true } }
  | _, s => s

def besideHanging : List (Step FaultyStore.backend) :=
  [.outside secondHangs, .advance 0 (seconds 1), .operate (.increment "k" (seconds 60))]

def hangingBehind : Failover FaultyStore.backend := { pair with backends := pair.backends.mapIdx secondHangs }

/-- The check of the second store takes its 500 ms. That of the first is over at once. -/
theorem hangingBehind_checked : ∃ g₁ : Failover FaultyStore.backend,
    (refresh _).call 1 (Clock.advance ⟨0, 0⟩ 0 (seconds 1)) () hangingBehind =
        (⟨millis 500, millis 1500⟩, g₁, some ()) ∧
      g₁.backends[0]? = some ⟨Store.empty defaultPurgeEvery, Faults.none, 0, 1⟩ := by
  exact ⟨((refresh _).call 1 (Clock.advance ⟨0, 0⟩ 0 (seconds 1)) () hangingBehind).2.1, rfl, rfl⟩

theorem hangingBehind_answers :
    FirstAnswers twoStores (Clock.advance ⟨0, 0⟩ 0 (seconds 1)) (.increment "k" (seconds 60)) hangingBehind := by
  refine ⟨fun b hb _ => ?_, fun fuel clock₁ g₁ b hchecks hb => ?_⟩
  · obtain rfl := Option.some.inj hb
    exact ⟨_, _, .answered ..⟩
  · obtain ⟨g₂, hcall, hb₂⟩ := hangingBehind_checked
    obtain ⟨n, hrun⟩ := Service.runs_of_settle hchecks
    obtain ⟨m, hrun₂⟩ := Service.runs_of_settle hcall
    obtain ⟨rfl, rfl, -⟩ := hrun.unique hrun₂
    obtain rfl := Option.some.inj (hb₂.symm.trans hb)
    exact ⟨_, _, _, .answered ..⟩

theorem first_answers_alone_besideHanging :
    FaultyStore.backend.Tame ∧ (faulty.group twoStores ()).1 = .ok pair ∧ twoStores.strategy = .firstHealthy ∧
      ∃ visits, Session ⟨0, 0⟩ pair besideHanging visits ∧
        (∀ v ∈ visits, refusal? v.op = none → FirstAnswers twoStores v.began v.op v.before) ∧
        ∀ v ∈ visits, v.Transparent twoStores := by
  have hbuilt : (faulty.group twoStores ()).1 = .ok pair := rfl
  obtain ⟨⟨visits, hs⟩, hall⟩ := first_answers_alone FaultyStore.tame hbuilt rfl ⟨0, 0⟩ besideHanging
  have hanswers : ∀ v ∈ visits, refusal? v.op = none → FirstAnswers twoStores v.began v.op v.before := by
    cases hs with
    | outside hs =>
      cases hs with
      | advance hs =>
        cases hs with
        | operate hcall hs =>
          cases hs with
          | ended => exact List.forall_mem_singleton.mpr fun _ => hangingBehind_answers
  exact ⟨FaultyStore.tame, hbuilt, rfl, visits, hs, hanswers, hall visits hs hanswers⟩

end RateCounter.Failover
