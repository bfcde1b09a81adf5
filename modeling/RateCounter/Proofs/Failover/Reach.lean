/-
  RateCounter.Proofs.Failover.Reach — the groups that come from a configuration.

  `Reach c` holds of a group as built from `c`, and after any turns of any operations and
  refreshes on it, by any number of callers in any order, given up or not, and after any
  change inside its backends. What stays through all of them is the `Frame`: the names, how
  many backends and records there are, and the settings (`Reach.frame`).
-/

import RateCounter.Failover
import RateCounter.Proofs.Alone
import RateCounter.Registry

namespace RateCounter

structure Frame where
  names : List String
  backends : Nat
  records : Nat
  interval : Nat
  checkTimeout : Nat
  threshold : Nat
  timeout : Nat
  strategy : Strategy
  deriving DecidableEq, Repr

def Frame.ofConfig (c : Config) : Frame where
  names := c.backends.map BackendSpec.name
  backends := c.backends.length
  records := c.backends.length
  interval := c.interval
  checkTimeout := c.checkTimeout
  threshold := max c.failureThreshold.toNat 1
  timeout := c.operationTimeout
  strategy := c.strategy

theorem Rotation.candidates_strategy (r : Rotation) (flags : List Bool) :
    (r.candidates flags).2.strategy = r.strategy := by
  simp only [candidates]
  split
  · rfl
  · split <;> simp_all

namespace Failover

variable {B : Backend}

open Monitor (Watch Checks)

def frame (g : Failover B) : Frame where
  names := g.names
  backends := g.backends.length
  records := g.monitor.records.length
  interval := g.monitor.interval
  checkTimeout := g.monitor.timeout
  threshold := g.monitor.threshold
  timeout := g.timeout
  strategy := g.rotation.strategy

/-! ## Attempts -/

@[simp] theorem frame_setBackend (g : Failover B) (i : Nat) (b : B.State) : (g.setBackend i b).frame = g.frame := by
  simp [frame, setBackend]

@[simp] theorem frame_succeedAt (g : Failover B) (i : Nat) : (g.succeedAt i).frame = g.frame := by
  simp [frame, succeedAt, Monitor.recordSuccess]

@[simp] theorem frame_failAt (g : Failover B) (i : Nat) (e : BackendError) : (g.failAt i e).frame = g.frame := by
  simp [frame, failAt, Monitor.recordFailure]

theorem frame_outside (g : Failover B) (change : Nat → B.State → B.State) :
    frame { g with backends := g.backends.mapIdx change } = g.frame := by
  simp [frame]

theorem tryEach_frame (clock : Clock) (op : Operation) (cs : List Nat) (fs : List Failure) (g : Failover B) :
    (tryEach clock op cs fs g).1.frame = g.frame := by
  induction cs generalizing fs g with
  | nil => rfl
  | cons i cs ih =>
    simp only [tryEach]
    split
    · exact ih fs g
    · split
      · exact frame_setBackend ..
      · split
        · simp
        · rw [ih]; simp

theorem dispatch_frame (clock : Clock) (op : Operation) (g : Failover B) : (dispatch clock op g).1.frame = g.frame := by
  simp only [dispatch, tryEach_frame]
  simp only [frame, Rotation.candidates_strategy]

/-! ## Checks -/

theorem frame_setPairs (g : Failover B) {ps : List (Monitor.Watched B)} (h : ps.length = g.watch.pairs.length) :
    (g.setWatch (g.watch.setPairs ps)).frame = g.frame := by
  have hmin : ps.length = min g.monitor.records.length g.backends.length := by
    rw [h]; simp [watch, Watch.pairs]
  simp only [frame, setWatch, Watch.setPairs, watch, List.length_append, List.length_map, List.length_drop,
    Frame.mk.injEq, and_true, true_and]
  omega

theorem refresh_frame (clock : Clock) (g : Failover B) : ((refresh B).start clock () g).1.frame = g.frame :=
  frame_setPairs g (Service.length_startEach ..)

theorem resumeRefresh_frame (clock : Clock) (checks : Checks B) (g : Failover B) :
    ((refresh B).resume clock checks g).1.frame = g.frame :=
  frame_setPairs g (Service.length_pollEach ..)

theorem abandonRefresh_frame (checks : Checks B) (g : Failover B) : ((refresh B).abandon checks g).frame = g.frame :=
  frame_setPairs g (Service.length_abandonEach ..)

/-! ## Operations -/

theorem afterChecks_frame (clock : Clock) (op : Operation) (p : Failover B × Turn (Checks B) Unit) :
    (afterChecks clock op p).1.frame = p.1.frame := by
  obtain ⟨g, _ | checks⟩ := p
  · exact dispatch_frame clock op g
  · rfl

theorem start_frame (clock : Clock) (op : Operation) (g : Failover B) :
    ((operate B).start clock op g).1.frame = g.frame := by
  simp only [operate, startOperation]
  split
  · rfl
  · exact (afterChecks_frame ..).trans (refresh_frame clock g)

theorem afterAttempt_frame (clock : Clock) (op : Operation) (i : Nat) (rest : List Nat) (fs : List Failure)
    (g : Failover B) (p : B.State × Turn (Service.Bounded B.operate.Flight) (Option Outcome)) :
    (afterAttempt clock op i rest fs g p).1.frame = g.frame := by
  obtain ⟨b, answer | attempt⟩ := p
  · simp only [afterAttempt]
    split
    · simp
    · rw [tryEach_frame]; simp
  · exact frame_setBackend ..

theorem resume_frame (clock : Clock) (x : Execution B) (g : Failover B) :
    ((operate B).resume clock x g).1.frame = g.frame := by
  cases x with
  | checking op checks => exact (afterChecks_frame ..).trans (resumeRefresh_frame clock checks g)
  | attempting op i attempt rest fs =>
    simp only [operate, resumeOperation]
    split
    · exact tryEach_frame ..
    · exact afterAttempt_frame ..

theorem abandon_frame (x : Execution B) (g : Failover B) : ((operate B).abandon x g).frame = g.frame := by
  cases x with
  | checking op checks => exact abandonRefresh_frame checks g
  | attempting op i attempt rest fs =>
    simp only [operate, abandonOperation]
    split
    · rfl
    · exact frame_setBackend ..

/-! ## What a configuration leads to -/

inductive Reach (c : Config) : Failover B → Prop
  | built {σ : Type} (r : Registry σ B.State) (trace : σ) {g : Failover B} : (r.group c trace).1 = .ok g → Reach c g
  | start (clock : Clock) (op : Operation) {g : Failover B} : Reach c g → Reach c ((operate B).start clock op g).1
  | resume (clock : Clock) (x : Execution B) {g : Failover B} : Reach c g → Reach c ((operate B).resume clock x g).1
  | abandon (x : Execution B) {g : Failover B} : Reach c g → Reach c ((operate B).abandon x g)
  | check (clock : Clock) {g : Failover B} : Reach c g → Reach c ((refresh B).start clock () g).1
  | resumeCheck (clock : Clock) (checks : Checks B) {g : Failover B} : Reach c g →
      Reach c ((refresh B).resume clock checks g).1
  | abandonCheck (checks : Checks B) {g : Failover B} : Reach c g → Reach c ((refresh B).abandon checks g)
  /-- The backends change by themselves, or by the hand of others. -/
  | outside (bs : List B.State) {g : Failover B} : bs.length = g.backends.length → Reach c g →
      Reach c { g with backends := bs }

theorem length_buildAll {σ α : Type} (r : Registry σ α) (bs : List BackendSpec) (trace : σ) {states : List α}
    (h : (r.buildAll bs trace).1 = .ok states) : states.length = bs.length := by
  induction bs generalizing trace states with
  | nil => simp only [Registry.buildAll, Except.ok.injEq] at h; simp [← h]
  | cons b bs ih =>
    simp only [Registry.buildAll] at h
    split at h
    · cases h
    · split at h
      · cases h
      · rename_i hrest
        simp only [Except.ok.injEq] at h
        rw [← h, List.length_cons, ih _ (by rw [hrest]), List.length_cons]

/-- A group is built only from a sound configuration, and of one fresh backend for each that is configured. -/
theorem group_ok {σ : Type} {r : Registry σ B.State} {c : Config} {trace : σ} {g : Failover B}
    (h : (r.group c trace).1 = .ok g) :
    c.check = .ok () ∧ ∃ states : List B.State, states.length = c.backends.length ∧ g = Registry.assemble c states := by
  simp only [Registry.group] at h
  split at h
  · cases h
  · rename_i hc
    split at h
    · cases h
    · split at h
      · cases h
      · rename_i states trace' hall
        cases h
        exact ⟨hc, states, length_buildAll r c.backends trace (by rw [hall]), rfl⟩

theorem Reach.frame {c : Config} {g : Failover B} (h : Reach c g) : g.frame = .ofConfig c := by
  induction h with
  | built r trace h =>
    obtain ⟨-, states, hlen, rfl⟩ := group_ok h
    simp [Failover.frame, Registry.assemble, Frame.ofConfig, Monitor.start, Rotation.start, hlen]
  | start clock op _ ih => rw [start_frame, ih]
  | resume clock x _ ih => rw [resume_frame, ih]
  | abandon x _ ih => rw [abandon_frame, ih]
  | check clock _ ih => rw [refresh_frame, ih]
  | resumeCheck clock checks _ ih => rw [resumeRefresh_frame, ih]
  | abandonCheck checks _ ih => rw [abandonRefresh_frame, ih]
  | outside bs hlen _ ih => rw [← ih]; simp [Failover.frame, hlen]

end Failover

end RateCounter
