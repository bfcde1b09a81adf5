/-
  RateCounter.Proofs.Failover.Reference — what an operation of a group does, run alone.

  `Reference` tells it without the turns: the candidates are attempted one after the other
  up to the first that succeeds, each with the whole time limit for itself, and each
  attempt goes once into the record of its backend. If none succeeds the failures are
  returned, one for each candidate in the order of the candidates.
  - `operate_alone`: on every group that comes from a configuration, every operation that
    is not refused ends, and ends as `Reference` says.
  - `tame_backend` / `tame_tree`: a group of tame backends is tame, so the same is true of
    groups nested to any depth.
-/

import RateCounter.Proofs.Failover.Checks
import RateCounter.Proofs.Failover.Reach
import RateCounter.Proofs.Rotation
import RateCounter.Simulation.Tree

namespace RateCounter

namespace Failover

variable {B : Backend}

open Monitor (Watch Checks)
open Service (Runs)

/-! ## The reference -/

/-- An attempt: at which backend, the answer if one came in time, and the backend afterwards. -/
structure Attempt (B : Backend) where
  position : Nat
  answer : Option Outcome
  left : B.State

/-- What an attempt counts as: without an answer in its `ms` milliseconds, as a failure. -/
def Attempt.outcome (op : Operation) (ms : Nat) (a : Attempt B) : Outcome :=
  match a.answer with
  | some outcome => outcome
  | none => .error (.unavailable (op.name ++ " timed out after " ++ toString ms ++ "ms"))

/-- The attempt at a backend, if there was one. -/
def attemptAt (tried : List (Attempt B)) (i : Nat) : Option (Attempt B) := tried.find? fun a => a.position == i

/-- A record after the attempt at its backend. -/
def noted (op : Operation) (ms threshold : Nat) (attempt : Option (Attempt B)) (h : Health) : Health :=
  match attempt.map (Attempt.outcome op ms) with
  | none => h
  | some (.ok _) => h.succeed
  | some (.error e) => h.fail threshold e

/-- Attempts one after the other, each with `ms` milliseconds from its own start. -/
inductive Attempts (op : Operation) (ms : Nat) (backends : List B.State) : Clock → List (Attempt B) → Clock → Prop
  | nil (clock : Clock) : Attempts op ms backends clock [] clock
  | cons {clock clock' clock'' : Clock} {b : B.State} {a : Attempt B} {tried : List (Attempt B)} :
      backends[a.position]? = some b →
      B.operate.Ends (clock.mono + millis ms) clock (B.operate.start clock op b) clock' a.left a.answer →
      Attempts op ms backends clock' tried clock'' → Attempts op ms backends clock (a :: tried) clock''

/-- What is returned after these attempts: the first value, or every failure under its backend's name. -/
inductive Returned (c : Config) (op : Operation) (candidates : List Nat) : List (Attempt B) → Result → Prop
  | value {failed : List (Attempt B)} {last : Attempt B} {v : Value} :
      (∀ a ∈ failed, ∃ e, a.outcome op c.operationTimeoutMs.toNat = .error e) → last.answer = some (.ok v) →
      Returned c op candidates (failed ++ [last]) (.ok v)
  | exhausted {tried : List (Attempt B)} {failures : List Failure} :
      tried.map Attempt.position = candidates →
      List.Forall₂ (fun a f => c.backends[a.position]?.map BackendSpec.name = some f.backend ∧
        a.outcome op c.operationTimeoutMs.toNat = .error f.error) tried failures →
      Returned c op candidates tried (.error (.allBackendsFailed op.name failures))

/-- What the attempts leave behind: their backends and records changed once each, nothing else. -/
structure Effects (op : Operation) (ms : Nat) (clock : Clock) (g : Failover B) (tried : List (Attempt B))
    (clock' : Clock) (g' : Failover B) : Prop where
  attempts : Attempts op ms g.backends clock tried clock'
  backends : ∀ i, g'.backends[i]? = g.backends[i]?.map fun b => ((attemptAt tried i).map Attempt.left).getD b
  records : ∀ i, g'.monitor.records[i]? =
    g.monitor.records[i]?.map (noted op ms g.monitor.threshold (attemptAt tried i))
  frame : g'.frame = g.frame

/-- An operation on a group whose checks are done leads from `g` to `g'` and returns `r`. -/
structure Reference (c : Config) (op : Operation) (clock : Clock) (g : Failover B) (tried : List (Attempt B))
    (clock' : Clock) (g' : Failover B) (r : Result) : Prop
    extends Effects op c.operationTimeoutMs.toNat clock g tried clock' g' where
  order : tried.map Attempt.position <+: (g.rotation.candidates g.monitor.flags).1
  once : (tried.map Attempt.position).Nodup
  returned : Returned c op (g.rotation.candidates g.monitor.flags).1 tried r
  rotation : g'.rotation = (g.rotation.candidates g.monitor.flags).2

/-! ## Attempts -/

@[simp] theorem setBackend_setBackend (g : Failover B) (i : Nat) (b b' : B.State) :
    (g.setBackend i b).setBackend i b' = g.setBackend i b' := by
  simp [setBackend]

theorem afterAttempt_setBackend (clock : Clock) (op : Operation) (i : Nat) (rest : List Nat) (fs : List Failure)
    (g : Failover B) (s : B.State) (p : B.State × Turn (Service.Bounded B.operate.Flight) (Option Outcome)) :
    afterAttempt clock op i rest fs (g.setBackend i s) p = afterAttempt clock op i rest fs g p := by
  obtain ⟨b, answer | attempt⟩ := p
  · simp only [afterAttempt, setBackend_setBackend]
    rfl
  · simp only [afterAttempt, setBackend_setBackend]

theorem tryEach_cons (clock : Clock) (op : Operation) {i : Nat} (rest : List Nat) (fs : List Failure) {g : Failover B}
    {b : B.State} (hb : g.backends[i]? = some b) :
    tryEach clock op (i :: rest) fs g =
      afterAttempt clock op i rest fs g ((B.operate.within g.timeout).start clock op b) := by
  simp only [tryEach, hb]
  rcases (B.operate.within g.timeout).start clock op b with ⟨b', answer | attempt⟩ <;> rfl

/-- An operation goes on when the attempt it waits for is over. -/
theorem afterAttempt_runs {op : Operation} {i m n : Nat} {rest : List Nat} {fs : List Failure} {g : Failover B}
    {clock clock' clock'' : Clock} {p : B.State × Turn (B.operate.within g.timeout).Flight (Option Outcome)}
    {b' : B.State} {answer : Option Outcome} {g'' : Failover B} {r : Result}
    (h : (B.operate.within g.timeout).Runs n clock p clock' b' answer) (hi : i < g.backends.length)
    (hnext : (operate B).Runs m clock' (afterAttempt clock' op i rest fs g (b', .done answer)) clock'' g'' r) :
    (operate B).Runs (m + n) clock (afterAttempt clock op i rest fs g p) clock'' g'' r := by
  induction h with
  | done => exact hnext
  | @turn n t clock clock' s b' attempt answer hw _ ih =>
    refine .turn hw ?_
    have hs : (g.setBackend i s).backends[i]? = some s := by simp [setBackend, hi]
    have hresume : resumeOperation (clock.waitUntil t) (.attempting op i attempt rest fs) (g.setBackend i s) =
        afterAttempt (clock.waitUntil t) op i rest fs g
          ((B.operate.within g.timeout).resume (clock.waitUntil t) attempt s) := by
      simp only [resumeOperation, hs]
      exact afterAttempt_setBackend ..
    exact (congrArg (fun p => (operate B).Runs _ _ p clock'' g'' r) hresume).mpr (ih hnext)

theorem afterChecks_runs {op : Operation} {m n : Nat} {clock clock₁ clock' : Clock}
    {p : Failover B × Turn (refresh B).Flight Unit} {g₁ g' : Failover B} {r : Result}
    (h : (refresh B).Runs n clock p clock₁ g₁ ())
    (hnext : (operate B).Runs m clock₁ (dispatch clock₁ op g₁) clock' g' r) :
    (operate B).Runs (m + n) clock (afterChecks clock op p) clock' g' r := by
  generalize hu : () = u at h
  induction h with
  | done => exact hnext
  | turn hw _ ih => exact .turn hw (ih hnext hu)

theorem outcomeOf_millis (op : Operation) (ms : Nat) (a : Attempt B) :
    outcomeOf op (millis ms) a.answer = a.outcome op ms := by
  have hms : millis ms / nanosPerMilli = ms := Nat.mul_div_cancel ms (by decide)
  cases h : a.answer with
  | none => simp only [outcomeOf, Attempt.outcome, h, limitText, hms, String.append_assoc]
  | some outcome => simp only [outcomeOf, Attempt.outcome, h]

/-- A group after an attempt. -/
def note (op : Operation) (ms : Nat) (g : Failover B) (a : Attempt B) : Failover B :=
  match a.outcome op ms with
  | .ok _ => (g.setBackend a.position a.left).succeedAt a.position
  | .error e => (g.setBackend a.position a.left).failAt a.position e

/-- An attempt that is over is noted. Then its value is returned or the candidates left are tried. -/
theorem afterAttempt_answered (op : Operation) {ms : Nat} {g : Failover B} (htimeout : g.timeout = millis ms)
    (clock : Clock) (a : Attempt B) (rest : List Nat) (fs : List Failure) :
    afterAttempt clock op a.position rest fs g (a.left, .done a.answer) =
      match a.outcome op ms with
      | .ok v => (note op ms g a, .done (.ok v))
      | .error e => tryEach clock op rest (fs ++ [⟨g.nameAt a.position, e⟩]) (note op ms g a) := by
  simp only [afterAttempt, htimeout, outcomeOf_millis, note]
  cases a.outcome op ms <;> rfl

theorem note_backends (op : Operation) (ms : Nat) (g : Failover B) (a : Attempt B) :
    (note op ms g a).backends = g.backends.set a.position a.left := by
  simp only [note]
  split <;> rfl

theorem note_records (op : Operation) (ms : Nat) (g : Failover B) (a : Attempt B) :
    (note op ms g a).monitor.records =
      g.monitor.records.modify a.position (noted op ms g.monitor.threshold (some a)) := by
  have hnoted : noted op ms g.monitor.threshold (some a) = fun h => match a.outcome op ms with
      | .ok _ => h.succeed
      | .error e => h.fail g.monitor.threshold e := by
    funext h
    simp only [noted, Option.map_some]
    cases a.outcome op ms <;> rfl
  rw [hnoted]
  simp only [note]
  cases a.outcome op ms <;> rfl

theorem note_frame (op : Operation) (ms : Nat) (g : Failover B) (a : Attempt B) :
    (note op ms g a).frame = g.frame := by
  simp only [note]
  split <;> simp

theorem note_rotation (op : Operation) (ms : Nat) (g : Failover B) (a : Attempt B) :
    (note op ms g a).rotation = g.rotation := by
  simp only [note]
  split <;> rfl

theorem Effects.nil (op : Operation) (ms : Nat) (clock : Clock) (g : Failover B) :
    Effects op ms clock g [] clock g where
  attempts := .nil clock
  backends i := by simp [attemptAt]
  records i := by simp only [attemptAt, List.find?_nil]; exact Option.map_id'.symm
  frame := rfl

theorem Attempts.congr {op : Operation} {ms : Nat} {bs bs' : List B.State} {clock clock' : Clock}
    {tried : List (Attempt B)} (h : Attempts op ms bs clock tried clock')
    (heq : ∀ a ∈ tried, bs[a.position]? = bs'[a.position]?) : Attempts op ms bs' clock tried clock' := by
  induction h with
  | nil clock => exact .nil clock
  | cons hb hends _ ih => exact .cons ((heq _ (by simp)).symm.trans hb) hends (ih fun a ha => heq a (by simp [ha]))

theorem attemptAt_cons_ne {a : Attempt B} {i : Nat} (hi : a.position ≠ i) (tried : List (Attempt B)) :
    attemptAt (a :: tried) i = attemptAt tried i := by
  simp [attemptAt, hi]

theorem attemptAt_cons_self (a : Attempt B) (tried : List (Attempt B)) :
    attemptAt (a :: tried) a.position = some a := by
  simp [attemptAt]

theorem attemptAt_eq_none {i : Nat} {tried : List (Attempt B)} (hi : i ∉ tried.map Attempt.position) :
    attemptAt tried i = none := by
  simp only [attemptAt, List.find?_eq_none, beq_iff_eq]
  exact fun x hx e => hi (List.mem_map.mpr ⟨x, hx, e⟩)

/-- The records are told of an attempt, and then of those at other backends. -/
theorem noted_cons {op : Operation} {ms : Nat} {g : Failover B} {records : List Health} {a : Attempt B}
    {tried : List (Attempt B)} (hnew : a.position ∉ tried.map Attempt.position)
    (h : ∀ i : Nat, records[i]? =
      (note op ms g a).monitor.records[i]?.map (noted op ms g.monitor.threshold (attemptAt tried i))) (i : Nat) :
    records[i]? = g.monitor.records[i]?.map (noted op ms g.monitor.threshold (attemptAt (a :: tried) i)) := by
  rw [h i, note_records]
  by_cases hi : a.position = i
  · subst hi
    rw [attemptAt_eq_none hnew, attemptAt_cons_self, List.getElem?_modify_eq]
    cases g.monitor.records[a.position]? <;> rfl
  · rw [List.getElem?_modify_ne _ _ hi, attemptAt_cons_ne hi]

/-- One attempt more, at a backend that is not tried again. -/
theorem Effects.cons {op : Operation} {ms : Nat} {clock clock' clock'' : Clock} {g g'' : Failover B} {a : Attempt B}
    {tried : List (Attempt B)} {b : B.State} (hb : g.backends[a.position]? = some b)
    (hends : B.operate.Ends (clock.mono + millis ms) clock (B.operate.start clock op b) clock' a.left a.answer)
    (hnew : a.position ∉ tried.map Attempt.position) (h : Effects op ms clock' (note op ms g a) tried clock'' g'') :
    Effects op ms clock g (a :: tried) clock'' g'' := by
  have hthreshold : (note op ms g a).monitor.threshold = g.monitor.threshold :=
    congrArg Frame.threshold (note_frame op ms g a)
  refine ⟨.cons hb hends (h.attempts.congr fun x hx => ?_), fun i => ?_,
    noted_cons hnew fun i => hthreshold ▸ h.records i, h.frame.trans (note_frame ..)⟩
  · rw [note_backends, List.getElem?_set_ne fun e => hnew (List.mem_map.mpr ⟨x, hx, e.symm⟩)]
  · rw [h.backends i, note_backends]
    by_cases hi : a.position = i
    · subst hi
      rw [attemptAt_eq_none hnew, attemptAt_cons_self, hb]
      simp [(List.getElem?_eq_some_iff.mp hb).1]
    · rw [List.getElem?_set_ne hi, attemptAt_cons_ne hi]

/-! ## The candidates in order -/

/-- What is returned after some candidates have failed already. -/
def ReturnedAfter (op : Operation) (ms : Nat) (g : Failover B) (cs : List Nat) (fs : List Failure)
    (tried : List (Attempt B)) (r : Result) : Prop :=
  (∃ failed last v, tried = failed ++ [last] ∧ (∀ a ∈ failed, ∃ e, a.outcome op ms = .error e) ∧
      last.answer = some (.ok v) ∧ r = .ok v) ∨
    ∃ failures, tried.map Attempt.position = cs ∧
      List.Forall₂ (fun a f => g.names[a.position]? = some f.backend ∧ a.outcome op ms = .error f.error)
        tried failures ∧
      r = .error (.allBackendsFailed op.name (fs ++ failures))

theorem outcome_ok {op : Operation} {ms : Nat} {a : Attempt B} {v : Value} (h : a.outcome op ms = .ok v) :
    a.answer = some (.ok v) := by
  cases e : a.answer with
  | none => simp [Attempt.outcome, e] at h
  | some outcome => simp only [Attempt.outcome, e] at h; rw [h]

theorem getElem?_names {g : Failover B} {i : Nat} (h : i < g.names.length) : g.names[i]? = some (g.nameAt i) := by
  simp [nameAt, List.getD_eq_getElem?_getD, h]

/-- A failure goes in front of what the candidates after it return. -/
theorem ReturnedAfter.cons {op : Operation} {ms : Nat} {g g₁ : Failover B} {cs : List Nat} {fs : List Failure}
    {a : Attempt B} {tried : List (Attempt B)} {name : String} {e : BackendError} {r : Result}
    (hsame : g₁.names = g.names) (hname : g.names[a.position]? = some name)
    (hout : a.outcome op ms = .error e) (h : ReturnedAfter op ms g₁ cs (fs ++ [⟨name, e⟩]) tried r) :
    ReturnedAfter op ms g (a.position :: cs) fs (a :: tried) r := by
  rcases h with ⟨failed, last, v, rfl, hfailed, hlast, rfl⟩ | ⟨failures, hall, hfs, rfl⟩
  · refine .inl ⟨a :: failed, last, v, rfl, fun x hx => ?_, hlast, rfl⟩
    rcases List.mem_cons.mp hx with rfl | hx
    · exact ⟨e, hout⟩
    · exact hfailed x hx
  · rw [hsame] at hfs
    exact .inr ⟨⟨name, e⟩ :: failures, by rw [List.map_cons, hall], .cons ⟨hname, hout⟩ hfs, by simp⟩

/-- The induction is on the candidates left. What was recorded before stays in `g`, what failed before in `fs`. -/
theorem tryEach_alone (hB : B.operate.Tame) (op : Operation) (ms : Nat) (cs : List Nat) (hcs : cs.Nodup)
    (fs : List Failure) (g : Failover B) (clock : Clock) (hrange : ∀ i ∈ cs, i < g.backends.length)
    (hnames : g.names.length = g.backends.length) (htimeout : g.timeout = millis ms) :
    ∃ n tried clock' g' r, (operate B).Runs n clock (tryEach clock op cs fs g) clock' g' r ∧
      Effects op ms clock g tried clock' g' ∧ tried.map Attempt.position <+: cs ∧
      ReturnedAfter op ms g cs fs tried r ∧ g'.rotation = g.rotation := by
  induction cs generalizing fs g clock with
  | nil =>
    refine ⟨0, [], clock, g, _, .done .., .nil .., List.prefix_rfl, .inr ⟨[], rfl, .nil, ?_⟩, rfl⟩
    rw [List.append_nil]
  | cons i cs ih =>
    obtain ⟨hi, hnodup⟩ := List.nodup_cons.mp hcs
    have hlt : i < g.backends.length := hrange i (by simp)
    obtain ⟨b, hb⟩ : ∃ b, g.backends[i]? = some b := ⟨_, List.getElem?_eq_getElem hlt⟩
    obtain ⟨clock₁, a, rfl, hends⟩ : ∃ (clock₁ : Clock) (a : Attempt B), a.position = i ∧
        B.operate.Ends (clock.mono + millis ms) clock (B.operate.start clock op b) clock₁ a.left a.answer := by
      obtain ⟨clock₁, left, answer, hends⟩ := hB (millis ms) clock op b
      exact ⟨clock₁, ⟨i, answer, left⟩, rfl, hends⟩
    obtain ⟨k, hrun⟩ : ∃ k, (B.operate.within g.timeout).Runs k clock
        ((B.operate.within g.timeout).start clock op b) clock₁ a.left a.answer := by
      rw [htimeout]
      exact Service.within_runs hends
    have hafter := afterAttempt_answered op htimeout clock₁ a cs fs
    rw [tryEach_cons clock op cs fs hb]
    -- The attempt is over: it succeeded, or the candidates left are tried on what it leaves.
    cases hout : a.outcome op ms with
    | ok v =>
      simp only [hout] at hafter
      refine ⟨0 + k, [a], clock₁, note op ms g a, .ok v, afterAttempt_runs hrun hlt ?_, ?_, ⟨cs, rfl⟩, ?_,
        note_rotation ..⟩
      · rw [hafter]
        exact .done ..
      · exact .cons hb hends (by simp) (.nil ..)
      · exact .inl ⟨[], a, v, rfl, by simp, outcome_ok hout, rfl⟩
    | error e =>
      simp only [hout] at hafter
      have hframe := note_frame op ms g a
      have hsize : (note op ms g a).backends.length = g.backends.length := congrArg Frame.backends hframe
      have hsame : (note op ms g a).names = g.names := congrArg Frame.names hframe
      obtain ⟨n, tried, clock', g', r, hrest, heff, horder, hret, hrot⟩ :=
        ih hnodup (fs ++ [⟨g.nameAt a.position, e⟩]) (note op ms g a) clock₁
          (fun j hj => by rw [hsize]; exact hrange j (by simp [hj])) (by rw [hsame, hsize, hnames])
          ((congrArg Frame.timeout hframe).trans htimeout)
      have hnew : a.position ∉ tried.map Attempt.position := fun h => hi (horder.subset h)
      exact ⟨n + k, a :: tried, clock', g', r, afterAttempt_runs hrun hlt (by rw [hafter]; exact hrest),
        .cons hb hends hnew heff, List.cons_prefix_cons.mpr ⟨rfl, horder⟩,
        .cons hsame (getElem?_names (hnames ▸ hlt)) hout hret, hrot.trans (note_rotation ..)⟩

/-! ## The operation -/

theorem startOperation_accepted {op : Operation} (hop : refusal? op = none) (clock : Clock) (g : Failover B) :
    (operate B).start clock op g = afterChecks clock op ((refresh B).start clock () g) := by
  simp only [operate, startOperation, hop]

theorem startOperation_refused {op : Operation} {e : WindowError} (hop : refusal? op = some e) (clock : Clock)
    (g : Failover B) : (operate B).start clock op g = (g, .done (.error (.invalidArgument e.message))) := by
  simp only [operate, startOperation, hop]

/-- The checks, and then the candidates. -/
theorem operate_reference (hB : B.Tame) {c : Config} {g : Failover B} (hg : Reach c g) (clock : Clock) {op : Operation}
    (hop : refusal? op = none) :
    ∃ k n clock₁ g₁ tried clock' g' r,
      (refresh B).Runs k clock ((refresh B).start clock () g) clock₁ g₁ () ∧ g₁.frame = g.frame ∧
        g₁.rotation = g.rotation ∧ (operate B).Runs (n + k) clock ((operate B).start clock op g) clock' g' r ∧
        Reference c op clock₁ g₁ tried clock' g' r := by
  obtain ⟨k, clock₁, g₁, hchecks, hframe, hrot⟩ := refresh_alone hB.probe g clock
  have hc : g₁.frame = .ofConfig c := hframe.trans hg.frame
  have hnames : g₁.names = c.backends.map BackendSpec.name := congrArg Frame.names hc
  have hbackends : g₁.backends.length = c.backends.length := congrArg Frame.backends hc
  have hrecords : g₁.monitor.records.length = c.backends.length := congrArg Frame.records hc
  obtain ⟨hnodup, hrange⟩ := g₁.rotation.candidates_nodup g₁.monitor.flags
  have hflags : g₁.monitor.flags.length = c.backends.length := by simp [Monitor.flags, hrecords]
  let g₂ : Failover B := { g₁ with rotation := (g₁.rotation.candidates g₁.monitor.flags).2 }
  obtain ⟨n, tried, clock', g', r, hrun, heff, horder, hret, hrot'⟩ :=
    tryEach_alone hB.operate op c.operationTimeoutMs.toNat _ hnodup [] g₂ clock₁
      (fun i hi => by rw [hbackends, ← hflags]; exact hrange i hi) (by simp [g₂, hnames, hbackends])
      (congrArg Frame.timeout hc)
  have hall : (operate B).Runs (n + k) clock ((operate B).start clock op g) clock' g' r := by
    rw [startOperation_accepted hop]
    exact afterChecks_runs hchecks hrun
  have hframe₂ : g₂.frame = g₁.frame := by simp only [frame, g₂, Rotation.candidates_strategy]
  refine ⟨k, n, clock₁, g₁, tried, clock', g', r, hchecks, hframe, hrot, hall,
    ⟨⟨heff.attempts, heff.backends, ?_, heff.frame.trans hframe₂⟩, horder, hnodup.sublist horder.sublist, ?_, hrot'⟩⟩
  · exact heff.records
  · rcases hret with ⟨failed, last, v, rfl, hfailed, hlast, rfl⟩ | ⟨failures, htried, hfs, rfl⟩
    · exact .value hfailed hlast
    · refine .exhausted htried (hfs.imp fun a f hf => ⟨?_, hf.2⟩)
      rw [← List.getElem?_map, ← hnames]
      exact hf.1

theorem operate_alone (hB : B.Tame) {c : Config} {g : Failover B} (hg : Reach c g) (clock : Clock) {op : Operation}
    (hop : refusal? op = none) :
    ∃ fuel clock₁ g₁ tried clock' g' r,
      (refresh B).call fuel clock () g = (clock₁, g₁, some ()) ∧ g₁.frame = g.frame ∧ g₁.rotation = g.rotation ∧
        (operate B).call fuel clock op g = (clock', g', some r) ∧ Reference c op clock₁ g₁ tried clock' g' r := by
  obtain ⟨k, n, clock₁, g₁, tried, clock', g', r, hchecks, hframe, hrot, hrun, href⟩ :=
    operate_reference hB hg clock hop
  exact ⟨n + k, clock₁, g₁, tried, clock', g', r, hchecks.settle (by omega), hframe, hrot,
    hrun.settle (Nat.le_refl _), href⟩

/-- Two stores of which the first never answers an operation. -/
def firstHangs : Config := .ofBackends [⟨"a", "faulty", []⟩, ⟨"b", "faulty", []⟩]

def hanging : Registry Unit Simulation.FaultyStore.backend.State :=
  Registry.empty.register "faulty" fun b trace =>
    (.ok (.ofFaults { Simulation.Faults.none with hanging := b.name == "a" }), trace)

def hangingPair : Failover Simulation.FaultyStore.backend :=
  Registry.assemble firstHangs
    [.ofFaults { Simulation.Faults.none with hanging := true }, .ofFaults Simulation.Faults.none]

theorem hangingPair_reach : Reach firstHangs hangingPair := .built hanging () rfl

theorem operate_alone_first_hangs :
    Simulation.FaultyStore.backend.Tame ∧ Reach firstHangs hangingPair ∧ refusal? (.increment "k" (seconds 60)) = none ∧
      ∃ fuel clock₁ g₁ tried clock' g' r,
        (refresh _).call fuel ⟨0, 0⟩ () hangingPair = (clock₁, g₁, some ()) ∧ g₁.frame = hangingPair.frame ∧
          g₁.rotation = hangingPair.rotation ∧
          (operate _).call fuel ⟨0, 0⟩ (.increment "k" (seconds 60)) hangingPair = (clock', g', some r) ∧
          Reference firstHangs (.increment "k" (seconds 60)) clock₁ g₁ tried clock' g' r :=
  ⟨Simulation.FaultyStore.tame, hangingPair_reach, rfl,
    operate_alone Simulation.FaultyStore.tame hangingPair_reach ⟨0, 0⟩ rfl⟩

/-- The check of the first store takes its 500 ms, the second store answers at once. -/
example :
    ((operate _).call 2 ⟨0, 0⟩ (.increment "k" (seconds 60)) hangingPair).1 = ⟨millis 500, millis 500⟩ ∧
      ((operate _).call 2 ⟨0, 0⟩ (.increment "k" (seconds 60)) hangingPair).2.2 = some (.ok (.count 1)) := by
  cbv

/-! ## Groups in groups -/

theorem tryEach_ends (hB : B.operate.Tame) (op : Operation) (cs : List Nat) (fs : List Failure) (g : Failover B)
    (clock : Clock) : ∃ n clock' g' r, (operate B).Runs n clock (tryEach clock op cs fs g) clock' g' r := by
  induction cs generalizing fs g clock with
  | nil => exact ⟨0, clock, g, _, .done ..⟩
  | cons i cs ih =>
    cases hb : g.backends[i]? with
    | none =>
      simp only [tryEach, hb]
      exact ih fs g clock
    | some b =>
      obtain ⟨k, clock₁, b', answer, hrun⟩ := hB.within_runs g.timeout clock op b
      have hlt : i < g.backends.length := (List.getElem?_eq_some_iff.mp hb).1
      rw [tryEach_cons clock op cs fs hb]
      cases hout : outcomeOf op g.timeout answer with
      | ok v =>
        refine ⟨0 + k, clock₁, (g.setBackend i b').succeedAt i, .ok v, afterAttempt_runs hrun hlt ?_⟩
        simp only [afterAttempt, hout]
        exact .done ..
      | error e =>
        obtain ⟨n, clock', g', r, hrest⟩ := ih (fs ++ [⟨g.nameAt i, e⟩]) ((g.setBackend i b').failAt i e) clock₁
        refine ⟨n + k, clock', g', r, afterAttempt_runs hrun hlt ?_⟩
        simp only [afterAttempt, hout]
        exact hrest

theorem operate_ends (hB : B.Tame) (clock : Clock) (op : Operation) (g : Failover B) :
    ∃ n clock' g' r, (operate B).Runs n clock ((operate B).start clock op g) clock' g' r := by
  cases hop : refusal? op with
  | some e =>
    refine ⟨0, clock, g, .error (.invalidArgument e.message), ?_⟩
    simp only [operate, startOperation, hop]
    exact .done ..
  | none =>
    obtain ⟨k, clock₁, g₁, hchecks, -, -⟩ := refresh_alone hB.probe g clock
    obtain ⟨n, clock', g', r, hrun⟩ := tryEach_ends hB.operate op (g₁.rotation.candidates g₁.monitor.flags).1 []
      { g₁ with rotation := (g₁.rotation.candidates g₁.monitor.flags).2 } clock₁
    rw [startOperation_accepted hop]
    exact ⟨n + k, clock', g', r, afterChecks_runs hchecks hrun⟩

theorem probe_runs {n : Nat} {clock clock' : Clock} {p : Failover B × Turn (refresh B).Flight Unit} {g' : Failover B}
    (h : (refresh B).Runs n clock p clock' g' ()) :
    (probe B).Runs n clock (probe.answerHealth B p) clock' g' g'.anyHealthy := by
  generalize hu : () = u at h
  induction h with
  | done => exact .done ..
  | turn hw _ ih => exact .turn hw (ih hu)

theorem tame_backend (hB : B.Tame) : (backend B).Tame where
  operate := Service.tame_of_runs fun clock op g => by
    obtain ⟨n, clock', g', r, h⟩ := operate_ends hB clock op g
    exact ⟨n, clock', g', _, h.mapReply _⟩
  probe := Service.tame_of_runs fun clock _ g => by
    obtain ⟨n, clock', g', h, -, -⟩ := refresh_alone hB.probe g clock
    exact ⟨n, clock', g', g'.anyHealthy, probe_runs h⟩

end Failover

theorem Simulation.tame_tree (n : Nat) : (tree n).Tame := by
  have hleaf : leaf.Tame := (Store.tame.sum Mesh.Node.tame).sum FaultyStore.tame
  induction n with
  | zero => exact hleaf
  | succ n ih => exact hleaf.sum (Failover.tame_backend ih)

end RateCounter
