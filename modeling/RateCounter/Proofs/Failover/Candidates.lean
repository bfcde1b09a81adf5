/-
  RateCounter.Proofs.Failover.Candidates — an operation finds a backend for each candidate.

  A group keeps one record for each of its backends (`Matched`), so the candidates, which are
  positions of records, are positions of backends. This is true at every moment of any
  traffic: of the candidates an operation chooses, and of those it has left while it waits
  (`Execution.left`). There is always a first one to try, so no operation that has not been
  refused is over without an attempt (`candidates_found_and_tried`).
-/

import RateCounter.Proofs.Failover.Traffic
import RateCounter.Proofs.Rotation.Order

namespace RateCounter

namespace Failover

variable {B : Backend} {clock : Clock} {op : Operation} {size : Nat} {g g' : Failover B} {x : Execution B}

open Monitor (Checks)

/-- A group of this many backends, at least one, has a record and a name for each. -/
structure Matched (size : Nat) (g : Failover B) : Prop where
  backends : g.backends.length = size
  records : g.monitor.records.length = size
  names : g.names.length = size
  nonempty : 0 < size

theorem Matched.of_frame (h : g.Matched size) (hframe : g'.frame = g.frame) : g'.Matched size := by
  have hbackends : g'.backends.length = g.backends.length := congrArg Frame.backends hframe
  have hrecords : g'.monitor.records.length = g.monitor.records.length := congrArg Frame.records hframe
  have hnames : g'.names = g.names := congrArg Frame.names hframe
  refine ⟨?_, ?_, ?_, h.nonempty⟩
  · rw [hbackends, h.backends]
  · rw [hrecords, h.records]
  · rw [hnames, h.names]

theorem matched_group {σ : Type} {r : Registry σ B.State} {c : Config} {trace : σ}
    (h : (r.group c trace).1 = .ok g) : g.Matched c.backends.length := by
  obtain ⟨hcheck, states, hlength, rfl⟩ := group_ok h
  have hsome : c.backends ≠ [] := by
    intro hnone
    simp [Config.check, hnone] at hcheck
  refine ⟨hlength, ?_, ?_, List.length_pos_iff.mpr hsome⟩
  · simp [Registry.assemble, Monitor.start]
  · simp [Registry.assemble]

/-! ## Candidates -/

/-- The candidates, if a turn of the checks leads to their choice. -/
def chosen : Failover B × Turn (Checks B) Unit → List Nat
  | (_, .waiting _) => []
  | (g, .done _) => (g.rotation.candidates g.monitor.flags).1

/-- The candidate an operation waits for and those after it. -/
def Execution.left : Execution B → List Nat
  | checking .. => []
  | attempting _ i _ rest _ => i :: rest

/-- The positions at which an operation may look up backends in its first turn. -/
def startLookups (clock : Clock) (op : Operation) (g : Failover B) : List Nat :=
  match refusal? op with
  | some _ => []
  | none => chosen ((refresh B).start clock () g)

/-- The positions at which an operation that waits may look up backends in its next turn. -/
def resumeLookups (clock : Clock) (x : Execution B) (g : Failover B) : List Nat :=
  match x with
  | .checking _ checks => chosen ((refresh B).resume clock checks g)
  | .attempting .. => x.left

theorem Matched.length_flags (h : g.Matched size) : g.monitor.flags.length = size := by
  unfold Monitor.flags
  rw [List.length_map, h.records]

theorem Matched.candidates_lt (h : g.Matched size) : ∀ i ∈ (g.rotation.candidates g.monitor.flags).1, i < size := by
  intro i hi
  have hlt := (g.rotation.candidates_ordered g.monitor.flags).range i hi
  rwa [h.length_flags] at hlt

theorem Matched.exists_candidate (h : g.Matched size) :
    ∃ i rest, (g.rotation.candidates g.monitor.flags).1 = i :: rest := by
  apply List.exists_cons_of_ne_nil
  intro hnone
  have hflags := (g.rotation.candidates_ordered g.monitor.flags).empty.mp hnone
  have hlength := h.length_flags
  have hsome := h.nonempty
  simp only [hflags, List.length_nil] at hlength
  omega

theorem Matched.exists_backend (h : g.Matched size) {i : Nat} (hi : i < size) : ∃ b, g.backends[i]? = some b :=
  ⟨_, List.getElem?_eq_getElem (h.backends ▸ hi)⟩

theorem Matched.chosen_lt {p : Failover B × Turn (Checks B) Unit} (h : p.1.Matched size) :
    ∀ i ∈ chosen p, i < size := by
  obtain ⟨g, u | checks⟩ := p
  · exact h.candidates_lt
  · intro i hi
    exact absurd hi List.not_mem_nil

theorem Matched.startLookups_lt (h : g.Matched size) (clock : Clock) (op : Operation) :
    ∀ i ∈ startLookups clock op g, i < size := by
  unfold startLookups
  cases refusal? op with
  | some e =>
    intro i hi
    exact absurd hi List.not_mem_nil
  | none => exact (h.of_frame (refresh_frame clock g)).chosen_lt

theorem Matched.resumeLookups_lt (h : g.Matched size) (clock : Clock) (hx : ∀ i ∈ x.left, i < size) :
    ∀ i ∈ resumeLookups clock x g, i < size := by
  cases x with
  | checking op checks => exact (h.of_frame (resumeRefresh_frame clock checks g)).chosen_lt
  | attempting op i attempt rest fs => exact hx

/-! ## A turn -/

/-- An attempt of the call at one of `size` backends is noted. -/
def Attempted (size caller : Nat) (op : Operation) (notes : List Note) : Prop :=
  ∃ n ∈ notes, n.caller = some caller ∧ n.position < size ∧ ∃ outcome, n.what = .tried op outcome

/-- After a turn the operation has candidates left that are there, or has made an attempt, or
    was refused. -/
structure Progressed (size caller : Nat) (op : Operation) (notes : List Note) (turn : Turn (Execution B) Result) :
    Prop where
  left : ∀ x, turn = .waiting x → ∀ i ∈ x.left, i < size
  attempted : ∀ result, turn = .done result → refusal? op = none → Attempted size caller op notes

theorem afterAttempt_left {i : Nat} {rest : List Nat}
    (hrest : ∀ (fs : List Failure) (g : Failover B) (x : Execution B),
      (tryEach clock op rest fs g).2 = .waiting x → x.left <:+ rest)
    (fs : List Failure) (g : Failover B) (p : B.State × Turn (Service.Bounded B.operate.Flight) (Option Outcome))
    (hx : (afterAttempt clock op i rest fs g p).2 = .waiting x) : x.left <:+ i :: rest := by
  obtain ⟨b, answer | attempt⟩ := p
  · simp only [afterAttempt] at hx
    cases hout : outcomeOf op g.timeout answer with
    | ok v =>
      rw [hout] at hx
      cases hx
    | error e =>
      rw [hout] at hx
      exact (hrest _ _ x hx).trans (List.suffix_cons i rest)
  · cases hx
    exact List.suffix_rfl

/-- An operation that waits among its candidates has the last of them left. -/
theorem tryEach_left (clock : Clock) (op : Operation) (cs : List Nat) (fs : List Failure) (g : Failover B)
    (x : Execution B) (hx : (tryEach clock op cs fs g).2 = .waiting x) : x.left <:+ cs := by
  induction cs generalizing fs g x with
  | nil => cases hx
  | cons i cs ih =>
    cases hb : g.backends[i]? with
    | none =>
      simp only [tryEach, hb] at hx
      exact (ih fs g x hx).trans (List.suffix_cons i cs)
    | some b =>
      rw [tryEach_cons clock op cs fs hb] at hx
      exact afterAttempt_left ih fs g _ hx

theorem attempted_tryNotes {caller i : Nat} (outcome : Outcome) {tries : List Try} (hi : i < size)
    (h : (i, outcome) ∈ tries) : Attempted size caller op (tryNotes caller clock op tries) := by
  refine ⟨⟨some caller, i, clock, .tried op outcome⟩, ?_, rfl, hi, outcome, rfl⟩
  exact List.mem_reverse.mpr (List.mem_map_of_mem h)

/-- After a turn of the attempt at `i`: it waits, or has been made and noted. -/
theorem afterAttempt_progressed (caller : Nat) (clock : Clock) (op : Operation) {i : Nat} {rest : List Nat}
    (fs : List Failure) (hrange : ∀ j ∈ i :: rest, j < size)
    (p : B.State × Turn (Service.Bounded B.operate.Flight) (Option Outcome)) :
    Progressed size caller op (tryNotes caller clock op (attemptsAfter g.timeout clock op i rest g.backends p))
      (afterAttempt clock op i rest fs g p).2 where
  left x hx j hj := hrange j ((afterAttempt_left (tryEach_left clock op rest) fs g p hx).subset hj)
  attempted result hresult _ := by
    have hi : i < size := hrange i List.mem_cons_self
    obtain ⟨b, answer | attempt⟩ := p
    · cases hout : outcomeOf op g.timeout answer with
      | ok v => exact attempted_tryNotes (.ok v) hi (by simp [attemptsAfter, hout])
      | error e => exact attempted_tryNotes (.error e) hi (by simp [attemptsAfter, hout])
    · cases hresult

/-- The first candidate is there, so it is attempted. -/
theorem dispatch_progressed (caller : Nat) (clock : Clock) (op : Operation) (h : g.Matched size) :
    Progressed size caller op
      (tryNotes caller clock op (attempts g.timeout clock op (g.rotation.candidates g.monitor.flags).1 g.backends))
      (dispatch clock op g).2 := by
  obtain ⟨i, rest, hcandidates⟩ := h.exists_candidate
  have hrange := h.candidates_lt
  let g₁ : Failover B := { g with rotation := (g.rotation.candidates g.monitor.flags).2 }
  have hdispatch : dispatch clock op g = tryEach clock op (i :: rest) [] g₁ :=
    congrArg (fun cs => tryEach clock op cs [] g₁) hcandidates
  rw [hcandidates] at hrange
  obtain ⟨b, hb⟩ := h.exists_backend (hrange i List.mem_cons_self)
  have hb₁ : g₁.backends[i]? = some b := hb
  rw [hdispatch, hcandidates, tryEach_cons clock op rest [] hb₁, attempts_cons g.timeout clock op rest hb]
  exact afterAttempt_progressed (g := g₁) caller clock op [] hrange _

theorem Progressed.more {caller : Nat} {notes notes' : List Note} {turn : Turn (Execution B) Result}
    (h : Progressed size caller op notes turn) (hsub : notes ⊆ notes') : Progressed size caller op notes' turn where
  left := h.left
  attempted result hresult hop := by
    obtain ⟨n, hn, hnote⟩ := h.attempted result hresult hop
    exact ⟨n, hsub hn, hnote⟩

theorem afterChecks_progressed (caller : Nat) (clock : Clock) (op : Operation) {p : Failover B × Turn (Checks B) Unit}
    (h : p.1.Matched size) :
    Progressed size caller op (tryNotes caller clock op (triesAfter clock op p)) (afterChecks clock op p).2 := by
  obtain ⟨g, u | checks⟩ := p
  · exact dispatch_progressed caller clock op h
  · refine ⟨fun x hx => ?_, fun result hresult => ?_⟩
    · cases hx
      intro i hi
      exact absurd hi List.not_mem_nil
    · cases hresult

theorem start_progressed (caller : Nat) (clock : Clock) (op : Operation) (h : g.Matched size) :
    Progressed size caller op (startNotes caller clock op g) ((operate B).start clock op g).2 := by
  cases hop : refusal? op with
  | some e =>
    rw [startOperation_refused hop]
    refine ⟨fun x hx => ?_, fun result _ haccepted => ?_⟩
    · cases hx
    · cases hop.symm.trans haccepted
  | none =>
    rw [startOperation_accepted hop]
    refine (afterChecks_progressed caller clock op (h.of_frame (refresh_frame clock g))).more ?_
    intro n hn
    unfold startNotes startTries
    rw [hop]
    exact List.mem_append_left _ hn

theorem resume_progressed (caller : Nat) (clock : Clock) (h : g.Matched size) (hx : ∀ i ∈ x.left, i < size) :
    Progressed size caller x.operation (resumeNotes caller clock x g) ((operate B).resume clock x g).2 := by
  cases x with
  | checking op checks =>
    have hchecks := afterChecks_progressed caller clock op (h.of_frame (resumeRefresh_frame clock checks g))
    exact hchecks.more fun n hn => List.mem_append_left _ hn
  | attempting op i attempt rest fs =>
    obtain ⟨b, hb⟩ := h.exists_backend (hx i List.mem_cons_self)
    have hattempt := afterAttempt_progressed (g := g) caller clock op fs hx
      ((B.operate.within g.timeout).resume clock attempt b)
    simp only [operate, resumeOperation, hb]
    refine hattempt.more fun n hn => List.mem_append_left _ ?_
    simp only [resumeTries, hb]
    exact hn

end Failover

/-! ## Any number of calls -/

open Failover (Attempted Execution Matched Progressed Result refusal?)

namespace Traffic


variable {B : Backend} {t : Traffic B} {k size : Nat} {notes : List Note} {g : Failover B}

/-- What the calls have left is there, and no operation that was accepted is over without an attempt. -/
structure Found (size : Nat) (t : Traffic B) : Prop where
  matched : t.group.Matched size
  left : ∀ (k : Nat) (x : Execution B), t.callers[k]? = some (.operating x) → ∀ i ∈ x.left, i < size
  attempted : ∀ (k : Nat) (op : Operation) (result : Result), t.callers[k]? = some (.returned op result) →
    refusal? op = none → Attempted size k op t.log

theorem attempted_append {op : Operation} {log : List Note} (h : Attempted size k op log) (notes : List Note) :
    Attempted size k op (notes ++ log) := by
  obtain ⟨n, hn, hnote⟩ := h
  exact ⟨n, List.mem_append_right notes hn, hnote⟩

theorem Found.moved (h : Found size t) {c : Caller B} (hk : k ≤ t.callers.length) (hframe : g.frame = t.group.frame)
    (hleft : ∀ x, c = .operating x → ∀ i ∈ x.left, i < size)
    (hattempted : ∀ op result, c = .returned op result → refusal? op = none → Attempted size k op notes) :
    Found size (t.moved k notes g c) := by
  refine ⟨h.matched.of_frame hframe, fun j x hj => ?_, fun j op result hj hop => ?_⟩
  · rcases place_cases hk hj with ⟨-, hc⟩ | ⟨-, hold⟩
    · exact hleft x hc.symm
    · exact h.left j x hold
  · show Attempted size j op (notes ++ t.log)
    rcases place_cases hk hj with ⟨rfl, hc⟩ | ⟨-, hold⟩
    · obtain ⟨n, hn, hnote⟩ := hattempted op result hc.symm hop
      exact ⟨n, List.mem_append_left t.log hn, hnote⟩
    · exact attempted_append (h.attempted j op result hold hop) notes

theorem Found.operation (h : Found size t) (hk : k ≤ t.callers.length) (hframe : g.frame = t.group.frame)
    {op : Operation} {turn : Turn (Execution B) Result} (hturn : Progressed size k op notes turn) :
    Found size (t.moved k notes g (.ofOperation op turn)) := by
  cases turn with
  | waiting x =>
    refine h.moved hk hframe (fun y hy => ?_) (fun op result hc => nomatch hc)
    obtain rfl : x = y := Caller.operating.inj hy
    exact hturn.left x rfl
  | done result =>
    refine h.moved hk hframe (fun y hy => nomatch hy) (fun op' result' hc hop => ?_)
    obtain ⟨rfl, rfl⟩ := Caller.returned.inj hc
    exact hturn.attempted result rfl hop

theorem Found.refresh (h : Found size t) (hk : k ≤ t.callers.length) (hframe : g.frame = t.group.frame)
    (turn : Turn (Failover.refresh B).Flight Unit) : Found size (t.moved k notes g (.ofRefresh turn)) := by
  refine h.moved hk hframe (fun x hx => ?_) (fun op result hc => ?_)
  · cases turn <;> exact nomatch hx
  · cases turn <;> exact nomatch hc

theorem Found.resumed (h : Found size t) {c : Caller B} (hk : t.callers[k]? = some c) : Found size (t.resumed k c) := by
  cases c with
  | operating x =>
    exact h.operation (number_le hk) (Failover.resume_frame ..)
      (Failover.resume_progressed k t.clock h.matched (h.left k x hk))
  | refreshing checks => exact h.refresh (number_le hk) (Failover.resumeRefresh_frame ..) _
  | returned op result => exact h
  | refreshed => exact h
  | dropped => exact h

theorem Found.abandoned (h : Found size t) {c : Caller B} (hk : t.callers[k]? = some c) :
    Found size (t.abandoned k c) := by
  cases c with
  | operating x =>
    exact h.moved (number_le hk) (Failover.abandon_frame ..) (fun y hy => nomatch hy) (fun op result hc => nomatch hc)
  | refreshing checks =>
    exact h.moved (number_le hk) (Failover.abandonRefresh_frame ..) (fun y hy => nomatch hy)
      (fun op result hc => nomatch hc)
  | returned op result => exact h
  | refreshed => exact h
  | dropped => exact h

/-- What happens between the turns leaves the calls as they are, and the number of backends. -/
theorem Found.between (h : Found size t) {t' : Traffic B} (hframe : t'.group.frame = t.group.frame)
    (hcallers : t'.callers = t.callers) (hlog : ∃ notes, t'.log = notes ++ t.log) : Found size t' := by
  obtain ⟨notes, hnotes⟩ := hlog
  refine ⟨h.matched.of_frame hframe, ?_, ?_⟩
  · rw [hcallers]
    exact h.left
  · rw [hcallers, hnotes]
    intro k op result hk hop
    exact attempted_append (h.attempted k op result hk hop) notes

theorem Found.after (h : Found size t) (move : Move B) : Found size (t.after move) := by
  cases move with
  | operate op =>
    exact h.operation (Nat.le_refl _) (Failover.start_frame ..)
      (Failover.start_progressed t.callers.length t.clock op h.matched)
  | refresh => exact h.refresh (Nat.le_refl _) (Failover.refresh_frame ..) _
  | turn k =>
    show Found size (t.callers[k]?.elim t (t.resumed k))
    cases hk : t.callers[k]? with
    | none => exact h
    | some c => exact h.resumed hk
  | drop k =>
    show Found size (t.callers[k]?.elim t (t.abandoned k))
    cases hk : t.callers[k]? with
    | none => exact h
    | some c => exact h.abandoned hk
  | report i result => exact h.between (t.frame_after _) rfl (t.log_after _)
  | outside change => exact h.between (t.frame_after _) rfl (t.log_after _)
  | pass elapsed wall => exact h.between (t.frame_after _) rfl (t.log_after _)

theorem Found.run (h : Found size t) (moves : List (Move B)) : Found size (t.run moves) := by
  induction moves generalizing t with
  | nil => exact h
  | cons move moves ih => exact ih (h.after move)

/-- A group before its first call. -/
theorem found_opened (hg : g.Matched size) (interval timeout threshold : Nat) (clock : Clock)
    (hopened : (opened g interval timeout threshold clock).group = g) :
    Found size (opened g interval timeout threshold clock) where
  matched := hopened ▸ hg
  left _ _ hk := nomatch hk
  attempted _ _ _ hk := nomatch hk

/-- At any moment there is a record for each backend, and each position that an operation looks
    up, if it begins now or has its next turn now, is that of a backend; and a call that is over
    has attempted one, unless the operation was refused. -/
structure Covered (size : Nat) (t : Traffic B) : Prop where
  backends : t.group.backends.length = size
  names : t.group.names.length = size
  records : t.group.monitor.records.length = size
  starting : ∀ op, ∀ i ∈ Failover.startLookups t.clock op t.group, i < size
  waiting : ∀ (k : Nat) (x : Execution B), t.callers[k]? = some (.operating x) →
    ∀ i ∈ Failover.resumeLookups t.clock x t.group, i < size
  attempted : ∀ (k : Nat) (op : Operation) (result : Result), t.callers[k]? = some (.returned op result) →
    refusal? op = none → Attempted size k op t.log

theorem Found.covered (h : Found size t) : Covered size t where
  backends := h.matched.backends
  names := h.matched.names
  records := h.matched.records
  starting := h.matched.startLookups_lt t.clock
  waiting k x hk := h.matched.resumeLookups_lt t.clock (h.left k x hk)
  attempted := h.attempted

/-- Any flags and cursor; any group that is built, and any calls on it in any order. -/
theorem candidates_found_and_tried {σ : Type} {registry : Registry σ B.State} {c : Config} {trace : σ}
    {g : Failover B} (hg : (registry.group c trace).1 = .ok g) (clock : Clock) (moves : List (Move B)) :
    (∀ (r : Rotation) (flags : List Bool), r.Ordered flags (r.candidates flags).1 (r.candidates flags).2) ∧
      Covered c.backends.length ((opened g c.interval c.checkTimeout c.failureThreshold.toNat clock).run moves) := by
  have hfound := found_opened (Failover.matched_group hg) _ _ _ clock (opened_group hg clock)
  exact ⟨Rotation.candidates_ordered, (hfound.run moves).covered⟩

/-- A call waits for the check of the first store, which hangs, and is answered by the second;
    another is refused. -/
theorem candidates_tried_hanging :
    let t := (opened Failover.hangingPair Failover.firstHangs.interval Failover.firstHangs.checkTimeout
      Failover.firstHangs.failureThreshold.toNat ⟨0, 0⟩).run
        [.operate (.increment "k" (seconds 60)), .operate (.increment "k" 0), .pass (millis 500) 0, .turn 0]
    (Failover.hanging.group Failover.firstHangs ()).1 = .ok Failover.hangingPair ∧
      t.callers[0]? = some (.returned (.increment "k" (seconds 60)) (.ok (.count 1))) ∧
      (∀ (r : Rotation) (flags : List Bool), r.Ordered flags (r.candidates flags).1 (r.candidates flags).2) ∧
      Covered 2 t :=
  have hbuilt : (Failover.hanging.group Failover.firstHangs ()).1 = .ok Failover.hangingPair := rfl
  ⟨hbuilt, rfl, candidates_found_and_tried hbuilt ⟨0, 0⟩ _⟩

end Traffic

end RateCounter
