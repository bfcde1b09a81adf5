/-
  RateCounter.Proofs.Failover.Traffic — any number of calls on one group at once.

  A call is an operation or a refresh; it has a number, that of the calls before it. Calls
  begin, have turns and are dropped in any order (`Move`), whether a timer is due or not.
  Between their turns successes and failures may be recorded by hand, the backends may
  change by themselves, and time passes: the monotonic clock does not go back, the wall
  clock may show anything. All that happens is noted in the log, the latest first.

  A move begins a call, or is about one that is there (`callers_after`); the others stay as
  they are.

  `Kept` holds after every run (`Kept.run`); a step is `Turned` by the call that has its
  turn. So every health record is the summary of the log of its backend (`records_summarise`).
-/

import RateCounter.Proofs.Failover.Turns

namespace RateCounter

open Monitor (Checks holds)
open Failover (Execution Result)

/-- A call on a group, and where it stands. -/
inductive Caller (B : Backend) where
  | operating (x : Execution B)
  | refreshing (checks : Checks B)
  | returned (op : Operation) (result : Result)
  | refreshed
  | dropped

namespace Caller

variable {B : Backend}

def ofOperation (op : Operation) : Turn (Failover.operate B).Flight Result → Caller B
  | .waiting x => operating x
  | .done result => returned op result

def ofRefresh : Turn (Failover.refresh B).Flight Unit → Caller B
  | .waiting checks => refreshing checks
  | .done _ => refreshed

/-- The checks a call has in flight. -/
def checks : Caller B → Checks B
  | operating x => x.checks
  | refreshing checks => checks
  | _ => []

theorem checks_ofOperation (op : Operation) (turn : Turn (Failover.operate B).Flight Result) :
    (ofOperation op turn).checks = Failover.inFlight turn := by
  cases turn <;> rfl

theorem checks_ofRefresh (turn : Turn (Failover.refresh B).Flight Unit) :
    (ofRefresh turn).checks = turn.flight?.getD [] := by
  cases turn <;> rfl

end Caller

structure Traffic (B : Backend) where
  group : Failover B
  clock : Clock
  /-- The calls by their numbers. -/
  callers : List (Caller B)
  log : List Note

inductive Move (B : Backend) where
  | operate (op : Operation)
  | refresh
  /-- A call has a turn. -/
  | turn (caller : Nat)
  | drop (caller : Nat)
  | report (position : Nat) (result : Except BackendError Unit)
  /-- The backends change, by their positions. -/
  | outside (change : Nat → B.State → B.State)
  | pass (elapsed : Nat) (wall : Instant)

namespace Traffic

variable {B : Backend}

/-- A group with fresh records, and no calls yet. -/
def opened (g : Failover B) (interval timeout threshold : Nat) (clock : Clock) : Traffic B where
  group := { g with monitor := .start g.backends.length interval timeout threshold }
  clock := clock
  callers := []
  log := []

/-- A group that has just been built from a configuration is one. -/
theorem opened_group {σ : Type} {r : Registry σ B.State} {c : Config} {trace : σ} {g : Failover B}
    (h : (r.group c trace).1 = .ok g) (clock : Clock) :
    (opened g c.interval c.checkTimeout c.failureThreshold.toNat clock).group = g := by
  obtain ⟨-, states, hlen, rfl⟩ := Failover.group_ok h
  simp only [opened, Registry.assemble, hlen]

/-! ## Calls by number -/

/-- Puts a call at its number; a new call comes last. -/
def place (k : Nat) (c : Caller B) (callers : List (Caller B)) : List (Caller B) :=
  callers.take k ++ c :: callers.drop (k + 1)

/-- A call has had a turn, with what was noted of it. -/
def moved (t : Traffic B) (k : Nat) (notes : List Note) (g : Failover B) (c : Caller B) : Traffic B where
  group := g
  clock := t.clock
  callers := place k c t.callers
  log := notes ++ t.log

/-- A success or a failure is recorded by hand. -/
def reported (t : Traffic B) (i : Nat) (result : Except BackendError Unit) : Traffic B where
  group := match result with
    | .ok _ => t.group.succeedAt i
    | .error e => t.group.failAt i e
  clock := t.clock
  callers := t.callers
  log := ⟨none, i, t.clock, .reported result⟩ :: t.log

/-- The call has a turn, if it waits. -/
def resumed (t : Traffic B) (k : Nat) : Caller B → Traffic B
  | .operating x =>
    let p := (Failover.operate B).resume t.clock x t.group
    t.moved k (Failover.resumeNotes k t.clock x t.group) p.1 (.ofOperation x.operation p.2)
  | .refreshing checks =>
    let p := (Failover.refresh B).resume t.clock checks t.group
    t.moved k (Monitor.resumeNotes k t.clock checks t.group.watch) p.1 (.ofRefresh p.2)
  | _ => t

/-- The call is given up, if it waits. -/
def abandoned (t : Traffic B) (k : Nat) : Caller B → Traffic B
  | .operating x =>
    t.moved k (Failover.abandonNotes k t.clock x t.group) ((Failover.operate B).abandon x t.group) .dropped
  | .refreshing checks =>
    t.moved k (Monitor.abandonNotes k t.clock checks t.group.watch) ((Failover.refresh B).abandon checks t.group)
      .dropped
  | _ => t

def after (t : Traffic B) : Move B → Traffic B
  | .operate op =>
    let p := (Failover.operate B).start t.clock op t.group
    t.moved t.callers.length (Failover.startNotes t.callers.length t.clock op t.group) p.1 (.ofOperation op p.2)
  | .refresh =>
    let p := (Failover.refresh B).start t.clock () t.group
    t.moved t.callers.length (Monitor.startNotes t.callers.length t.clock t.group.watch) p.1 (.ofRefresh p.2)
  | .turn k => t.callers[k]?.elim t (t.resumed k)
  | .drop k => t.callers[k]?.elim t (t.abandoned k)
  | .report i result => t.reported i result
  | .outside change => { t with group := { t.group with backends := t.group.backends.mapIdx change } }
  | .pass elapsed wall => { t with clock := { mono := t.clock.mono + elapsed, wall := wall } }

def run (t : Traffic B) (moves : List (Move B)) : Traffic B := moves.foldl after t

/-- The checks that the call of a number has in flight. -/
def checksOf (t : Traffic B) (k : Nat) : Checks B := (t.callers[k]?.map Caller.checks).getD []

/-- How many checks of a backend are in flight. -/
def checking (t : Traffic B) (i : Nat) : Nat := t.callers.countP fun c => holds c.checks i

section Place

variable {callers : List (Caller B)} {k : Nat}

theorem number_le {c : Caller B} (hk : callers[k]? = some c) : k ≤ callers.length :=
  Nat.le_of_lt (List.getElem?_eq_some_iff.mp hk).1

theorem getElem?_place (hk : k ≤ callers.length) (c : Caller B) (j : Nat) :
    (place k c callers)[j]? = if j = k then some c else callers[j]? := by
  unfold place
  rcases Nat.lt_trichotomy j k with hj | rfl | hj
  · rw [if_neg (Nat.ne_of_lt hj), List.getElem?_append_left (by simp; omega), List.getElem?_take_of_lt hj]
  · rw [if_pos rfl, List.getElem?_append_right (List.length_take_le ..), List.length_take, Nat.min_eq_left hk,
      Nat.sub_self]
    rfl
  · rw [if_neg (Nat.ne_of_gt hj), List.getElem?_append_right (by simp; omega), List.length_take, Nat.min_eq_left hk,
      show j - k = j - k - 1 + 1 by omega, List.getElem?_cons_succ, List.getElem?_drop,
      show k + 1 + (j - k - 1) = j by omega]

/-- Each call is the one that was put there, or was there before. -/
theorem place_cases (hk : k ≤ callers.length) {c c' : Caller B} {j : Nat} (hj : (place k c callers)[j]? = some c') :
    j = k ∧ c' = c ∨ j ≠ k ∧ callers[j]? = some c' := by
  rw [getElem?_place hk] at hj
  by_cases hjk : j = k
  · rw [if_pos hjk] at hj
    exact .inl ⟨hjk, (Option.some.inj hj).symm⟩
  · rw [if_neg hjk] at hj
    exact .inr ⟨hjk, hj⟩

theorem countP_place (hk : k ≤ callers.length) (c : Caller B) (p : Caller B → Bool) :
    (place k c callers).countP p + ((callers[k]?.map p).getD false).toNat = callers.countP p + (p c).toNat := by
  have hsplit : callers.countP p = (callers.take k).countP p + (callers.drop k).countP p := by
    rw [← List.countP_append, List.take_append_drop]
  have hplace : (place k c callers).countP p =
      (callers.take k).countP p + ((callers.drop (k + 1)).countP p + (p c).toNat) := by
    unfold place
    rw [List.countP_append, List.countP_cons]
    cases p c <;> rfl
  rw [hplace, hsplit]
  rcases Nat.lt_or_eq_of_le hk with hlt | rfl
  · rw [List.drop_eq_getElem_cons hlt, List.countP_cons, List.getElem?_eq_getElem hlt]
    show _ + (p callers[k]).toNat = _
    cases p callers[k] <;> simp <;> omega
  · rw [List.drop_eq_nil_of_le (Nat.le_succ _), List.drop_length, List.getElem?_eq_none (Nat.le_refl _)]
    simp

theorem le_length_place (hk : k ≤ callers.length) (c : Caller B) :
    callers.length ≤ (place k c callers).length ∧ k < (place k c callers).length := by
  unfold place
  rw [List.length_append, List.length_cons, List.length_take, List.length_drop]
  omega

end Place

/-! ## The frame of the group -/

theorem frame_after (t : Traffic B) (move : Move B) : (t.after move).group.frame = t.group.frame := by
  cases move with
  | operate op => exact Failover.start_frame ..
  | refresh => exact Failover.refresh_frame ..
  | turn k =>
    show (t.callers[k]?.elim t (t.resumed k)).group.frame = t.group.frame
    rcases t.callers[k]? with _ | x | checks | _ | _ | _
    · rfl
    · exact Failover.resume_frame ..
    · exact Failover.resumeRefresh_frame ..
    all_goals rfl
  | drop k =>
    show (t.callers[k]?.elim t (t.abandoned k)).group.frame = t.group.frame
    rcases t.callers[k]? with _ | x | checks | _ | _ | _
    · rfl
    · exact Failover.abandon_frame ..
    · exact Failover.abandonRefresh_frame ..
    all_goals rfl
  | report i result =>
    cases result with
    | ok => exact Failover.frame_succeedAt ..
    | error e => exact Failover.frame_failAt ..
  | outside change => exact Failover.frame_outside ..
  | pass elapsed wall => rfl

theorem frame_run (t : Traffic B) (moves : List (Move B)) : (t.run moves).group.frame = t.group.frame := by
  induction moves generalizing t with
  | nil => rfl
  | cons move moves ih => exact (ih (t.after move)).trans (t.frame_after move)

end Traffic

/-! ## The calls after a move -/

/-- What becomes of a call when it has a turn or is dropped. -/
inductive Caller.Goes {B : Backend} (t : Traffic B) : Caller B → Caller B → Prop
  | operation (x : Execution B) :
      Goes t (.operating x) (.ofOperation x.operation ((Failover.operate B).resume t.clock x t.group).2)
  | refresh (checks : Checks B) :
      Goes t (.refreshing checks) (.ofRefresh ((Failover.refresh B).resume t.clock checks t.group).2)
  | operationDropped (x : Execution B) : Goes t (.operating x) .dropped
  | refreshDropped (checks : Checks B) : Goes t (.refreshing checks) .dropped

/-- The call that a move begins. -/
inductive Caller.Begins {B : Backend} (t : Traffic B) : Move B → Caller B → Prop
  | operation (op : Operation) :
      Begins t (.operate op) (.ofOperation op ((Failover.operate B).start t.clock op t.group).2)
  | refresh : Begins t .refresh (.ofRefresh ((Failover.refresh B).start t.clock () t.group).2)

namespace Traffic

variable {B : Backend}

theorem callers_resumed (t : Traffic B) (k : Nat) (c : Caller B) :
    (t.resumed k c).callers = t.callers ∨
      ∃ c', Caller.Goes t c c' ∧ (t.resumed k c).callers = place k c' t.callers := by
  cases c with
  | operating x => exact .inr ⟨_, .operation x, rfl⟩
  | refreshing checks => exact .inr ⟨_, .refresh checks, rfl⟩
  | returned op result => exact .inl rfl
  | refreshed => exact .inl rfl
  | dropped => exact .inl rfl

theorem callers_abandoned (t : Traffic B) (k : Nat) (c : Caller B) :
    (t.abandoned k c).callers = t.callers ∨
      ∃ c', Caller.Goes t c c' ∧ (t.abandoned k c).callers = place k c' t.callers := by
  cases c with
  | operating x => exact .inr ⟨_, .operationDropped x, rfl⟩
  | refreshing checks => exact .inr ⟨_, .refreshDropped checks, rfl⟩
  | returned op result => exact .inl rfl
  | refreshed => exact .inl rfl
  | dropped => exact .inl rfl

/-- A move leaves the calls as they are, or the one it is about goes on, or a new one begins. -/
theorem callers_after (t : Traffic B) (move : Move B) :
    (t.after move).callers = t.callers ∨
      (∃ k c c', (move = .turn k ∨ move = .drop k) ∧ t.callers[k]? = some c ∧ Caller.Goes t c c' ∧
        (t.after move).callers = place k c' t.callers) ∨
      ∃ c, Caller.Begins t move c ∧ (t.after move).callers = place t.callers.length c t.callers := by
  cases move with
  | operate op => exact .inr (.inr ⟨_, .operation op, rfl⟩)
  | refresh => exact .inr (.inr ⟨_, .refresh, rfl⟩)
  | turn k =>
    have hturn : t.after (.turn k) = t.callers[k]?.elim t (t.resumed k) := rfl
    rw [hturn]
    cases hk : t.callers[k]? with
    | none => exact .inl rfl
    | some c =>
      exact (t.callers_resumed k c).imp_right fun ⟨c', hgoes, hplace⟩ => .inl ⟨k, c, c', .inl rfl, hk, hgoes, hplace⟩
  | drop k =>
    have hdrop : t.after (.drop k) = t.callers[k]?.elim t (t.abandoned k) := rfl
    rw [hdrop]
    cases hk : t.callers[k]? with
    | none => exact .inl rfl
    | some c =>
      exact (t.callers_abandoned k c).imp_right fun ⟨c', hgoes, hplace⟩ => .inl ⟨k, c, c', .inr rfl, hk, hgoes, hplace⟩
  | report i result => exact .inl rfl
  | outside change => exact .inl rfl
  | pass elapsed wall => exact .inl rfl

theorem after_turn {t : Traffic B} {k : Nat} {c : Caller B} (hk : t.callers[k]? = some c) :
    t.after (.turn k) = t.resumed k c := by
  simp only [Traffic.after, hk, Option.elim]

/-- A call is as it was before if it had no turn and was not dropped. -/
theorem caller_after (t : Traffic B) {move : Move B} {k : Nat} (hturn : move ≠ .turn k) (hdrop : move ≠ .drop k)
    (hk : k < t.callers.length) : (t.after move).callers[k]? = t.callers[k]? := by
  rcases t.callers_after move with hsame | ⟨j, c, c', hmove, hj, -, hplace⟩ | ⟨c, -, hplace⟩
  · rw [hsame]
  · have hjk : k ≠ j := by
      rintro rfl
      exact hmove.elim hturn hdrop
    rw [hplace, getElem?_place (number_le hj), if_neg hjk]
  · rw [hplace, getElem?_place (Nat.le_refl _), if_neg (Nat.ne_of_lt hk)]

theorem caller_run (t : Traffic B) {moves : List (Move B)} {k : Nat} {c : Caller B}
    (hmoves : ∀ move ∈ moves, move ≠ .turn k ∧ move ≠ .drop k) (hk : t.callers[k]? = some c) :
    (t.run moves).callers[k]? = some c := by
  induction moves generalizing t with
  | nil => exact hk
  | cons move moves ih =>
    obtain ⟨⟨hturn, hdrop⟩, hmoves⟩ := List.forall_mem_cons.mp hmoves
    exact ih (t.after move) hmoves ((t.caller_after hturn hdrop (List.getElem?_eq_some_iff.mp hk).1).trans hk)

theorem clock_after (t : Traffic B) (move : Move B) : t.clock.mono ≤ (t.after move).clock.mono := by
  cases move with
  | turn k =>
    show t.clock.mono ≤ (t.callers[k]?.elim t (t.resumed k)).clock.mono
    rcases t.callers[k]? with _ | _ | _ | _ | _ | _ <;> exact Nat.le_refl _
  | drop k =>
    show t.clock.mono ≤ (t.callers[k]?.elim t (t.abandoned k)).clock.mono
    rcases t.callers[k]? with _ | _ | _ | _ | _ | _ <;> exact Nat.le_refl _
  | pass elapsed wall => exact Nat.le_add_right ..
  | operate op => exact Nat.le_refl _
  | refresh => exact Nat.le_refl _
  | report i result => exact Nat.le_refl _
  | outside change => exact Nat.le_refl _

/-! ## What every run keeps -/

/-- Between the log, the health records and the calls, from the monitor `m₀` on. -/
structure Kept (m₀ : Monitor) (t : Traffic B) : Prop where
  told : t.group.monitor = m₀.told t.log
  backends : t.group.backends.length = m₀.records.length
  claims : ∀ i, t.checking i = t.group.monitor.claims i
  clocks : ∀ n ∈ t.log, n.clock.mono ≤ t.clock.mono
  numbers : ∀ n ∈ t.log, ∀ k, n.caller = some k → k < t.callers.length
  spaced : ∀ i n earlier, n :: earlier <:+ Note.about i t.log → n.what = .begun →
    DueAfter m₀.interval earlier n.clock.mono
  /-- A call that waits for a check has done nothing at that backend but begin it. -/
  alone : ∀ k i, holds (t.checksOf k) i = true → ∀ n ∈ Note.about i t.log, n.caller = some k → n.what = .begun

/-- A monitor whose records are fresh. -/
structure Fresh (m₀ : Monitor) : Prop where
  threshold : 1 ≤ m₀.threshold
  records : ∀ (i : Nat) (h : Health), m₀.records[i]? = some h → h = Health.fresh

variable {m₀ : Monitor} {t : Traffic B}

theorem Kept.size (h : Kept m₀ t) : t.group.monitor.records.length = t.group.backends.length := by
  rw [h.told, Monitor.length_told, h.backends]

theorem Kept.record (h : Kept m₀ t) (h₀ : Fresh m₀) {i : Nat} {r : Health} (hr : t.group.monitor.records[i]? = some r) :
    r = (Note.about i t.log).foldr (.told m₀.threshold) .fresh := by
  rw [h.told, Monitor.records_told] at hr
  obtain ⟨r₀, hr₀, rfl⟩ := Option.map_eq_some_iff.mp hr
  rw [h₀.records i r₀ hr₀]

theorem Kept.summarises (h : Kept m₀ t) (h₀ : Fresh m₀) {i : Nat} {r : Health}
    (hr : t.group.monitor.records[i]? = some r) : r.Summarises m₀.threshold (Note.about i t.log) :=
  h.record h₀ hr ▸ Health.summarises_history h₀.threshold _

theorem checksOf_eq (k : Nat) (i : Nat) :
    ((t.callers[k]?.map fun c => holds c.checks i).getD false) = holds (t.checksOf k) i := by
  unfold checksOf
  cases t.callers[k]? <;> rfl

/-- A check in flight is claimed, so that nobody begins another. -/
theorem Kept.claimed (h : Kept m₀ t) (k : Nat) : t.group.monitor.Claimed (t.checksOf k) := by
  intro i hheld
  have hcount := h.claims i
  have hpos : 0 < t.checking i := by
    rw [← checksOf_eq] at hheld
    cases hk : t.callers[k]? with
    | none => rw [hk] at hheld; exact nomatch hheld
    | some c =>
      rw [hk] at hheld
      exact List.countP_pos_iff.mpr ⟨c, List.mem_of_getElem? hk, hheld⟩
  have hle := t.group.monitor.claims_le i
  omega

/-- As many checks of a backend are in flight as its record is claimed for. -/
theorem Kept.checking_eq (h : Kept m₀ t) {i : Nat} {r : Health} (hr : t.group.monitor.records[i]? = some r) :
    t.checking i = r.claimed.toNat := by
  rw [h.claims i, Monitor.claims, hr]
  rfl

/-- A check may begin where it is due by the log and none is in flight. -/
theorem Kept.isDue_iff (h : Kept m₀ t) (h₀ : Fresh m₀) {i : Nat} {r : Health}
    (hr : t.group.monitor.records[i]? = some r) : t.group.monitor.IsDue t.clock i ↔
      DueAfter m₀.interval (Note.about i t.log) t.clock.mono ∧ t.checking i = 0 := by
  have hinterval : t.group.monitor.interval = m₀.interval := by
    rw [h.told]
    rfl
  have hstale := (h.summarises h₀ hr).isStale_iff m₀.interval fun n hn => h.clocks n (Note.mem_about.mp hn).1
  rw [← hstale, h.checking_eq hr, Bool.toNat_eq_zero, ← hinterval]
  constructor
  · rintro ⟨r', hr', hdue⟩
    exact Option.some.inj (hr.symm.trans hr') ▸ hdue
  · exact fun hdue => ⟨r, hr, hdue⟩

/-- What was noted between two moments tells the records of the earlier one how they came to be later. -/
theorem Kept.since (h : Kept m₀ t) {t' : Traffic B} (h' : Kept m₀ t') {since : List Note}
    (hlog : t'.log = since ++ t.log) : t'.group.monitor = t.group.monitor.told since := by
  rw [h'.told, hlog, Monitor.told_append, ← h.told]

theorem checksOf_place {t t' : Traffic B} {k : Nat} {c : Caller B} (hk : k ≤ t.callers.length)
    (hplace : t'.callers = place k c t.callers) (j : Nat) :
    t'.checksOf j = if j = k then c.checks else t.checksOf j := by
  unfold checksOf
  rw [hplace, getElem?_place hk]
  by_cases hj : j = k
  · rw [if_pos hj, if_pos hj]
    rfl
  · rw [if_neg hj, if_neg hj]

/-- A call has a turn. -/
theorem Kept.moved (h : Kept m₀ t) (h₀ : Fresh m₀) {k : Nat} {notes : List Note} {g : Failover B} {c : Caller B}
    (hk : k ≤ t.callers.length) (hturned : Monitor.Turned k t.clock notes (t.checksOf k) c.checks t.group.watch g.watch)
    (hkeeps : k < t.callers.length → ∀ i, holds c.checks i = true → holds (t.checksOf k) i = true) :
    Kept m₀ (t.moved k notes g c) where
  told := by
    have htold : g.monitor = t.group.monitor.told notes := hturned.told
    show g.monitor = m₀.told (notes ++ t.log)
    rw [htold, h.told, ← Monitor.told_append]
  backends := (show g.backends.length = _ from hturned.backends).trans h.backends
  claims i := by
    have hcount := countP_place hk c fun c => holds c.checks i
    rw [checksOf_eq] at hcount
    have hclaims := hturned.claims i
    have hbefore : (t.callers.countP fun c => holds c.checks i) = t.group.watch.monitor.claims i := h.claims i
    show (place k c t.callers).countP (fun c => holds c.checks i) = g.watch.monitor.claims i
    omega
  clocks n hn := by
    rcases List.mem_append.mp hn with hn | hn
    · exact Nat.le_of_eq (congrArg Clock.mono (hturned.stamped n hn).2.2)
    · exact h.clocks n hn
  numbers n hn j hj := by
    obtain ⟨hle, hlt⟩ := le_length_place hk c
    rcases List.mem_append.mp hn with hn | hn
    · exact Option.some.inj ((hturned.stamped n hn).1.symm.trans hj) ▸ hlt
    · exact Nat.lt_of_lt_of_le (h.numbers n hn j hj) hle
  spaced i n earlier hs hn := by
    have hsplit : n :: earlier <:+ Note.about i notes ++ Note.about i t.log := Note.about_append i notes t.log ▸ hs
    rcases Note.cons_suffix_append hsplit with hold | ⟨between, hnew, rfl⟩
    · exact h.spaced i n earlier hold hn
    · -- A check that begins in this turn begins first, where it was due before the turn.
      obtain ⟨rfl, hdue⟩ := hturned.begun i n between hnew hn
      have hclock := (hturned.stamped n (Note.mem_about.mp (hnew.subset (List.mem_cons_self ..))).1).2.2
      obtain ⟨r, hr, -⟩ := id hdue
      rw [hclock]
      exact ((h.isDue_iff h₀ hr).mp hdue).1
  alone j i hheld n hn hcaller := by
    have hsplit : n ∈ Note.about i notes ++ Note.about i t.log := Note.about_append i notes t.log ▸ hn
    rw [checksOf_place hk rfl] at hheld
    by_cases hj : j = k
    · subst hj
      rw [if_pos rfl] at hheld
      rcases List.mem_append.mp hsplit with hn | hn
      · exact hturned.waits i hheld n hn
      · have hlt := h.numbers n (Note.mem_about.mp hn).1 j hcaller
        exact h.alone j i (hkeeps hlt i hheld) n hn hcaller
    · rw [if_neg hj] at hheld
      rcases List.mem_append.mp hsplit with hn | hn
      · have hstamp := (hturned.stamped n (Note.mem_about.mp hn).1).1
        exact absurd (Option.some.inj (hcaller.symm.trans hstamp)) hj
      · exact h.alone j i hheld n hn hcaller

theorem Kept.reported (h : Kept m₀ t) (i : Nat) (result : Except BackendError Unit) :
    Kept m₀ (t.reported i result) := by
  have htold : (t.reported i result).group.monitor =
      t.group.monitor.told [⟨none, i, t.clock, .reported result⟩] := by cases result <;> rfl
  have hnote : ∀ j n, n ∈ Note.about j [⟨none, i, t.clock, .reported result⟩] →
      n = ⟨none, i, t.clock, .reported result⟩ := fun j n hn => List.mem_singleton.mp (Note.mem_about.mp hn).1
  have habout : ∀ j, Note.about j (t.reported i result).log =
      Note.about j [⟨none, i, t.clock, .reported result⟩] ++ Note.about j t.log := fun j =>
    Note.about_append j [_] t.log
  refine ⟨?_, ?_, fun j => ?_, fun n hn => ?_, fun n hn k hk => ?_, fun j n earlier hs hn => ?_,
    fun k j hheld n hn hcaller => ?_⟩
  · rw [htold, h.told, ← Monitor.told_append]
    rfl
  · refine Eq.trans ?_ h.backends
    cases result <;> rfl
  · rw [htold]
    refine (h.claims j).trans (Monitor.claims_told t.group.monitor j fun n hn before => ?_).symm
    rw [List.mem_singleton.mp hn]
    rfl
  · rcases List.mem_cons.mp hn with rfl | hn
    · exact Nat.le_refl _
    · exact h.clocks n hn
  · rcases List.mem_cons.mp hn with rfl | hn
    · exact nomatch hk
    · exact h.numbers n hn k hk
  · rw [habout] at hs
    rcases Note.cons_suffix_append hs with hold | ⟨between, hnew, -⟩
    · exact h.spaced j n earlier hold hn
    · rw [hnote j n (hnew.subset (List.mem_cons_self ..))] at hn
      exact nomatch hn
  · rw [habout] at hn
    rcases List.mem_append.mp hn with hn | hn
    · rw [hnote j n hn] at hcaller
      exact nomatch hcaller
    · exact h.alone k j hheld n hn hcaller

theorem checksOf_caller {k : Nat} {c : Caller B} (hk : t.callers[k]? = some c) : t.checksOf k = c.checks := by
  unfold checksOf
  rw [hk]
  rfl

theorem checksOf_new (t : Traffic B) : t.checksOf t.callers.length = [] := by
  unfold checksOf
  rw [List.getElem?_eq_none (Nat.le_refl _)]
  rfl

theorem operate_turned (t : Traffic B) (op : Operation) :
    Monitor.Turned t.callers.length t.clock (Failover.startNotes t.callers.length t.clock op t.group)
      (t.checksOf t.callers.length) (Caller.ofOperation op ((Failover.operate B).start t.clock op t.group).2).checks
      t.group.watch ((Failover.operate B).start t.clock op t.group).1.watch := by
  rw [checksOf_new, Caller.checks_ofOperation]
  exact Failover.start_turned ..

theorem refresh_turned (t : Traffic B) :
    Monitor.Turned t.callers.length t.clock (Monitor.startNotes t.callers.length t.clock t.group.watch)
      (t.checksOf t.callers.length) (Caller.ofRefresh ((Failover.refresh B).start t.clock () t.group).2).checks
      t.group.watch ((Failover.refresh B).start t.clock () t.group).1.watch := by
  rw [checksOf_new, Caller.checks_ofRefresh]
  exact Monitor.startChecks_turned ..

theorem Kept.operating_turned (h : Kept m₀ t) {k : Nat} {x : Execution B} (hk : t.callers[k]? = some (.operating x)) :
    Monitor.Turned k t.clock (Failover.resumeNotes k t.clock x t.group) (t.checksOf k)
      (Caller.ofOperation x.operation ((Failover.operate B).resume t.clock x t.group).2).checks t.group.watch
      ((Failover.operate B).resume t.clock x t.group).1.watch := by
  have hclaimed := h.claimed k
  rw [checksOf_caller hk] at hclaimed ⊢
  rw [Caller.checks_ofOperation]
  exact Failover.resume_turned k t.clock hclaimed h.size

theorem Kept.refreshing_turned (h : Kept m₀ t) {k : Nat} {checks : Checks B}
    (hk : t.callers[k]? = some (.refreshing checks)) :
    Monitor.Turned k t.clock (Monitor.resumeNotes k t.clock checks t.group.watch) (t.checksOf k)
      (Caller.ofRefresh ((Failover.refresh B).resume t.clock checks t.group).2).checks t.group.watch
      ((Failover.refresh B).resume t.clock checks t.group).1.watch := by
  have hclaimed := h.claimed k
  rw [checksOf_caller hk] at hclaimed ⊢
  rw [Caller.checks_ofRefresh]
  exact Monitor.resumeChecks_turned k t.clock hclaimed h.size

theorem Kept.operating_abandoned (h : Kept m₀ t) {k : Nat} {x : Execution B}
    (hk : t.callers[k]? = some (.operating x)) :
    Monitor.Turned k t.clock (Failover.abandonNotes k t.clock x t.group) (t.checksOf k) (Caller.dropped (B := B)).checks
      t.group.watch ((Failover.operate B).abandon x t.group).watch := by
  have hclaimed := h.claimed k
  rw [checksOf_caller hk] at hclaimed ⊢
  exact Failover.abandon_turned k t.clock hclaimed h.size

theorem Kept.refreshing_abandoned (h : Kept m₀ t) {k : Nat} {checks : Checks B}
    (hk : t.callers[k]? = some (.refreshing checks)) :
    Monitor.Turned k t.clock (Monitor.abandonNotes k t.clock checks t.group.watch) (t.checksOf k)
      (Caller.dropped (B := B)).checks t.group.watch ((Failover.refresh B).abandon checks t.group).watch := by
  have hclaimed := h.claimed k
  rw [checksOf_caller hk] at hclaimed ⊢
  exact Monitor.abandonChecks_turned k t.clock hclaimed h.size

theorem Kept.resumed (h : Kept m₀ t) (h₀ : Fresh m₀) {k : Nat} {c : Caller B} (hk : t.callers[k]? = some c) :
    Kept m₀ (t.resumed k c) := by
  have hle := number_le hk
  cases c with
  | operating x =>
    refine h.moved h₀ hle (h.operating_turned hk) fun _ i hheld => ?_
    rw [Caller.checks_ofOperation] at hheld
    rw [checksOf_caller hk]
    exact Failover.resume_holds hheld
  | refreshing checks =>
    refine h.moved h₀ hle (h.refreshing_turned hk) fun _ i hheld => ?_
    rw [Caller.checks_ofRefresh] at hheld
    rw [checksOf_caller hk]
    exact Monitor.resumeChecks_holds hheld
  | returned op result => exact h
  | refreshed => exact h
  | dropped => exact h

theorem Kept.abandoned (h : Kept m₀ t) (h₀ : Fresh m₀) {k : Nat} {c : Caller B} (hk : t.callers[k]? = some c) :
    Kept m₀ (t.abandoned k c) := by
  have hle := number_le hk
  cases c with
  | operating x => exact h.moved h₀ hle (h.operating_abandoned hk) fun _ i hheld => nomatch hheld
  | refreshing checks => exact h.moved h₀ hle (h.refreshing_abandoned hk) fun _ i hheld => nomatch hheld
  | returned op result => exact h
  | refreshed => exact h
  | dropped => exact h

theorem Kept.after (h : Kept m₀ t) (h₀ : Fresh m₀) (move : Move B) : Kept m₀ (t.after move) := by
  cases move with
  | operate op => exact h.moved h₀ (Nat.le_refl _) (t.operate_turned op) fun hlt => absurd hlt (Nat.lt_irrefl _)
  | refresh => exact h.moved h₀ (Nat.le_refl _) t.refresh_turned fun hlt => absurd hlt (Nat.lt_irrefl _)
  | turn k =>
    show Kept m₀ (t.callers[k]?.elim t (t.resumed k))
    cases hk : t.callers[k]? with
    | none => exact h
    | some c => exact h.resumed h₀ hk
  | drop k =>
    show Kept m₀ (t.callers[k]?.elim t (t.abandoned k))
    cases hk : t.callers[k]? with
    | none => exact h
    | some c => exact h.abandoned h₀ hk
  | report i result => exact h.reported i result
  | outside change => exact { h with backends := (List.length_mapIdx ..).trans h.backends }
  | pass elapsed wall =>
    exact { h with clocks := fun n hn => Nat.le_trans (h.clocks n hn) (Nat.le_add_right ..) }

theorem Kept.run (h : Kept m₀ t) (h₀ : Fresh m₀) (moves : List (Move B)) : Kept m₀ (t.run moves) := by
  induction moves generalizing t with
  | nil => exact h
  | cons move moves ih => exact ih (h.after h₀ move)

theorem fresh_start (size interval timeout threshold : Nat) : Fresh (.start size interval timeout threshold) where
  threshold := Nat.le_max_right ..
  records _ _ hr := (List.mem_replicate.mp (List.mem_of_getElem? hr)).2

theorem kept_opened (g : Failover B) (interval timeout threshold : Nat) (clock : Clock) :
    Kept (.start g.backends.length interval timeout threshold) (opened g interval timeout threshold clock) where
  told := rfl
  backends := List.length_replicate.symm
  claims i := by
    show 0 = _
    unfold Monitor.claims
    cases hr : (Monitor.start g.backends.length interval timeout threshold).records[i]? with
    | none => rw [opened, hr]; rfl
    | some r =>
      rw [opened, hr, (fresh_start g.backends.length interval timeout threshold).records i r hr]
      rfl
  clocks _ hn := nomatch hn
  numbers _ hn := nomatch hn
  spaced _ _ _ hs := nomatch List.suffix_nil.mp hs
  alone _ _ _ _ hn := nomatch hn

/-! ## The log -/

theorem log_dropped (t : Traffic B) (k : Nat) :
    ∃ notes, (t.after (.drop k)).log = notes ++ t.log ∧ ∀ n ∈ notes, n.what = .cut := by
  show ∃ notes, (t.callers[k]?.elim t (t.abandoned k)).log = notes ++ t.log ∧ ∀ n ∈ notes, n.what = .cut
  rcases t.callers[k]? with _ | x | checks | _ | _ | _
  · exact ⟨[], rfl, nofun⟩
  · exact ⟨_, rfl, fun n hn => Failover.mem_abandonNotes hn⟩
  · exact ⟨_, rfl, fun n hn => Monitor.mem_abandonNotes hn⟩
  all_goals exact ⟨[], rfl, nofun⟩

theorem log_after (t : Traffic B) (move : Move B) : ∃ notes, (t.after move).log = notes ++ t.log := by
  cases move with
  | operate op => exact ⟨_, rfl⟩
  | refresh => exact ⟨_, rfl⟩
  | turn k =>
    show ∃ notes, (t.callers[k]?.elim t (t.resumed k)).log = notes ++ t.log
    rcases t.callers[k]? with _ | x | checks | _ | _ | _
    · exact ⟨[], rfl⟩
    · exact ⟨_, rfl⟩
    · exact ⟨_, rfl⟩
    all_goals exact ⟨[], rfl⟩
  | drop k =>
    obtain ⟨notes, hlog, -⟩ := t.log_dropped k
    exact ⟨notes, hlog⟩
  | report i result => exact ⟨[_], rfl⟩
  | outside change => exact ⟨[], rfl⟩
  | pass elapsed wall => exact ⟨[], rfl⟩

theorem log_run (t : Traffic B) (moves : List (Move B)) : ∃ since, (t.run moves).log = since ++ t.log := by
  induction moves generalizing t with
  | nil => exact ⟨[], rfl⟩
  | cons move moves ih =>
    obtain ⟨notes, hnotes⟩ := t.log_after move
    obtain ⟨since, hsince⟩ := ih (t.after move)
    exact ⟨since ++ notes, by rw [List.append_assoc, ← hnotes]; exact hsince⟩

/-! ## Health records -/

/-- Any number of backends, any threshold, and any calls and reports in any order. -/
theorem records_summarise (g : Failover B) (interval timeout threshold : Nat) (clock : Clock) (moves : List (Move B)) :
    let t := (opened g interval timeout threshold clock).run moves
    t.group.monitor.records.length = g.backends.length ∧
      ∀ (i : Nat) (h : Health), t.group.monitor.records[i]? = some h →
        h.Summarises (max threshold 1) (Note.about i t.log) := by
  intro t
  have h₀ := fresh_start g.backends.length interval timeout threshold
  have h : Kept _ t := (kept_opened g interval timeout threshold clock).run h₀ moves
  refine ⟨?_, fun i r hr => h.summarises h₀ hr⟩
  rw [h.size, h.backends]
  exact List.length_replicate

end Traffic

end RateCounter
