/-
  RateCounter.Proofs.Failover.Served — a group of memory stores that never fail.

  As long as no failure is noted of any of them, an operation is over in its first turn. It
  is done by one of the stores, whose turn it is by the rotation, and by no other
  (`operate_served`). So what one operation writes the next one reads if it comes to the
  same store. Under `firstHealthy` that is always so; under `roundRobin` the next operation
  goes to the next store.

  - `reads_after_writes`: after any traffic, what a read returns right after a hit or a reset.
  - `the_next_store_has_not_heard`: under `roundRobin` a hit is not read back.
-/

import RateCounter.Proofs.Failover.Unfailing
import RateCounter.Proofs.Health.Views
import RateCounter.Proofs.Store.Open

namespace RateCounter

/-! ## One store -/

namespace Store

variable {s s' : Store} {key : String} {length : Nat} {now : Instant}

/-- A hit is read back as it was returned. -/
theorem count_perform_increment {v : Value} (h : s.perform (.increment key length) now = (s', .ok v)) :
    ∃ n, v = .count n ∧ s'.count key now = n := by
  by_cases haccepts : s.Accepts key length now
  · have hopen : (s.hitWindow key length now).isOver now = false :=
      Window.not_isOver_iff.mpr (lt_hitWindow_closes haccepts.accepted.1)
    have hwindow := windowAt_increment haccepts (Int.le_refl now) key
    simp only [perform, increment_accepted haccepts, Except.map, Prod.mk.injEq, Except.ok.injEq] at h hwindow
    obtain ⟨rfl, rfl⟩ := h
    refine ⟨_, rfl, ?_⟩
    rw [count_eq, hwindow, if_pos trivial, Option.filter_some, hopen]
    rfl
  · obtain ⟨e, hrefused⟩ := increment_refused haccepts
    simp [perform, hrefused, Except.map] at h

theorem reset_shows_nothing (s : Store) (key : String) (now : Instant) :
    (s.reset key).count key now = 0 ∧ (s.reset key).resetTime key now = none := by
  rw [count_eq, resetTime_eq, windowAt_reset, if_pos rfl]
  exact ⟨rfl, rfl⟩

end Store

/-! ## Checks of memory stores -/

theorem Store.probe_leaves : Store.backend.probe.Leaves id :=
  ⟨fun _ _ _ => rfl, fun _ f _ => f.elim, fun f _ => f.elim⟩

theorem Monitor.startChecks_store (clock : Clock) (w : Watch Store.backend) : (startChecks clock w).2 = .done () := by
  have hover : ∀ ws : List (Watched Store.backend),
      ((check Store.backend w.monitor).startEach clock () ws).2.all Option.isNone = true := by
    intro ws
    induction ws with
    | nil => rfl
    | cons v ws ih =>
      have hv : ((check Store.backend w.monitor).start clock () v).2.flight? = none := by
        unfold check
        dsimp only
        split <;> rfl
      simp only [Service.startEach, hv, List.all_cons, ih, Option.isNone_none, Bool.and_self]
  show Service.joined ((check Store.backend w.monitor).startEach clock () w.pairs).2 = .done ()
  simp only [Service.joined, hover, if_true]

theorem Monitor.startNotes_store {caller : Nat} {clock : Clock} {w : Watch Store.backend} :
    ∀ n ∈ startNotes caller clock w, ∀ e, n.what.result? ≠ some (.error e) := by
  intro n hn e
  obtain ⟨i, p, -, what, hwhat, rfl⟩ := mem_checkNotes hn
  have hpassed : (Store.backend.probe.within w.monitor.timeout).start clock () p.2 = (p.2, .done (some true)) := rfl
  simp only [startIncidents, hpassed, verdict?, verdict, Option.map_some, Option.toList_some] at hwhat
  split at hwhat
  · rcases List.mem_cons.mp hwhat with rfl | hwhat
    · simp [Incident.result?, Verdict.error?]
    · rw [List.mem_singleton.mp hwhat]
      simp [Incident.result?]
  · cases hwhat

/-! ## One operation -/

namespace Failover

variable {clock : Clock} {op : Operation} {g : Failover Store.backend} {s s' : Store}

theorem candidates_serving (hflags : ∀ flag ∈ g.monitor.flags, flag = true)
    (hsize : g.monitor.flags.length = g.backends.length)
    (hs : g.backends[g.rotation.serving g.backends.length]? = some s) :
    ∃ rest, g.rotation.candidates g.monitor.flags =
      (g.rotation.serving g.backends.length :: rest, g.rotation.next) := by
  rw [← hsize]
  refine g.rotation.candidates_all hflags (List.ne_nil_of_length_pos (hsize ▸ ?_))
  exact Nat.zero_lt_of_lt (List.getElem?_eq_some_iff.mp hs).1

theorem start_store (timeout : Nat) {outcome : Outcome} (hperform : s.perform op clock.wall = (s', outcome)) :
    (Store.backend.operate.within timeout).start clock op s = (s', .done (some outcome)) := by
  show ((s.perform op clock.wall).1, Turn.done (some (s.perform op clock.wall).2)) = _
  rw [hperform]
  rfl

/-- The store whose turn it is does the operation, and no other is attempted. -/
theorem dispatch_store (hflags : ∀ flag ∈ g.monitor.flags, flag = true)
    (hsize : g.monitor.flags.length = g.backends.length)
    (hs : g.backends[g.rotation.serving g.backends.length]? = some s) {v : Value}
    (hperform : s.perform op clock.wall = (s', .ok v)) :
    dispatch clock op g = (({ g with rotation := g.rotation.next }.setBackend (g.rotation.serving g.backends.length)
        s').succeedAt (g.rotation.serving g.backends.length), .done (.ok v)) ∧
      triesAfter clock op (g, .done ()) = [(g.rotation.serving g.backends.length, .ok v)] := by
  obtain ⟨rest, hcandidates⟩ := candidates_serving hflags hsize hs
  have hdone := start_store g.timeout hperform
  constructor
  · have hdispatch : dispatch clock op g = tryEach clock op (g.rotation.serving g.backends.length :: rest) []
        { g with rotation := g.rotation.next } := by
      simp only [dispatch, hcandidates]
    rw [hdispatch, tryEach_cons (g := { g with rotation := g.rotation.next }) clock op rest [] hs, hdone]
    rfl
  · simp only [triesAfter, hcandidates]
    rw [attempts_cons g.timeout clock op rest hs, hdone]
    rfl

/-- If it cannot, its failure is noted. -/
theorem failure_mem_tries (hflags : ∀ flag ∈ g.monitor.flags, flag = true)
    (hsize : g.monitor.flags.length = g.backends.length)
    (hs : g.backends[g.rotation.serving g.backends.length]? = some s) {e : BackendError}
    (hperform : s.perform op clock.wall = (s', .error e)) :
    (g.rotation.serving g.backends.length, .error e) ∈ triesAfter clock op (g, .done ()) := by
  obtain ⟨rest, hcandidates⟩ := candidates_serving hflags hsize hs
  simp only [triesAfter, hcandidates]
  rw [attempts_cons g.timeout clock op rest hs, start_store g.timeout hperform]
  exact List.mem_cons_self ..

end Failover

namespace Traffic

open Failover

variable {m₀ : Monitor} {t : Traffic Store.backend} {op : Operation} {s s' : Store}

/-- The position of the store whose turn it is. -/
def turnOf (t : Traffic Store.backend) : Nat := t.group.rotation.serving t.group.backends.length

/-- The group when the checks of an operation are over. -/
def checked (t : Traffic Store.backend) : Failover Store.backend :=
  ((refresh Store.backend).start t.clock () t.group).1

theorem checks_over (t : Traffic Store.backend) :
    (refresh Store.backend).start t.clock () t.group = (t.checked, .done ()) :=
  Prod.ext rfl (Monitor.startChecks_store t.clock t.group.watch)

/-- The checks change nothing but the health records, all of which are healthy. -/
theorem Kept.checked (h : Kept m₀ t) (h₀ : Fresh m₀) (hnone : ∀ i, Unfailing i t.log) :
    t.checked.backends = t.group.backends ∧ t.checked.monitor.flags.length = t.checked.backends.length ∧
      ∀ flag ∈ t.checked.monitor.flags, flag = true := by
  have hbackends : t.checked.backends = t.group.backends := by
    have hviews := Monitor.startChecks_views Store.probe_leaves t.clock (w := t.group.watch) h.size
    rwa [List.map_id, List.map_id] at hviews
  have hframe : t.checked.frame = t.group.frame := refresh_frame t.clock t.group
  have hsize : t.checked.monitor.flags.length = t.checked.backends.length := by
    rw [Monitor.flags, List.length_map, show t.checked.monitor.records.length = _ from congrArg Frame.records hframe,
      show t.checked.backends.length = _ from congrArg Frame.backends hframe]
    exact h.size
  refine ⟨hbackends, hsize, fun flag hflag => ?_⟩
  obtain ⟨i, hi⟩ := List.mem_iff_getElem?.mp hflag
  have hlt : i < t.group.backends.length := by
    rw [← hbackends, ← hsize]
    exact (List.getElem?_eq_some_iff.mp hi).1
  have hhealthy := h.flag_turned h₀ (Monitor.startChecks_turned t.callers.length t.clock t.group.watch) hlt
    (unfailing_append.mpr ⟨fun n hn => Monitor.startNotes_store n (Note.mem_about.mp hn).1, hnone i⟩)
  exact Option.some.inj (hi.symm.trans hhealthy)

theorem log_operate (hop : refusal? op = none) : (t.after (.operate op)).log =
    tryNotes t.callers.length t.clock op (triesAfter t.clock op (t.checked, .done ())) ++
      Monitor.startNotes t.callers.length t.clock t.group.watch ++ t.log := by
  show startNotes t.callers.length t.clock op t.group ++ t.log = _
  simp only [startNotes, startTries, hop, t.checks_over]
  rfl

theorem operate_served (h : Kept m₀ t) (h₀ : Fresh m₀) (hnone : ∀ i, Unfailing i t.log) (hop : refusal? op = none)
    (hs : t.group.backends[t.turnOf]? = some s) {v : Value} (hperform : s.perform op t.clock.wall = (s', .ok v)) :
    (t.after (.operate op)).callers = t.callers ++ [.returned op (.ok v)] ∧
      (t.after (.operate op)).group.backends = t.group.backends.set t.turnOf s' ∧
      (t.after (.operate op)).group.rotation = t.group.rotation.next ∧
      ∀ i, Unfailing i (t.after (.operate op)).log := by
  obtain ⟨hbackends, hsize, hflags⟩ := h.checked h₀ hnone
  have hs₁ : t.checked.backends[t.checked.rotation.serving t.checked.backends.length]? = some s := by
    rw [hbackends]
    exact hs
  obtain ⟨hdispatch, htries⟩ := dispatch_store hflags hsize hs₁ hperform
  have hstart : (operate Store.backend).start t.clock op t.group = dispatch t.clock op t.checked := by
    rw [startOperation_accepted hop, t.checks_over]
    rfl
  refine ⟨?_, ?_, ?_, fun i => ?_⟩
  · show place t.callers.length (.ofOperation op ((operate Store.backend).start t.clock op t.group).2) t.callers = _
    rw [hstart, hdispatch]
    simp [place, Caller.ofOperation]
  · show ((operate Store.backend).start t.clock op t.group).1.backends = _
    rw [hstart, hdispatch, turnOf, ← hbackends]
    rfl
  · show ((operate Store.backend).start t.clock op t.group).1.rotation = _
    rw [hstart, hdispatch]
    rfl
  · rw [log_operate hop, htries, unfailing_append, unfailing_append]
    refine ⟨⟨fun n hn e => ?_, fun n hn => Monitor.startNotes_store n (Note.mem_about.mp hn).1⟩, hnone i⟩
    obtain ⟨-, -, tried, htried, -, hwhat⟩ := mem_tryNotes (Note.mem_about.mp hn).1
    rw [hwhat, List.mem_singleton.mp htried]
    simp [Incident.result?, Except.map]

/-- An operation of which no failure is noted is done. -/
theorem operate_done (h : Kept m₀ t) (h₀ : Fresh m₀) (hop : refusal? op = none)
    (hs : t.group.backends[t.turnOf]? = some s) (hnone : ∀ i, Unfailing i (t.after (.operate op)).log) :
    ∃ s' v, s.perform op t.clock.wall = (s', .ok v) := by
  rw [log_operate hop] at hnone
  obtain ⟨hbackends, hsize, hflags⟩ := h.checked h₀ fun i => (unfailing_append.mp (hnone i)).2
  have hs₁ : t.checked.backends[t.checked.rotation.serving t.checked.backends.length]? = some s := by
    rw [hbackends]
    exact hs
  obtain ⟨s', outcome, hperform⟩ : ∃ s' outcome, s.perform op t.clock.wall = (s', outcome) := ⟨_, _, rfl⟩
  cases outcome with
  | ok v => exact ⟨s', v, hperform⟩
  | error e =>
    have htried := failure_mem_tries hflags hsize hs₁ hperform
    have hn : ⟨some t.callers.length, t.turnOf, t.clock, .tried op (.error e)⟩ ∈
        tryNotes t.callers.length t.clock op (triesAfter t.clock op (t.checked, .done ())) := by
      rw [turnOf, ← hbackends]
      exact List.mem_reverse.mpr (List.mem_map_of_mem htried)
    have hunfailing := (unfailing_append.mp (unfailing_append.mp (hnone t.turnOf)).1).1
    exact absurd rfl (hunfailing _ (Note.mem_about.mpr ⟨hn, rfl⟩) e)

/-! ## Reading back -/

/-- An operation that changes no store. -/
def IsRead : Operation → Prop
  | .count _ | .resetTime _ => True
  | _ => False

theorem perform_read (hread : IsRead op) (s : Store) (now : Instant) : ∃ v, s.perform op now = (s, .ok v) := by
  cases op with
  | count key => exact ⟨_, rfl⟩
  | resetTime key => exact ⟨_, rfl⟩
  | increment key length => exact hread.elim
  | reset key => exact hread.elim

theorem refusal?_read (hread : IsRead op) : refusal? op = none := by
  cases op with
  | count key => rfl
  | resetTime key => rfl
  | increment key length => exact hread.elim
  | reset key => exact hread.elim

/-- What an operation returns that is over in its first turn. -/
def answer (t : Traffic Store.backend) (op : Operation) : Option Result :=
  match (t.after (.operate op)).callers[t.callers.length]? with
  | some (.returned _ result) => some result
  | _ => none

/-- A group of which no failure is noted, at work. -/
structure Sound (m₀ : Monitor) (t : Traffic Store.backend) : Prop where
  kept : Kept m₀ t
  populated : 0 < t.group.backends.length
  unfailing : ∀ i, Unfailing i t.log

theorem Sound.store (h : Sound m₀ t) : ∃ s, t.group.backends[t.turnOf]? = some s :=
  ⟨_, List.getElem?_eq_getElem (t.group.rotation.serving_lt h.populated)⟩

theorem Sound.answer_eq (h : Sound m₀ t) (h₀ : Fresh m₀) (hop : refusal? op = none)
    (hs : t.group.backends[t.turnOf]? = some s) {v : Value} (hperform : s.perform op t.clock.wall = (s', .ok v)) :
    t.answer op = some (.ok v) := by
  obtain ⟨hcallers, -⟩ := operate_served h.kept h₀ h.unfailing hop hs hperform
  simp [answer, hcallers]

theorem Sound.after (h : Sound m₀ t) (h₀ : Fresh m₀) (hop : refusal? op = none)
    (hs : t.group.backends[t.turnOf]? = some s) {v : Value} (hperform : s.perform op t.clock.wall = (s', .ok v)) :
    Sound m₀ (t.after (.operate op)) ∧ (t.after (.operate op)).group.backends = t.group.backends.set t.turnOf s' := by
  obtain ⟨-, hbackends, -, hnone⟩ := operate_served h.kept h₀ h.unfailing hop hs hperform
  refine ⟨⟨h.kept.after h₀ _, ?_, hnone⟩, hbackends⟩
  rw [hbackends]
  exact Nat.lt_of_lt_of_eq h.populated List.length_set.symm

theorem Sound.reads (h : Sound m₀ t) (h₀ : Fresh m₀) {reads : List Operation} (hreads : ∀ op ∈ reads, IsRead op) :
    Sound m₀ (t.run (reads.map .operate)) ∧ (t.run (reads.map .operate)).group.backends = t.group.backends ∧
      (t.run (reads.map .operate)).clock = t.clock := by
  induction reads generalizing t with
  | nil => exact ⟨h, rfl, rfl⟩
  | cons op reads ih =>
    obtain ⟨hread, hreads⟩ := List.forall_mem_cons.mp hreads
    obtain ⟨s, hs⟩ := h.store
    obtain ⟨v, hperform⟩ := perform_read hread s t.clock.wall
    obtain ⟨hafter, hbackends⟩ := h.after h₀ (refusal?_read hread) hs hperform
    obtain ⟨hlt, hget⟩ := List.getElem?_eq_some_iff.mp hs
    rw [← hget, List.set_getElem_self] at hbackends
    obtain ⟨hsound, hsame, hclock⟩ := ih hafter hreads
    exact ⟨hsound, hsame.trans hbackends, hclock⟩

/-- What the store at a position tells of a key. -/
def countAt (t : Traffic Store.backend) (i : Nat) (key : String) : Nat :=
  (t.group.backends[i]?.map fun s => s.count key t.clock.wall).getD 0

def resetTimeAt (t : Traffic Store.backend) (i : Nat) (key : String) : Option Instant :=
  t.group.backends[i]?.bind fun s => s.resetTime key t.clock.wall

/-- A read some reads after a write: of what was written if it comes to the same store, and otherwise
    of what another store held already. -/
theorem Sound.read_back (h : Sound m₀ t) (h₀ : Fresh m₀) {write : Operation} (hwrite : refusal? write = none)
    (hs : t.group.backends[t.turnOf]? = some s) {v : Value} (hperform : s.perform write t.clock.wall = (s', .ok v))
    {reads : List Operation} (hreads : ∀ op ∈ reads, IsRead op) {t' : Traffic Store.backend}
    (ht' : t' = (t.after (.operate write)).run (reads.map .operate)) (key : String) :
    t'.answer (.count key) = some (.ok (.count
        (if t'.turnOf = t.turnOf then s'.count key t.clock.wall else t.countAt t'.turnOf key))) ∧
      t'.answer (.resetTime key) = some (.ok (.resetTime
        (if t'.turnOf = t.turnOf then s'.resetTime key t.clock.wall else t.resetTimeAt t'.turnOf key))) := by
  obtain ⟨hafter, hbackends⟩ := h.after h₀ hwrite hs hperform
  obtain ⟨hsound, hsame, hclock⟩ := hafter.reads h₀ hreads
  rw [← ht'] at hsound hsame hclock
  obtain ⟨s₁, hs₁⟩ := hsound.store
  have hcount : t'.answer (.count key) = some (.ok (.count (s₁.count key t'.clock.wall))) :=
    hsound.answer_eq h₀ rfl hs₁ rfl
  have hreset : t'.answer (.resetTime key) = some (.ok (.resetTime (s₁.resetTime key t'.clock.wall))) :=
    hsound.answer_eq h₀ rfl hs₁ rfl
  have hwall : t'.clock.wall = t.clock.wall := congrArg Clock.wall hclock
  rw [hsame, hbackends] at hs₁
  rw [hcount, hreset, hwall]
  by_cases hturn : t'.turnOf = t.turnOf
  · have hself : (t.group.backends.set t.turnOf s')[t'.turnOf]? = some s' := by
      rw [hturn]
      exact List.getElem?_set_self (List.getElem?_eq_some_iff.mp hs).1
    cases hself.symm.trans hs₁
    rw [if_pos hturn, if_pos hturn]
    exact ⟨rfl, rfl⟩
  · have hother : t.group.backends[t'.turnOf]? = some s₁ := (List.getElem?_set_ne (Ne.symm hturn)).symm.trans hs₁
    rw [if_neg hturn, if_neg hturn, countAt, resetTimeAt, hother]
    exact ⟨rfl, rfl⟩

/-- Under `firstHealthy`, and with a single store, it is always the same store's turn. -/
theorem turnOf_eq {t' : Traffic Store.backend} (hframe : t'.group.frame = t.group.frame)
    (h : t.group.rotation.strategy = .firstHealthy ∨ t.group.backends.length = 1) : t'.turnOf = t.turnOf := by
  have hstrategy : t'.group.rotation.strategy = t.group.rotation.strategy := congrArg Frame.strategy hframe
  have hsize : t'.group.backends.length = t.group.backends.length := congrArg Frame.backends hframe
  rcases h with h | h
  · simp only [turnOf, Rotation.serving, hstrategy, h]
  · simp only [turnOf, Rotation.serving, hstrategy, hsize, h, Nat.mod_one]

/-- What reads return that follow a hit or a reset of the key after other reads, all at one instant. -/
structure ReadsBack (t : Traffic Store.backend) (key : String) (reads : List Operation) : Prop where
  hit : ∀ length, refusal? (.increment key length) = none →
    (∀ i, Unfailing i (t.after (.operate (.increment key length))).log) →
    let t' := (t.after (.operate (.increment key length))).run (reads.map .operate)
    ∃ n, t.answer (.increment key length) = some (.ok (.count n)) ∧
      t'.answer (.count key) = some (.ok (.count (if t'.turnOf = t.turnOf then n else t.countAt t'.turnOf key)))
  reset :
    let t' := (t.after (.operate (.reset key))).run (reads.map .operate)
    t.answer (.reset key) = some (.ok .done) ∧
      t'.answer (.count key) = some (.ok (.count (if t'.turnOf = t.turnOf then 0 else t.countAt t'.turnOf key))) ∧
      t'.answer (.resetTime key) =
        some (.ok (.resetTime (if t'.turnOf = t.turnOf then none else t.resetTimeAt t'.turnOf key)))
  same : t.group.rotation.strategy = .firstHealthy ∨ t.group.backends.length = 1 → ∀ write,
    ((t.after (.operate write)).run (reads.map .operate)).turnOf = t.turnOf

/-- Any number of stores, and any traffic in which no failure is noted of any of them. -/
theorem reads_after_writes {g : Failover Store.backend} (hsome : g.backends ≠ []) (interval timeout threshold : Nat)
    (clock : Clock) {moves : List (Move Store.backend)} {t : Traffic Store.backend}
    (ht : t = (opened g interval timeout threshold clock).run moves) (hnone : ∀ i, Unfailing i t.log) (key : String)
    {reads : List Operation} (hreads : ∀ op ∈ reads, IsRead op) : ReadsBack t key reads := by
  have h₀ := fresh_start g.backends.length interval timeout threshold
  have hkept : Kept _ t := ht ▸ (kept_opened g interval timeout threshold clock).run h₀ moves
  have h : Sound (.start g.backends.length interval timeout threshold) t := by
    refine ⟨hkept, ?_, hnone⟩
    rw [hkept.backends]
    exact Nat.lt_of_lt_of_eq (List.length_pos_iff.mpr hsome) List.length_replicate.symm
  obtain ⟨s, hs⟩ := h.store
  refine ⟨fun length hop hhit => ?_, ?_, fun hsame write => ?_⟩
  · obtain ⟨s', v, hperform⟩ := operate_done hkept h₀ hop hs hhit
    obtain ⟨n, rfl, hcount⟩ := Store.count_perform_increment hperform
    obtain ⟨hread, -⟩ := h.read_back h₀ hop hs hperform hreads rfl key
    rw [hcount] at hread
    exact ⟨n, h.answer_eq h₀ hop hs hperform, hread⟩
  · have hwrite : refusal? (.reset key) = none := rfl
    obtain ⟨hread, hreset⟩ := h.read_back h₀ hwrite hs rfl hreads rfl key
    rw [(Store.reset_shows_nothing s key t.clock.wall).1] at hread
    rw [(Store.reset_shows_nothing s key t.clock.wall).2] at hreset
    exact ⟨h.answer_eq h₀ rfl hs rfl, hread, hreset⟩
  · exact turnOf_eq ((frame_run ..).trans (t.frame_after (.operate write))) hsame

/-! ## Two stores in turn -/

def inTurn : Config := { Config.ofBackends [⟨"a", "memory", []⟩, ⟨"b", "memory", []⟩] with strategy := .roundRobin }

def memories : Registry Unit Store.backend.State :=
  Registry.empty.register "memory" (Registry.ofSettings StoreSettings.read StoreSettings.store)

def twoMemories : Failover Store.backend :=
  Registry.assemble inTurn [Store.empty defaultPurgeEvery, Store.empty defaultPurgeEvery]

def afresh : Traffic Store.backend := opened twoMemories inTurn.interval inTurn.checkTimeout 1 ⟨0, 0⟩

def oneHit : Operation := .increment "k" (seconds 60)

theorem oneHit_sound : Sound (.start twoMemories.backends.length inTurn.interval inTurn.checkTimeout 1)
    (afresh.after (.operate oneHit)) := by
  have hsound : Sound (.start twoMemories.backends.length inTurn.interval inTurn.checkTimeout 1) afresh :=
    ⟨kept_opened twoMemories inTurn.interval inTurn.checkTimeout 1 ⟨0, 0⟩, by decide, fun _ _ hn => nomatch hn⟩
  have hcount : ((Store.empty defaultPurgeEvery).perform oneHit 0).2 = .ok (.count 1) := rfl
  exact (hsound.after (fresh_start ..) rfl (s := Store.empty defaultPurgeEvery) rfl (Prod.ext rfl hcount)).1

theorem reads_after_writes_oneHit :
    twoMemories.backends ≠ [] ∧ (∀ i, Unfailing i (afresh.run [.operate oneHit]).log) ∧
      IsRead (.resetTime "k") ∧ ReadsBack (afresh.run [.operate oneHit]) "k" [.resetTime "k"] := by
  have hsome : twoMemories.backends ≠ [] := by simp [twoMemories, Registry.assemble]
  have ht : afresh.run [.operate oneHit] =
      (opened twoMemories inTurn.interval inTurn.checkTimeout 1 ⟨0, 0⟩).run [.operate oneHit] := rfl
  have hread : ∀ op ∈ [Operation.resetTime "k"], IsRead op := by simp [IsRead]
  exact ⟨hsome, oneHit_sound.unfailing, trivial, reads_after_writes hsome inTurn.interval inTurn.checkTimeout 1 ⟨0, 0⟩
    ht oneHit_sound.unfailing "k" hread⟩

/-- The hit goes to the first store, the read to the second. -/
theorem the_next_store_has_not_heard :
    (memories.group inTurn ()).1 = .ok twoMemories ∧ afresh.group = twoMemories ∧
      (∀ i, Unfailing i (afresh.run [.operate oneHit, .operate (.count "k")]).log) ∧
      afresh.answer oneHit = some (.ok (.count 1)) ∧
      (afresh.after (.operate oneHit)).answer (.count "k") = some (.ok (.count 0)) := by
  have hread : ∀ op ∈ [Operation.count "k"], IsRead op := by simp [IsRead]
  refine ⟨rfl, rfl, (oneHit_sound.reads (fresh_start ..) hread).1.unfailing, ?_, ?_⟩
  · rfl
  · rfl

end Traffic

end RateCounter
