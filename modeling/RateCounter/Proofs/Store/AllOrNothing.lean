/-
  RateCounter.Proofs.Store.AllOrNothing — a hit leaves its window, or no trace.

  A hit may be carried out in place, step by step: an empty window is put where there is
  none, one that is over is replaced by an empty one, and then the hit is added
  (`incrementInPlace`). Each step writes at once and nothing is taken back, so a failure
  between two of them would leave an empty window behind. There is none: if the first write
  succeeds, so do the others. The steps fail when the increment fails, with the store as it
  was, and otherwise leave the same store (`incrementInPlace_refused`,
  `incrementInPlace_accepted`).

  So whatever happens to a store, at times in any order, each of its windows has a hit and
  is as long as a window may be (`Regular.run`), and an increment is done as a whole or not
  at all (`increment_all_or_nothing`).
-/

import RateCounter.Proofs.Store.History

namespace RateCounter

/-- It has a hit, and a length that is accepted. -/
structure Window.Regular (w : Window) : Prop where
  count : 1 ≤ w.count
  opens : w.opened < w.closes
  lasts : w.closes ≤ w.opened + maxWindow

namespace Store

variable {s s' : Store} {key : String} {length : Nat} {now : Instant} {w : Window}

/-! ## Stored windows -/

def Regular (s : Store) : Prop := ∀ (key : String) (w : Window), s.windows[key]? = some w → w.Regular

/-- A hit makes a regular window, of an open one or a new one. -/
theorem Regular.hitWindow (h : s.Regular) (haccepts : s.Accepts key length now) :
    (s.hitWindow key length now).Regular := by
  obtain ⟨hpos, hmax⟩ := haccepts.accepted
  unfold Store.hitWindow
  cases hw : s.windowAt key now with
  | some w =>
    have hregular := h key w (windowAt_eq_some_iff.mp hw).1
    have hcount : 1 ≤ countUp w.count := by
      have hlimit : 1 ≤ maxCount := by decide
      unfold countUp
      omega
    exact ⟨hcount, hregular.opens, hregular.lasts⟩
  | none =>
    refine ⟨Nat.le_refl 1, ?_, ?_⟩
    · exact Int.lt_add_of_pos_right now (Int.natCast_pos.mpr hpos)
    · exact Int.add_le_add_left (Int.ofNat_le.mpr hmax) now

theorem Regular.increment (h : s.Regular) (key : String) (length : Nat) (now : Instant) :
    (s.increment key length now).1.Regular := by
  by_cases haccepts : s.Accepts key length now
  · intro other w hw
    rw [increment_accepted haccepts] at hw
    have hinserted := stored_pace hw
    rw [Std.TreeMap.getElem?_insert] at hinserted
    split at hinserted
    · cases hinserted
      exact h.hitWindow haccepts
    · exact h other w hinserted
  · obtain ⟨e, hrefused⟩ := increment_refused haccepts
    rw [hrefused]
    exact h

theorem Regular.after (h : s.Regular) (now : Instant) (event : Event) : (s.after now event).Regular := by
  cases event with
  | purge =>
    intro key w hw
    exact h key w (windowAt_eq_some_iff.mp ((stored_sweep s key now).symm.trans hw)).1
  | call op =>
    cases op with
    | increment key length => exact h.increment key length now
    | count key => exact h
    | resetTime key => exact h
    | reset key =>
      intro other w hw
      have hperform : s.perform (.reset key) now = (s.reset key, .ok .done) := rfl
      exact h other w (stored_perform hperform (fun _ hop => nomatch hop) hw)

theorem Regular.run (h : s.Regular) (events : List (Instant × Event)) : (s.run events).Regular := by
  induction events generalizing s with
  | nil => exact h
  | cons event events ih => exact ih (h.after event.1 event.2)

theorem regular_empty (purgeEvery : Nat) : (empty purgeEvery).Regular := by
  intro key w hw
  simp [empty] at hw

/-! ## In place -/

/-- A step on a store; an error does not take back what was written. -/
abbrev Step := EStateM BackendError Store

def put (key : String) (w : Window) : Step Window := do
  modify fun s => { s with windows := s.windows.insert key w }
  return w

/-- Puts an empty window in the place of a key. -/
def startAt (key : String) (now : Instant) (length : Nat) : Step Window :=
  match Window.start now length with
  | .ok w => put key w
  | .error e => throw e

/-- The window of a key, put there first if there is none. -/
def enter (key : String) (now : Instant) (length : Nat) : Step Window := do
  match (← get).windows[key]? with
  | some w => return w
  | none => startAt key now length

def restart (key : String) (now : Instant) (length : Nat) (w : Window) : Step Window :=
  if w.isOver now then startAt key now length else return w

def hitAt (key : String) (now : Instant) (w : Window) : Step Nat := do
  let w ← put key { w with count := countUp w.count }
  modify fun s => s.pace now
  return w.count

def incrementInPlace (key : String) (length : Nat) (now : Instant) : Step Nat :=
  match Window.accept length with
  | .error e => throw e.toBackendError
  | .ok length => do
    let w ← enter key now length
    let w ← restart key now length w
    hitAt key now w

theorem startAt_ok (hw : Window.start now length = .ok w) :
    (startAt key now length).run s = .ok w { s with windows := s.windows.insert key w } := by
  unfold startAt
  rw [hw]
  rfl

theorem startAt_error {e : BackendError} (he : Window.start now length = .error e) :
    (startAt key now length).run s = .error e s := by
  unfold startAt
  rw [he]
  rfl

theorem enter_known (hw : s.windows[key]? = some w) : (enter key now length).run s = .ok w s := by
  simp [enter, hw]

theorem enter_new (hw : s.windows[key]? = none) :
    (enter key now length).run s = (startAt key now length).run s := by
  simp [enter, hw]

theorem restart_open (hopen : now < w.closes) : (restart key now length w).run s = .ok w s := by
  simp [restart, Window.not_isOver_iff.mpr hopen]

theorem restart_over (hover : w.closes ≤ now) :
    (restart key now length w).run s = (startAt key now length).run s := by
  simp [restart, Window.isOver_iff.mpr hover]

theorem hitAt_run : (hitAt key now w).run s =
    .ok (countUp w.count) (pace { s with windows := s.windows.insert key { w with count := countUp w.count } } now) :=
  rfl

/-- Each part of it goes on in the store that the one before has left. -/
theorem incrementInPlace_run (haccept : Window.accept length = .ok length) :
    (incrementInPlace key length now).run s =
      match (enter key now length).run s with
      | .error e s => .error e s
      | .ok w s =>
        match (restart key now length w).run s with
        | .error e s => .error e s
        | .ok w s => (hitAt key now w).run s := by
  unfold incrementInPlace
  rw [haccept]
  dsimp only
  rw [EStateM.run_bind]
  cases (enter key now length).run s with
  | error e s => rfl
  | ok w s =>
    dsimp only
    rw [EStateM.run_bind]
    cases (restart key now length w).run s with
    | error e s => rfl
    | ok w s => rfl

theorem incrementInPlace_refused (h : ¬ s.Accepts key length now) :
    ∃ e, s.increment key length now = (s, .error e) ∧ (incrementInPlace key length now).run s = .error e s := by
  cases haccept : Window.accept length with
  | error e =>
    refine ⟨e.toBackendError, ?_, ?_⟩
    · unfold increment
      rw [haccept]
    · unfold incrementInPlace
      rw [haccept]
      rfl
  | ok ns =>
    obtain ⟨hpos, hmax, rfl⟩ := Window.accept_eq_ok_iff.mp haccept
    have hclosed : s.windowAt key now = none := by
      rw [← Option.not_isSome_iff_eq_none]
      exact fun hopen => h ⟨⟨hpos, hmax⟩, .inl hopen⟩
    have hend : ¬ Instant.Representable (now + ns) := fun hend => h ⟨⟨hpos, hmax⟩, .inr hend⟩
    obtain ⟨e, he⟩ : ∃ e, Window.start now ns = .error e := ⟨_, if_neg hend⟩
    refine ⟨e, ?_, ?_⟩
    · unfold increment
      rw [haccept]
      dsimp only
      rw [windowFor_of_closed hclosed hpos, he]
      rfl
    · rw [incrementInPlace_run haccept]
      cases hstored : s.windows[key]? with
      | none => rw [enter_new hstored, startAt_error he]
      | some w =>
        have hover := windowAt_eq_none_iff.mp hclosed w hstored
        rw [enter_known hstored]
        dsimp only
        rw [restart_over hover, startAt_error he]

/-- The same windows, whatever the shapes of the two maps, and the same pace. -/
structure Alike (s s' : Store) : Prop where
  windows : s.windows.Equiv s'.windows
  increments : s.increments = s'.increments
  purgeEvery : s.purgeEvery = s'.purgeEvery

theorem Alike.pace (h : s.Alike s') (now : Instant) : (s.pace now).Alike (s'.pace now) := by
  obtain ⟨windows, increments, purgeEvery⟩ := s
  obtain ⟨hwindows, rfl, rfl⟩ := h
  unfold Store.pace
  dsimp only
  split
  · exact ⟨hwindows, rfl, rfl⟩
  · split
    · exact ⟨hwindows.filter _, rfl, rfl⟩
    · exact ⟨hwindows, rfl, rfl⟩

/-- The empty window that was put there first makes no difference. -/
theorem insert_insert_alike (s : Store) (key : String) (w w' : Window) :
    Alike { s with windows := (s.windows.insert key w).insert key w' }
      { s with windows := s.windows.insert key w' } := by
  refine ⟨Std.TreeMap.Equiv.of_forall_constGet?_eq fun other => ?_, rfl, rfl⟩
  show ((s.windows.insert key w).insert key w')[other]? = (s.windows.insert key w')[other]?
  rw [Std.TreeMap.getElem?_insert, Std.TreeMap.getElem?_insert, Std.TreeMap.getElem?_insert]
  split <;> rfl

theorem incrementInPlace_accepted (h : s.Accepts key length now) :
    ∃ s', (incrementInPlace key length now).run s = .ok (s.hitWindow key length now).count s' ∧
      s'.Alike (s.increment key length now).1 := by
  obtain ⟨hpos, hmax⟩ := h.accepted
  have haccept : Window.accept length = .ok length := Window.accept_eq_ok_iff.mpr ⟨hpos, hmax, rfl⟩
  rw [incrementInPlace_run haccept, increment_accepted h]
  unfold hitWindow
  cases hw : s.windowAt key now with
  | some w =>
    obtain ⟨hstored, hopen⟩ := windowAt_eq_some_iff.mp hw
    rw [enter_known hstored]
    dsimp only
    rw [restart_open hopen]
    exact ⟨_, hitAt_run, .rfl, rfl, rfl⟩
  | none =>
    have hend : Instant.Representable (now + length) := by
      refine h.opens.resolve_left ?_
      rw [hw]
      exact Bool.false_ne_true
    have hstart : Window.start now length = .ok ⟨now, now + length, 0⟩ := if_pos hend
    have halike := (insert_insert_alike s key ⟨now, now + length, 0⟩ ⟨now, now + length, 1⟩).pace now
    cases hstored : s.windows[key]? with
    | none =>
      have hopen : now < now + (length : Int) := Int.lt_add_of_pos_right now (Int.natCast_pos.mpr hpos)
      rw [enter_new hstored, startAt_ok hstart]
      dsimp only
      rw [restart_open hopen]
      exact ⟨_, hitAt_run, halike⟩
    | some w =>
      have hover := windowAt_eq_none_iff.mp hw w hstored
      rw [enter_known hstored]
      dsimp only
      rw [restart_over hover, startAt_ok hstart]
      exact ⟨_, hitAt_run, halike⟩

/-! ## All or nothing -/

theorem not_accepts_iff : ¬ s.Accepts key length now ↔ length = 0 ∨ maxWindow < length ∨
    (∀ w, s.windows[key]? = some w → w.closes ≤ now) ∧ ¬ Instant.Representable (now + length) := by
  rw [← windowAt_eq_none_iff, ← Option.not_isSome_iff_eq_none]
  constructor
  · intro h
    by_cases haccepted : 0 < length ∧ length ≤ maxWindow
    · refine .inr (.inr ⟨fun hopen => h ⟨haccepted, .inl hopen⟩, fun hend => h ⟨haccepted, .inr hend⟩⟩)
    · omega
  · rintro hrefused ⟨⟨hpos, hmax⟩, hopens⟩
    rcases hrefused with hzero | hlong | ⟨hclosed, hend⟩
    · omega
    · omega
    · exact hopens.elim hclosed hend

/-- An increment that fails leaves the store as it is, and done in place does neither more nor less. -/
structure AllOrNothing (s : Store) (key : String) (length : Nat) (now : Instant) : Prop where
  fails_iff : (∃ e, (s.increment key length now).2 = .error e) ↔ length = 0 ∨ maxWindow < length ∨
    (∀ w, s.windows[key]? = some w → w.closes ≤ now) ∧ ¬ Instant.Representable (now + length)
  failed : ∀ e, (s.increment key length now).2 = .error e →
    (s.increment key length now).1 = s ∧ (incrementInPlace key length now).run s = .error e s
  done : ∀ count, (s.increment key length now).2 = .ok count →
    ∃ s', (incrementInPlace key length now).run s = .ok count s' ∧ s'.Alike (s.increment key length now).1

theorem allOrNothing (s : Store) (key : String) (length : Nat) (now : Instant) :
    s.AllOrNothing key length now := by
  by_cases h : s.Accepts key length now
  · obtain ⟨s', hrun, halike⟩ := incrementInPlace_accepted h
    have hanswer : (s.increment key length now).2 = .ok (s.hitWindow key length now).count := by
      rw [increment_accepted h]
    refine ⟨?_, fun e he => ?_, fun count hcount => ?_⟩
    · rw [← not_accepts_iff, hanswer]
      exact iff_of_false (fun ⟨e, he⟩ => nomatch he) (not_not_intro h)
    · rw [hanswer] at he
      exact nomatch he
    · rw [hanswer] at hcount
      cases hcount
      exact ⟨s', hrun, halike⟩
  · obtain ⟨e, hrefused, hrun⟩ := incrementInPlace_refused h
    refine ⟨?_, fun e' he => ?_, fun count hcount => ?_⟩
    · rw [← not_accepts_iff, hrefused]
      exact iff_of_true ⟨e, rfl⟩ h
    · rw [hrefused] at he ⊢
      cases he
      exact ⟨rfl, hrun⟩
    · rw [hrefused] at hcount
      exact nomatch hcount

/-- Any store, after any events at times in any order. -/
theorem increment_all_or_nothing (purgeEvery : Nat) (events : List (Instant × Event)) :
    let s := (empty purgeEvery).run events
    s.Regular ∧ ∀ key length now, s.AllOrNothing key length now :=
  ⟨(regular_empty purgeEvery).run events, allOrNothing _⟩

/-- A window that is over, and no room for another one before the last instant there is. -/
example :
    let s := (empty 0).run [(0, .call (.increment "k" 1))]
    (s.increment "k" 1 Instant.latest).2.isOk = false ∧
      (s.increment "k" 1 Instant.latest).1.windows["k"]? = some ⟨0, 1, 1⟩ ∧
      (s.increment "new" 1 Instant.latest).1.size = 1 := by
  decide

end Store

end RateCounter
