/-
  RateCounter.Proofs.Store.Open — the open window of a key in a store.

  All that a store answers about a key it reads off the key's window, if that is open
  (`windowAt`). A window that is over is as good as none: whether it has been swept makes no
  difference from then on (`windowAt_sweep`, `windowAt_pace`).

  A store accepts a hit if the length is accepted and there is an open window, or a new one
  can be opened (`Accepts`). It then answers the count of the window with the hit in it
  (`hitWindow`), which is the open window of that key afterwards; those of other keys are as
  before (`increment_accepted`, `windowAt_increment`). Otherwise nothing happens
  (`increment_refused`).

  What is stored of a key, over or not, changes by its own hits only, or is dropped
  (`stored_perform`); after a hit it is the window with the hit in it (`perform_hit`).
-/

import Std.Data.TreeMap.Lemmas
import RateCounter.Backend

namespace RateCounter

namespace Window

theorem accept_eq_ok_iff {length ns : Nat} :
    accept length = .ok ns ↔ 0 < length ∧ length ≤ maxWindow ∧ ns = length := by
  unfold accept
  by_cases hzero : length = 0
  · simp [hzero]
  · rw [if_neg hzero]
    by_cases hlong : maxWindow < length
    · rw [if_pos hlong]
      simp only [reduceCtorEq, false_iff]
      omega
    · rw [if_neg hlong, Except.ok.injEq]
      omega

theorem isOver_iff {w : Window} {now : Instant} : w.isOver now = true ↔ w.closes ≤ now := by
  unfold isOver
  rw [decide_eq_true_eq]

theorem not_isOver_iff {w : Window} {now : Instant} : w.isOver now = false ↔ now < w.closes := by
  rw [Bool.eq_false_iff, ne_eq, isOver_iff, Int.not_le]

end Window

namespace Store

variable {s s' : Store} {key : String} {length : Nat} {now t : Instant} {w : Window}

/-- The window of a key, unless it is over. -/
def windowAt (s : Store) (key : String) (now : Instant) : Option Window :=
  s.windows[key]?.filter fun w => !w.isOver now

theorem windowAt_eq_some_iff : s.windowAt key now = some w ↔ s.windows[key]? = some w ∧ now < w.closes := by
  unfold windowAt
  rw [Option.filter_eq_some_iff, Bool.not_eq_true', Window.not_isOver_iff]

theorem windowAt_eq_none_iff :
    s.windowAt key now = none ↔ ∀ w, s.windows[key]? = some w → w.closes ≤ now := by
  unfold windowAt
  rw [Option.filter_eq_none_iff]
  simp only [Bool.not_eq_true', Bool.not_eq_false, Window.isOver_iff]

/-- A window that is open later on is open now. -/
theorem windowAt_later (ht : now ≤ t) : (s.windowAt key now).filter (fun w => !w.isOver t) = s.windowAt key t := by
  apply Option.ext
  intro w
  rw [Option.filter_eq_some_iff, Bool.not_eq_true', Window.not_isOver_iff, windowAt_eq_some_iff, windowAt_eq_some_iff]
  constructor
  · rintro ⟨⟨hw, -⟩, hopen⟩
    exact ⟨hw, hopen⟩
  · rintro ⟨hw, hopen⟩
    exact ⟨⟨hw, Int.lt_of_le_of_lt ht hopen⟩, hopen⟩

theorem windowAt_empty (purgeEvery : Nat) (key : String) (now : Instant) :
    (empty purgeEvery).windowAt key now = none := by
  simp [windowAt, empty]

/-! ## Reading -/

theorem count_eq (s : Store) (key : String) (now : Instant) :
    s.count key now = ((s.windowAt key now).map Window.count).getD 0 := by
  unfold count windowAt
  cases s.windows[key]? with
  | none => rfl
  | some w =>
    cases hover : w.isOver now with
    | true => simp [Window.countAt, Option.filter, hover]
    | false => simp [Window.countAt, Option.filter, hover]

theorem resetTime_eq (s : Store) (key : String) (now : Instant) :
    s.resetTime key now = (s.windowAt key now).map Window.closes := by
  unfold resetTime windowAt
  cases s.windows[key]? with
  | none => rfl
  | some w =>
    cases hover : w.isOver now with
    | true => simp [Window.resetTimeAt, Option.filter, hover]
    | false => simp [Window.resetTimeAt, Option.filter, hover]

/-! ## Sweeps and resets -/

/-- A sweep leaves the windows that are open. -/
theorem stored_sweep (s : Store) (key : String) (now : Instant) :
    (s.sweep now).windows[key]? = s.windowAt key now := by
  unfold sweep windowAt
  rw [Std.TreeMap.getElem?_filter']

theorem windowAt_sweep (ht : now ≤ t) (key : String) : (s.sweep now).windowAt key t = s.windowAt key t := by
  rw [← windowAt_later (s := s) ht, ← stored_sweep s]
  rfl

theorem windowAt_pace (ht : now ≤ t) (key : String) : (s.pace now).windowAt key t = s.windowAt key t := by
  unfold pace
  split
  · rfl
  · dsimp only
    split
    · exact windowAt_sweep ht key
    · rfl

theorem windowAt_reset (s : Store) (a b : String) (t : Instant) :
    (s.reset a).windowAt b t = if a = b then none else s.windowAt b t := by
  unfold reset windowAt
  rw [Std.TreeMap.getElem?_erase]
  by_cases hab : a = b
  · simp [hab]
  · simp [hab]

/-! ## Hits -/

/-- The open window with a hit added, or else a new one with the first hit. -/
def hitWindow (s : Store) (key : String) (length : Nat) (now : Instant) : Window :=
  match s.windowAt key now with
  | some w => { w with count := countUp w.count }
  | none => ⟨now, now + length, 1⟩

structure Accepts (s : Store) (key : String) (length : Nat) (now : Instant) : Prop where
  accepted : 0 < length ∧ length ≤ maxWindow
  opens : (s.windowAt key now).isSome ∨ Instant.Representable (now + length)

theorem windowFor_of_open (hw : s.windowAt key now = some w) :
    (s.windowFor key now length).bind (fun w => w.hit now length) = .ok { w with count := countUp w.count } := by
  obtain ⟨hstored, hopen⟩ := windowAt_eq_some_iff.mp hw
  unfold windowFor
  rw [hstored]
  show w.hit now length = _
  unfold Window.hit
  rw [Window.not_isOver_iff.mpr hopen]
  rfl

/-- Where no window is open, a hit on the stored window and one on none at all open the same new one. -/
theorem windowFor_of_closed (hw : s.windowAt key now = none) (hlength : 0 < length) :
    (s.windowFor key now length).bind (fun w => w.hit now length) =
      (Window.start now length).map fun w => { w with count := 1 } := by
  unfold windowFor
  cases hstored : s.windows[key]? with
  | some w =>
    have hover : w.isOver now = true := Window.isOver_iff.mpr (windowAt_eq_none_iff.mp hw w hstored)
    show w.hit now length = _
    unfold Window.hit Window.start
    rw [if_pos hover]
    split <;> rfl
  | none =>
    dsimp only
    unfold Window.start
    split
    · have hopen : Window.isOver ⟨now, now + length, 0⟩ now = false := by
        exact Window.not_isOver_iff.mpr (Int.lt_add_of_pos_right now (Int.natCast_pos.mpr hlength))
      show Window.hit ⟨now, now + length, 0⟩ now length = _
      unfold Window.hit
      rw [hopen]
      rfl
    · rfl

theorem increment_accepted (h : s.Accepts key length now) : s.increment key length now =
    (pace { s with windows := s.windows.insert key (s.hitWindow key length now) } now,
      .ok (s.hitWindow key length now).count) := by
  have haccept : Window.accept length = .ok length := Window.accept_eq_ok_iff.mpr ⟨h.accepted.1, h.accepted.2, rfl⟩
  have hhit : (s.windowFor key now length).bind (fun w => w.hit now length) = .ok (s.hitWindow key length now) := by
    unfold hitWindow
    cases hw : s.windowAt key now with
    | some w => exact windowFor_of_open hw
    | none =>
      have hend : Instant.Representable (now + length) := by
        rcases h.opens with hopen | hend
        · rw [hw] at hopen
          cases hopen
        · exact hend
      rw [windowFor_of_closed hw h.accepted.1]
      unfold Window.start
      rw [if_pos hend]
      rfl
  unfold increment
  rw [haccept]
  dsimp only
  rw [hhit]

theorem increment_refused (h : ¬ s.Accepts key length now) : ∃ e, s.increment key length now = (s, .error e) := by
  unfold increment
  cases haccept : Window.accept length with
  | error e => exact ⟨_, rfl⟩
  | ok ns =>
    obtain ⟨hpos, hmax, rfl⟩ := Window.accept_eq_ok_iff.mp haccept
    have hclosed : s.windowAt key now = none := by
      rw [Option.eq_none_iff_forall_ne_some]
      intro w hw
      exact h ⟨⟨hpos, hmax⟩, .inl (by rw [hw]; rfl)⟩
    have hend : ¬ Instant.Representable (now + ns) := fun hend => h ⟨⟨hpos, hmax⟩, .inr hend⟩
    dsimp only
    rw [windowFor_of_closed hclosed hpos]
    unfold Window.start
    rw [if_neg hend]
    exact ⟨_, rfl⟩

theorem windowAt_insert (s : Store) (a b : String) (w : Window) (t : Instant) :
    windowAt { s with windows := s.windows.insert a w } b t =
      if a = b then (some w).filter (fun w => !w.isOver t) else s.windowAt b t := by
  unfold windowAt
  rw [Std.TreeMap.getElem?_insert]
  by_cases hab : a = b
  · simp [hab]
  · simp [hab]

theorem windowAt_increment (h : s.Accepts key length now) (ht : now ≤ t) (b : String) :
    (s.increment key length now).1.windowAt b t =
      if key = b then (some (s.hitWindow key length now)).filter (fun w => !w.isOver t) else s.windowAt b t := by
  rw [increment_accepted h, windowAt_pace ht, windowAt_insert]

/-- The window that was hit is open at the time of the hit. -/
theorem lt_hitWindow_closes (hlength : 0 < length) : now < (s.hitWindow key length now).closes := by
  unfold hitWindow
  cases hw : s.windowAt key now with
  | some w => exact (windowAt_eq_some_iff.mp hw).2
  | none => exact Int.lt_add_of_pos_right now (Int.natCast_pos.mpr hlength)

/-! ## The stored window, over or not -/

theorem stored_pace (h : (s.pace now).windows[key]? = some w) : s.windows[key]? = some w := by
  have hsweep : (s.sweep now).windows[key]? = some w → s.windows[key]? = some w := fun h =>
    (windowAt_eq_some_iff.mp ((stored_sweep s key now).symm.trans h)).1
  unfold pace at h
  split at h
  · exact h
  · dsimp only at h
    split at h
    · exact hsweep h
    · exact h

/-- A hit gives the count of its window, which is all that may be stored of the key afterwards. -/
theorem perform_hit {v : Value} (h : s.perform (.increment key length) now = (s', .ok v)) :
    v = .count (s.hitWindow key length now).count ∧
      ∀ w, s'.windows[key]? = some w → w = s.hitWindow key length now := by
  by_cases haccepts : s.Accepts key length now
  · simp only [perform, increment_accepted haccepts, Except.map, Prod.mk.injEq, Except.ok.injEq] at h
    obtain ⟨rfl, rfl⟩ := h
    refine ⟨rfl, fun w hw => ?_⟩
    have hinserted := stored_pace hw
    rw [Std.TreeMap.getElem?_insert_self] at hinserted
    exact (Option.some.inj hinserted).symm
  · obtain ⟨e, hrefused⟩ := increment_refused haccepts
    simp [perform, hrefused, Except.map] at h

/-- Any other operation leaves it as it is, or drops it. -/
theorem stored_perform {op : Operation} {outcome : Outcome} (h : s.perform op now = (s', outcome))
    (hop : ∀ length, op ≠ .increment key length) (hw : s'.windows[key]? = some w) : s.windows[key]? = some w := by
  cases op with
  | increment other length =>
    have hother : other ≠ key := fun hkey => hop length (hkey ▸ rfl)
    by_cases haccepts : s.Accepts other length now
    · simp only [perform, increment_accepted haccepts, Prod.mk.injEq] at h
      obtain ⟨rfl, -⟩ := h
      have hinserted := stored_pace hw
      rwa [Std.TreeMap.getElem?_insert, if_neg (by simpa using hother)] at hinserted
    · obtain ⟨e, hrefused⟩ := increment_refused haccepts
      simp only [perform, hrefused, Prod.mk.injEq] at h
      exact h.1 ▸ hw
  | count other =>
    cases h
    exact hw
  | resetTime other =>
    cases h
    exact hw
  | reset other =>
    cases h
    rw [reset, Std.TreeMap.getElem?_erase] at hw
    split at hw
    · cases hw
    · exact hw

end Store

end RateCounter
