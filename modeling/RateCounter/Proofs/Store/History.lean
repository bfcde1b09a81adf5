/-
  RateCounter.Proofs.Store.History — what a store answers about a key, by the key's past.

  Of all that happens to a store only two things make up the past of a key: its successful
  hits and its resets (`deed?`, `pastOf`). The past alone says which window was opened last
  (`lastPeriod`): a hit opens a window if none is open at the time, that is, if none was ever
  opened, the key was reset since, or the last one is over; otherwise it joins the open one,
  and its own length is ignored. The number of hits in a period has no limit.

  - `lastPeriod_eq_some_iff`: the window opened last, in terms of the past as a list.
  - `windowAt_run`: after any run, at times that never go back, the open window of a key is
    that of the key's past, its count stopped at 2^64 − 1. What happened to other keys, what
    was swept and when is not part of the past.
  - `answers_by_past`: so are the answers to the next operation.
-/

import RateCounter.Proofs.Store.Open

namespace RateCounter.Store

/-! ## Runs -/

inductive Event where
  | call (op : Operation)
  | purge
  deriving DecidableEq, Repr

def after (s : Store) (now : Instant) : Event → Store
  | .call op => (s.perform op now).1
  | .purge => (s.purgeExpired now).1

def run (s : Store) (events : List (Instant × Event)) : Store :=
  events.foldl (fun s event => s.after event.1 event.2) s

/-! ## The past of a key -/

inductive Deed where
  | hit (length : Nat)
  | reset
  deriving DecidableEq, Repr

/-- What an event adds to the past of a key. -/
def deed? (s : Store) (key : String) (now : Instant) : Event → Option Deed
  | .call (.increment k length) =>
    if k = key ∧ (s.increment k length now).2.isOk = true then some (.hit length) else none
  | .call (.reset k) => if k = key then some .reset else none
  | _ => none

/-- The past of a key after some events, the newest deed first. -/
def pastOf (s : Store) (key : String) (earlier : List (Instant × Deed)) :
    List (Instant × Event) → List (Instant × Deed)
  | [] => earlier
  | (now, event) :: rest =>
    pastOf (s.after now event) key (((s.deed? key now event).map (now, ·)).toList ++ earlier) rest

/-- A fixed window, its end excluded, and the hits in it. -/
structure Period where
  opened : Instant
  closes : Instant
  hits : Nat
  deriving DecidableEq, Repr

def Period.isOpen (p : Period) (now : Instant) : Bool := decide (now < p.closes)

/-- The window that was opened last and not reset since. -/
def lastPeriod : List (Instant × Deed) → Option Period
  | [] => none
  | (_, .reset) :: _ => none
  | (now, .hit length) :: earlier =>
    match (lastPeriod earlier).filter fun p => p.isOpen now with
    | some p => some { p with hits := p.hits + 1 }
    | none => some ⟨now, now + length, 1⟩

/-- The window that is open at `now`. -/
def periodAt (past : List (Instant × Deed)) (now : Instant) : Option Period :=
  (lastPeriod past).filter fun p => p.isOpen now

variable {past : List (Instant × Deed)} {p : Period} {now t : Instant}

theorem periodAt_eq_some_iff : periodAt past now = some p ↔ lastPeriod past = some p ∧ now < p.closes := by
  unfold periodAt Period.isOpen
  rw [Option.filter_eq_some_iff, decide_eq_true_eq]

theorem lastPeriod_hit_joined (hp : periodAt past now = some p) (length : Nat) :
    lastPeriod ((now, .hit length) :: past) = some { p with hits := p.hits + 1 } := by
  unfold periodAt at hp
  rw [lastPeriod, hp]

theorem lastPeriod_hit_opened (hp : periodAt past now = none) (length : Nat) :
    lastPeriod ((now, .hit length) :: past) = some ⟨now, now + length, 1⟩ := by
  unfold periodAt at hp
  rw [lastPeriod, hp]

/-- Hits that came while the period was open, the newest first. -/
def Joined (p : Period) (deeds : List (Instant × Deed)) : Prop :=
  ∀ deed ∈ deeds, deed.1 < p.closes ∧ ∃ length, deed.2 = .hit length

/-- The window opened last was opened by a hit that found none open. All deeds since are hits that joined it,
    and its hits are these and the first one. -/
theorem lastPeriod_eq_some_iff : lastPeriod past = some p ↔
    ∃ (joined : List (Instant × Deed)) (length : Nat) (earlier : List (Instant × Deed)),
      past = joined ++ (p.opened, .hit length) :: earlier ∧ periodAt earlier p.opened = none ∧
        p.closes = p.opened + length ∧ Joined p joined ∧ p.hits = joined.length + 1 := by
  constructor
  · intro h
    induction past generalizing p with
    | nil => cases h
    | cons deed past ih =>
      obtain ⟨now, deed⟩ := deed
      cases deed with
      | reset => cases h
      | hit length =>
        cases hp : periodAt past now with
        | none =>
          rw [lastPeriod_hit_opened hp, Option.some.injEq] at h
          subst h
          exact ⟨[], length, past, rfl, hp, rfl, fun _ hd => absurd hd List.not_mem_nil, rfl⟩
        | some q =>
          rw [lastPeriod_hit_joined hp, Option.some.injEq] at h
          subst h
          obtain ⟨hlast, hopen⟩ := periodAt_eq_some_iff.mp hp
          obtain ⟨joined, first, earlier, rfl, hnone, hcloses, hjoined, hhits⟩ := ih hlast
          refine ⟨(now, .hit length) :: joined, first, earlier, rfl, hnone, hcloses, ?_, congrArg (· + 1) hhits⟩
          rintro deed hdeed
          rcases List.mem_cons.mp hdeed with rfl | hdeed
          · exact ⟨hopen, length, rfl⟩
          · exact hjoined deed hdeed
  · rintro ⟨joined, length, earlier, rfl, hnone, hcloses, hjoined, hhits⟩
    obtain ⟨opened, closes, hits⟩ := p
    dsimp only at hnone hcloses hhits
    subst hcloses hhits
    induction joined with
    | nil => exact lastPeriod_hit_opened hnone length
    | cons deed joined ih =>
      obtain ⟨hopen, later, hdeed⟩ := hjoined deed List.mem_cons_self
      obtain ⟨now, deed⟩ := deed
      obtain rfl : deed = .hit later := hdeed
      have hlast := ih fun d hd => hjoined d (List.mem_cons_of_mem _ hd)
      exact lastPeriod_hit_joined (periodAt_eq_some_iff.mpr ⟨hlast, hopen⟩) later

/-! ## The open window of a key, by its past -/

/-- What a store shows of a period: its count stops at the limit. -/
def Period.shown (p : Period) : Window := ⟨p.opened, p.closes, min p.hits maxCount⟩

/-- The store shows what is open of the past. -/
def Shows (s : Store) (key : String) (past : List (Instant × Deed)) (now : Instant) : Prop :=
  s.windowAt key now = (periodAt past now).map Period.shown

variable {s : Store} {key : String} {length : Nat}

theorem Shows.later (h : s.Shows key past now) (ht : now ≤ t) : s.Shows key past t := by
  unfold Shows at h ⊢
  rw [← windowAt_later ht, h]
  apply Option.ext
  intro w
  simp only [Option.filter_eq_some_iff, Option.map_eq_some_iff, periodAt_eq_some_iff, Bool.not_eq_true',
    Window.not_isOver_iff]
  constructor
  · rintro ⟨⟨p, ⟨hp, -⟩, rfl⟩, hopen⟩
    exact ⟨p, ⟨hp, hopen⟩, rfl⟩
  · rintro ⟨p, ⟨hp, hopen⟩, rfl⟩
    exact ⟨⟨p, ⟨hp, Int.lt_of_le_of_lt ht hopen⟩, rfl⟩, hopen⟩

theorem countUp_min (n : Nat) : countUp (min n maxCount) = min (n + 1) maxCount := by
  unfold countUp
  omega

/-- The window after a hit is that of the past with the hit in it. -/
theorem Shows.hitWindow (h : s.Shows key past now) (hlength : 0 < length) :
    some (s.hitWindow key length now) = (periodAt ((now, .hit length) :: past) now).map Period.shown := by
  unfold Shows at h
  unfold Store.hitWindow
  rw [h]
  cases hp : periodAt past now with
  | some p =>
    have hopen := (periodAt_eq_some_iff.mp hp).2
    rw [periodAt_eq_some_iff.mpr ⟨lastPeriod_hit_joined hp length, hopen⟩]
    simp only [Option.map_some, Period.shown, countUp_min]
  | none =>
    have hopen : now < now + (length : Int) := Int.lt_add_of_pos_right now (Int.natCast_pos.mpr hlength)
    rw [periodAt_eq_some_iff.mpr ⟨lastPeriod_hit_opened hp length, hopen⟩]
    rfl

theorem Shows.increment (h : s.Shows key past now) (haccepts : s.Accepts key length now) :
    (s.increment key length now).1.Shows key ((now, .hit length) :: past) now := by
  have hopen : now < (s.hitWindow key length now).closes := lt_hitWindow_closes haccepts.accepted.1
  unfold Shows
  rw [windowAt_increment haccepts (Int.le_refl now), if_pos rfl, ← h.hitWindow haccepts.accepted.1]
  rw [Option.filter_some, Window.not_isOver_iff.mpr hopen]
  rfl

theorem isOk_increment_iff : (s.increment key length now).2.isOk = true ↔ s.Accepts key length now := by
  by_cases haccepts : s.Accepts key length now
  · simp [increment_accepted haccepts, haccepts, Except.isOk, Except.toBool]
  · obtain ⟨e, he⟩ := increment_refused haccepts
    simp [he, haccepts, Except.isOk, Except.toBool]

/-- One event: the store shows the past with what the event adds to it. -/
theorem Shows.after (h : s.Shows key past now) (event : Event) :
    (s.after now event).Shows key (((s.deed? key now event).map (now, ·)).toList ++ past) now := by
  cases event with
  | purge => exact (windowAt_sweep (Int.le_refl now) key).trans h
  | call op =>
    cases op with
    | increment k length =>
      have hstate : s.after now (.call (.increment k length)) = (s.increment k length now).1 := rfl
      rw [hstate, deed?]
      by_cases haccepts : s.Accepts k length now
      · by_cases hkey : k = key
        · subst hkey
          rw [if_pos ⟨rfl, isOk_increment_iff.mpr haccepts⟩]
          exact h.increment haccepts
        · rw [if_neg fun hboth => hkey hboth.1]
          refine Eq.trans ?_ h
          rw [windowAt_increment haccepts (Int.le_refl now), if_neg hkey]
      · rw [if_neg fun hboth => haccepts (isOk_increment_iff.mp hboth.2)]
        obtain ⟨e, he⟩ := increment_refused haccepts
        rw [he]
        exact h
    | reset k =>
      have hreset := windowAt_reset s k key now
      show (s.reset k).windowAt key now = _
      rw [hreset, deed?]
      by_cases hkey : k = key
      · rw [if_pos hkey, if_pos hkey]
        rfl
      · rw [if_neg hkey, if_neg hkey]
        exact h
    | count k => exact h
    | resetTime k => exact h

theorem Shows.run {events : List (Instant × Event)} (h : s.Shows key past t)
    (hordered : events.Pairwise fun a b => a.1 ≤ b.1) (hfirst : ∀ event ∈ events, t ≤ event.1)
    (hlast : ∀ event ∈ events, event.1 ≤ now) (ht : t ≤ now) :
    (s.run events).Shows key (s.pastOf key past events) now := by
  induction events generalizing s past t with
  | nil => exact h.later ht
  | cons event events ih =>
    obtain ⟨hbefore, hrest⟩ := List.pairwise_cons.mp hordered
    have hnow := (h.later (hfirst event List.mem_cons_self)).after event.2
    exact ih hnow hrest hbefore (fun e he => hlast e (List.mem_cons_of_mem _ he)) (hlast event List.mem_cons_self)

theorem windowAt_run (purgeEvery : Nat) {events : List (Instant × Event)}
    (hordered : events.Pairwise fun a b => a.1 ≤ b.1) (hlast : ∀ event ∈ events, event.1 ≤ now) (key : String) :
    ((empty purgeEvery).run events).Shows key ((empty purgeEvery).pastOf key [] events) now := by
  have hempty (t : Instant) : (empty purgeEvery).Shows key [] t := windowAt_empty purgeEvery key t
  cases events with
  | nil => exact hempty now
  | cons event events =>
    have hfirst : ∀ e ∈ event :: events, event.1 ≤ e.1 := by
      intro e he
      rcases List.mem_cons.mp he with rfl | he
      · exact Int.le_refl _
      · exact (List.pairwise_cons.mp hordered).1 e he
    exact (hempty event.1).run hordered hfirst hlast (hlast event List.mem_cons_self)

/-! ## Answers -/

/-- The hits in the open window, if there is one. -/
def hitsOf (period : Option Period) : Nat := (period.map Period.hits).getD 0

theorem Shows.count (h : s.Shows key past now) : s.count key now = min (hitsOf (periodAt past now)) maxCount := by
  unfold Shows at h
  rw [count_eq, h]
  cases periodAt past now with
  | none => rfl
  | some p => rfl

theorem Shows.resetTime (h : s.Shows key past now) : s.resetTime key now = (periodAt past now).map Period.closes := by
  unfold Shows at h
  rw [resetTime_eq, h, Option.map_map]
  rfl

theorem Shows.accepts_iff (h : s.Shows key past now) : s.Accepts key length now ↔
    (0 < length ∧ length ≤ maxWindow) ∧ ((periodAt past now).isSome ∨ Instant.Representable (now + length)) := by
  unfold Shows at h
  have hopen : (s.windowAt key now).isSome = (periodAt past now).isSome := by
    rw [h, Option.isSome_map]
  constructor
  · rintro ⟨haccepted, hopens⟩
    exact ⟨haccepted, hopen ▸ hopens⟩
  · rintro ⟨haccepted, hopens⟩
    exact ⟨haccepted, hopen ▸ hopens⟩

theorem Shows.hitWindow_count (h : s.Shows key past now) :
    (s.hitWindow key length now).count = min (hitsOf (periodAt past now) + 1) maxCount := by
  unfold Shows at h
  unfold Store.hitWindow
  rw [h]
  cases periodAt past now with
  | none => rfl
  | some p => exact countUp_min p.hits

/-- After any run, at times that never go back, what a store answers about a key is what the key's past says,
    whatever else has happened to the store and however often it sweeps. A hit is answered with its number
    within its window. -/
theorem answers_by_past (purgeEvery : Nat) {events : List (Instant × Event)}
    (hordered : events.Pairwise fun a b => a.1 ≤ b.1) {now : Instant} (hlast : ∀ event ∈ events, event.1 ≤ now)
    (key : String) :
    let s := (empty purgeEvery).run events
    let period := periodAt ((empty purgeEvery).pastOf key [] events) now
    (s.perform (.count key) now).2 = .ok (.count (min (hitsOf period) maxCount)) ∧
      (s.perform (.resetTime key) now).2 = .ok (.resetTime (period.map Period.closes)) ∧
      (s.perform (.reset key) now).2 = .ok .done ∧
      ∀ length : Nat,
        if (0 < length ∧ length ≤ maxWindow) ∧ (period.isSome ∨ Instant.Representable (now + length)) then
          (s.perform (.increment key length) now).2 = .ok (.count (min (hitsOf period + 1) maxCount))
        else ∃ e, (s.perform (.increment key length) now).2 = .error e := by
  have hshows := windowAt_run purgeEvery hordered hlast key
  generalize (empty purgeEvery).run events = s at hshows
  dsimp only
  refine ⟨?_, ?_, rfl, ?_⟩
  · show Except.ok (Value.count (s.count key now)) = _
    rw [hshows.count]
  · show Except.ok (Value.resetTime (s.resetTime key now)) = _
    rw [hshows.resetTime]
  · intro length
    have hperform : (s.perform (.increment key length) now).2 = (s.increment key length now).2.map Value.count := rfl
    have hnumber : (s.hitWindow key length now).count = min (hitsOf (periodAt _ now) + 1) maxCount :=
      hshows.hitWindow_count
    rw [hperform]
    split
    · next haccepts =>
      rw [increment_accepted (hshows.accepts_iff.mpr haccepts), ← hnumber]
      rfl
    · next hrefused =>
      obtain ⟨e, he⟩ := increment_refused fun haccepts => hrefused (hshows.accepts_iff.mp haccepts)
      rw [he]
      exact ⟨e, rfl⟩

/-- The first window of `"a"` is over when the store sweeps, after the second hit of `"b"`; then `"b"` is reset. -/
def swept : List (Instant × Event) :=
  [(0, .call (.increment "a" (seconds 10))), (seconds 4, .call (.increment "a" (seconds 60))),
    (seconds 9, .call (.increment "b" (seconds 60))), (seconds 10, .call (.increment "b" (seconds 30))),
    (seconds 11, .call (.increment "a" (seconds 30))), (seconds 12, .call (.reset "b")), (seconds 12, .purge),
    (seconds 40, .call (.increment "a" (seconds 5)))]

theorem answers_by_past_swept : (swept.Pairwise fun a b => a.1 ≤ b.1) ∧ (∀ event ∈ swept, event.1 ≤ seconds 40) ∧
    (((empty 2).run swept).perform (.count "a") (seconds 40)).2 = .ok (.count 2) ∧
    (((empty 2).run swept).perform (.resetTime "a") (seconds 40)).2 = .ok (.resetTime (some (seconds 41))) := by
  have hordered : swept.Pairwise fun a b => a.1 ≤ b.1 := by decide
  have hlast : ∀ event ∈ swept, event.1 ≤ seconds 40 := by decide
  obtain ⟨hcount, hresetTime, -, -⟩ := answers_by_past 2 hordered hlast "a"
  have hperiod : periodAt ((empty 2).pastOf "a" [] swept) (seconds 40) =
      some ⟨seconds 11, seconds 41, 2⟩ := by decide +kernel
  rw [hperiod] at hcount hresetTime
  exact ⟨hordered, hlast, hcount, hresetTime⟩

end RateCounter.Store
