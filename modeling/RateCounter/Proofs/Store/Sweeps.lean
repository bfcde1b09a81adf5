/-
  RateCounter.Proofs.Store.Sweeps — how far a store grows between its own sweeps.

  A store that sweeps every `p` successful increments holds keys whose windows are over until
  the next sweep. What an event does besides is what it does in the same store with its own
  sweeps turned off (`unswept`): so a sweep is told from none by what is held after it.

  The `Census` of a run counts its hits, the successful increments, and remembers how many keys
  were held right after the last hit whose number is a multiple of `p`.
  - `stored_after`: an event is followed by a sweep exactly if it is a hit and its count is a
    multiple of `p`. Other events, failed increments among them, do not move the count.
  - `Counts.run`: the store's count is that of the census, and the keys held are at most those
    held after the last sweep and one for each hit since.
  - `own_sweeps_bound`: both, at every moment of a run of fewer than 2^64 hits; and without
    sweeps of its own a store forgets keys by resets and purges only.
-/

import RateCounter.Proofs.Store.History

namespace RateCounter.Store

variable {s : Store} {key : String} {w : Window} {now : Instant} {p : Nat}

/-! ## Hits and sweeps of a run -/

/-- Whether the event is an increment that succeeds. -/
def isHit (s : Store) (now : Instant) : Event → Bool
  | .call (.increment key length) => (s.increment key length now).2.isOk
  | _ => false

/-- The same store with its own sweeps turned off. -/
def unswept (s : Store) : Store := { s with purgeEvery := 0 }

/-- How often a run has hit a store, and what there was after the last sweep that followed a hit. -/
structure Census where
  hits : Nat
  /-- The keys held right after the last sweep; 0 before the first. -/
  held : Nat
  /-- The hits since then. -/
  since : Nat
  deriving DecidableEq, Repr

/-- After one more event. A sweep follows the hits whose numbers are multiples of `p`. -/
def Census.next (c : Census) (p : Nat) (s : Store) (now : Instant) (event : Event) : Census :=
  if s.isHit now event then
    if p ∣ c.hits + 1 then ⟨c.hits + 1, (s.after now event).size, 0⟩ else ⟨c.hits + 1, c.held, c.since + 1⟩
  else c

def censusFrom (p : Nat) (s : Store) (c : Census) : List (Instant × Event) → Census
  | [] => c
  | (now, event) :: rest => censusFrom p (s.after now event) (c.next p s now event) rest

/-- The census of a run from the empty store on. -/
def census (p : Nat) (events : List (Instant × Event)) : Census := censusFrom p (empty p) ⟨0, 0, 0⟩ events

theorem run_snoc (s : Store) (events : List (Instant × Event)) (now : Instant) (event : Event) :
    s.run (events ++ [(now, event)]) = (s.run events).after now event := by
  unfold run
  rw [List.foldl_append]
  rfl

theorem censusFrom_append (p : Nat) (s : Store) (c : Census) (events later : List (Instant × Event)) :
    censusFrom p s c (events ++ later) = censusFrom p (s.run events) (censusFrom p s c events) later := by
  induction events generalizing s c with
  | nil => rfl
  | cons event events ih => exact ih (s.after event.1 event.2) (c.next p s event.1 event.2)

theorem Census.hits_next (c : Census) (p : Nat) (s : Store) (now : Instant) (event : Event) :
    (c.next p s now event).hits = c.hits + (s.isHit now event).toNat := by
  unfold Census.next
  cases s.isHit now event with
  | false => rfl
  | true =>
    rw [if_pos rfl]
    split
    · rfl
    · rfl

theorem hits_censusFrom_le (p : Nat) (s : Store) (c : Census) (events : List (Instant × Event)) :
    c.hits ≤ (censusFrom p s c events).hits := by
  induction events generalizing s c with
  | nil => exact Nat.le_refl _
  | cons event events ih =>
    have hnext := c.hits_next p s event.1 event.2
    have hrest := ih (s.after event.1 event.2) (c.next p s event.1 event.2)
    show c.hits ≤ (censusFrom p (s.after event.1 event.2) (c.next p s event.1 event.2) events).hits
    omega

/-- A moment of a run comes no later than its end. -/
theorem hits_census_le {before events : List (Instant × Event)} (h : before <+: events) :
    (census p before).hits ≤ (census p events).hits := by
  obtain ⟨later, rfl⟩ := h
  unfold census
  rw [censusFrom_append]
  exact hits_censusFrom_le ..

/-! ## One event -/

/-- The count of hits, as far as it shows. -/
theorem pace_eq (hp : 0 < s.purgeEvery) (hfew : s.increments + 1 < Word.count64) (now : Instant) :
    s.pace now =
      if s.purgeEvery ∣ s.increments + 1 then sweep { s with increments := s.increments + 1 } now
      else { s with increments := s.increments + 1 } := by
  unfold pace
  rw [if_neg (Nat.ne_of_gt hp)]
  dsimp only
  rw [Nat.mod_eq_of_lt hfew]
  by_cases hdue : s.purgeEvery ∣ s.increments + 1
  · rw [if_pos hdue, if_pos (Nat.mod_eq_zero_of_dvd hdue)]
  · rw [if_neg hdue, if_neg fun hzero => hdue (Nat.dvd_of_mod_eq_zero hzero)]

/-- What a hit enters: one key at most, and as it is with sweeps turned off. The pace makes the difference. -/
structure Enters (s : Store) (now : Instant) (event : Event) (s' : Store) : Prop where
  purgeEvery : s'.purgeEvery = s.purgeEvery
  increments : s'.increments = s.increments
  size : s'.size ≤ s.size + 1
  kept : ∀ key ∈ s.windows, key ∈ s'.windows
  paced : s.after now event = s'.pace now
  unswept : (s.unswept.after now event).windows = s'.windows

theorem exists_enters {event : Event} (h : s.isHit now event = true) : ∃ s', s.Enters now event s' := by
  cases event with
  | purge => cases h
  | call op =>
    cases op with
    | increment key length =>
      have haccepts := isOk_increment_iff.mp h
      have hunswept : s.unswept.Accepts key length now := ⟨haccepts.accepted, haccepts.opens⟩
      refine ⟨{ s with windows := s.windows.insert key (s.hitWindow key length now) }, rfl, rfl,
        Std.TreeMap.size_insert_le, fun other hother => Std.TreeMap.mem_insert.mpr (.inr hother), ?_, ?_⟩
      · exact congrArg Prod.fst (increment_accepted haccepts)
      · exact congrArg (fun r => r.1.windows) (increment_accepted hunswept)
    | count key => cases h
    | resetTime key => cases h
    | reset key => cases h

theorem after_refused {length : Nat} (h : ¬ s.Accepts key length now) :
    s.after now (.call (.increment key length)) = s := by
  obtain ⟨e, he⟩ := increment_refused h
  exact congrArg Prod.fst he

theorem not_accepts_of_isHit {length : Nat} (h : s.isHit now (.call (.increment key length)) = false) :
    ¬ s.Accepts key length now :=
  mt isOk_increment_iff.mpr (Bool.eq_false_iff.mp h)

/-- Any other event moves no count, and does the same with sweeps turned off. -/
theorem after_other {event : Event} (h : s.isHit now event = false) :
    (s.after now event).purgeEvery = s.purgeEvery ∧ (s.after now event).increments = s.increments ∧
      (s.after now event).size ≤ s.size ∧ (s.unswept.after now event).windows = (s.after now event).windows := by
  cases event with
  | purge => exact ⟨rfl, rfl, Std.TreeMap.size_filter_le_size, rfl⟩
  | call op =>
    cases op with
    | increment key length =>
      have hrefused := not_accepts_of_isHit h
      have hunswept : ¬ s.unswept.Accepts key length now := fun haccepts =>
        hrefused ⟨haccepts.accepted, haccepts.opens⟩
      rw [after_refused hrefused, after_refused hunswept]
      exact ⟨rfl, rfl, Nat.le_refl _, rfl⟩
    | count key => exact ⟨rfl, rfl, Nat.le_refl _, rfl⟩
    | resetTime key => exact ⟨rfl, rfl, Nat.le_refl _, rfl⟩
    | reset key => exact ⟨rfl, rfl, Std.TreeMap.size_erase_le, rfl⟩

/-- After every event, exactly the windows that are over are gone if the event is a hit whose number is a multiple
    of `purgeEvery`; and otherwise none is that would not be gone with sweeps turned off. -/
theorem stored_after (hp : 0 < s.purgeEvery) {event : Event}
    (hfew : s.isHit now event = true → s.increments + 1 < Word.count64) (key : String) :
    (s.after now event).windows[key]? =
      if s.isHit now event = true ∧ s.purgeEvery ∣ s.increments + 1 then (s.unswept.after now event).windowAt key now
      else (s.unswept.after now event).windows[key]? := by
  cases hhit : s.isHit now event with
  | false =>
    obtain ⟨-, -, -, hwindows⟩ := after_other hhit
    rw [if_neg fun h => Bool.false_ne_true h.1, hwindows]
  | true =>
    obtain ⟨s', h⟩ := exists_enters hhit
    have hpace := pace_eq (s := s') (h.purgeEvery ▸ hp) (h.increments ▸ hfew hhit) now
    unfold windowAt
    rw [h.paced, hpace, h.unswept, h.purgeEvery, h.increments]
    by_cases hdue : s.purgeEvery ∣ s.increments + 1
    · rw [if_pos hdue, if_pos ⟨rfl, hdue⟩, stored_sweep]
      rfl
    · rw [if_neg hdue, if_neg fun h => hdue h.2]

/-! ## The census -/

/-- The store has the count of the census, and no more keys than those held and one for each hit since. -/
structure Counts (p : Nat) (s : Store) (c : Census) : Prop where
  purgeEvery : s.purgeEvery = p
  increments : s.increments = c.hits
  size : s.size ≤ c.held + c.since
  since : c.since < p
  sweeps : ∃ n, c.hits = p * n + c.since

theorem counts_empty (hp : 0 < p) : Counts p (empty p) ⟨0, 0, 0⟩ :=
  ⟨rfl, rfl, Nat.le_refl _, hp, 0, rfl⟩

theorem Counts.next {c : Census} (h : Counts p s c) {event : Event}
    (hfew : (c.next p s now event).hits < Word.count64) :
    Counts p (s.after now event) (c.next p s now event) := by
  have hhits := c.hits_next p s now event
  have hp : 0 < p := Nat.zero_lt_of_lt h.since
  obtain ⟨n, hn⟩ := h.sweeps
  unfold Census.next at hfew hhits ⊢
  cases hhit : s.isHit now event with
  | false =>
    obtain ⟨hpurge, hcount, hsize, -⟩ := after_other hhit
    rw [if_neg Bool.false_ne_true]
    exact ⟨hpurge.trans h.purgeEvery, hcount.trans h.increments, Nat.le_trans hsize h.size, h.since, h.sweeps⟩
  | true =>
    obtain ⟨s', henters⟩ := exists_enters hhit
    have hsize := henters.size
    have hpurge : s'.purgeEvery = p := henters.purgeEvery.trans h.purgeEvery
    have hcount : s'.increments = c.hits := henters.increments.trans h.increments
    rw [hhit] at hfew hhits
    have hpace := pace_eq (hpurge ▸ hp) (hcount ▸ hhits ▸ hfew) now
    rw [hpurge, hcount] at hpace
    rw [if_pos rfl, henters.paced]
    by_cases hdue : p ∣ c.hits + 1
    · rw [if_pos hdue] at hpace ⊢
      refine ⟨?_, ?_, Nat.le_refl _, hp, (c.hits + 1) / p, (Nat.mul_div_cancel' hdue).symm⟩
      · rw [hpace]
        rfl
      · rw [hpace]
        rfl
    · rw [if_neg hdue] at hpace ⊢
      have hnext : c.since + 1 ≠ p := fun heq => hdue ⟨n + 1, by rw [hn, Nat.mul_succ]; omega⟩
      refine ⟨?_, ?_, ?_, ?_, n, ?_⟩
      · rw [hpace]
      · rw [hpace]
      · rw [hpace]
        show s'.size ≤ c.held + (c.since + 1)
        have := h.size
        omega
      · show c.since + 1 < p
        have := h.since
        omega
      · show c.hits + 1 = p * n + (c.since + 1)
        omega

theorem Counts.run {c : Census} (h : Counts p s c) {events : List (Instant × Event)}
    (hfew : (censusFrom p s c events).hits < Word.count64) : Counts p (s.run events) (censusFrom p s c events) := by
  induction events generalizing s c with
  | nil => exact h
  | cons event events ih =>
    have hle := hits_censusFrom_le p (s.after event.1 event.2) (c.next p s event.1 event.2) events
    exact ih (h.next (Nat.lt_of_le_of_lt hle hfew)) hfew

theorem counts_run (hp : 0 < p) {events : List (Instant × Event)} (hfew : (census p events).hits < Word.count64) :
    Counts p ((empty p).run events) (census p events) := (counts_empty hp).run hfew

/-! ## The bound -/

/-- What is held after the next event of a run: the windows that are not over if the event is a hit whose number is a
    multiple of `p`, and all that would be held with sweeps turned off if it is not. -/
structure Paced (p : Nat) (before : List (Instant × Event)) (now : Instant) (event : Event) : Prop where
  swept : ((empty p).run before).isHit now event = true ∧ p ∣ (census p before).hits + 1 →
    ∀ (key : String) (w : Window), ((empty p).run (before ++ [(now, event)])).windows[key]? = some w ↔
      (((empty p).run before).unswept.after now event).windows[key]? = some w ∧ now < w.closes
  unswept : ¬ (((empty p).run before).isHit now event = true ∧ p ∣ (census p before).hits + 1) →
    ∀ key : String, ((empty p).run (before ++ [(now, event)])).windows[key]? =
      (((empty p).run before).unswept.after now event).windows[key]?

structure Bounded (p : Nat) (s : Store) (c : Census) : Prop where
  since : s.size ≤ c.held + c.since
  pace : s.size ≤ c.held + (p - 1)

theorem Counts.bounded {c : Census} (h : Counts p s c) : Bounded p s c := by
  have hsize := h.size
  have hsince := h.since
  exact ⟨hsize, by omega⟩

theorem paced (hp : 0 < p) {before : List (Instant × Event)} {now : Instant} {event : Event}
    (hfew : (census p (before ++ [(now, event)])).hits < Word.count64) : Paced p before now event := by
  have hnext : (census p (before ++ [(now, event)])).hits =
      (census p before).hits + (((empty p).run before).isHit now event).toNat := by
    unfold census
    rw [censusFrom_append]
    exact Census.hits_next ..
  have hcounts : Counts p ((empty p).run before) (census p before) := counts_run hp (by omega)
  have hpositive : 0 < ((empty p).run before).purgeEvery := by
    rw [hcounts.purgeEvery]
    exact hp
  have hroom : ((empty p).run before).isHit now event = true →
      ((empty p).run before).increments + 1 < Word.count64 := fun hhit => by
    rw [hcounts.increments]
    rw [hhit] at hnext
    exact hnext ▸ hfew
  have hstored := stored_after hpositive hroom
  rw [hcounts.purgeEvery, hcounts.increments] at hstored
  refine ⟨fun hdue key w => ?_, fun hdue key => ?_⟩
  · rw [run_snoc, hstored, if_pos hdue]
    exact windowAt_eq_some_iff
  · rw [run_snoc, hstored, if_neg hdue]

/-! ## Without sweeps -/

theorem purgeEvery_pace (s : Store) (now : Instant) : (s.pace now).purgeEvery = s.purgeEvery := by
  unfold pace
  split
  · rfl
  · dsimp only
    split
    · rfl
    · rfl

theorem purgeEvery_run (s : Store) (events : List (Instant × Event)) : (s.run events).purgeEvery = s.purgeEvery := by
  induction events generalizing s with
  | nil => rfl
  | cons event events ih =>
    refine (ih (s.after event.1 event.2)).trans ?_
    cases hhit : s.isHit event.1 event.2 with
    | false => exact (after_other hhit).1
    | true =>
      obtain ⟨s', h⟩ := exists_enters hhit
      rw [h.paced, purgeEvery_pace, h.purgeEvery]

/-- With sweeps turned off, a key is forgotten by a reset of it, or by a purge if its window is over. -/
theorem forgotten_unswept (hs : s.purgeEvery = 0) {event : Event} (hkey : key ∈ s.windows)
    (hgone : key ∉ (s.after now event).windows) :
    event = .call (.reset key) ∨ event = .purge ∧ s.windowAt key now = none := by
  cases hhit : s.isHit now event with
  | true =>
    obtain ⟨s', h⟩ := exists_enters hhit
    have hpace : s'.pace now = s' := if_pos (h.purgeEvery.trans hs)
    rw [h.paced, hpace] at hgone
    exact absurd (h.kept key hkey) hgone
  | false =>
    cases event with
    | purge =>
      rw [Std.TreeMap.mem_iff_isSome_getElem?, Option.not_isSome_iff_eq_none] at hgone
      exact .inr ⟨rfl, (stored_sweep s key now).symm.trans hgone⟩
    | call op =>
      cases op with
      | increment other length =>
        rw [after_refused (not_accepts_of_isHit hhit)] at hgone
        exact absurd hkey hgone
      | count other => exact absurd hkey hgone
      | resetTime other => exact absurd hkey hgone
      | reset other =>
        by_cases hother : other = key
        · exact .inl (hother ▸ rfl)
        · refine absurd ?_ hgone
          exact Std.TreeMap.mem_erase.mpr ⟨fun heq => hother (Std.LawfulEqCmp.compare_eq_iff_eq.mp heq), hkey⟩

/-! ## Any run -/

/-- The times may be any. A store that sweeps every `p` hits does so after those numbered `p`, `2p` and so on, and
    never holds more than what was left by the last sweep and the hits since; one that does not sweep forgets nothing
    by itself. -/
theorem own_sweeps_bound (hp : 0 < p) {events : List (Instant × Event)}
    (hfew : (census p events).hits < Word.count64) :
    (∀ before now event, before ++ [(now, event)] <+: events → Paced p before now event) ∧
      (∀ before, before <+: events → Bounded p ((empty p).run before) (census p before)) ∧
      ∀ (before : List (Instant × Event)) (now : Instant) (event : Event) (key : String),
        let s := (empty 0).run before
        key ∈ s.windows → key ∉ (s.after now event).windows →
          event = .call (.reset key) ∨ event = .purge ∧ s.windowAt key now = none := by
  refine ⟨fun before now event hprefix => ?_, fun before hprefix => ?_, fun before now event key => ?_⟩
  · exact paced hp (Nat.lt_of_le_of_lt (hits_census_le hprefix) hfew)
  · exact (counts_run hp (Nat.lt_of_le_of_lt (hits_census_le hprefix) hfew)).bounded
  · exact forgotten_unswept (purgeEvery_run (empty 0) before)

/-- The window of `"a"` is over at the second hit, that of `"b"`. One was refused in between. -/
def beforeSecond : List (Instant × Event) :=
  [(0, .call (.increment "a" (seconds 10))), (seconds 1, .call (.increment "b" 0)), (seconds 2, .call (.reset "c"))]

def second : Instant × Event := (seconds 10, .call (.increment "b" (seconds 60)))

def overAtSecond : List (Instant × Event) :=
  beforeSecond ++ [second, (seconds 11, .call (.increment "c" (seconds 1)))]

theorem own_sweeps_bound_overAtSecond :
    0 < 2 ∧ (census 2 overAtSecond).hits < Word.count64 ∧ beforeSecond ++ [second] <+: overAtSecond ∧
      (∀ w, ((empty 2).run (beforeSecond ++ [second])).windows["a"]? ≠ some w) ∧
      ((empty 2).run overAtSecond).size ≤ 1 + 1 := by
  have hfew : (census 2 overAtSecond).hits < Word.count64 := by decide +kernel
  have hprefix : beforeSecond ++ [second] <+: overAtSecond :=
    ⟨[(seconds 11, .call (.increment "c" (seconds 1)))], rfl⟩
  obtain ⟨hpaced, hbounded, -⟩ := own_sweeps_bound (by decide : 0 < 2) hfew
  refine ⟨by decide, hfew, hprefix, fun w hw => ?_, ?_⟩
  · have hdue : ((empty 2).run beforeSecond).isHit second.1 second.2 = true ∧ 2 ∣ (census 2 beforeSecond).hits + 1 := by
      decide +kernel
    have hover : (((empty 2).run beforeSecond).unswept.after second.1 second.2).windows["a"]? =
        some ⟨0, seconds 10, 1⟩ := by
      decide +kernel
    obtain ⟨hw, hopen⟩ := ((hpaced _ _ _ hprefix).swept hdue "a" w).mp hw
    obtain rfl : ⟨0, seconds 10, 1⟩ = w := Option.some.inj (hover.symm.trans hw)
    exact absurd hopen (by decide)
  · have hcensus : census 2 overAtSecond = ⟨3, 1, 1⟩ := by decide +kernel
    have hsize := (hbounded overAtSecond List.prefix_rfl).since
    rw [hcensus] at hsize
    exact hsize

end RateCounter.Store
