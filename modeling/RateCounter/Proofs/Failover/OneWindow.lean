/-
  RateCounter.Proofs.Failover.OneWindow — hits of a key that fall into one window.

  The notes tell which operations a store has carried out, at which instants. If each hit of
  the key finds its window open, or else is the first and opens it (`InOneWindow`), then the
  hits give consecutive counts, whatever else the store does meanwhile (`Executed.counted`):
  sweeps, hits of other keys and reads leave the window of the key as it is. A read in the
  same window gives the last of these counts (`Executed.read`).
-/

import RateCounter.Proofs.Failover.Landed

namespace RateCounter

open Traffic (isHitOf)

/-! ## What was carried out, once more -/

/-- The store after what the notes tell was carried out. -/
def Store.replay (s₀ : Store) : List Note → Store
  | [] => s₀
  | n :: earlier =>
    match n.carried? with
    | some (op, _) => ((s₀.replay earlier).perform op n.clock.wall).1
    | none => s₀.replay earlier

theorem Executed.eq_replay {s₀ s : Store} {notes : List Note} (h : Executed s₀ notes s) : s = s₀.replay notes := by
  induction h with
  | nil => rfl
  | skip hn _ ih => rw [Store.replay, hn, ih]
  | perform hn _ hp ih => simp only [Store.replay, hn, ← ih, hp]

theorem Executed.split {s₀ s : Store} {later earlier : List Note} (h : Executed s₀ (later ++ earlier) s) :
    ∃ s₁, Executed s₀ earlier s₁ ∧ Executed s₁ later s := by
  induction later generalizing s with
  | nil => exact ⟨s, h, .nil⟩
  | cons n later ih =>
    cases h with
    | skip hn h =>
      obtain ⟨s₁, hearlier, hlater⟩ := ih h
      exact ⟨s₁, hearlier, .skip hn hlater⟩
    | perform hn h hp =>
      obtain ⟨s₁, hearlier, hlater⟩ := ih h
      exact ⟨s₁, hearlier, .perform hn hlater hp⟩

/-! ## The hits of a key -/

/-- What the hits of a key gave, the latest first. -/
def Note.hits (key : String) (notes : List Note) : List Value :=
  ((Note.carried notes).filter (isHitOf key)).map Prod.snd

theorem Note.hits_append (key : String) (later earlier : List Note) :
    Note.hits key (later ++ earlier) = Note.hits key later ++ Note.hits key earlier := by
  simp only [Note.hits, Note.carried_append, List.filter_append, List.map_append]

theorem Note.hits_skip {key : String} {n : Note} (h : ∀ p, n.carried? = some p → isHitOf key p = false)
    (earlier : List Note) : Note.hits key (n :: earlier) = Note.hits key earlier := by
  rw [← List.singleton_append, Note.hits_append]
  cases hn : n.carried? with
  | none => simp [Note.hits, Note.carried, hn]
  | some p => simp [Note.hits, Note.carried, hn, h p hn]

theorem Note.hits_cons {key : String} {n : Note} {length : Nat} {v : Value}
    (h : n.carried? = some (.increment key length, v)) (earlier : List Note) :
    Note.hits key (n :: earlier) = v :: Note.hits key earlier := by
  rw [← List.singleton_append, Note.hits_append]
  simp [Note.hits, Note.carried, h, isHitOf]

/-- All that was carried out was carried out at one position. -/
theorem Note.hits_about {key : String} {i : Nat} {notes : List Note}
    (h : ∀ n ∈ notes, n.carried? ≠ none → n.position = i) :
    Note.hits key (Note.about i notes) = Note.hits key notes := by
  have hcarried : Note.carried (Note.about i notes) = Note.carried notes := by
    unfold Note.carried Note.about
    rw [List.filterMap_filter]
    refine List.filterMap_congr fun n hn => ?_
    by_cases hnone : n.carried? = none
    · simp [hnone]
    · simp [h n hn hnone]
  rw [Note.hits, hcarried, Note.hits]

theorem isHitOf_iff {key : String} {op : Operation} {v : Value} :
    isHitOf key (op, v) = true ↔ ∃ length, op = .increment key length := by
  cases op <;> simp [isHitOf]

/-- A hit of the key or an operation of the call `reader` was carried out. -/
def Note.concerns (key : String) (reader : Nat) (n : Note) : Bool :=
  n.carried?.any fun p => isHitOf key p || n.caller == some reader

/-- All the hits of the key and all that the call `reader` has carried out fall into one window. It is
    the one open at `now`, or else the first hit opens it. None of them finds it over, dropped or reset. -/
def InOneWindow (key : String) (reader : Nat) (now : Instant) (s₀ : Store) : List Note → Prop
  | [] => True
  | n :: earlier =>
    InOneWindow key reader now s₀ earlier ∧
      (n.concerns key reader = true → (((s₀.replay earlier).windowAt key n.clock.wall).isSome ↔
        (s₀.windowAt key now).isSome ∨ Note.hits key earlier ≠ []))

instance decidableInOneWindow (key : String) (reader : Nat) (now : Instant) (s₀ : Store) :
    DecidablePred (InOneWindow key reader now s₀)
  | [] => .isTrue trivial
  | n :: earlier =>
    have := decidableInOneWindow key reader now s₀ earlier
    inferInstanceAs (Decidable (InOneWindow key reader now s₀ earlier ∧
      (n.concerns key reader = true → (((s₀.replay earlier).windowAt key n.clock.wall).isSome ↔
        (s₀.windowAt key now).isSome ∨ Note.hits key earlier ≠ []))))

theorem InOneWindow.suffix {key : String} {reader : Nat} {now : Instant} {s₀ : Store} {later earlier : List Note}
    (h : InOneWindow key reader now s₀ (later ++ earlier)) : InOneWindow key reader now s₀ earlier := by
  induction later with
  | nil => exact h
  | cons n later ih => exact ih h.1

/-- `count` hits from `c` on, the latest first. -/
def descending (c count : Nat) : List Value := (List.range count).reverse.map fun j => .count (c + 1 + j)

theorem descending_succ (c count : Nat) : descending c (count + 1) = .count (c + count + 1) :: descending c count := by
  simp only [descending, List.range_succ, List.reverse_append, List.reverse_singleton, List.singleton_append,
    List.map_cons, Nat.add_right_comm]

theorem descending_perm (c count : Nat) :
    (descending c count).Perm ((List.range count).map fun j => .count (c + 1 + j)) := (List.reverse_perm _).map _

/-- What the hits gave, from the count `c` on, and what is stored of the key now. -/
structure Counted (key : String) (c : Nat) (opened : Prop) (notes : List Note) (s : Store) : Prop where
  values : Note.hits key notes = descending c (Note.hits key notes).length
  stored : ∀ w, s.windows[key]? = some w → opened ∨ Note.hits key notes ≠ [] →
    w.count = c + (Note.hits key notes).length
  closed : ¬ opened → c = 0

/-- Within the window the store shows the count of the last hit. -/
theorem Counted.read {key : String} {c : Nat} {opened : Prop} {notes : List Note} {s : Store} {now : Instant}
    (h : Counted key c opened notes s)
    (hone : (s.windowAt key now).isSome ↔ opened ∨ Note.hits key notes ≠ []) :
    s.count key now = c + (Note.hits key notes).length := by
  rw [Store.count_eq]
  cases hw : s.windowAt key now with
  | some w =>
    have hopen : opened ∨ Note.hits key notes ≠ [] := hone.mp (by rw [hw]; rfl)
    exact h.stored w (Store.windowAt_eq_some_iff.mp hw).1 hopen
  | none =>
    rw [hw] at hone
    have hnot : ¬ (opened ∨ Note.hits key notes ≠ []) := fun hopen => nomatch hone.mpr hopen
    have hnil : Note.hits key notes = [] := by
      by_contra hsome
      exact hnot (.inr hsome)
    rw [h.closed fun hopened => hnot (.inl hopened), hnil]
    rfl

theorem Counted.hit {key : String} {length c : Nat} {opened : Prop} {n : Note} {earlier : List Note} {s s' : Store}
    {v : Value} (h : Counted key c opened earlier s) (hn : n.carried? = some (.increment key length, v))
    (hp : s.perform (.increment key length) n.clock.wall = (s', .ok v))
    (hone : (s.windowAt key n.clock.wall).isSome ↔ opened ∨ Note.hits key earlier ≠ [])
    (hmax : c + (Note.hits key (n :: earlier)).length ≤ maxCount) : Counted key c opened (n :: earlier) s' := by
  obtain ⟨rfl, hstored⟩ := Store.perform_hit hp
  rw [Note.hits_cons hn, List.length_cons] at hmax
  have hread := h.read hone
  rw [Store.count_eq] at hread
  have hcount : (s.hitWindow key length n.clock.wall).count = c + (Note.hits key earlier).length + 1 := by
    unfold Store.hitWindow
    cases hw : s.windowAt key n.clock.wall with
    | some w =>
      rw [hw] at hread
      have hw : w.count = c + (Note.hits key earlier).length := hread
      show countUp w.count = _
      rw [hw, countUp]
      omega
    | none =>
      rw [hw] at hread
      have hzero : 0 = c + (Note.hits key earlier).length := hread
      show 1 = _
      omega
  refine ⟨?_, fun w hw _ => ?_, h.closed⟩
  · rw [Note.hits_cons hn, List.length_cons, descending_succ, ← h.values, hcount]
  · rw [hstored w hw, hcount, Note.hits_cons hn]
    rfl

theorem Counted.skip {key : String} {c : Nat} {opened : Prop} {n : Note} {earlier : List Note} {s s' : Store}
    (h : Counted key c opened earlier s) (hn : ∀ p, n.carried? = some p → isHitOf key p = false)
    (hs : ∀ w, s'.windows[key]? = some w → s.windows[key]? = some w) : Counted key c opened (n :: earlier) s' := by
  have hhits := Note.hits_skip hn earlier
  refine ⟨?_, fun w hw hopen => ?_, h.closed⟩
  · rw [hhits]
    exact h.values
  · rw [hhits] at hopen ⊢
    exact h.stored w (hs w hw) hopen

/-- By induction on what was carried out. -/
theorem Executed.counted {key : String} {reader : Nat} {now : Instant} {s₀ s : Store} {notes : List Note}
    (h : Executed s₀ notes s) (hone : InOneWindow key reader now s₀ notes)
    (hmax : s₀.count key now + (Note.hits key notes).length ≤ maxCount) :
    Counted key (s₀.count key now) (s₀.windowAt key now).isSome notes s := by
  induction h with
  | nil =>
    refine ⟨rfl, fun w hw hopen => ?_, fun hclosed => ?_⟩
    · obtain ⟨w', hw'⟩ := Option.isSome_iff_exists.mp (hopen.resolve_right fun hnil => hnil rfl)
      obtain ⟨hstored, -⟩ := Store.windowAt_eq_some_iff.mp hw'
      obtain rfl := Option.some.inj (hw.symm.trans hstored)
      rw [Store.count_eq, hw']
      rfl
    · rw [Store.count_eq, Option.not_isSome_iff_eq_none.mp hclosed]
      rfl
  | @skip n earlier s hn _ ih =>
    have hskip : ∀ p, n.carried? = some p → isHitOf key p = false := fun p hp => nomatch hn.symm.trans hp
    exact (ih hone.1 (Note.hits_skip hskip earlier ▸ hmax)).skip hskip fun w hw => hw
  | @perform n earlier s s' op v hn hexecuted hp ih =>
    by_cases hhit : isHitOf key (op, v) = true
    · obtain ⟨length, rfl⟩ := isHitOf_iff.mp hhit
      have hwindow := hone.2 (by simp [Note.concerns, hn, hhit])
      rw [← hexecuted.eq_replay] at hwindow
      have hearlier : s₀.count key now + (Note.hits key earlier).length ≤ maxCount := by
        rw [Note.hits_cons hn, List.length_cons] at hmax
        omega
      exact (ih hone.1 hearlier).hit hn hp hwindow hmax
    · have hskip : ∀ p, n.carried? = some p → isHitOf key p = false := fun p hp =>
        Option.some.inj (hn.symm.trans hp) ▸ Bool.eq_false_iff.mpr hhit
      refine (ih hone.1 (Note.hits_skip hskip earlier ▸ hmax)).skip hskip fun w hw => ?_
      exact Store.stored_perform hp (fun length hop => hhit (isHitOf_iff.mpr ⟨length, hop⟩)) hw

/-- What a read gives in the same window. -/
theorem Executed.read {key : String} {reader : Nat} {now : Instant} {s₀ s : Store} {later earlier : List Note}
    {n : Note} {v : Value} (h : Executed s₀ (later ++ n :: earlier) s)
    (hone : InOneWindow key reader now s₀ (later ++ n :: earlier)) (hn : n.carried? = some (.count key, v))
    (hcaller : n.caller = some reader) (hmax : s₀.count key now + (Note.hits key earlier).length ≤ maxCount) :
    v = .count (s₀.count key now + (Note.hits key earlier).length) := by
  obtain ⟨s₁, h, -⟩ := h.split
  obtain ⟨hearlier, hwindow⟩ := hone.suffix
  cases h with
  | skip hn' _ => exact nomatch hn.symm.trans hn'
  | @perform _ _ s₂ _ op v' hn' h hp =>
    obtain ⟨rfl, rfl⟩ := Prod.mk.inj (Option.some.inj (hn.symm.trans hn'))
    have hopen := hwindow (by simp [Note.concerns, hn, hcaller])
    rw [← h.eq_replay] at hopen
    have hread := (h.counted hearlier hmax).read hopen
    rw [← hread]
    exact (Except.ok.inj (congrArg Prod.snd hp)).symm

end RateCounter
