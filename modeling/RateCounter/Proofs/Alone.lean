/-
  RateCounter.Proofs.Alone — calls that run alone on their state.

  `Runs` is a call alone to its end: every turn at its timer, nothing in between. `Ends` is
  the same call with a deadline, told without `within`: it answers in time, or it is given
  up at the deadline. `Tame` services take finitely many turns in any length of time; a
  call that fails, is slow or hangs for ever is tame.
  - `within_runs`: a bounded call alone ends as `Ends` says.
  - `Runs.unique`, `Ends.unique`: it ends in one way only.
  - `each_runs`: calls on the states of a list, all at once, leave every state as its own
    call alone leaves it, and are over when the last of them is.
-/

import Mathlib.Data.List.Forall2
import RateCounter.Service

namespace RateCounter.Service

variable {σ τ α ρ ρ' : Type}

/-! ## To the end -/

/-- A call that stands at this point takes `n` more turns and then answers. -/
inductive Runs (S : Service σ α ρ) : Nat → Clock → σ × Turn S.Flight ρ → Clock → σ → ρ → Prop
  | done (clock : Clock) (s : σ) (r : ρ) : Runs S 0 clock (s, .done r) clock s r
  | turn {n t : Nat} {clock clock' : Clock} {s s' : σ} {f : S.Flight} {r : ρ} : S.wake f = some t →
      Runs S n (clock.waitUntil t) (S.resume (clock.waitUntil t) f s) clock' s' r →
      Runs S (n + 1) clock (s, .waiting f) clock' s' r

theorem waitUntil_trans (c : Clock) {t u : Nat} (h : t ≤ u) : (c.waitUntil t).waitUntil u = c.waitUntil u := by
  have hsum : (t - c.mono) + (u - (c.mono + (t - c.mono))) = u - c.mono := by omega
  simp only [Clock.waitUntil, Clock.wait, Clock.mk.injEq]
  exact ⟨by rw [Int.add_assoc, ← Int.natCast_add, hsum], by omega⟩

theorem waitUntil_past (c : Clock) {t : Nat} (h : t ≤ c.mono) : c.waitUntil t = c := by
  have h0 : t - c.mono = 0 := by omega
  simp [Clock.waitUntil, Clock.wait, h0]

variable {S : Service σ α ρ}

theorem Runs.settle {n : Nat} {clock clock' : Clock} {p : σ × Turn S.Flight ρ} {s' : σ} {r : ρ}
    (h : S.Runs n clock p clock' s' r) : ∀ {fuel : Nat}, n ≤ fuel → S.settle fuel clock p = (clock', s', some r) := by
  induction h with
  | done clock s r => intro fuel _; simp [Service.settle]
  | turn hw _ ih =>
    intro fuel hf
    obtain ⟨m, rfl⟩ : ∃ m, fuel = m + 1 := ⟨fuel - 1, by omega⟩
    simp only [Service.settle, hw]
    exact ih (by omega)

theorem runs_of_settle {fuel : Nat} {clock clock' : Clock} {p : σ × Turn S.Flight ρ} {s' : σ} {r : ρ}
    (h : S.settle fuel clock p = (clock', s', some r)) : ∃ n, S.Runs n clock p clock' s' r := by
  induction fuel generalizing clock p with
  | zero =>
    obtain ⟨s, r' | f⟩ := p
    · cases h
      exact ⟨0, .done ..⟩
    · cases h
  | succ fuel ih =>
    obtain ⟨s, r' | f⟩ := p
    · cases h
      exact ⟨0, .done ..⟩
    · simp only [Service.settle] at h
      cases hw : S.wake f with
      | none =>
        rw [hw] at h
        cases h
      | some t =>
        rw [hw] at h
        obtain ⟨n, h⟩ := ih h
        exact ⟨n + 1, .turn hw h⟩

/-- Nothing but waiting moves the clock. -/
theorem Runs.clock_eq {n : Nat} {clock clock' : Clock} {p : σ × Turn S.Flight ρ} {s' : σ} {r : ρ}
    (h : S.Runs n clock p clock' s' r) : clock.mono ≤ clock'.mono ∧ clock' = clock.waitUntil clock'.mono := by
  induction h with
  | done clock s r => exact ⟨Nat.le_refl _, (waitUntil_past clock (Nat.le_refl _)).symm⟩
  | @turn n t clock clock' s s' f r _ _ ih =>
    obtain ⟨hle, heq⟩ := ih
    rw [Clock.waitUntil_mono] at hle
    rw [waitUntil_trans clock (by omega)] at heq
    exact ⟨by omega, heq⟩

/-- A waiting call does not notice that time passed before its timer. -/
theorem Runs.later {n t : Nat} {clock clock' : Clock} {s s' : σ} {f : S.Flight} {r : ρ}
    (h : S.Runs n clock (s, .waiting f) clock' s' r) (hw : ∀ u, S.wake f = some u → t ≤ u) :
    S.Runs n (clock.waitUntil t) (s, .waiting f) clock' s' r := by
  cases h with
  | turn hu h =>
    refine .turn hu ?_
    rw [waitUntil_trans clock (hw _ hu)]
    exact h

/-! ## To a deadline -/

/-- The same with a deadline: the answer, if there is one by then. -/
inductive Ends (S : Service σ α ρ) (deadline : Nat) :
    Clock → σ × Turn S.Flight ρ → Clock → σ → Option ρ → Prop
  | answered (clock : Clock) (s : σ) (r : ρ) : Ends S deadline clock (s, .done r) clock s (some r)
  | late {clock : Clock} {s : σ} {f : S.Flight} : deadline ≤ clock.mono →
      Ends S deadline clock (s, .waiting f) clock (S.abandon f s) none
  | hung {clock : Clock} {s : σ} {f : S.Flight} : clock.mono < deadline →
      (∀ t, S.wake f = some t → deadline < t) →
      Ends S deadline clock (s, .waiting f) (clock.waitUntil deadline) (S.abandon f s) none
  | turn {t : Nat} {clock clock' : Clock} {s s' : σ} {f : S.Flight} {answer : Option ρ} : clock.mono < deadline →
      S.wake f = some t → t ≤ deadline →
      Ends S deadline (clock.waitUntil t) (S.resume (clock.waitUntil t) f s) clock' s' answer →
      Ends S deadline clock (s, .waiting f) clock' s' answer

/-- In any length of time a call alone takes finitely many turns. -/
def Tame (S : Service σ α ρ) : Prop :=
  ∀ (limit : Nat) (clock : Clock) (a : α) (s : σ),
    ∃ clock' s' answer, S.Ends (clock.mono + limit) clock (S.start clock a s) clock' s' answer

theorem bound_late {clock : Clock} {deadline : Nat} (s : σ) (f : S.Flight) (h : deadline ≤ clock.mono) :
    S.bound clock deadline (s, .waiting f) = (S.abandon f s, .done none) := by
  simp [bound, expire, h]

theorem bound_waiting {clock : Clock} {deadline : Nat} (s : σ) (f : S.Flight) (h : clock.mono < deadline) :
    S.bound clock deadline (s, .waiting f) = (s, .waiting ⟨deadline, f⟩) := by
  simp [bound, expire, Nat.not_le.mpr h]

theorem poll_due {clock : Clock} {t : Nat} (s : σ) {f : S.Flight} (hw : S.wake f = some t) (h : t ≤ clock.mono) :
    S.poll clock f s = S.resume clock f s := by
  simp [poll, isDue, hw, h]

theorem poll_early {clock : Clock} (s : σ) {f : S.Flight} (h : ∀ t, S.wake f = some t → clock.mono < t) :
    S.poll clock f s = (s, .waiting f) := by
  cases e : S.wake f with
  | none => simp [poll, isDue, e]
  | some t => have ht := Nat.not_le.mpr (h t e); simp [poll, isDue, e, ht]

theorem within_runs {limit deadline : Nat} {clock clock' : Clock} {p : σ × Turn S.Flight ρ} {s' : σ}
    {answer : Option ρ} (h : S.Ends deadline clock p clock' s' answer) :
    ∃ n, (S.within limit).Runs n clock (S.bound clock deadline p) clock' s' answer := by
  induction h with
  | answered clock s r => exact ⟨0, .done ..⟩
  | @late clock s f hd =>
    rw [bound_late s f hd]
    exact ⟨0, .done ..⟩
  | @hung clock s f hd hw =>
    have hmono : (clock.waitUntil deadline).mono = deadline := by rw [Clock.waitUntil_mono]; omega
    have hwake : earlier (S.wake f) (some deadline) = some deadline := by
      cases e : S.wake f with
      | none => rfl
      | some t => have := hw t e; simp only [earlier, Option.some.injEq]; omega
    rw [bound_waiting s f hd]
    refine ⟨1, .turn hwake ?_⟩
    show (S.within limit).Runs 0 _ (S.bound _ deadline (S.poll _ f s)) _ _ _
    rw [poll_early s (by rw [hmono]; exact hw), bound_late s f (Nat.le_of_eq hmono.symm)]
    exact .done ..
  | @turn t clock clock' s s' f answer hd hw ht _ ih =>
    obtain ⟨n, ih⟩ := ih
    have hwake : earlier (S.wake f) (some deadline) = some t := by
      simp only [hw, earlier, Option.some.injEq]; omega
    rw [bound_waiting s f hd]
    refine ⟨n + 1, .turn hwake ?_⟩
    show (S.within limit).Runs n _ (S.bound _ deadline (S.poll _ f s)) _ _ _
    rw [poll_due s hw (by rw [Clock.waitUntil_mono]; omega)]
    exact ih

theorem Tame.within_runs (hS : S.Tame) (limit : Nat) (clock : Clock) (a : α) (s : σ) :
    ∃ n clock' s' answer, (S.within limit).Runs n clock ((S.within limit).start clock a s) clock' s' answer := by
  obtain ⟨clock', s', answer, h⟩ := hS limit clock a s
  obtain ⟨n, h⟩ : ∃ n, (S.within limit).Runs n clock (S.bound clock (clock.mono + limit) (S.start clock a s))
      clock' s' answer := Service.within_runs h
  exact ⟨n, clock', s', answer, h⟩

/-- A call that has an end of its own also ends under a deadline. -/
theorem Runs.ends {n : Nat} {clock clock' : Clock} {p : σ × Turn S.Flight ρ} {s' : σ} {r : ρ}
    (h : S.Runs n clock p clock' s' r) (deadline : Nat) : ∃ c t answer, S.Ends deadline clock p c t answer := by
  induction h with
  | done clock s r => exact ⟨_, _, _, .answered ..⟩
  | @turn n t clock clock' s s' f r hw _ ih =>
    obtain ⟨c, u, answer, ih⟩ := ih
    by_cases hd : deadline ≤ clock.mono
    · exact ⟨_, _, _, .late hd⟩
    by_cases ht : t ≤ deadline
    · exact ⟨c, u, answer, .turn (by omega) hw ht ih⟩
    · refine ⟨_, _, _, .hung (by omega) fun v hv => ?_⟩
      rw [hw, Option.some.injEq] at hv
      omega

/-- A call that answers by a deadline answers the same without one. -/
theorem Ends.runs {deadline : Nat} {clock clock' : Clock} {p : σ × Turn S.Flight ρ} {s' : σ} {r : ρ}
    (h : S.Ends deadline clock p clock' s' (some r)) : ∃ n, S.Runs n clock p clock' s' r := by
  generalize ha : some r = answer at h
  induction h with
  | answered clock s r' =>
    cases ha
    exact ⟨0, .done ..⟩
  | late => cases ha
  | hung => cases ha
  | turn _ hw _ _ ih =>
    obtain ⟨n, ih⟩ := ih ha
    exact ⟨n + 1, .turn hw ih⟩

/-! ## One end only -/

theorem Runs.unique {n m : Nat} {clock c₁ c₂ : Clock} {p : σ × Turn S.Flight ρ} {s₁ s₂ : σ} {r₁ r₂ : ρ}
    (h₁ : S.Runs n clock p c₁ s₁ r₁) (h₂ : S.Runs m clock p c₂ s₂ r₂) : c₁ = c₂ ∧ s₁ = s₂ ∧ r₁ = r₂ := by
  induction h₁ generalizing m with
  | done =>
    cases h₂
    exact ⟨rfl, rfl, rfl⟩
  | turn hw _ ih =>
    cases h₂ with
    | turn hw' h₂ =>
      obtain rfl := Option.some.inj (hw.symm.trans hw')
      exact ih h₂

theorem Ends.unique {deadline : Nat} {clock c₁ c₂ : Clock} {p : σ × Turn S.Flight ρ} {s₁ s₂ : σ}
    {a₁ a₂ : Option ρ} (h₁ : S.Ends deadline clock p c₁ s₁ a₁) (h₂ : S.Ends deadline clock p c₂ s₂ a₂) :
    c₁ = c₂ ∧ s₁ = s₂ ∧ a₁ = a₂ := by
  obtain ⟨n, h₁⟩ : ∃ n, (S.within 0).Runs n clock (S.bound clock deadline p) c₁ s₁ a₁ := within_runs h₁
  obtain ⟨m, h₂⟩ : ∃ m, (S.within 0).Runs m clock (S.bound clock deadline p) c₂ s₂ a₂ := within_runs h₂
  exact h₁.unique h₂

theorem tame_of_runs (h : ∀ clock a s, ∃ n clock' s' r, S.Runs n clock (S.start clock a s) clock' s' r) : S.Tame := by
  intro limit clock a s
  obtain ⟨n, clock', s', r, h⟩ := h clock a s
  exact h.ends _

/-! ## One call per state -/

/-- Calls on the states of a list, each with the clock and the state it will end with:
    some are over, the others will take `n` turns in all. -/
inductive Lanes (S : Service σ α ρ) (clock : Clock) :
    Nat → List (Option S.Flight) → List σ → List (Clock × σ) → Prop
  | nil : Lanes S clock 0 [] [] []
  | idle {n : Nat} {c : Clock} {s : σ} {fs : List (Option S.Flight)} {ss : List σ} {es : List (Clock × σ)} :
      c.mono ≤ clock.mono → Lanes S clock n fs ss es → Lanes S clock n (none :: fs) (s :: ss) ((c, s) :: es)
  | busy {m n : Nat} {c : Clock} {s s' : σ} {f : S.Flight} {r : ρ} {fs : List (Option S.Flight)} {ss : List σ}
      {es : List (Clock × σ)} : S.Runs m clock (s, .waiting f) c s' r → Lanes S clock n fs ss es →
      Lanes S clock (m + n) (some f :: fs) (s :: ss) ((c, s') :: es)

/-- When the last of the calls is over. -/
def latest (es : List (Clock × σ)) : Nat := (es.map (·.1.mono)).foldr max 0

theorem earlier_eq_some {a b : Option Nat} {t : Nat} (h : earlier a b = some t) : a = some t ∨ b = some t := by
  cases a with
  | none => exact .inr h
  | some u =>
    cases b with
    | none => exact .inl h
    | some v => simp only [earlier, Option.some.injEq] at h ⊢; omega

theorem wakeEach_le {fs : List (Option S.Flight)} {f : S.Flight} {u : Nat} (hf : some f ∈ fs)
    (hu : S.wake f = some u) : ∃ t, S.wakeEach fs = some t ∧ t ≤ u := by
  induction fs with
  | nil => cases hf
  | cons o fs ih =>
    cases o with
    | none => exact ih (by simpa using hf)
    | some g =>
      rcases List.mem_cons.mp hf with e | hf
      · cases e
        cases e : S.wakeEach fs with
        | none => exact ⟨u, by simp [wakeEach, hu, e, earlier], Nat.le_refl u⟩
        | some v => exact ⟨min u v, by simp [wakeEach, hu, e, earlier], Nat.min_le_left u v⟩
      · obtain ⟨v, hv, hle⟩ := ih hf
        cases e : S.wake g with
        | none => exact ⟨v, by simp [wakeEach, hv, e, earlier], hle⟩
        | some w => exact ⟨min w v, by simp [wakeEach, hv, e, earlier], by omega⟩

theorem waitUntil_eq (c : Clock) {t u : Nat} (htu : t ≤ u) (hu : u ≤ (c.waitUntil t).mono) :
    c.waitUntil u = c.waitUntil t := by
  rw [← waitUntil_trans c htu, waitUntil_past _ hu]

/-- A turn of all calls that are due. If one of them is, fewer turns are left. -/
theorem Lanes.poll {n t : Nat} {clock : Clock} {fs : List (Option S.Flight)} {ss : List σ} {es : List (Clock × σ)}
    (h : S.Lanes clock n fs ss es) (ht : ∀ f, some f ∈ fs → ∀ u, S.wake f = some u → t ≤ u) :
    ∃ m ≤ n, S.Lanes (clock.waitUntil t) m (S.pollEach (clock.waitUntil t) fs ss).2
      (S.pollEach (clock.waitUntil t) fs ss).1 es ∧ (S.wakeEach fs = some t → m < n) := by
  induction h with
  | nil => exact ⟨0, Nat.le_refl 0, .nil, by simp [wakeEach]⟩
  | idle hc _ ih =>
    obtain ⟨m, hm, hl, hlt⟩ := ih fun f hf => ht f (by simp [hf])
    exact ⟨m, hm, .idle (by rw [Clock.waitUntil_mono]; omega) hl, hlt⟩
  | @busy k n c s s' f r fs ss es hrun _ ih =>
    obtain ⟨m, hm, hl, hlt⟩ := ih fun f hf => ht f (by simp [hf])
    obtain ⟨u, hu⟩ : ∃ u, S.wake f = some u := by cases hrun with | turn hu _ => exact ⟨_, hu⟩
    have htu := ht f (by simp) u hu
    by_cases hdue : u ≤ (clock.waitUntil t).mono
    · cases hrun with
      | @turn k v _ _ _ _ _ _ hv hrun =>
        -- The call is due, so its next turn counts as well.
        obtain rfl : u = v := by rw [hu, Option.some.injEq] at hv; exact hv
        rw [waitUntil_eq clock htu hdue] at hrun
        simp only [pollEach, poll_due s hu hdue]
        generalize S.resume (clock.waitUntil t) f s = p at hrun ⊢
        obtain ⟨s₁, _ | g⟩ := p
        · cases hrun with
          | done => exact ⟨m, by omega, .idle (Nat.le_refl _) hl, fun _ => by omega⟩
        · exact ⟨k + m, by omega, .busy hrun hl, fun _ => by omega⟩
    · have hearly : S.poll (clock.waitUntil t) f s = (s, .waiting f) :=
        poll_early s fun v hv => by rw [hu, Option.some.injEq] at hv; omega
      simp only [pollEach, hearly]
      refine ⟨k + m, by omega, .busy (hrun.later (ht f (by simp))) hl, fun hw => ?_⟩
      -- The timer at `t` is not this call's, which is not due then.
      rcases earlier_eq_some hw with hw | hw
      · rw [Clock.waitUntil_mono] at hdue
        rw [hu, Option.some.injEq] at hw
        omega
      · have := hlt hw
        omega

theorem length_pollEach (S : Service σ α ρ) (clock : Clock) (fs : List (Option S.Flight)) (ss : List σ) :
    (S.pollEach clock fs ss).1.length = ss.length := by
  induction fs generalizing ss with
  | nil => rfl
  | cons o fs ih =>
    cases ss with
    | nil => cases o <;> rfl
    | cons s ss => cases o <;> exact congrArg Nat.succ (ih ss)

theorem length_startEach (S : Service σ α ρ) (clock : Clock) (a : α) (ss : List σ) :
    (S.startEach clock a ss).1.length = ss.length := by
  induction ss with
  | nil => rfl
  | cons s ss ih => exact congrArg Nat.succ ih

theorem length_abandonEach (S : Service σ α ρ) (fs : List (Option S.Flight)) (ss : List σ) :
    (S.abandonEach fs ss).length = ss.length := by
  induction fs generalizing ss with
  | nil => rfl
  | cons o fs ih =>
    cases ss with
    | nil => cases o <;> rfl
    | cons s ss => cases o <;> exact congrArg Nat.succ (ih ss)

theorem Lanes.finished {n : Nat} {clock : Clock} {fs : List (Option S.Flight)} {ss : List σ} {es : List (Clock × σ)}
    (h : S.Lanes clock n fs ss es) (hfs : fs.all Option.isNone = true) :
    ss = es.map (·.2) ∧ latest es ≤ clock.mono := by
  induction h with
  | nil => exact ⟨rfl, Nat.zero_le _⟩
  | idle hc _ ih =>
    obtain ⟨hs, hle⟩ := ih (by simpa using hfs)
    refine ⟨by rw [hs]; rfl, ?_⟩
    simp only [latest, List.map_cons, List.foldr_cons] at hle ⊢
    omega
  | busy => simp at hfs

theorem Lanes.le_latest {n : Nat} {clock : Clock} {fs : List (Option S.Flight)} {ss : List σ} {es : List (Clock × σ)}
    (h : S.Lanes clock n fs ss es) {f : S.Flight} (hf : some f ∈ fs) :
    ∃ u, S.wake f = some u ∧ u ≤ latest es := by
  induction h with
  | nil => cases hf
  | idle _ _ ih =>
    obtain ⟨u, hu, hle⟩ := ih (by simpa using hf)
    simp only [latest, List.map_cons, List.foldr_cons] at hle ⊢
    exact ⟨u, hu, by omega⟩
  | busy hrun _ ih =>
    simp only [latest, List.map_cons, List.foldr_cons]
    rcases List.mem_cons.mp hf with e | hf
    · cases e
      cases hrun with
      | @turn _ u _ _ _ _ _ _ hu hrun =>
        have := hrun.clock_eq.1
        rw [Clock.waitUntil_mono] at this
        exact ⟨u, hu, by omega⟩
    · obtain ⟨u, hu, hle⟩ := ih hf
      simp only [latest] at hle
      exact ⟨u, hu, by omega⟩

/-- The calls together: every state as its own call leaves it, at the time the last is over. -/
theorem Lanes.runs {n : Nat} {clock : Clock} {fs : List (Option S.Flight)} {ss : List σ} {es : List (Clock × σ)}
    (h : S.Lanes clock n fs ss es) :
    ∃ m, S.each.Runs m clock (ss, joined fs) (clock.waitUntil (latest es)) (es.map (·.2)) () := by
  -- On the turns left: a turn at the earliest timer takes at least one of them.
  induction n using Nat.strongRecOn generalizing clock fs ss with
  | ind n ih =>
    by_cases hfs : fs.all Option.isNone = true
    · obtain ⟨rfl, hle⟩ := h.finished hfs
      rw [waitUntil_past clock hle]
      simp only [joined, hfs, if_true]
      exact ⟨0, .done ..⟩
    · obtain ⟨f, hf⟩ : ∃ f, some f ∈ fs := by
        simp only [List.all_eq_true, not_forall] at hfs
        obtain ⟨o, ho, hne⟩ := hfs
        cases o with
        | none => simp at hne
        | some f => exact ⟨f, ho⟩
      obtain ⟨u, hu, hle⟩ := h.le_latest hf
      obtain ⟨t, ht, htu⟩ := wakeEach_le hf hu
      obtain ⟨m, -, hl, hlt⟩ := h.poll (t := t) fun g hg v hv => by
        obtain ⟨w, hw, hwv⟩ := wakeEach_le hg hv
        rw [ht, Option.some.injEq] at hw
        omega
      obtain ⟨k, hrun⟩ := ih m (hlt ht) hl
      rw [waitUntil_trans clock (by omega)] at hrun
      simp only [joined, hfs, Bool.false_eq_true, if_false]
      exact ⟨k + 1, .turn ht hrun⟩

/-- Calls started on every state, from what each of them does alone. -/
theorem each_runs {clock : Clock} {a : α} {ss : List σ} {es : List (Clock × σ)}
    (h : List.Forall₂ (fun s e => ∃ n r, S.Runs n clock (S.start clock a s) e.1 e.2 r) ss es) :
    ∃ n, S.each.Runs n clock (S.each.start clock a ss) (clock.waitUntil (latest es)) (es.map (·.2)) () := by
  suffices hl : ∃ n, S.Lanes clock n (S.startEach clock a ss).2 (S.startEach clock a ss).1 es by
    obtain ⟨n, hl⟩ := hl
    exact hl.runs
  induction h with
  | nil => exact ⟨0, .nil⟩
  | @cons s e ss es hs _ ih =>
    obtain ⟨n, hl⟩ := ih
    obtain ⟨m, r, hrun⟩ := hs
    show ∃ n, S.Lanes clock n ((S.start clock a s).2.flight? :: _) ((S.start clock a s).1 :: _) (e :: es)
    generalize S.start clock a s = p at hrun ⊢
    obtain ⟨s₁, _ | g⟩ := p
    · obtain ⟨c, s'⟩ := e
      cases hrun with
      | done => exact ⟨n, .idle (Nat.le_refl _) hl⟩
    · exact ⟨m + n, .busy hrun hl⟩

/-! ## Services put together from others -/

theorem Runs.mapReply {n : Nat} {clock clock' : Clock} {p : σ × Turn S.Flight ρ} {s' : σ} {r : ρ} (g : ρ → ρ')
    (h : S.Runs n clock p clock' s' r) : (S.mapReply g).Runs n clock (p.1, p.2.map id g) clock' s' (g r) := by
  induction h with
  | done => exact .done ..
  | turn hw _ ih => exact .turn hw ih

/-- A call on a part of a state changes nothing else. -/
theorem Runs.focus {get : τ → σ} {set : σ → τ → τ} (hget : ∀ s t, get (set s t) = s)
    (hset : ∀ s s' t, set s (set s' t) = set s t) {n : Nat} {clock clock' : Clock} {p : σ × Turn S.Flight ρ} {s' : σ}
    {r : ρ} (h : S.Runs n clock p clock' s' r) (t : τ) :
    (S.focus get set).Runs n clock (set p.1 t, p.2) clock' (set s' t) r := by
  induction h with
  | done => exact .done ..
  | @turn n u clock clock' s s' f r hw _ ih =>
    refine .turn hw ?_
    show (S.focus get set).Runs n _ (set (S.resume _ f (get (set s t))).1 (set s t), _) _ _ _
    rw [hget, hset]
    exact ih

theorem Ends.sum_inl {T : Service τ α ρ} {deadline : Nat} {clock clock' : Clock} {p : σ × Turn S.Flight ρ} {s' : σ}
    {answer : Option ρ} (h : S.Ends deadline clock p clock' s' answer) :
    (S.sum T).Ends deadline clock (.inl p.1, p.2.map .inl id) clock' (.inl s') answer := by
  induction h with
  | answered => exact .answered ..
  | late hd => exact .late hd
  | hung hd hw => exact .hung hd hw
  | turn hd hw ht _ ih => exact .turn hd hw ht ih

theorem Ends.sum_inr {T : Service τ α ρ} {deadline : Nat} {clock clock' : Clock} {p : τ × Turn T.Flight ρ} {t' : τ}
    {answer : Option ρ} (h : T.Ends deadline clock p clock' t' answer) :
    (S.sum T).Ends deadline clock (.inr p.1, p.2.map .inr id) clock' (.inr t') answer := by
  induction h with
  | answered => exact .answered ..
  | late hd => exact .late hd
  | hung hd hw => exact .hung hd hw
  | turn hd hw ht _ ih => exact .turn hd hw ht ih

theorem Tame.sum {T : Service τ α ρ} (hS : S.Tame) (hT : T.Tame) : (S.sum T).Tame := by
  intro limit clock a s
  cases s with
  | inl s =>
    obtain ⟨c, s', answer, h⟩ := hS limit clock a s
    exact ⟨c, _, answer, h.sum_inl⟩
  | inr t =>
    obtain ⟨c, t', answer, h⟩ := hT limit clock a t
    exact ⟨c, _, answer, h.sum_inr⟩

/-- Calls that wait at most once are tame. -/
theorem tame_of_one_wait (h : ∀ clock f s, ∃ s' r, S.resume clock f s = (s', .done r)) : S.Tame := by
  intro limit clock a s
  rcases S.start clock a s with ⟨s₁, r | f⟩
  · exact ⟨_, _, _, .answered ..⟩
  by_cases hlate : clock.mono + limit ≤ clock.mono
  · exact ⟨_, _, _, .late hlate⟩
  by_cases hdue : ∃ t, S.wake f = some t ∧ t ≤ clock.mono + limit
  · obtain ⟨t, hw, ht⟩ := hdue
    obtain ⟨s', r, hr⟩ := h (clock.waitUntil t) f s₁
    refine ⟨clock.waitUntil t, s', some r, .turn (by omega) hw ht ?_⟩
    rw [hr]
    exact .answered ..
  · exact ⟨_, _, _, .hung (by omega) fun t hw => Nat.lt_of_not_le fun ht => hdue ⟨t, hw, ht⟩⟩

end RateCounter.Service
