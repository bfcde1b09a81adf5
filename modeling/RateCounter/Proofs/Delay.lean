/-
  RateCounter.Proofs.Delay — how long calls take, and what a time limit makes of that.

  The delay of a call is the time that it takes to answer if it runs alone and nothing stops
  it; some calls never answer. Every call has one delay (`exists_takes`, `Takes.unique`). Under a
  time limit a tame call takes its delay or the limit, whichever is less (`Ends.clock_of_takes`).
  If it is prompt it answers just when its delay is not more than the limit, so a call that
  answers at the limit is in time (`Ends.isSome_iff`).
-/

import RateCounter.Proofs.Prompt

namespace RateCounter.Service

variable {σ α ρ : Type} {S : Service σ α ρ} {clock clock' : Clock} {p : σ × Turn S.Flight ρ} {s' : σ}
  {deadline limit : Nat}

/-- How long a call takes that stands at this point, left to itself; `none` is for ever. -/
def Takes (S : Service σ α ρ) (clock : Clock) (p : σ × Turn S.Flight ρ) : Option Nat → Prop
  | some d => ∃ n clock' s' r, S.Runs n clock p clock' s' r ∧ clock'.mono = clock.mono + d
  | none => ∀ n clock' s' r, ¬ S.Runs n clock p clock' s' r

/-- A delay that is cut short at a limit. -/
def capped (limit : Nat) : Option Nat → Nat
  | some d => min d limit
  | none => limit

/-- A delay that is over by the limit. -/
def InTime (limit : Nat) : Option Nat → Prop
  | some d => d ≤ limit
  | none => False

theorem capped_le (limit : Nat) (d : Option Nat) : capped limit d ≤ limit := by
  cases d with
  | none => exact Nat.le_refl limit
  | some d => exact Nat.min_le_right ..

theorem exists_takes (S : Service σ α ρ) (clock : Clock) (p : σ × Turn S.Flight ρ) : ∃ d, S.Takes clock p d := by
  by_cases h : ∃ n clock' s' r, S.Runs n clock p clock' s' r
  · obtain ⟨n, clock', s', r, h⟩ := h
    have hle := h.clock_eq.1
    exact ⟨some (clock'.mono - clock.mono), n, clock', s', r, h, by omega⟩
  · exact ⟨none, fun n clock' s' r hrun => h ⟨n, clock', s', r, hrun⟩⟩

theorem Takes.unique {d d' : Option Nat} (h : S.Takes clock p d) (h' : S.Takes clock p d') : d = d' := by
  cases d with
  | none =>
    cases d' with
    | none => rfl
    | some d' =>
      obtain ⟨n, c, s, r, hrun, -⟩ := h'
      exact absurd hrun (h n c s r)
  | some d =>
    obtain ⟨n, c, s, r, hrun, hd⟩ := h
    cases d' with
    | none => exact absurd hrun (h' n c s r)
    | some d' =>
      obtain ⟨m, c', s', r', hrun', hd'⟩ := h'
      obtain ⟨rfl, -, -⟩ := hrun.unique hrun'
      rw [Option.some.injEq]
      omega

/-! ## Under a deadline -/

/-- A call under a deadline is over by then, and only then if it gave no answer. -/
theorem Ends.clock_eq {answer : Option ρ} (h : S.Ends deadline clock p clock' s' answer) :
    clock' = clock.waitUntil clock'.mono ∧ clock.mono ≤ clock'.mono ∧ clock'.mono ≤ max clock.mono deadline ∧
      (answer = none → deadline ≤ clock'.mono) := by
  induction h with
  | answered clock s r => exact ⟨(waitUntil_past clock (Nat.le_refl _)).symm, by omega, by omega, nofun⟩
  | @late clock s f hd => exact ⟨(waitUntil_past clock (Nat.le_refl _)).symm, by omega, by omega, fun _ => hd⟩
  | @hung clock s f hd _ =>
    have hmono : (clock.waitUntil deadline).mono = deadline := by rw [Clock.waitUntil_mono]; omega
    rw [hmono]
    exact ⟨rfl, by omega, by omega, fun _ => Nat.le_refl _⟩
  | @turn t clock clock' s s' f answer hd _ ht _ ih =>
    obtain ⟨heq, hle, hmax, hnone⟩ := ih
    rw [Clock.waitUntil_mono] at hle hmax
    rw [waitUntil_trans clock (by omega)] at heq
    exact ⟨heq, by omega, by omega, hnone⟩

/-- A call that comes to its end before the deadline answers. -/
theorem Runs.ends_before {n : Nat} {r : ρ} (h : S.Runs n clock p clock' s' r) (hlt : clock'.mono < deadline) :
    S.Ends deadline clock p clock' s' (some r) := by
  induction h with
  | done clock s r => exact .answered ..
  | @turn n t clock clock' s s' f r hw hrun ih =>
    have hle := hrun.clock_eq.1
    rw [Clock.waitUntil_mono] at hle
    exact .turn (by omega) hw (by omega) (ih hlt)

/-- A prompt call answers at the deadline too. -/
theorem PromptBy.ends_by {good : σ → S.Flight → Prop} (hS : S.PromptBy good) {n : Nat} {r : ρ}
    (h : S.Runs n clock p clock' s' r) (hp : S.Ahead good clock p) (hle : clock'.mono ≤ deadline) :
    S.Ends deadline clock p clock' s' (some r) := by
  induction h with
  | done clock s r => exact .answered ..
  | @turn n t clock clock' s s' f r hw hrun ih =>
    cases hp with
    | waiting hgood hwake =>
      have hlater := hrun.clock_eq.1
      rw [Clock.waitUntil_mono] at hlater
      have hlt := hwake t hw
      exact .turn (by omega) hw (by omega) (ih (hS.resume _ f s hgood) hle)

theorem Ends.clock_of_takes {answer : Option ρ} (h : S.Ends (clock.mono + limit) clock p clock' s' answer)
    {d : Option Nat} (hd : S.Takes clock p d) : clock' = clock.wait (capped limit d) := by
  obtain ⟨heq, hle, hmax, hnone⟩ := h.clock_eq
  have hmono : clock'.mono = clock.mono + capped limit d := by
    cases answer with
    | some r =>
      obtain ⟨n, hrun⟩ := h.runs
      have htakes : S.Takes clock p (some (clock'.mono - clock.mono)) := ⟨n, clock', s', r, hrun, by omega⟩
      rw [hd.unique htakes, capped]
      omega
    | none =>
      have hlate := hnone rfl
      cases d with
      | none => rw [capped]; omega
      | some d =>
        obtain ⟨n, c, s, r, hrun, hc⟩ := hd
        -- Had it come to its end before the deadline, it would have answered.
        have hlong : ¬ c.mono < clock.mono + limit := fun hlt => by
          obtain ⟨-, -, hanswer⟩ := h.unique (hrun.ends_before hlt)
          cases hanswer
        rw [capped]
        omega
  rw [heq, hmono, Clock.waitUntil, Nat.add_sub_cancel_left]

/-- With a delay of just the limit a call is in time. -/
theorem Ends.isSome_iff (hS : S.Prompt) {a : α} {s : σ} {answer : Option ρ}
    (h : S.Ends (clock.mono + limit) clock (S.start clock a s) clock' s' answer) {d : Option Nat}
    (hd : S.Takes clock (S.start clock a s) d) : answer.isSome = true ↔ InTime limit d := by
  obtain ⟨good, hS⟩ := hS
  have hstart := hS.start clock a s
  obtain ⟨-, hle, hmax, -⟩ := h.clock_eq
  constructor
  · intro hsome
    obtain ⟨r, rfl⟩ := Option.isSome_iff_exists.mp hsome
    obtain ⟨n, hrun⟩ := h.runs
    have htakes : S.Takes clock (S.start clock a s) (some (clock'.mono - clock.mono)) :=
      ⟨n, clock', s', r, hrun, by omega⟩
    rw [hd.unique htakes]
    show clock'.mono - clock.mono ≤ limit
    omega
  · intro hin
    cases d with
    | none => exact hin.elim
    | some d =>
      obtain ⟨n, c, s₁, r, hrun, hc⟩ := hd
      have hle : d ≤ limit := hin
      obtain ⟨-, -, rfl⟩ := h.unique (hS.ends_by hrun hstart (by omega))
      rfl

end RateCounter.Service
