/-
  RateCounter.Proofs.Failover.Unfailing — backends of which no failure is noted.

  A backend that passes every check, completes every operation in time and is not reported
  is healthy at every moment of the traffic, also between the checks and the attempts of one
  turn (`flag_told`). An attempt at it waits or gives its value (`afterAttempt_unfailing`).
-/

import RateCounter.Proofs.Failover.Traffic

namespace RateCounter

/-- No failure is noted of the backend at the position. -/
def Unfailing (i : Nat) (notes : List Note) : Prop :=
  ∀ n ∈ Note.about i notes, ∀ e, n.what.result? ≠ some (.error e)

theorem unfailing_append {i : Nat} {later earlier : List Note} :
    Unfailing i (later ++ earlier) ↔ Unfailing i later ∧ Unfailing i earlier := by
  unfold Unfailing
  rw [Note.about_append]
  exact List.forall_mem_append

theorem lapses_eq_nil {history : List Note} (h : ∀ n ∈ history, ∀ e, n.what.result? ≠ some (.error e)) :
    lapses history = [] := by
  induction history with
  | nil => rfl
  | cons n history ih =>
    obtain ⟨hn, hrest⟩ := List.forall_mem_cons.mp h
    rcases hresult : n.what.result? with _ | ⟨e | u⟩
    · simp only [lapses, hresult, ih hrest]
    · exact absurd hresult (hn e)
    · simp only [lapses, hresult]

theorem Health.Summarises.clean {threshold : Nat} {history : List Note} {h : Health}
    (hs : h.Summarises threshold history) (hthreshold : 1 ≤ threshold)
    (hnone : ∀ n ∈ history, ∀ e, n.what.result? ≠ some (.error e)) : h.Clean := by
  have hlapses := lapses_eq_nil hnone
  have hfailures : h.failures = 0 := by rw [hs.failures, hlapses]; rfl
  refine ⟨hs.healthy.mpr ?_, hfailures, hs.noError.mpr hfailures⟩
  omega

namespace Monitor

/-- A fresh record that is told of no failure stays healthy. -/
theorem flag_told {m₀ : Monitor} (h₀ : Traffic.Fresh m₀) {i : Nat} (hi : i < m₀.records.length) {notes : List Note}
    (hnone : Unfailing i notes) : (m₀.told notes).flags[i]? = some true := by
  have hr : m₀.records[i]? = some Health.fresh := by
    obtain ⟨r, hr⟩ : ∃ r, m₀.records[i]? = some r := ⟨_, List.getElem?_eq_getElem hi⟩
    rw [hr, h₀.records i r hr]
  have hclean := (Health.summarises_history h₀.threshold (Note.about i notes)).clean h₀.threshold hnone
  unfold flags
  rw [List.getElem?_map, records_told, hr]
  exact congrArg some hclean.healthy

end Monitor

namespace Failover

variable {B : Backend}

theorem outcomeOf_eq_ok_iff {op : Operation} {timeout : Nat} {answer : Option Outcome} {v : Value} :
    outcomeOf op timeout answer = .ok v ↔ answer = some (.ok v) := by
  cases answer with
  | none => simp [outcomeOf]
  | some outcome => simp [outcomeOf]

/-- An attempt that has not failed waits or gives a value. -/
theorem afterAttempt_unfailing {caller : Nat} {clock : Clock} {op : Operation} {i timeout : Nat} {rest : List Nat}
    {bs : List B.State} {p : B.State × Turn (Service.Bounded B.operate.Flight) (Option Outcome)}
    (h : Unfailing i (tryNotes caller clock op (attemptsAfter timeout clock op i rest bs p))) :
    (∃ b attempt, p = (b, .waiting attempt)) ∨ ∃ b v, p = (b, .done (some (.ok v))) := by
  obtain ⟨b, answer | attempt⟩ := p
  · cases hout : outcomeOf op timeout answer with
    | ok v => exact .inr ⟨b, v, by rw [outcomeOf_eq_ok_iff.mp hout]⟩
    | error e =>
      have hn : ⟨some caller, i, clock, .tried op (.error e)⟩ ∈
          tryNotes caller clock op (attemptsAfter timeout clock op i rest bs (b, .done answer)) := by
        simp [attemptsAfter, hout, tryNotes]
      exact absurd rfl (h _ (Note.mem_about.mpr ⟨hn, rfl⟩) e)
  · exact .inl ⟨b, attempt, rfl⟩

end Failover

namespace Traffic

variable {B : Backend} {m₀ : Monitor} {t : Traffic B}

/-- If no failure was noted later, none was before. -/
theorem unfailing_run {i : Nat} {moves : List (Move B)} (h : Unfailing i (t.run moves).log) : Unfailing i t.log := by
  obtain ⟨since, hlog⟩ := t.log_run moves
  rw [hlog] at h
  exact (unfailing_append.mp h).2

theorem unfailing_after {i : Nat} {move : Move B} (h : Unfailing i (t.after move).log) : Unfailing i t.log := by
  have hrun : Unfailing i (t.run [move]).log := h
  exact unfailing_run hrun

/-- Between the checks and the attempts of a turn the backend is healthy as well. -/
theorem Kept.flag_turned (h : Kept m₀ t) (h₀ : Fresh m₀) {caller : Nat} {clock : Clock} {notes : List Note}
    {held held' : Monitor.Checks B} {w : Monitor.Watch B}
    (hturned : Monitor.Turned caller clock notes held held' t.group.watch w) {i : Nat}
    (hi : i < t.group.backends.length) (hnone : Unfailing i (notes ++ t.log)) : w.monitor.flags[i]? = some true := by
  have htold : w.monitor = m₀.told (notes ++ t.log) := by
    rw [hturned.told, Monitor.told_append, ← h.told]
    rfl
  rw [htold]
  exact Monitor.flag_told h₀ (h.backends ▸ hi) hnone

end Traffic

end RateCounter
