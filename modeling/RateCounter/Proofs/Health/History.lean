/-
  RateCounter.Proofs.Health.History — a health record, by the history of its backend.

  What happens at a backend is noted, the latest first: a check begins, is completed or is
  given up, an attempt at an operation is over, or somebody records a success or a failure by
  hand. A record that is told of a note (`Health.told`) changes as the code changes it. What
  the record then shows can be read off the history without going through its changes:

  - the failures since the last success (`lapses`), their number stopped at 2^32 − 1, and the
    error of the latest of them;
  - the times of the last completed check (`lastCheck`).

  `Summarises` says so field by field, and `summarises_told` that it stays so with one note
  more. A check that was given up, or has not been completed yet, is not in the summary.

  Notes of all backends together tell a monitor (`Monitor.told`); each of them is heard by the
  record at its position alone (`records_told`).
-/

import RateCounter.Health.Monitor

namespace RateCounter

inductive Incident where
  /-- A check of the backend begins. -/
  | begun
  | checked (verdict : Verdict)
  /-- A check of the backend is given up, as whoever began it is. -/
  | cut
  /-- An attempt at an operation is over. -/
  | tried (op : Operation) (outcome : Outcome)
  /-- A success or a failure is recorded by hand. -/
  | reported (result : Except BackendError Unit)

/-- A success or a failure, if it is one. -/
def Incident.result? : Incident → Option (Except BackendError Unit)
  | begun => none
  | checked verdict =>
    match verdict.error? with
    | none => some (.ok ())
    | some e => some (.error e)
  | cut => none
  | tried _ outcome => some (outcome.map fun _ => ())
  | reported result => some result

/-- What happened to which backend, and when. -/
structure Note where
  /-- The number of the call that brought it about, if a call did. -/
  caller : Option Nat
  position : Nat
  clock : Clock
  what : Incident

namespace Note

/-- The times of a completed check. -/
def checked? (n : Note) : Option Checked :=
  match n.what with
  | .checked _ => some ⟨n.clock.mono, n.clock.wall⟩
  | _ => none

/-- The notes about one backend. -/
def about (i : Nat) (notes : List Note) : List Note := notes.filter fun n => n.position == i

theorem about_append (i : Nat) (notes notes' : List Note) :
    about i (notes ++ notes') = about i notes ++ about i notes' :=
  List.filter_append ..

theorem about_of_all {i : Nat} {notes : List Note} (h : ∀ n ∈ notes, n.position = i) : about i notes = notes :=
  List.filter_eq_self.mpr fun n hn => by simpa using h n hn

theorem about_of_none {i : Nat} {notes : List Note} (h : ∀ n ∈ notes, n.position ≠ i) : about i notes = [] :=
  List.filter_eq_nil_iff.mpr fun n hn => by simpa using h n hn

theorem mem_about {i : Nat} {notes : List Note} {n : Note} : n ∈ about i notes ↔ n ∈ notes ∧ n.position = i := by
  unfold about
  rw [List.mem_filter, beq_iff_eq]

/-- A note of a history in two parts, and what came before it. -/
theorem cons_suffix_append {n : Note} {earlier later older : List Note} (h : n :: earlier <:+ later ++ older) :
    n :: earlier <:+ older ∨ ∃ between, n :: between <:+ later ∧ earlier = between ++ older := by
  rcases List.suffix_or_suffix_of_suffix h (List.suffix_append later older) with h' | h'
  · exact .inl h'
  · rcases List.suffix_cons_iff.mp h' with rfl | ⟨between, rfl⟩
    · exact .inl List.suffix_rfl
    · exact .inr ⟨between, List.suffix_append_self_iff.mp h, rfl⟩

end Note

/-! ## What a history comes to -/

/-- The errors of the failures since the last success, the latest first. -/
def lapses : List Note → List BackendError
  | [] => []
  | n :: earlier =>
    match n.what.result? with
    | none => lapses earlier
    | some (.ok _) => []
    | some (.error e) => e :: lapses earlier

/-- The times of the last completed check. -/
def lastCheck (history : List Note) : Option Checked := history.findSome? Note.checked?

/-- No check is completed yet, or the last one `interval` ago or earlier. -/
def DueAfter (interval : Nat) (history : List Note) (now : Nat) : Prop :=
  ∀ c, lastCheck history = some c → c.mono + interval ≤ now

/-- What happened apart from one call. -/
def Note.others (k : Nat) (notes : List Note) : List Note := notes.filter fun n => n.caller != some k

namespace Health

/-- A claim is taken or released, or the times of a check are set. -/
def marked (n : Note) (h : Health) : Health :=
  match n.what with
  | .begun => { h with claimed := true }
  | .checked _ => { h with claimed := false, lastChecked := some ⟨n.clock.mono, n.clock.wall⟩ }
  | .cut => { h with claimed := false }
  | _ => h

def judged (threshold : Nat) (result : Option (Except BackendError Unit)) (h : Health) : Health :=
  match result with
  | none => h
  | some (.ok _) => h.succeed
  | some (.error e) => h.fail threshold e

/-- A record after what the note tells of. -/
def told (threshold : Nat) (n : Note) (h : Health) : Health := (h.marked n).judged threshold n.what.result?

variable {threshold : Nat} {h : Health} {n : Note}

theorem complete_eq_told (h : Health) (threshold : Nat) (clock : Clock) (v : Verdict) (caller : Option Nat)
    (position : Nat) : h.complete threshold clock v = h.told threshold ⟨caller, position, clock, .checked v⟩ := by
  cases v <;> rfl

/-- The claim that a note leaves, where there was one or not before. -/
def claimedAfter (n : Note) (before : Bool) : Bool :=
  match n.what with
  | .begun => true
  | .checked _ | .cut => false
  | _ => before

theorem claimed_told (threshold : Nat) (n : Note) (h : Health) :
    (h.told threshold n).claimed = claimedAfter n h.claimed := by
  obtain ⟨caller, position, clock, what⟩ := n
  cases what with
  | begun => rfl
  | checked v => cases v <;> rfl
  | cut => rfl
  | tried op outcome => cases outcome <;> rfl
  | reported result => cases result <;> rfl

/-- Neither begun nor over, a check keeps its claim. -/
theorem claimed_foldr {notes : List Note} (hnotes : ∀ n ∈ notes, ∀ before, claimedAfter n before = before)
    (threshold : Nat) (h : Health) : (notes.foldr (told threshold) h).claimed = h.claimed := by
  induction notes with
  | nil => rfl
  | cons n notes ih =>
    rw [List.foldr_cons, claimed_told, hnotes n (List.mem_cons_self ..)]
    exact ih fun n' hn' => hnotes n' (List.mem_cons_of_mem _ hn')

/-- A record without its claim. -/
def released (h : Health) : Health := { h with claimed := false }

theorem released_eq_self (hfree : h.claimed = false) : h.released = h := by
  unfold released
  rw [← hfree]

theorem released_told (threshold : Nat) (n : Note) {h h' : Health} (hsame : h.released = h'.released) :
    (h.told threshold n).released = (h'.told threshold n).released := by
  obtain ⟨healthy, lastChecked, failures, lastError, claimed⟩ := h
  obtain ⟨healthy', lastChecked', failures', lastError', claimed'⟩ := h'
  cases hsame
  obtain ⟨caller, position, clock, what⟩ := n
  cases what with
  | begun => rfl
  | checked v => cases v <;> rfl
  | cut => rfl
  | tried op outcome => cases outcome <;> rfl
  | reported result => cases result <;> rfl

/-- A check that has begun, or was given up, changes nothing but the claim. -/
theorem released_begun_or_cut (threshold : Nat) {n : Note} (hn : n.what = .begun ∨ n.what = .cut) (h : Health) :
    (h.told threshold n).released = h.released := by
  obtain ⟨caller, position, clock, what⟩ := n
  rcases hn with rfl | rfl <;> rfl

/-- Notes that change nothing but the claim can be left out. -/
theorem released_filter {p : Note → Bool} {notes : List Note}
    (hout : ∀ n ∈ notes, p n = false → n.what = .begun ∨ n.what = .cut) (threshold : Nat) (h : Health) :
    (notes.foldr (told threshold) h).released = ((notes.filter p).foldr (told threshold) h).released := by
  induction notes with
  | nil => rfl
  | cons n notes ih =>
    have ih := ih fun n' hn' => hout n' (List.mem_cons_of_mem _ hn')
    cases hp : p n with
    | true =>
      rw [List.filter_cons_of_pos hp]
      exact released_told threshold n ih
    | false =>
      rw [List.filter_cons_of_neg (by simp [hp])]
      exact (released_begun_or_cut threshold (hout n (List.mem_cons_self ..) hp) _).trans ih

/-! ## The summary -/

/-- Each field of the record (its claim apart) as the history gives it. -/
structure Summarises (threshold : Nat) (history : List Note) (h : Health) : Prop where
  failures : h.failures = min (lapses history).length maxFailures
  healthy : h.healthy = true ↔ h.failures < threshold
  lastError : h.lastError = (lapses history).head?
  noError : h.lastError = none ↔ h.failures = 0
  lastChecked : h.lastChecked = lastCheck history

theorem summarises_fresh (hthreshold : 1 ≤ threshold) : fresh.Summarises threshold [] where
  failures := rfl
  healthy := ⟨fun _ => hthreshold, fun _ => rfl⟩
  lastError := rfl
  noError := ⟨fun _ => rfl, fun _ => rfl⟩
  lastChecked := rfl

theorem lastChecked_told (threshold : Nat) (n : Note) (h : Health) :
    (h.told threshold n).lastChecked = n.checked?.or h.lastChecked := by
  obtain ⟨caller, position, clock, what⟩ := n
  cases what with
  | begun => rfl
  | checked v => cases v <;> rfl
  | cut => rfl
  | tried op outcome => cases outcome <;> rfl
  | reported result => cases result <;> rfl

theorem lastCheck_cons (n : Note) (history : List Note) :
    lastCheck (n :: history) = n.checked?.or (lastCheck history) := by
  unfold lastCheck
  rw [List.findSome?_cons]
  cases n.checked? <;> rfl

theorem Summarises.isStale_iff {history : List Note} (hs : h.Summarises threshold history) (interval : Nat) {now : Nat}
    (hnow : ∀ n ∈ history, n.clock.mono ≤ now) : h.isStale interval now = true ↔ DueAfter interval history now := by
  unfold isStale DueAfter
  rw [hs.lastChecked]
  cases hc : lastCheck history with
  | none => exact ⟨fun _ c hc => (nomatch hc), fun _ => rfl⟩
  | some c =>
    have hpast : c.mono ≤ now := by
      obtain ⟨n, hn, hchecked⟩ := List.exists_of_findSome?_eq_some hc
      have hmono : c.mono = n.clock.mono := by
        unfold Note.checked? at hchecked
        split at hchecked
        · exact congrArg Checked.mono (Option.some.inj hchecked).symm
        · exact nomatch hchecked
      rw [hmono]
      exact hnow n hn
    simp only [Option.some.injEq, forall_eq', decide_eq_true_eq]
    omega

theorem marked_fields (n : Note) (h : Health) : (h.marked n).failures = h.failures ∧
    (h.marked n).healthy = h.healthy ∧ (h.marked n).lastError = h.lastError := by
  unfold marked
  split <;> exact ⟨rfl, rfl, rfl⟩

/-- One failure more. -/
theorem fail_fields {errors : List BackendError} (hfailures : h.failures = min errors.length maxFailures)
    (hhealthy : h.healthy = true ↔ h.failures < threshold) (e : BackendError) :
    (h.fail threshold e).failures = min (e :: errors).length maxFailures ∧
      ((h.fail threshold e).healthy = true ↔ (h.fail threshold e).failures < threshold) ∧
      (h.fail threshold e).failures ≠ 0 := by
  have hmax : 1 ≤ maxFailures := by decide
  have hcount : (h.fail threshold e).failures = min (h.failures + 1) maxFailures := rfl
  have hflag : (h.fail threshold e).healthy =
      (h.healthy && decide (min (h.failures + 1) maxFailures < threshold)) := rfl
  rw [hflag, hcount, Bool.and_eq_true, decide_eq_true_eq, hhealthy, List.length_cons]
  omega

theorem summarises_told (hthreshold : 1 ≤ threshold) {history : List Note} (hs : h.Summarises threshold history)
    (n : Note) : (h.told threshold n).Summarises threshold (n :: history) := by
  have hchecked : (h.told threshold n).lastChecked = lastCheck (n :: history) := by
    rw [lastChecked_told, lastCheck_cons, hs.lastChecked]
  obtain ⟨hfailures, hhealthy, herror⟩ := marked_fields n h
  have hlapses : lapses (n :: history) = match n.what.result? with
      | none => lapses history
      | some (.ok _) => []
      | some (.error e) => e :: lapses history := rfl
  unfold told at hchecked ⊢
  rcases hresult : n.what.result? with _ | ⟨e | u⟩
  · rw [hresult] at hlapses hchecked
    refine ⟨?_, ?_, ?_, ?_, hchecked⟩
    · exact hfailures.trans (hlapses ▸ hs.failures)
    · show (h.marked n).healthy = true ↔ (h.marked n).failures < threshold
      rw [hhealthy, hfailures]
      exact hs.healthy
    · exact herror.trans (hlapses ▸ hs.lastError)
    · show (h.marked n).lastError = none ↔ (h.marked n).failures = 0
      rw [herror, hfailures]
      exact hs.noError
  · rw [hresult] at hlapses hchecked
    obtain ⟨hcount, hflag, hne⟩ := fail_fields (hfailures.trans hs.failures)
      (by rw [hhealthy, hfailures]; exact hs.healthy) e
    refine ⟨hlapses ▸ hcount, hflag, hlapses ▸ rfl, ?_, hchecked⟩
    exact ⟨fun hnone => absurd hnone (Option.some_ne_none e), fun hzero => absurd hzero hne⟩
  · rw [hresult] at hlapses hchecked
    refine ⟨hlapses ▸ rfl, ?_, hlapses ▸ rfl, ⟨fun _ => rfl, fun _ => rfl⟩, hchecked⟩
    exact ⟨fun _ => hthreshold, fun _ => rfl⟩

/-- A fresh record that has been told of a history summarises it. -/
theorem summarises_history (hthreshold : 1 ≤ threshold) (history : List Note) :
    (history.foldr (told threshold) fresh).Summarises threshold history := by
  induction history with
  | nil => exact summarises_fresh hthreshold
  | cons n history ih => exact summarises_told hthreshold ih n

end Health

/-! ## Monitors -/

namespace Monitor

/-- The records after what the notes tell of, the oldest first. -/
def told (m : Monitor) (notes : List Note) : Monitor :=
  { m with records := notes.foldr (fun n records => records.modify n.position (.told m.threshold n)) m.records }

variable {m : Monitor}

theorem told_append (m : Monitor) (later earlier : List Note) :
    m.told (later ++ earlier) = (m.told earlier).told later := by
  unfold told
  rw [List.foldr_append]

theorem records_told (m : Monitor) (notes : List Note) (i : Nat) : (m.told notes).records[i]? =
    m.records[i]?.map fun h => (Note.about i notes).foldr (.told m.threshold) h := by
  unfold told
  dsimp only
  induction notes with
  | nil => exact Option.map_id'.symm
  | cons n notes ih =>
    rw [List.foldr_cons, List.getElem?_modify, ih]
    unfold Note.about
    by_cases hi : n.position = i
    · rw [List.filter_cons_of_pos (by simpa using hi)]
      cases m.records[i]? with
      | none => rfl
      | some h => simp [hi]
    · rw [List.filter_cons_of_neg (by simpa using hi)]
      cases m.records[i]? with
      | none => rfl
      | some h => simp [hi]

theorem length_told (m : Monitor) (notes : List Note) : (m.told notes).records.length = m.records.length := by
  induction notes with
  | nil => rfl
  | cons n notes ih =>
    have hcons : (m.told (n :: notes)).records = (m.told notes).records.modify n.position (.told m.threshold n) := rfl
    rw [hcons, List.length_modify, ih]

/-- Monitors with the same settings and the same records are the same. -/
theorem told_eq_of_records {notes : List Note} {records : List Health}
    (h : ∀ i, records[i]? = m.records[i]?.map fun r => (Note.about i notes).foldr (.told m.threshold) r) :
    { m with records := records } = m.told notes := by
  have hrecords : records = (m.told notes).records := by
    apply List.ext_getElem?
    intro i
    rw [h, records_told]
  rw [hrecords]
  rfl

end Monitor

end RateCounter
