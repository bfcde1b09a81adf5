/-
  RateCounter.Proofs.Failover.Landed — every hit lands once.

  The backends here are memory stores that an operation may fail to get to (`Gated`). Then
  the log of a traffic tells what was carried out, and the stores are what they become by
  that, one operation after the other, each answered with the value that was noted
  (`Executed`). Every turn of a call carries out what the call returns with it (`Lands`,
  `carried_turn`), and nothing else does.

  - `every_hit_lands_once`: in any traffic, a call that returned a value had exactly one
    operation carried out, its own, at one backend, and returned what it gave there. Any
    other call, whether it failed, is under way or was dropped, had none carried out. So for
    each key the stores have carried out as many hits as were returned.
-/

import Mathlib.Algebra.BigOperators.Group.Finset.Piecewise
import RateCounter.Proofs.Failover.Traffic
import RateCounter.Proofs.Health.Views
import RateCounter.Proofs.Store.Gated

namespace RateCounter

/-! ## What was carried out -/

/-- The operation that was carried out, and the value it gave. -/
def Note.carried? (n : Note) : Option (Operation × Value) :=
  match n.what with
  | .tried op (.ok v) => some (op, v)
  | _ => none

/-- What was carried out, the latest first. -/
def Note.carried (notes : List Note) : List (Operation × Value) := notes.filterMap Note.carried?

theorem Note.carried_append (later earlier : List Note) :
    Note.carried (later ++ earlier) = Note.carried later ++ Note.carried earlier := List.filterMap_append ..

theorem Note.carried_of_none {notes : List Note} (h : ∀ n ∈ notes, n.carried? = none) : Note.carried notes = [] :=
  List.filterMap_eq_nil_iff.mpr h

/-- The notes of one call. -/
def Note.calledBy (k : Nat) (notes : List Note) : List Note := notes.filter fun n => n.caller == some k

theorem Note.calledBy_append (k : Nat) (later earlier : List Note) :
    Note.calledBy k (later ++ earlier) = Note.calledBy k later ++ Note.calledBy k earlier := List.filter_append ..

open Finset in
/-- Over all backends, the operations of a kind that were carried out. -/
theorem Note.sum_about {size : Nat} {notes : List Note} (p : Operation × Value → Bool)
    (hrange : ∀ n ∈ notes, n.carried? ≠ none → n.position < size) :
    ∑ i ∈ range size, (Note.carried (Note.about i notes)).countP p = (Note.carried notes).countP p := by
  induction notes with
  | nil => exact sum_const_zero
  | cons n notes ih =>
    have ih := ih fun n' hn' => hrange n' (List.mem_cons_of_mem _ hn')
    have hcons : ∀ notes, (Note.carried (n :: notes)).countP p =
        (Note.carried [n]).countP p + (Note.carried notes).countP p := fun notes => by
      rw [← List.countP_append, ← Note.carried_append, List.singleton_append]
    have hsplit : ∀ i, (Note.carried (Note.about i (n :: notes))).countP p =
        (if n.position = i then (Note.carried [n]).countP p else 0) + (Note.carried (Note.about i notes)).countP p := by
      intro i
      unfold Note.about
      by_cases hi : n.position = i
      · rw [List.filter_cons_of_pos (by simpa using hi), hcons, if_pos hi]
      · rw [List.filter_cons_of_neg (by simpa using hi), if_neg hi, Nat.zero_add]
    rw [sum_congr rfl fun i _ => hsplit i, sum_add_distrib, ih, hcons notes, sum_ite_eq]
    by_cases hn : n.carried? = none
    · rw [Note.carried_of_none fun n' hn' => List.mem_singleton.mp hn' ▸ hn]
      simp
    · rw [if_pos (mem_range.mpr (hrange n (List.mem_cons_self ..) hn))]

/-- A store becomes another by what the history tells was carried out. -/
inductive Executed (s₀ : Store) : List Note → Store → Prop
  | nil : Executed s₀ [] s₀
  | skip {n : Note} {earlier : List Note} {s : Store} : n.carried? = none → Executed s₀ earlier s →
      Executed s₀ (n :: earlier) s
  | perform {n : Note} {earlier : List Note} {s s' : Store} {op : Operation} {v : Value} :
      n.carried? = some (op, v) → Executed s₀ earlier s → s.perform op n.clock.wall = (s', .ok v) →
      Executed s₀ (n :: earlier) s'

theorem Executed.append {s₀ s s' : Store} {earlier later : List Note} (h : Executed s₀ earlier s)
    (h' : Executed s later s') : Executed s₀ (later ++ earlier) s' := by
  induction h' with
  | nil => exact h
  | skip hn _ ih => exact .skip hn ih
  | perform hn _ hp ih => exact .perform hn ih hp

theorem Executed.idle {notes : List Note} (hnotes : ∀ n ∈ notes, n.carried? = none) (s : Store) :
    Executed s notes s := by
  induction notes with
  | nil => exact .nil
  | cons n notes ih =>
    exact .skip (hnotes n (List.mem_cons_self ..)) (ih fun n' hn' => hnotes n' (List.mem_cons_of_mem _ hn'))

/-- Stores, by the positions of their backends, become others by what the notes tell. -/
def Replayed (notes : List Note) (ss ss' : List Store) : Prop :=
  ∀ (i : Nat) (s : Store), ss[i]? = some s → ∃ s', ss'[i]? = some s' ∧ Executed s (Note.about i notes) s'

namespace Replayed

variable {notes later : List Note} {ss ss' ss'' : List Store}

theorem idle (hnotes : ∀ n ∈ notes, n.carried? = none) (ss : List Store) : Replayed notes ss ss := fun _ s hs =>
  ⟨s, hs, .idle (fun n hn => hnotes n (Note.mem_about.mp hn).1) s⟩

theorem refl (ss : List Store) : Replayed [] ss ss := fun _ s hs => ⟨s, hs, .nil⟩

theorem append (h : Replayed notes ss ss') (h' : Replayed later ss' ss'') : Replayed (later ++ notes) ss ss'' := by
  intro i s hs
  obtain ⟨s', hs', hearlier⟩ := h i s hs
  obtain ⟨s'', hs'', hlater⟩ := h' i s' hs'
  exact ⟨s'', hs'', Note.about_append i later notes ▸ hearlier.append hlater⟩

/-- One operation at one store. -/
theorem one {n : Note} {op : Operation} {v : Value} {s s' : Store} (hn : n.carried? = some (op, v))
    (hs : ss[n.position]? = some s) (hp : s.perform op n.clock.wall = (s', .ok v)) :
    Replayed [n] ss (ss.set n.position s') := by
  intro i r hr
  by_cases hi : n.position = i
  · subst hi
    have hrs : r = s := Option.some.inj (hr.symm.trans hs)
    have hlt : n.position < ss.length := (List.getElem?_eq_some_iff.mp hs).1
    refine ⟨s', List.getElem?_set_self hlt, ?_⟩
    rw [hrs, Note.about_of_all fun n' hn' => List.mem_singleton.mp hn' ▸ rfl]
    exact .perform hn .nil hp
  · refine ⟨r, (List.getElem?_set_ne hi).trans hr, ?_⟩
    rw [Note.about_of_none fun n' hn' => List.mem_singleton.mp hn' ▸ hi]
    exact .nil

end Replayed

/-! ## Turns -/

namespace Monitor

variable {B : Backend} {store : B.State → Store}

/-- The stores of a list of backends. -/
def Watch.stores (store : B.State → Store) (w : Watch B) : List Store := w.backends.map store

theorem startChecks_stores (h : B.probe.Leaves store) (clock : Clock) {w : Watch B}
    (hsize : w.monitor.records.length = w.backends.length) : (startChecks clock w).1.stores store = w.stores store :=
  startChecks_views h clock hsize

theorem resumeChecks_stores (h : B.probe.Leaves store) (clock : Clock) (checks : Checks B) {w : Watch B}
    (hsize : w.monitor.records.length = w.backends.length) :
    (resumeChecks clock checks w).1.stores store = w.stores store :=
  resumeChecks_views h clock checks hsize

theorem abandonChecks_stores (h : B.probe.Leaves store) (checks : Checks B) {w : Watch B}
    (hsize : w.monitor.records.length = w.backends.length) : (abandonChecks checks w).stores store = w.stores store :=
  abandonChecks_views h checks hsize

theorem startNotes_carried {caller : Nat} {clock : Clock} {w : Watch B} :
    ∀ n ∈ startNotes caller clock w, n.carried? = none := by
  intro n hn
  obtain ⟨i, p, -, what, hwhat, rfl⟩ := mem_checkNotes hn
  unfold startIncidents at hwhat
  cases what with
  | tried op outcome => split at hwhat <;> simp at hwhat
  | _ => rfl

theorem resumeNotes_carried {caller : Nat} {clock : Clock} {checks : Checks B} {w : Watch B} :
    ∀ n ∈ resumeNotes caller clock checks w, n.carried? = none := by
  intro n hn
  obtain ⟨i, p, -, what, hwhat, rfl⟩ := mem_checkNotes hn
  cases what with
  | tried op outcome => cases hf : checks[i]?.join <;> simp [hf, pollIncidents] at hwhat
  | _ => rfl

end Monitor

namespace Failover

variable {B : Backend} {store : B.State → Store} {operation : B.operate.Flight → Operation} {caller : Nat}
  {clock : Clock} {op : Operation}

open Monitor (Checks)

/-- The stores of a group. -/
def stores (store : B.State → Store) (g : Failover B) : List Store := g.backends.map store

/-- An attempt under way is one at the operation that is under way. -/
def Execution.Faithful (operation : B.operate.Flight → Operation) : Execution B → Prop
  | .checking .. => True
  | .attempting op _ attempt _ _ => operation attempt.flight = op

/-- In a turn of an operation exactly that is carried out which is noted. -/
structure Lands (store : B.State → Store) (operation : B.operate.Flight → Operation) (notes : List Note)
    (g : Failover B) (p : Failover B × Turn (Execution B) Result) : Prop where
  replayed : Replayed notes (g.stores store) (p.1.stores store)
  faithful : ∀ x, p.2 = .waiting x → x.Faithful operation

theorem stores_setBackend (g : Failover B) (i : Nat) (b : B.State) :
    (g.setBackend i b).stores store = (g.stores store).set i (store b) := List.map_set ..

theorem stores_getElem? {g : Failover B} {i : Nat} {b : B.State} (hb : g.backends[i]? = some b) :
    (g.stores store)[i]? = some (store b) := by
  unfold stores
  rw [List.getElem?_map, hb]
  rfl

theorem views_kept {τ : Type} {view : B.State → τ} {g : Failover B} {i : Nat} {b b' : B.State}
    (hb : g.backends[i]? = some b) (hsame : view b' = view b) :
    (g.setBackend i b').backends.map view = g.backends.map view := by
  have hview : (g.backends.map view)[i]? = some (view b) := by
    rw [List.getElem?_map, hb]
    rfl
  obtain ⟨hlt, hget⟩ := List.getElem?_eq_some_iff.mp hview
  show (g.backends.set i b').map view = g.backends.map view
  rw [List.map_set, hsame, ← hget]
  exact List.set_getElem_self hlt

theorem stores_kept {g : Failover B} {i : Nat} {b b' : B.State} (hb : g.backends[i]? = some b)
    (hsame : store b' = store b) : (g.setBackend i b').stores store = g.stores store := views_kept hb hsame

theorem afterAttempt_lands {rest : List Nat}
    (hrest : ∀ (fs : List Failure) (g : Failover B),
      Lands store operation (tryNotes caller clock op (attempts g.timeout clock op rest g.backends)) g
        (tryEach clock op rest fs g))
    {i : Nat} (fs : List Failure) {g : Failover B} {b : B.State} (hb : g.backends[i]? = some b)
    {p : B.State × Turn (Service.Bounded B.operate.Flight) (Option Outcome)}
    (hp : Passed store (Gated.attempted operation) Gated.inTime? clock op b p) :
    Lands store operation (tryNotes caller clock op (attemptsAfter g.timeout clock op i rest g.backends p)) g
      (afterAttempt clock op i rest fs g p) := by
  obtain ⟨b', answer | attempt⟩ := p
  · simp only [afterAttempt, attemptsAfter]
    cases hout : outcomeOf op g.timeout answer with
    | ok value =>
      have hanswer : answer = some (.ok value) := by
        cases answer with
        | none => cases hout
        | some outcome => exact congrArg some hout
      have hperform : (store b).perform op clock.wall = (store b', .ok value) := by
        rw [hanswer] at hp
        exact hp
      refine ⟨?_, fun x hx => by cases hx⟩
      show Replayed _ (g.stores store) ((g.setBackend i b').stores store)
      rw [stores_setBackend]
      exact .one (n := ⟨some caller, i, clock, .tried op (.ok value)⟩) rfl (stores_getElem? hb) hperform
    | error e =>
      have hsame : store b' = store b := by
        cases answer with
        | none => exact hp
        | some outcome =>
          have hfail : outcome = .error e := hout
          rw [hfail] at hp
          exact hp
      have hlands := hrest (fs ++ [⟨g.nameAt i, e⟩]) ((g.setBackend i b').failAt i e)
      refine ⟨?_, hlands.faithful⟩
      rw [tryNotes_cons]
      have hkept : ((g.setBackend i b').failAt i e).stores store = g.stores store := stores_kept hb hsame
      refine .append (.idle (fun n hn => ?_) (g.stores store)) (hkept ▸ hlands.replayed)
      rw [List.mem_singleton.mp hn]
      rfl
  · refine ⟨?_, fun x hx => ?_⟩
    · show Replayed [] (g.stores store) ((g.setBackend i b').stores store)
      rw [stores_kept hb hp.2]
      exact .refl _
    · cases hx
      exact hp.1

theorem lands_unchanged {g : Failover B} {result : Result} :
    Lands store operation [] g (g, .done result) :=
  ⟨.refl _, nofun⟩

theorem tryEach_lands (hB : Gated B store operation) (caller : Nat) (clock : Clock) (op : Operation) (cs : List Nat)
    (fs : List Failure) (g : Failover B) :
    Lands store operation (tryNotes caller clock op (attempts g.timeout clock op cs g.backends)) g
      (tryEach clock op cs fs g) := by
  induction cs generalizing fs g with
  | nil => exact lands_unchanged
  | cons i cs ih =>
    cases hb : g.backends[i]? with
    | none =>
      simp only [tryEach, attempts, hb]
      exact ih fs g
    | some b =>
      rw [tryEach_cons clock op cs fs hb, attempts_cons g.timeout clock op cs hb]
      exact afterAttempt_lands ih fs hb (hB.within_start g.timeout clock op b)

/-- After a turn of the checks, which has left the stores alone. -/
theorem afterChecks_lands (hB : Gated B store operation) (caller : Nat) (clock : Clock) (op : Operation)
    {notes : List Note} (hnotes : ∀ n ∈ notes, n.carried? = none) {g : Failover B}
    {p : Failover B × Turn (Checks B) Unit} (hstores : p.1.stores store = g.stores store) :
    Lands store operation (tryNotes caller clock op (triesAfter clock op p) ++ notes) g (afterChecks clock op p) := by
  have hbefore : Replayed notes (g.stores store) (p.1.stores store) := hstores ▸ .idle hnotes _
  obtain ⟨g₁, u | checks⟩ := p
  · have hlands := tryEach_lands hB caller clock op (g₁.rotation.candidates g₁.monitor.flags).1 []
      { g₁ with rotation := (g₁.rotation.candidates g₁.monitor.flags).2 }
    exact ⟨hbefore.append hlands.replayed, hlands.faithful⟩
  · refine ⟨hbefore, fun x hx => ?_⟩
    cases hx
    trivial

theorem start_lands (hB : Gated B store operation) (caller : Nat) (clock : Clock) (op : Operation) {g : Failover B}
    (hsize : g.monitor.records.length = g.backends.length) :
    Lands store operation (startNotes caller clock op g) g ((operate B).start clock op g) := by
  unfold startNotes startTries
  cases hop : refusal? op with
  | some e =>
    rw [startOperation_refused hop]
    exact lands_unchanged
  | none =>
    rw [startOperation_accepted hop]
    exact afterChecks_lands hB caller clock op Monitor.startNotes_carried
      (Monitor.startChecks_stores hB.probe clock hsize)

theorem resume_lands (hB : Gated B store operation) (caller : Nat) (clock : Clock) {x : Execution B} {g : Failover B}
    (hx : x.Faithful operation) (hsize : g.monitor.records.length = g.backends.length) :
    Lands store operation (resumeNotes caller clock x g) g ((operate B).resume clock x g) := by
  cases x with
  | checking op checks =>
    exact afterChecks_lands hB caller clock op Monitor.resumeNotes_carried
      (Monitor.resumeChecks_stores hB.probe clock checks hsize)
  | attempting op i attempt rest fs =>
    have hlands : Lands store operation
        (tryNotes caller clock op (resumeTries clock (.attempting op i attempt rest fs) g)) g
        ((operate B).resume clock (.attempting op i attempt rest fs) g) := by
      simp only [operate, resumeOperation, resumeTries]
      cases hb : g.backends[i]? with
      | none => exact tryEach_lands hB caller clock op rest fs g
      | some b =>
        have hop : operation attempt.flight = op := hx
        exact afterAttempt_lands (tryEach_lands hB caller clock op rest) fs hb
          (hop ▸ hB.within_resume g.timeout clock attempt b)
    unfold resumeNotes
    rw [List.append_nil]
    exact hlands

theorem abandon_stores (hB : Gated B store operation) (x : Execution B) {g : Failover B}
    (hsize : g.monitor.records.length = g.backends.length) :
    ((operate B).abandon x g).stores store = g.stores store := by
  cases x with
  | checking op checks => exact Monitor.abandonChecks_stores hB.probe checks hsize
  | attempting op i attempt rest fs =>
    simp only [operate, abandonOperation]
    cases hb : g.backends[i]? with
    | none => rfl
    | some b => exact stores_kept hb (hB.abandon attempt.flight b)

/-- A turn carries out what the operation returns, if it returns a value, and nothing else. -/
theorem carried_turn {tries : List Try} {turn : Turn (Execution B) Result} (h : Ended op tries turn)
    {notes : List Note} (hnotes : ∀ n ∈ notes, n.carried? = none) :
    Note.carried (tryNotes caller clock op tries ++ notes) = ((value? turn).map fun v => (op, v)).toList := by
  have htries : ∀ tries, Note.carried (tryNotes caller clock op tries) =
      ((values tries).map fun v => (op, v)).reverse := by
    intro tries
    induction tries with
    | nil => rfl
    | cons t tries ih =>
      rw [tryNotes_cons, Note.carried_append, ih]
      obtain ⟨i, e | v⟩ := t
      · exact List.append_nil _
      · exact List.reverse_cons.symm
  rw [Note.carried_append, htries, h.values, Note.carried_of_none hnotes, List.append_nil]
  cases value? turn <;> rfl

theorem carried_startNotes (caller : Nat) (clock : Clock) (op : Operation) (g : Failover B) :
    Note.carried (startNotes caller clock op g) =
      ((value? ((operate B).start clock op g).2).map fun v => (op, v)).toList := by
  refine carried_turn (start_ended clock op g) fun n hn => ?_
  cases hop : refusal? op with
  | some e =>
    rw [hop] at hn
    exact nomatch hn
  | none =>
    rw [hop] at hn
    exact Monitor.startNotes_carried n hn

theorem carried_resumeNotes (caller : Nat) (clock : Clock) (x : Execution B) (g : Failover B) :
    Note.carried (resumeNotes caller clock x g) =
      ((value? ((operate B).resume clock x g).2).map fun v => (x.operation, v)).toList := by
  refine carried_turn (resume_ended clock x g) fun n hn => ?_
  cases x with
  | checking op checks => exact Monitor.resumeNotes_carried n hn
  | attempting op i attempt rest fs => exact nomatch hn

end Failover

theorem Note.carried?_cut {n : Note} (h : n.what = .cut) : n.carried? = none := by
  unfold Note.carried?
  rw [h]

/-! ## Traffic -/

open Failover (Execution Result)

/-- The operation and the value it returned. -/
def Caller.value? {B : Backend} : Caller B → Option (Operation × Value)
  | .returned op (.ok v) => some (op, v)
  | _ => none

theorem Caller.value?_ofOperation {B : Backend} (op : Operation) (turn : Turn (Failover.operate B).Flight Result) :
    (ofOperation op turn).value? = (Failover.value? (B := B) turn).map fun v => (op, v) := by
  obtain ⟨e | v⟩ | x := turn <;> rfl

theorem Caller.ofOperation_eq {B : Backend} {op : Operation} {turn : Turn (Failover.operate B).Flight Result}
    {x : Execution B} (h : ofOperation op turn = .operating x) : turn = .waiting x := by
  cases turn with
  | done result => exact nomatch h
  | waiting y => exact congrArg Turn.waiting (Caller.operating.inj h)

theorem Caller.value?_ofRefresh {B : Backend} (turn : Turn (Failover.refresh B).Flight Unit) :
    (ofRefresh turn).value? = none := by
  cases turn <;> rfl

theorem Caller.ofRefresh_ne {B : Backend} (turn : Turn (Failover.refresh B).Flight Unit) (x : Execution B) :
    ofRefresh turn ≠ .operating x := by
  cases turn <;> nofun

namespace Traffic

variable {B : Backend} {store : B.State → Store} {operation : B.operate.Flight → Operation} {ss₀ : List Store}
  {m₀ : Monitor} {t : Traffic B}

/-- Between the log and the calls, whatever the backends are. -/
structure Booked (t : Traffic B) : Prop where
  carried : ∀ (k : Nat) (c : Caller B), t.callers[k]? = some c → Note.carried (Note.calledBy k t.log) = c.value?.toList
  counted : ∀ p, (Note.carried t.log).countP p = t.callers.countP fun c => c.value?.any p

theorem Booked.moved (h : Booked t) (hkept : Kept m₀ t) {k : Nat} {notes : List Note} {g : Failover B} {c : Caller B}
    (hk : k ≤ t.callers.length)
    (hturned : Monitor.Turned k t.clock notes (t.checksOf k) c.checks t.group.watch g.watch)
    (hcarried : Note.carried notes = c.value?.toList)
    (hwaits : ∀ c₀, t.callers[k]? = some c₀ → c₀.value? = none) : Booked (t.moved k notes g c) where
  carried j c' hj := by
    show Note.carried (Note.calledBy j (notes ++ t.log)) = c'.value?.toList
    rw [Note.calledBy_append, Note.carried_append]
    rcases place_cases hk hj with ⟨rfl, rfl⟩ | ⟨hjk, hold⟩
    · have hall : Note.calledBy j notes = notes := List.filter_eq_self.mpr fun n hn => by
        simp [(hturned.stamped n hn).1]
      have hnone : Note.carried (Note.calledBy j t.log) = [] := by
        cases hc₀ : t.callers[j]? with
        | some c₀ => rw [h.carried j c₀ hc₀, hwaits c₀ hc₀]; rfl
        | none =>
          refine Note.carried_of_none fun n hn => ?_
          obtain ⟨hn, hcaller⟩ := List.mem_filter.mp hn
          have hlt := hkept.numbers n hn j (by simpa using hcaller)
          exact absurd hlt (Nat.not_lt.mpr (List.getElem?_eq_none_iff.mp hc₀))
      rw [hall, hnone, List.append_nil, hcarried]
    · have hnone : Note.calledBy j notes = [] := List.filter_eq_nil_iff.mpr fun n hn => by
        rw [(hturned.stamped n hn).1]
        simpa using Ne.symm hjk
      rw [hnone]
      exact h.carried j c' hold
  counted p := by
    have hcount := countP_place hk c fun c => c.value?.any p
    have hbefore : ((t.callers[k]?.map fun c => c.value?.any p).getD false) = false := by
      cases hc₀ : t.callers[k]? with
      | none => rfl
      | some c₀ => rw [Option.map_some, hwaits c₀ hc₀]; rfl
    have hnew : (Note.carried notes).countP p = (c.value?.any p).toNat := by
      rw [hcarried]
      cases c.value? with
      | none => rfl
      | some v => cases hp : p v <;> simp [hp]
    rw [hbefore, Bool.toNat_false, Nat.add_zero] at hcount
    show (Note.carried (notes ++ t.log)).countP p = (place k c t.callers).countP fun c => c.value?.any p
    rw [Note.carried_append, List.countP_append, hnew, h.counted p, hcount, Nat.add_comm]

/-- A call that carries nothing out. -/
theorem Booked.passed (h : Booked t) (hkept : Kept m₀ t) {k : Nat} {notes : List Note} {g : Failover B} {c : Caller B}
    (hk : k ≤ t.callers.length)
    (hturned : Monitor.Turned k t.clock notes (t.checksOf k) c.checks t.group.watch g.watch)
    (hnotes : ∀ n ∈ notes, n.carried? = none) (hwaits : ∀ c₀, t.callers[k]? = some c₀ → c₀.value? = none)
    (hvalue : c.value? = none) : Booked (t.moved k notes g c) := by
  refine h.moved hkept hk hturned ?_ hwaits
  rw [hvalue, Note.carried_of_none hnotes]
  rfl

theorem value?_new (t : Traffic B) (c₀ : Caller B) (h : t.callers[t.callers.length]? = some c₀) : c₀.value? = none := by
  rw [List.getElem?_eq_none (Nat.le_refl _)] at h
  exact nomatch h

theorem Booked.resumed (h : Booked t) (hkept : Kept m₀ t) {k : Nat} {c : Caller B} (hk : t.callers[k]? = some c) :
    Booked (t.resumed k c) := by
  have hle := number_le hk
  have hsame : ∀ c₀, t.callers[k]? = some c₀ → c₀ = c := fun c₀ hc₀ => Option.some.inj (hc₀.symm.trans hk)
  cases c with
  | operating x =>
    refine h.moved hkept hle (hkept.operating_turned hk) ?_ fun c₀ hc₀ => hsame c₀ hc₀ ▸ rfl
    rw [Caller.value?_ofOperation]
    exact Failover.carried_resumeNotes ..
  | refreshing checks =>
    exact h.passed hkept hle (hkept.refreshing_turned hk) Monitor.resumeNotes_carried (fun c₀ hc₀ => hsame c₀ hc₀ ▸ rfl)
      (Caller.value?_ofRefresh _)
  | returned op result => exact h
  | refreshed => exact h
  | dropped => exact h

theorem Booked.abandoned (h : Booked t) (hkept : Kept m₀ t) {k : Nat} {c : Caller B} (hk : t.callers[k]? = some c) :
    Booked (t.abandoned k c) := by
  have hle := number_le hk
  have hsame : ∀ c₀, t.callers[k]? = some c₀ → c₀ = c := fun c₀ hc₀ => Option.some.inj (hc₀.symm.trans hk)
  cases c with
  | operating x =>
    exact h.passed hkept hle (hkept.operating_abandoned hk)
      (fun n hn => Note.carried?_cut (Failover.mem_abandonNotes hn)) (fun c₀ hc₀ => hsame c₀ hc₀ ▸ rfl) rfl
  | refreshing checks =>
    exact h.passed hkept hle (hkept.refreshing_abandoned hk)
      (fun n hn => Note.carried?_cut (Monitor.mem_abandonNotes hn)) (fun c₀ hc₀ => hsame c₀ hc₀ ▸ rfl) rfl
  | returned op result => exact h
  | refreshed => exact h
  | dropped => exact h

theorem Booked.after (h : Booked t) (hkept : Kept m₀ t) (move : Move B) : Booked (t.after move) := by
  cases move with
  | operate op =>
    refine h.moved hkept (Nat.le_refl _) (t.operate_turned op) ?_ t.value?_new
    rw [Caller.value?_ofOperation]
    exact Failover.carried_startNotes ..
  | refresh =>
    exact h.passed hkept (Nat.le_refl _) t.refresh_turned Monitor.startNotes_carried t.value?_new
      (Caller.value?_ofRefresh _)
  | turn k =>
    show Booked (t.callers[k]?.elim t (t.resumed k))
    cases hk : t.callers[k]? with
    | none => exact h
    | some c => exact h.resumed hkept hk
  | drop k =>
    show Booked (t.callers[k]?.elim t (t.abandoned k))
    cases hk : t.callers[k]? with
    | none => exact h
    | some c => exact h.abandoned hkept hk
  | report i result => exact ⟨h.carried, h.counted⟩
  | outside change => exact ⟨h.carried, h.counted⟩
  | pass elapsed wall => exact ⟨h.carried, h.counted⟩

theorem Booked.run (h : Booked t) (hkept : Kept m₀ t) (h₀ : Fresh m₀) (moves : List (Move B)) :
    Booked (t.run moves) := by
  induction moves generalizing t with
  | nil => exact h
  | cons move moves ih => exact ih (h.after hkept move) (hkept.after h₀ move)

theorem booked_opened (g : Failover B) (interval timeout threshold : Nat) (clock : Clock) :
    Booked (opened g interval timeout threshold clock) where
  carried _ _ hk := nomatch hk
  counted _ := rfl

/-- Between the stores, the log and the calls, from the stores `ss₀` on. -/
structure Landed (store : B.State → Store) (operation : B.operate.Flight → Operation) (ss₀ : List Store)
    (t : Traffic B) : Prop where
  replayed : Replayed t.log ss₀ (t.group.stores store)
  faithful : ∀ (k : Nat) (x : Execution B), t.callers[k]? = some (.operating x) → x.Faithful operation
  carried : ∀ (k : Nat) (c : Caller B), t.callers[k]? = some c → Note.carried (Note.calledBy k t.log) = c.value?.toList
  counted : ∀ p, (Note.carried t.log).countP p = t.callers.countP fun c => c.value?.any p
  inRange : ∀ n ∈ t.log, n.carried? ≠ none → n.position < t.group.backends.length

theorem Landed.booked (h : Landed store operation ss₀ t) : Booked t := ⟨h.carried, h.counted⟩

theorem Landed.moved (h : Landed store operation ss₀ t) {k : Nat} {notes : List Note} {g : Failover B} {c : Caller B}
    (hbooked : Booked (t.moved k notes g c)) (hk : k ≤ t.callers.length)
    (hturned : Monitor.Turned k t.clock notes (t.checksOf k) c.checks t.group.watch g.watch)
    (hreplayed : Replayed notes (t.group.stores store) (g.stores store))
    (hfaithful : ∀ x, c = .operating x → x.Faithful operation) : Landed store operation ss₀ (t.moved k notes g c) where
  replayed := h.replayed.append hreplayed
  faithful j x hj := by
    rcases place_cases hk hj with ⟨-, hc⟩ | ⟨-, hold⟩
    · exact hfaithful x hc.symm
    · exact h.faithful j x hold
  carried := hbooked.carried
  counted := hbooked.counted
  inRange n hn hcarried := by
    have hlen : g.backends.length = t.group.backends.length := hturned.backends
    show n.position < g.backends.length
    rw [hlen]
    rcases List.mem_append.mp hn with hn | hn
    · exact (hturned.stamped n hn).2.1
    · exact h.inRange n hn hcarried

/-- A call that leaves the stores alone. -/
theorem Landed.passed (h : Landed store operation ss₀ t) {k : Nat} {notes : List Note} {g : Failover B} {c : Caller B}
    (hbooked : Booked (t.moved k notes g c)) (hk : k ≤ t.callers.length)
    (hturned : Monitor.Turned k t.clock notes (t.checksOf k) c.checks t.group.watch g.watch)
    (hstores : g.stores store = t.group.stores store) (hnotes : ∀ n ∈ notes, n.carried? = none)
    (hover : ∀ x, c ≠ .operating x) : Landed store operation ss₀ (t.moved k notes g c) :=
  h.moved hbooked hk hturned (hstores ▸ .idle hnotes _) fun x hx => absurd hx (hover x)

theorem Landed.resumed (h : Landed store operation ss₀ t) (hB : Gated B store operation) (hkept : Kept m₀ t) {k : Nat}
    {c : Caller B} (hk : t.callers[k]? = some c) : Landed store operation ss₀ (t.resumed k c) := by
  have hbooked := h.booked.resumed hkept hk
  cases c with
  | operating x =>
    have hlands := Failover.resume_lands hB k t.clock (h.faithful k x hk) hkept.size
    exact h.moved hbooked (number_le hk) (hkept.operating_turned hk) hlands.replayed
      fun y hy => hlands.faithful y (Caller.ofOperation_eq hy)
  | refreshing checks =>
    exact h.passed hbooked (number_le hk) (hkept.refreshing_turned hk)
      (Monitor.resumeChecks_stores hB.probe t.clock checks hkept.size) Monitor.resumeNotes_carried
      (Caller.ofRefresh_ne _)
  | returned op result => exact h
  | refreshed => exact h
  | dropped => exact h

theorem Landed.abandoned (h : Landed store operation ss₀ t) (hB : Gated B store operation) (hkept : Kept m₀ t) {k : Nat}
    {c : Caller B} (hk : t.callers[k]? = some c) : Landed store operation ss₀ (t.abandoned k c) := by
  have hbooked := h.booked.abandoned hkept hk
  cases c with
  | operating x =>
    exact h.passed hbooked (number_le hk) (hkept.operating_abandoned hk) (Failover.abandon_stores hB x hkept.size)
      (fun n hn => Note.carried?_cut (Failover.mem_abandonNotes hn)) nofun
  | refreshing checks =>
    exact h.passed hbooked (number_le hk) (hkept.refreshing_abandoned hk)
      (Monitor.abandonChecks_stores hB.probe checks hkept.size)
      (fun n hn => Note.carried?_cut (Monitor.mem_abandonNotes hn)) nofun
  | returned op result => exact h
  | refreshed => exact h
  | dropped => exact h

theorem Landed.reported (h : Landed store operation ss₀ t) (i : Nat) (result : Except BackendError Unit) :
    Landed store operation ss₀ (t.reported i result) := by
  have hnone : ∀ n ∈ [(⟨none, i, t.clock, .reported result⟩ : Note)], n.carried? = none := fun n hn => by
    rw [List.mem_singleton.mp hn]
    rfl
  have hbackends : (t.reported i result).group.backends = t.group.backends := by cases result <;> rfl
  have hstores : (t.reported i result).group.stores store = t.group.stores store := congrArg (List.map store) hbackends
  refine ⟨hstores ▸ h.replayed.append (.idle hnone _), h.faithful, h.carried, h.counted, fun n hn hcarried => ?_⟩
  rw [hbackends]
  rcases List.mem_cons.mp hn with rfl | hn
  · exact absurd rfl hcarried
  · exact h.inRange n hn hcarried

/-- A move that does not change the stores from outside. -/
def Spares (store : B.State → Store) : Move B → Prop
  | .outside change => ∀ i b, store (change i b) = store b
  | _ => True

theorem Landed.after (h : Landed store operation ss₀ t) (hB : Gated B store operation) (hkept : Kept m₀ t)
    {move : Move B} (hmove : Spares store move) : Landed store operation ss₀ (t.after move) := by
  cases move with
  | operate op =>
    have hlands := Failover.start_lands hB t.callers.length t.clock op hkept.size
    exact h.moved (h.booked.after hkept (.operate op)) (Nat.le_refl _) (t.operate_turned op) hlands.replayed
      fun x hx => hlands.faithful x (Caller.ofOperation_eq hx)
  | refresh =>
    exact h.passed (h.booked.after hkept .refresh) (Nat.le_refl _) t.refresh_turned
      (Monitor.startChecks_stores hB.probe t.clock hkept.size) Monitor.startNotes_carried (Caller.ofRefresh_ne _)
  | turn k =>
    show Landed store operation ss₀ (t.callers[k]?.elim t (t.resumed k))
    cases hk : t.callers[k]? with
    | none => exact h
    | some c => exact h.resumed hB hkept hk
  | drop k =>
    show Landed store operation ss₀ (t.callers[k]?.elim t (t.abandoned k))
    cases hk : t.callers[k]? with
    | none => exact h
    | some c => exact h.abandoned hB hkept hk
  | report i result => exact h.reported i result
  | outside change =>
    have hstores : (t.group.backends.mapIdx change).map store = t.group.backends.map store := by
      refine List.ext_getElem? fun i => ?_
      rw [List.getElem?_map, List.getElem?_map, List.getElem?_mapIdx, Option.map_map]
      exact congrArg (Option.map · _) (funext fun b => hmove i b)
    have hlen : (t.group.backends.mapIdx change).length = t.group.backends.length := List.length_mapIdx ..
    exact ⟨(show Replayed t.log ss₀ ((t.group.backends.mapIdx change).map store) from hstores ▸ h.replayed), h.faithful,
      h.carried, h.counted, fun n hn hcarried => hlen ▸ h.inRange n hn hcarried⟩
  | pass elapsed wall => exact ⟨h.replayed, h.faithful, h.carried, h.counted, h.inRange⟩

theorem Landed.run (h : Landed store operation ss₀ t) (hB : Gated B store operation) (hkept : Kept m₀ t) (h₀ : Fresh m₀)
    {moves : List (Move B)} (hmoves : ∀ move ∈ moves, Spares store move) :
    Landed store operation ss₀ (t.run moves) := by
  induction moves generalizing t with
  | nil => exact h
  | cons move moves ih =>
    have hafter := h.after hB hkept (hmoves move (List.mem_cons_self ..))
    exact ih hafter (hkept.after h₀ move) fun m hm => hmoves m (List.mem_cons_of_mem _ hm)

theorem landed_opened (store : B.State → Store) (operation : B.operate.Flight → Operation) (g : Failover B)
    (interval timeout threshold : Nat) (clock : Clock) :
    Landed store operation (g.backends.map store) (opened g interval timeout threshold clock) where
  replayed := .refl _
  faithful _ _ hk := nomatch hk
  carried _ _ hk := nomatch hk
  counted _ := rfl
  inRange _ hn := nomatch hn

/-- A hit of the key. -/
def isHitOf (key : String) : Operation × Value → Bool
  | (.increment k _, _) => k == key
  | _ => false

/-- What was carried out is what was returned. -/
structure LandsOnce (store : B.State → Store) (backends : List B.State) (t : Traffic B) : Prop where
  executed : ∀ (i : Nat) (b₀ : B.State), backends[i]? = some b₀ →
    ∃ b, t.group.backends[i]? = some b ∧ Executed (store b₀) (Note.about i t.log) (store b)
  /-- For a call that has returned a value, once what it returned; for any other nothing. -/
  carried : ∀ (k : Nat) (c : Caller B), t.callers[k]? = some c → Note.carried (Note.calledBy k t.log) = c.value?.toList
  inRange : ∀ n ∈ t.log, n.carried? ≠ none → n.position < backends.length
  total : ∀ key, ∑ i ∈ Finset.range backends.length, (Note.carried (Note.about i t.log)).countP (isHitOf key) =
    t.callers.countP fun c => c.value?.any (isHitOf key)

/-- Any group of such backends, any calls in any order, and faults that change meanwhile. -/
theorem every_hit_lands_once (hB : Gated B store operation) (g : Failover B) (interval timeout threshold : Nat)
    (clock : Clock) {moves : List (Move B)} (hmoves : ∀ move ∈ moves, Spares store move) :
    LandsOnce store g.backends ((opened g interval timeout threshold clock).run moves) := by
  have h₀ := fresh_start g.backends.length interval timeout threshold
  have hopened := kept_opened g interval timeout threshold clock
  have hkept := hopened.run h₀ moves
  have h := (landed_opened store operation g interval timeout threshold clock).run hB hopened h₀ hmoves
  generalize (opened g interval timeout threshold clock).run moves = t at hkept h
  have hsize : t.group.backends.length = g.backends.length := hkept.backends.trans List.length_replicate
  have hrange : ∀ n ∈ t.log, n.carried? ≠ none → n.position < g.backends.length := hsize ▸ h.inRange
  refine ⟨fun i b₀ hb₀ => ?_, h.carried, hrange, fun key => ?_⟩
  · obtain ⟨s, hs, hexecuted⟩ := h.replayed i (store b₀) (by rw [List.getElem?_map, hb₀]; rfl)
    obtain ⟨b, hb, rfl⟩ := Option.map_eq_some_iff.mp ((List.getElem?_map ..).symm.trans hs)
    exact ⟨b, hb, hexecuted⟩
  · exact (Note.sum_about (isHitOf key) hrange).trans (h.counted (isHitOf key))

open Simulation (Faults FaultyStore)

/-- Sets the faults of the second of two stores. -/
def setSecond (faults : Faults) : Nat → FaultyStore → FaultyStore
  | 1, s => { s with faults := faults }
  | _, s => s

theorem setSecond_store (faults : Faults) (i : Nat) (s : FaultyStore) : (setSecond faults i s).store = s.store := by
  unfold setSecond
  split <;> rfl

def hit : Operation := .increment "k" (seconds 60)

/-- Three hits on two stores of which the first hangs and the second fails for a while. -/
def failingMeanwhile : List (Move FaultyStore.backend) :=
  [.operate hit, .operate hit, .pass (millis 500) 0, .turn 0,
    .outside (setSecond { Faults.none with fail := some (.internal "disk full") }), .pass (seconds 5) 0, .turn 1,
    .outside (setSecond Faults.none), .operate hit, .pass (seconds 5) 0, .turn 2]

theorem every_hit_lands_once_failingMeanwhile :
    Gated FaultyStore.backend FaultyStore.store FaultyStore.Held.op ∧
      (∀ move ∈ failingMeanwhile, Spares FaultyStore.store move) ∧
      LandsOnce FaultyStore.store Failover.hangingPair.backends
        ((opened Failover.hangingPair (seconds 10) (millis 500) 1 ⟨0, 0⟩).run failingMeanwhile) := by
  have hmoves : ∀ move ∈ failingMeanwhile, Spares FaultyStore.store move := by
    simp only [failingMeanwhile, List.forall_mem_cons, Spares, true_and]
    exact ⟨setSecond_store _, setSecond_store _, nofun⟩
  exact ⟨FaultyStore.gated, hmoves,
    every_hit_lands_once FaultyStore.gated Failover.hangingPair (seconds 10) (millis 500) 1 ⟨0, 0⟩ hmoves⟩

/-- The second hit was tried at both stores, but carried out at neither. -/
example : ((opened Failover.hangingPair (seconds 10) (millis 500) 1 ⟨0, 0⟩).run failingMeanwhile).callers.map
    Caller.value? = [some (hit, .count 1), none, some (hit, .count 2)] := by
  cbv

end Traffic

end RateCounter
