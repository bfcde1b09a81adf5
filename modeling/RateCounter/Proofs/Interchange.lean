/-
  RateCounter.Proofs.Interchange — a store in memory and a mesh of one node give the same
  answers.

  Both are compared with a ledger. A node answers as the ledger that holds for its view
  (`Mesh.Node.answers_ledger`). A store agrees with a ledger at a time (`Agree`) if both have
  the same open windows, a shared one in milliseconds being read as one in nanoseconds; it
  then answers as the ledger does and agrees with it again (`Agree.perform`).

  The two differ in what a reset does: the store forgets the window, the ledger puts a marker
  that hides windows started until then. As long as the next hit or reset of the key comes at
  least a millisecond later, its time is after the marker, and the marker puts nothing off.

  - `interchangeable`: calls in whole milliseconds, at times that never go back, and so
    spaced, are answered alike by a store, however often it sweeps, and a node on its own.
-/

import RateCounter.Proofs.Mesh.Transparency
import RateCounter.Proofs.Store.Open

namespace RateCounter

open Mesh (Ledger Tally SharedWindow IsTime maxTime minTime addTime)

/-! ## Whole milliseconds -/

namespace Instant

theorem toMillis_ofMillis (ms : Int) : toMillis (ofMillis ms) = ms := by
  unfold toMillis ofMillis
  exact Int.mul_fdiv_cancel ms (by decide)

theorem ofMillis_le_iff {a b : Int} : ofMillis a ≤ ofMillis b ↔ a ≤ b :=
  Int.mul_le_mul_right (by decide)

theorem ofMillis_lt_iff {a b : Int} : ofMillis a < ofMillis b ↔ a < b :=
  Int.mul_lt_mul_right (by decide)

theorem ofMillis_add (a b : Int) : ofMillis (a + b) = ofMillis a + ofMillis b := Int.add_mul a b _

theorem exists_ofMillis {t : Int} (h : (nanosPerMilli : Int) ∣ t) : ∃ ms, t = ofMillis ms := by
  obtain ⟨ms, rfl⟩ := h
  exact ⟨ms, Int.mul_comm _ _⟩

end Instant

open Instant (Representable ofMillis toMillis ofMillis_le_iff ofMillis_lt_iff toMillis_ofMillis exists_ofMillis)

/-! ## Calls -/

namespace Operation

/-- It is a hit or a reset of the key. -/
def Changes (key : String) : Operation → Prop
  | increment k _ => k = key
  | reset k => k = key
  | _ => False

instance (key : String) : (op : Operation) → Decidable (op.Changes key)
  | increment k _ | reset k => inferInstanceAs (Decidable (k = key))
  | count _ | resetTime _ => inferInstanceAs (Decidable False)

/-- A window that can be opened at `now`, its length a whole number of milliseconds. -/
def InMillis (now : Instant) : Operation → Prop
  | increment _ window =>
    (0 < window ∧ window ≤ maxWindow) ∧ nanosPerMilli ∣ window ∧ Representable (now + window)
  | _ => True

instance (now : Instant) : (op : Operation) → Decidable (op.InMillis now)
  | increment _ _ => inferInstanceAs (Decidable (_ ∧ _ ∧ _))
  | count _ | resetTime _ | reset _ => inferInstanceAs (Decidable True)

end Operation

/-- A call at a time in whole milliseconds. -/
def InMillis (call : Instant × Operation) : Prop :=
  (Representable call.1 ∧ (nanosPerMilli : Int) ∣ call.1) ∧ call.2.InMillis call.1

instance (call : Instant × Operation) : Decidable (InMillis call) := inferInstanceAs (Decidable (_ ∧ _))

/-- If the first call is a reset, a hit or reset of its key comes at least a millisecond later. -/
def Spaced (a b : Instant × Operation) : Prop :=
  match a.2 with
  | .reset key => b.2.Changes key → a.1 + nanosPerMilli ≤ b.1
  | _ => True

instance : (a b : Instant × Operation) → Decidable (Spaced a b)
  | (t, .reset key), b => inferInstanceAs (Decidable (b.2.Changes key → t + nanosPerMilli ≤ b.1))
  | (_, .increment _ _), _ | (_, .count _), _ | (_, .resetTime _), _ => inferInstanceAs (Decidable True)

/-- The answers of a store. -/
def Store.answers (s : Store) : List (Instant × Operation) → List Outcome
  | [] => []
  | (now, op) :: rest => (s.perform op now).2 :: Store.answers (s.perform op now).1 rest

/-! ## Windows -/

namespace Mesh

theorem addTime_eq {a b : Int} (h : IsTime (a + b)) : addTime a b = a + b := by
  obtain ⟨hlow, hhigh⟩ := h
  unfold addTime
  omega

/-- After the newest marker a window is opened at once. -/
theorem View.opening_of_lt {marker : Option Int} {now : Int} (hmarker : ∀ m, marker = some m → m < now)
    (hnow : IsTime now) : opening marker now = now := by
  cases marker with
  | none => rfl
  | some m =>
    have hlt := hmarker m rfl
    obtain ⟨hlow, hhigh⟩ := hnow
    show max now (addTime m 1) = now
    unfold addTime
    omega

theorem Node.ofMillis_lengthOf {window : Nat} (hpos : 0 < window) (hdvd : nanosPerMilli ∣ window) :
    ofMillis (lengthOf window) = window ∧ 1 ≤ lengthOf window := by
  obtain ⟨ms, rfl⟩ := hdvd
  have hlength : lengthOf (nanosPerMilli * ms) = ms ∧ 1 ≤ ms := by
    unfold lengthOf nanosPerMilli at *
    omega
  rw [hlength.1]
  refine ⟨?_, Int.ofNat_le.mpr hlength.2⟩
  rw [Nat.mul_comm, Int.natCast_mul]
  rfl

namespace Ledger

variable (l : Ledger) (key : String) (now : Instant)

theorem perform_increment {window : Nat} (haccept : Window.accept window = .ok window) :
    l.perform (.increment key window) now =
      (l.set key { l key with window := some ((l key).hit (Node.lengthOf window) now.toMillis) },
        .ok (.count ((l key).hit (Node.lengthOf window) now.toMillis).total)) := by
  unfold perform
  dsimp only
  rw [haccept]

theorem perform_resetTime_state : (l.perform (.resetTime key) now).1 = l := by
  unfold perform
  dsimp only
  split <;> rfl

/-- Only a reset moves a marker. -/
theorem perform_marker (op : Operation) : ((l.perform op now).1 key).marker =
    if op = .reset key then some (View.opening (l key).marker now.toMillis) else (l key).marker := by
  have hset (k : String) (t : Tally) : (l.set k t key).marker = if k = key then t.marker else (l key).marker := by
    unfold set
    split <;> rfl
  cases op with
  | increment k window =>
    rw [if_neg (by simp)]
    unfold perform
    dsimp only
    split
    · rfl
    · rw [hset]
      split
      · rename_i hkey
        rw [hkey]
      · rfl
  | reset k =>
    show (l.set k _ key).marker = _
    rw [hset]
    by_cases hkey : k = key
    · rw [if_pos hkey, if_pos (by rw [hkey]), hkey]
    · rw [if_neg hkey, if_neg (by simpa using hkey)]
  | count k => rfl
  | resetTime k => rw [perform_resetTime_state, if_neg (by simp)]

end Ledger

end Mesh

/-- A shared window as one of a store. -/
def Mesh.SharedWindow.inNanos (w : SharedWindow) : Window := ⟨ofMillis w.start, ofMillis w.ends, w.total⟩

/-- The two have the same open windows, all of them started by now and with an end that can be written down. -/
structure Agree (l : Ledger) (s : Store) (now : Int) : Prop where
  windows : ∀ key, s.windowAt key (ofMillis now) = ((l key).window? now).map SharedWindow.inNanos
  started : ∀ key w, (l key).window? now = some w → w.start ≤ now ∧ Representable (ofMillis w.ends)

/-- The newest markers lie before every hit and reset to come. -/
def Clear (l : Ledger) (calls : List (Instant × Operation)) : Prop :=
  ∀ call ∈ calls, ∀ key, call.2.Changes key → ∀ m, (l key).marker = some m → ofMillis m < call.1

namespace Agree

variable {l : Ledger} {s : Store} {key : String} {now t : Int} {window : Nat}

theorem later (h : Agree l s now) (ht : now ≤ t) : Agree l s t := by
  constructor
  · intro key
    rw [← Store.windowAt_later (ofMillis_le_iff.mpr ht), h.windows key]
    apply Option.ext
    intro w
    simp only [Option.filter_eq_some_iff, Option.map_eq_some_iff, Tally.window?_eq_some_iff, Bool.not_eq_true',
      Window.not_isOver_iff]
    constructor
    · rintro ⟨⟨w', ⟨hw, -, hafter⟩, rfl⟩, hopen⟩
      exact ⟨w', ⟨hw, ofMillis_lt_iff.mp hopen, hafter⟩, rfl⟩
    · rintro ⟨w', ⟨hw, hopen, hafter⟩, rfl⟩
      exact ⟨⟨w', ⟨hw, by omega, hafter⟩, rfl⟩, ofMillis_lt_iff.mpr hopen⟩
  · intro key w hw
    obtain ⟨hwindow, hopen, hafter⟩ := Tally.window?_eq_some_iff.mp hw
    obtain ⟨hstart, hends⟩ := h.started key w (Tally.window?_eq_some_iff.mpr ⟨hwindow, by omega, hafter⟩)
    exact ⟨by omega, hends⟩

/-! ## Reads -/

theorem count (h : Agree l s now) (key : String) :
    s.count key (ofMillis now) = (((l key).window? now).map SharedWindow.total).getD 0 := by
  rw [Store.count_eq, h.windows key, Option.map_map]
  rfl

theorem resetTime (h : Agree l s now) (key : String) : (s.perform (.resetTime key) (ofMillis now)).2 =
    (l.perform (.resetTime key) (ofMillis now)).2 := by
  show Except.ok (Value.resetTime (s.resetTime key (ofMillis now))) = _
  rw [Store.resetTime_eq, h.windows key]
  unfold Ledger.perform
  dsimp only
  rw [toMillis_ofMillis]
  cases hw : (l key).window? now with
  | none => rfl
  | some w =>
    dsimp only
    unfold Mesh.Node.instantOf
    rw [if_pos (h.started key w hw).2]
    rfl

/-! ## Hits -/

/-- The window after a hit is the same, and it is open. -/
theorem hit (h : Agree l s now) (hclear : ∀ m, (l key).marker = some m → m < now)
    (hwindow : (Operation.increment key window).InMillis (ofMillis now)) (hnow : IsTime now) :
    s.hitWindow key window (ofMillis now) = ((l key).hit (Mesh.Node.lengthOf window) now).inNanos ∧
      { l key with window := some ((l key).hit (Mesh.Node.lengthOf window) now) }.window? now =
        some ((l key).hit (Mesh.Node.lengthOf window) now) ∧
      ((l key).hit (Mesh.Node.lengthOf window) now).start ≤ now ∧
      Representable (ofMillis ((l key).hit (Mesh.Node.lengthOf window) now).ends) := by
  obtain ⟨⟨hpos, -⟩, hdvd, hrepresentable⟩ := hwindow
  unfold Store.hitWindow Tally.hit
  rw [h.windows key]
  cases hw : (l key).window? now with
  | some w =>
    obtain ⟨-, hopen, hafter⟩ := Tally.window?_eq_some_iff.mp hw
    obtain ⟨hstart, hends⟩ := h.started key w hw
    exact ⟨rfl, Tally.window?_eq_some_iff.mpr ⟨rfl, hopen, hafter⟩, hstart, hends⟩
  | none =>
    dsimp only
    rw [Mesh.View.opening_of_lt hclear hnow]
    obtain ⟨hlength, hone⟩ := Mesh.Node.ofMillis_lengthOf hpos hdvd
    have hends : addTime now (Mesh.Node.lengthOf window) = now + Mesh.Node.lengthOf window := by
      refine Mesh.addTime_eq ?_
      rw [← toMillis_ofMillis (now + Mesh.Node.lengthOf window)]
      refine Mesh.toMillis_isTime ?_
      rw [Instant.ofMillis_add, hlength]
      exact hrepresentable
    rw [hends]
    refine ⟨?_, Tally.window?_eq_some_iff.mpr ⟨rfl, ?_, ?_⟩, Int.le_refl now, ?_⟩
    · show Window.mk _ _ _ = Window.mk _ _ _
      rw [Instant.ofMillis_add, hlength]
    · show now < now + Mesh.Node.lengthOf window
      omega
    · exact Mesh.View.isAfter_of_lt (fun m hm => Int.le_sub_one_of_lt (hclear m hm)) (by omega : now - 1 < now)
    · show Representable (ofMillis (now + Mesh.Node.lengthOf window))
      rw [Instant.ofMillis_add, hlength]
      exact hrepresentable

/-- One key's window may change if it changes in both. -/
theorem set (h : Agree l s now) {tally : Tally} {s' : Store}
    (hself : s'.windowAt key (ofMillis now) = (tally.window? now).map SharedWindow.inNanos)
    (hother : ∀ k, key ≠ k → s'.windowAt k (ofMillis now) = s.windowAt k (ofMillis now))
    (hstarted : ∀ w, tally.window? now = some w → w.start ≤ now ∧ Representable (ofMillis w.ends)) :
    Agree (l.set key tally) s' now := by
  constructor
  · intro k
    by_cases hkey : key = k
    · subst hkey
      rw [Ledger.set_self]
      exact hself
    · rw [Ledger.set_other l hkey, hother k hkey]
      exact h.windows k
  · intro k w hw
    by_cases hkey : key = k
    · subst hkey
      rw [Ledger.set_self] at hw
      exact hstarted w hw
    · rw [Ledger.set_other l hkey] at hw
      exact h.started k w hw

theorem increment (h : Agree l s now) (hclear : ∀ m, (l key).marker = some m → m < now)
    (hwindow : (Operation.increment key window).InMillis (ofMillis now)) (hnow : IsTime now) :
    (s.perform (.increment key window) (ofMillis now)).2 = (l.perform (.increment key window) (ofMillis now)).2 ∧
      Agree (l.perform (.increment key window) (ofMillis now)).1
        (s.perform (.increment key window) (ofMillis now)).1 now := by
  obtain ⟨hwindows, hopen, hstarted⟩ := h.hit hclear hwindow hnow
  obtain ⟨haccepted, -, hrepresentable⟩ := hwindow
  have haccepts : s.Accepts key window (ofMillis now) := ⟨haccepted, .inr hrepresentable⟩
  have hstore : s.perform (.increment key window) (ofMillis now) =
      ((s.increment key window (ofMillis now)).1, .ok (.count (s.hitWindow key window (ofMillis now)).count)) := by
    unfold Store.perform
    dsimp only
    rw [Store.increment_accepted haccepts]
    rfl
  have haccept : Window.accept window = .ok window := Window.accept_eq_ok_iff.mpr ⟨haccepted.1, haccepted.2, rfl⟩
  rw [hstore, Ledger.perform_increment l key (ofMillis now) haccept, toMillis_ofMillis]
  refine ⟨by rw [hwindows]; rfl, h.set ?_ ?_ ?_⟩
  · have hover : (s.hitWindow key window (ofMillis now)).isOver (ofMillis now) = false :=
      Window.not_isOver_iff.mpr (Store.lt_hitWindow_closes haccepted.1)
    rw [Store.windowAt_increment haccepts (Int.le_refl _), if_pos rfl, Option.filter_some, hover, hopen, hwindows]
    rfl
  · intro k hkey
    rw [Store.windowAt_increment haccepts (Int.le_refl _), if_neg hkey]
  · intro w hw
    rw [hopen, Option.some.injEq] at hw
    exact hw ▸ hstarted

/-! ## Resets -/

/-- The marker hides all windows that were started by now. -/
theorem reset (h : Agree l s now) (hclear : ∀ m, (l key).marker = some m → m < now) :
    Agree (l.set key { l key with marker := some now }) (s.reset key) now := by
  have hhidden : { l key with marker := some now }.window? now = none := by
    rw [Option.eq_none_iff_forall_ne_some]
    intro w hw
    obtain ⟨hwindow, hopen, hafter⟩ := Tally.window?_eq_some_iff.mp hw
    have hlate : now < w.start := of_decide_eq_true hafter
    have hbefore := Mesh.View.isAfter_of_lt (fun m hm => Int.le_of_lt (hclear m hm)) hlate
    have hstart := (h.started key w (Tally.window?_eq_some_iff.mpr ⟨hwindow, hopen, hbefore⟩)).1
    omega
  refine h.set ?_ ?_ ?_
  · rw [Store.windowAt_reset, if_pos rfl, hhidden]
    rfl
  · intro k hkey
    rw [Store.windowAt_reset, if_neg hkey]
  · intro w hw
    rw [hhidden] at hw
    cases hw

/-! ## Any call -/

theorem perform (h : Agree l s now) {op : Operation}
    (hclear : ∀ key, op.Changes key → ∀ m, (l key).marker = some m → m < now)
    (hop : op.InMillis (ofMillis now)) (hnow : IsTime now) :
    (s.perform op (ofMillis now)).2 = (l.perform op (ofMillis now)).2 ∧
      Agree (l.perform op (ofMillis now)).1 (s.perform op (ofMillis now)).1 now := by
  cases op with
  | increment key window => exact h.increment (hclear key rfl) hop hnow
  | reset key =>
    have hledger : l.perform (.reset key) (ofMillis now) =
        (l.set key { l key with marker := some now }, .ok .done) := by
      unfold Ledger.perform
      dsimp only
      rw [toMillis_ofMillis, Mesh.View.opening_of_lt (hclear key rfl) hnow]
    rw [hledger]
    exact ⟨rfl, h.reset (hclear key rfl)⟩
  | count key =>
    refine ⟨?_, h⟩
    show Except.ok (Value.count (s.count key (ofMillis now))) = _
    rw [h.count key]
    unfold Ledger.perform
    dsimp only
    rw [toMillis_ofMillis]
  | resetTime key =>
    rw [Ledger.perform_resetTime_state]
    exact ⟨h.resetTime key, h⟩

end Agree

/-! ## Runs -/

/-- The marker that a reset puts lies before the calls that it is spaced from. -/
theorem Clear.perform {l : Ledger} {now : Int} {op : Operation} {calls : List (Instant × Operation)}
    (h : Clear l ((ofMillis now, op) :: calls)) (hspaced : ∀ call ∈ calls, Spaced (ofMillis now, op) call)
    (hnow : IsTime now) : Clear (l.perform op (ofMillis now)).1 calls := by
  intro call hcall key hkey m hm
  rw [Ledger.perform_marker, toMillis_ofMillis] at hm
  split at hm
  · rename_i hreset
    subst hreset
    have hbefore : ∀ m, (l key).marker = some m → m < now := fun m hm =>
      ofMillis_lt_iff.mp (h _ List.mem_cons_self key rfl m hm)
    rw [Mesh.View.opening_of_lt hbefore hnow, Option.some.injEq] at hm
    subst hm
    have hlater : ofMillis now + nanosPerMilli ≤ call.1 := hspaced call hcall hkey
    exact Int.lt_of_lt_of_le (Int.lt_add_of_pos_right _ (by decide)) hlater
  · exact h call (List.mem_cons_of_mem _ hcall) key hkey m hm

theorem Store.answers_ledger {s : Store} {l : Ledger} {calls : List (Instant × Operation)}
    (hcalls : ∀ call ∈ calls, InMillis call) (hordered : calls.Pairwise fun a b => a.1 ≤ b.1)
    (hspaced : calls.Pairwise Spaced) {t : Int} (ht : ∀ call ∈ calls, ofMillis t ≤ call.1) (h : Agree l s t)
    (hclear : Clear l calls) : s.answers calls = l.answers calls := by
  induction calls generalizing s l t with
  | nil => rfl
  | cons call calls ih =>
    obtain ⟨now, op⟩ := call
    obtain ⟨⟨hrepresentable, hwhole⟩, hop⟩ := hcalls _ List.mem_cons_self
    obtain ⟨hlater, hrest⟩ := List.pairwise_cons.mp hordered
    obtain ⟨happart, hspread⟩ := List.pairwise_cons.mp hspaced
    obtain ⟨ms, rfl⟩ := exists_ofMillis hwhole
    have hnow : IsTime ms := by
      rw [← toMillis_ofMillis ms]
      exact Mesh.toMillis_isTime hrepresentable
    have hagree := h.later (ofMillis_le_iff.mp (ht _ List.mem_cons_self))
    have hmarkers : ∀ key, op.Changes key → ∀ m, (l key).marker = some m → m < ms := fun key hkey m hm =>
      ofMillis_lt_iff.mp (hclear _ List.mem_cons_self key hkey m hm)
    obtain ⟨hanswer, hafter⟩ := hagree.perform hmarkers hop hnow
    show (s.perform op (ofMillis ms)).2 :: _ = (l.perform op (ofMillis ms)).2 :: _
    rw [hanswer]
    exact congrArg _ (ih (fun c hc => hcalls c (List.mem_cons_of_mem _ hc)) hrest hspread hlater hafter
      (hclear.perform happart hnow))

/-- To calls in whole milliseconds, at times that never go back and at least a millisecond after a reset of the
    same key, a store gives the answers of a mesh of one node. -/
theorem interchangeable (purgeEvery : Nat) {calls : List (Instant × Operation)}
    (hcalls : ∀ call ∈ calls, InMillis call) (hordered : calls.Pairwise fun a b => a.1 ≤ b.1)
    (hspaced : calls.Pairwise Spaced) : (Store.empty purgeEvery).answers calls = Mesh.Node.start.answers calls := by
  have hearly : ∀ call ∈ calls, ofMillis minTime ≤ call.1 := by
    intro call hcall
    obtain ⟨⟨hrepresentable, hwhole⟩, -⟩ := hcalls call hcall
    obtain ⟨ms, hms⟩ := exists_ofMillis hwhole
    rw [hms] at hrepresentable ⊢
    have htime := Mesh.toMillis_isTime hrepresentable
    rw [toMillis_ofMillis] at htime
    exact ofMillis_le_iff.mpr htime.1
  have hagree : Agree Ledger.blank (Store.empty purgeEvery) minTime := by
    constructor
    · intro key
      exact Store.windowAt_empty purgeEvery key _
    · intro key w hw
      cases hw
  have hclear : Clear Ledger.blank calls := by
    intro call hcall key hkey m hm
    cases hm
  have hnode : Mesh.Node.start.answers calls = Ledger.blank.answers calls := by
    refine Mesh.Node.answers_ledger (fun call hcall => ?_) hordered (fun call hcall => ?_)
      (Ledger.holds_blank (fun values hvalues => List.mem_singleton.mp hvalues) minTime)
    · exact Mesh.toMillis_isTime (hcalls call hcall).1.1
    · exact (Mesh.toMillis_isTime (hcalls call hcall).1.1).1
  rw [hnode]
  exact Store.answers_ledger hcalls hordered hspaced hearly hagree hclear

/-- A window that is reset, one that is over when the next hit comes, and a hit that cannot lengthen it. -/
def resetAndLapsed : List (Instant × Operation) :=
  [(0, .increment "k" (seconds 60)), (seconds 30, .increment "k" (seconds 5)), (seconds 30, .reset "k"),
    (seconds 30 + millis 1, .increment "k" (millis 999)), (seconds 31, .increment "k" (seconds 1)),
    (seconds 31, .increment "k" (seconds 9)), (seconds 31, .resetTime "k"), (seconds 32, .count "k")]

theorem interchangeable_resetAndLapsed : (∀ call ∈ resetAndLapsed, InMillis call) ∧
    (resetAndLapsed.Pairwise fun a b => a.1 ≤ b.1) ∧ resetAndLapsed.Pairwise Spaced ∧
    (Store.empty 2).answers resetAndLapsed = Mesh.Node.start.answers resetAndLapsed :=
  ⟨by decide, by decide, by decide, interchangeable 2 (by decide) (by decide) (by decide)⟩

example : (Store.empty 2).answers resetAndLapsed =
    [.ok (.count 1), .ok (.count 2), .ok .done, .ok (.count 1), .ok (.count 1), .ok (.count 2),
      .ok (.resetTime (some (seconds 32))), .ok (.count 0)] := by
  cbv

end RateCounter
