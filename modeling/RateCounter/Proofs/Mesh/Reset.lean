/-
  RateCounter.Proofs.Mesh.Reset — whether a reset leaves nothing of a key.

  A reset publishes a marker at the time of the clock, or just after the newest marker known
  if that lies ahead; the window of the key is hidden if it does not start after the new
  marker. A window may: it was opened when the clock stood later, or after a marker that this
  node has not heard of.

  - `reset_clears_iff`: in every state that a run of the mesh gets into, the count after a
    reset is zero, there is no reset time and the next hit is the first, each of them exactly
    if the window does not start after the time that a new window would have started at.
  - `a_clock_stepped_back_keeps_the_window`, `an_unheard_marker_keeps_the_window`: it may, on
    one node whose clock is stepped back, and on three with a clock that never is.
-/

import RateCounter.Proofs.Mesh.Run

namespace RateCounter.Mesh

namespace Node

open View (isAfter opening)

variable {n : Node} {key : String} {now : Int}

theorem mem_openEntries_reset (hnow : IsTime now) {e : Entry} : e ∈ (n.reset key now).view.openEntries key now ↔
    e ∈ n.view.openEntries key now ∧ n.openingTime key now < e.start := by
  rw [View.mem_openEntries, View.mem_openEntries, latestReset_reset n key hnow]
  have hentries : (n.reset key now).view.entries key = n.view.entries key := entries_publish_marker n key key _
  rw [hentries]
  constructor
  · rintro ⟨he, hopen, hafter⟩
    have hlate : n.openingTime key now < e.start := of_decide_eq_true hafter
    exact ⟨⟨he, hopen, View.isAfter_of_lt (fun m hm => latestReset_le_openingTime hm) hlate⟩, hlate⟩
  · rintro ⟨⟨he, hopen, -⟩, hlate⟩
    exact ⟨he, hopen, decide_eq_true hlate⟩

/-- The window, if there is one, does not start after a new one would. -/
def StartsInTime (n : Node) (key : String) (now : Int) : Prop :=
  ∀ w, n.window? key now = some w → w.start ≤ n.openingTime key now

theorem window?_reset_eq_none_iff (hnow : IsTime now) :
    (n.reset key now).window? key now = none ↔ n.StartsInTime key now := by
  have hiff : (n.reset key now).window? key now = none ↔ (n.reset key now).view.openEntries key now = [] :=
    View.window?_eq_none_iff
  rw [hiff]
  constructor
  · intro hnone w hw
    obtain ⟨e, he⟩ := (View.window?_eq_some_iff.mp hw).inhabited
    obtain ⟨he, hstart⟩ := View.mem_group.mp he
    have hgone : e ∉ (n.reset key now).view.openEntries key now := by
      rw [hnone]; exact List.not_mem_nil
    rw [mem_openEntries_reset hnow] at hgone
    have hle : ¬ n.openingTime key now < e.start := fun hlate => hgone ⟨he, hlate⟩
    omega
  · intro htime
    rw [List.eq_nil_iff_forall_not_mem]
    intro e he
    obtain ⟨he, hlate⟩ := (mem_openEntries_reset hnow).mp he
    cases hw : n.window? key now with
    | none => exact absurd (View.window?_eq_none_iff.mp hw) (List.ne_nil_of_mem he)
    | some w =>
      have hlatest := (View.window?_eq_some_iff.mp hw).latest e he
      have hstart := htime w hw
      omega

theorem one_le_window_total (h : n.Regular) {w : SharedWindow} (hw : n.window? key now = some w) : 1 ≤ w.total := by
  have hshows := View.window?_eq_some_iff.mp hw
  obtain ⟨e, he⟩ := hshows.inhabited
  have hcount := (group_fits h he).2.1.count
  have hle := View.count_le_hits he
  have hlimit : 1 ≤ Word.max64 := by decide
  rw [hshows.total]
  omega

/-- What a node answers about a key and to a hit on it, by its window. -/
theorem answers_iff (h : n.Regular) (key : String) {window : Nat} (hwindow : Window.accept window = .ok window)
    (now : Instant) : ∃ c t k, n.perform (.count key) now = (n, .ok (.count c)) ∧
      n.perform (.resetTime key) now = (n, t) ∧ (n.perform (.increment key window) now).2 = .ok (.count k) ∧
      (c = 0 ↔ n.window? key now.toMillis = none) ∧ (t = .ok (.resetTime none) ↔ n.window? key now.toMillis = none) ∧
      (k = 1 ↔ n.window? key now.toMillis = none) := by
  have hhit : (n.perform (.increment key window) now).2 =
      .ok (.count (n.entryFor key (lengthOf window) now.toMillis).2.total) := by
    simp only [perform, hwindow]
    rfl
  cases hw : n.window? key now.toMillis with
  | none =>
    refine ⟨0, .ok (.resetTime none), 1, ?_, ?_, ?_, by simp, by simp, by simp⟩
    · simp only [perform, hw, Option.map_none, Option.getD_none]
    · simp only [perform, hw]
    · rw [hhit, entryFor_opened hw]
  | some w =>
    have hone := one_le_window_total h hw
    have hlimit : 2 ≤ Word.max64 := by decide
    refine ⟨w.total, (instantOf w.ends).map fun t => .resetTime (some t), addCount w.total 1, ?_, ?_, ?_, ?_, ?_, ?_⟩
    · simp only [perform, hw, Option.map_some, Option.getD_some]
    · simp only [perform, hw]
    · rw [hhit, entryFor_joined hw]
    · simp only [reduceCtorEq, iff_false]; omega
    · cases instantOf w.ends with
      | ok t => simp [Except.map]
      | error e => simp [Except.map]
    · simp only [reduceCtorEq, iff_false]; unfold addCount; omega

end Node

open Node in
/-- After any run of the mesh, with the clock showing whatever it may, a reset leaves no count, no reset time
    and no hit, exactly if the window does not start after the new marker. -/
theorem reset_clears_iff (members : List (String × ClusterConfig)) {events : List (Instant × Event)}
    (hshown : Shown events) {i : Nat} {m : Member} (hm : ((Network.fresh members).run events).members[i]? = some m)
    (key : String) {window : Nat} (hwindow : Window.accept window = .ok window) {now : Instant}
    (hnow : IsTime now.toMillis) :
    ∃ n c t k, m.node.perform (.reset key) now = (n, .ok .done) ∧
      n.perform (.count key) now = (n, .ok (.count c)) ∧
      n.perform (.resetTime key) now = (n, t) ∧
      (n.perform (.increment key window) now).2 = .ok (.count k) ∧
      (c = 0 ↔ m.node.StartsInTime key now.toMillis) ∧
      (t = .ok (.resetTime none) ↔ m.node.StartsInTime key now.toMillis) ∧
      (k = 1 ↔ m.node.StartsInTime key now.toMillis) := by
  have hregular := Network.run_regular members hshown m (List.mem_of_getElem? hm)
  have hreset : (m.node.reset key now.toMillis).Regular := Regular.perform hnow hregular (.reset key)
  obtain ⟨c, t, k, hcount, hresetTime, hhit, hc, ht, hk⟩ := answers_iff hreset key hwindow now
  rw [window?_reset_eq_none_iff hnow] at hc ht hk
  exact ⟨_, c, t, k, rfl, hcount, hresetTime, hhit, hc, ht, hk⟩

/-! ## It may -/

/-- A hit at second 10; then the clock is stepped back to 0. -/
def steppedBack : List (Instant × Event) := [(seconds 10, .call 0 (.increment "k" (seconds 60)))]

def steppedBackMesh : Network := (Network.fresh (Network.onOneHost ["a"])).run steppedBack

theorem reset_clears_iff_steppedBack : ∃ m, steppedBackMesh.members[0]? = some m ∧ Shown steppedBack ∧
    Window.accept (seconds 60) = .ok (seconds 60) ∧ IsTime (Instant.toMillis 0) ∧
    ∃ n c t k, m.node.perform (.reset "k") 0 = (n, .ok .done) ∧
      n.perform (.count "k") 0 = (n, .ok (.count c)) ∧
      n.perform (.resetTime "k") 0 = (n, t) ∧
      (n.perform (.increment "k" (seconds 60)) 0).2 = .ok (.count k) ∧
      (c = 0 ↔ m.node.StartsInTime "k" (Instant.toMillis 0)) ∧
      (t = .ok (.resetTime none) ↔ m.node.StartsInTime "k" (Instant.toMillis 0)) ∧
      (k = 1 ↔ m.node.StartsInTime "k" (Instant.toMillis 0)) := by
  obtain ⟨m, hm⟩ : ∃ m, steppedBackMesh.members[0]? = some m := ⟨_, rfl⟩
  have hshown : Shown steppedBack := by decide
  exact ⟨m, hm, hshown, rfl, by decide, reset_clears_iff _ hshown hm "k" rfl (by decide)⟩

/-- The count is still 1 after the reset, the window still ends at second 70, and the next hit is the second. -/
theorem a_clock_stepped_back_keeps_the_window :
    Shown steppedBack ∧ ∃ m, steppedBackMesh.members[0]? = some m ∧
      let n := (m.node.perform (.reset "k") 0).1
      (n.perform (.count "k") 0).2 = .ok (.count 1) ∧
      (n.perform (.resetTime "k") 0).2 = .ok (.resetTime (some (seconds 70))) ∧
      (n.perform (.increment "k" (seconds 60)) 0).2 = .ok (.count 2) := by
  refine ⟨by decide, _, rfl, ?_, ?_, ?_⟩
  · rfl
  · rfl
  · rfl

/-- The third node resets a key, the first one counts a hit on it just after that reset, and the second
    one hears of the hit but not of the reset; all at one time. -/
def unheard : List (Instant × Event) :=
  [(0, .call 2 (.reset "k")), (0, .deliver 2 0), (0, .call 0 (.increment "k" (seconds 60))), (0, .deliver 0 1)]

theorem an_unheard_marker_keeps_the_window :
    Shown unheard ∧ unheard.Pairwise (fun a b => a.1 ≤ b.1) ∧
      ∃ m, ((Network.fresh (Network.onOneHost ["a", "b", "c"])).run unheard).members[1]? = some m ∧
        ((m.node.perform (.reset "k") 0).1.perform (.count "k") 0).2 = .ok (.count 1) := by
  refine ⟨by decide, by decide, _, rfl, ?_⟩
  rfl

end RateCounter.Mesh
