/-
  RateCounter.Proofs.Failover.Handed — what the members of a tree of groups are handed.

  This is found out by recording. Every member of a tree `nest L n`, whatever its leaves `L`
  are, keeps the calls that it has been handed by its group. Recording changes nothing of
  what the tree does (`nest_mirrors`).

  The refused operations among all that has been recorded stay the same through every step
  (`Step.views_misheard`): through turns of calls on any group in the tree, given up or not,
  and through changes of leaves.
  - `bad_windows_refused`: from whatever tree it starts, no member at any level is ever handed
    an increment with a bad window. The caller is told, and the tree is left as it was.
-/

import Mathlib.Logic.Relation
import RateCounter.Proofs.Failover.Mirrored
import RateCounter.Proofs.Failover.Refused

namespace RateCounter

open Failover (refusal?)

/-! ## Recording -/

/-- What a backend can be handed. -/
inductive Call where
  | operation (op : Operation)
  | check
  deriving DecidableEq, Repr

def Call.isRefused : Call → Bool
  | operation op => (refusal? op).isSome
  | check => false

/-- Calls that are noted when they start, the latest first. -/
def Service.recording {σ α ρ : Type} (S : Service σ α ρ) (call : α → Call) : Service (σ × List Call) α ρ where
  Flight := S.Flight
  start clock a s := (((S.start clock a s.1).1, call a :: s.2), (S.start clock a s.1).2)
  resume clock f s := (((S.resume clock f s.1).1, s.2), (S.resume clock f s.1).2)
  abandon f s := (S.abandon f s.1, s.2)
  wake := S.wake

/-- A backend and all that it has been handed. -/
def Backend.recorded (B : Backend) : Backend where
  State := B.State × List Call
  operate := B.operate.recording .operation
  probe := B.probe.recording fun _ => .check

section Recording

variable {σ α ρ τ : Type} {S : Service σ α ρ} {call : α → Call} {B : Backend} {view : B.State → τ}

theorem Service.Comes.of_recording {a : α} {turn : Turn (S.recording call).Flight ρ}
    (h : (S.recording call).Comes a turn) : S.Comes a turn := by
  induction h with
  | start clock s => exact .start clock s.1
  | resume clock s _ ih => exact ih.resume clock s.1

theorem Service.mirrors_recording (S : Service σ α ρ) (call : α → Call) :
    (S.recording call).Mirrors S Prod.fst id where
  start clock a s := (seen_id (S.start clock a s.1)).symm
  resume clock f s := (seen_id (S.resume clock f s.1)).symm
  abandon _ _ := rfl
  wake _ := rfl

theorem Backend.mirrors_recorded (B : Backend) : B.recorded.Mirrors B Prod.fst :=
  ⟨⟨_, Service.mirrors_recording ..⟩, ⟨_, Service.mirrors_recording ..⟩⟩

/-- Of what a backend has been handed, the operations that are refused stay the same. -/
theorem Backend.Spares.recorded (h : B.Spares view) :
    B.recorded.Spares fun s => (s.2.filter Call.isRefused, view s.1) where
  start {op} hop clock s := by
    have hcall : Call.isRefused (.operation op) = false := by
      simp only [Call.isRefused, hop, Option.isSome_none]
    refine Prod.ext ?_ (h.start hop clock s.1)
    exact List.filter_cons_of_neg (by simp [hcall])
  resume hop hf clock s := Prod.ext rfl (h.resume hop hf.of_recording clock s.1)
  abandon hop hf s := Prod.ext rfl (h.abandon hop hf.of_recording s.1)
  probe := ⟨fun clock a s => Prod.ext rfl (h.probe.start clock a s.1),
    fun clock f s => Prod.ext rfl (h.probe.resume clock f s.1), fun f s => Prod.ext rfl (h.probe.abandon f s.1)⟩

end Recording

/-! ## Trees -/

namespace Nested

variable {L : Backend} {n : Nat}

/-- Groups of members of two kinds, leaves and smaller trees, nested to a depth. -/
def plain (L : Backend) : Nat → Backend
  | 0 => L
  | n + 1 => L.sum (Failover.backend (plain L n))

/-- Those of the simulation are of this kind. -/
theorem plain_leaf (n : Nat) : plain Simulation.leaf n = Simulation.tree n := by
  induction n with
  | zero => rfl
  | succ n ih => exact congrArg (fun B => Simulation.leaf.sum (Failover.backend B)) ih

/-- The same where every member is recorded. -/
def nest (L : Backend) : Nat → Backend
  | 0 => L.recorded
  | n + 1 => (L.sum (Failover.backend (nest L n))).recorded

/-- A tree without its records. -/
def erase (L : Backend) : (n : Nat) → (nest L n).State → (plain L n).State
  | 0, s => s.1
  | n + 1, s => Sum.map id (Failover.mapStates (erase L n)) s.1

theorem nest_mirrors (L : Backend) (n : Nat) : (nest L n).Mirrors (plain L n) (erase L n) := by
  induction n with
  | zero => exact L.mirrors_recorded
  | succ n ih => exact (Backend.mirrors_recorded _).trans ((Backend.Mirrors.refl L).sum (Failover.mirrors_backend ih))

/-- A tree with records in which nothing is noted yet. -/
def blank (L : Backend) : (n : Nat) → (plain L n).State → (nest L n).State
  | 0, s => (s, [])
  | n + 1, s => (Sum.map id (Failover.mapStates (blank L n)) s, [])

theorem mapStates_blank {g : Failover (plain L n)} (h : ∀ s, erase L n (blank L n s) = s) :
    (g.mapStates (blank L n)).mapStates (erase L n) = g := by
  have hstates : (g.backends.map (blank L n)).map (erase L n) = g.backends := by
    rw [List.map_map]
    exact (List.map_congr_left fun s _ => h s).trans (List.map_id _)
  exact congrArg (fun bs => { g with backends := bs }) hstates

theorem erase_blank (L : Backend) (n : Nat) (s : (plain L n).State) : erase L n (blank L n s) = s := by
  induction n with
  | zero => rfl
  | succ n ih =>
    cases s with
    | inl s => rfl
    | inr g => exact congrArg Sum.inr (mapStates_blank ih)

/-- All that a member and those inside it have been handed. -/
def heard (L : Backend) : (n : Nat) → (nest L n).State → List Call
  | 0, s => s.2
  | n + 1, s => s.2 ++ Sum.elim (fun _ => []) (fun g => g.backends.flatMap (heard L n)) s.1

/-- All that the members of a group and those inside them have been handed. -/
def heardInside (g : Failover (nest L n)) : List Call := g.backends.flatMap (heard L n)

theorem heard_mapStates_blank {g : Failover (plain L n)} (h : ∀ s, heard L n (blank L n s) = []) :
    heardInside (g.mapStates (blank L n)) = [] := by
  refine List.flatMap_eq_nil_iff.mpr fun s hs => ?_
  obtain ⟨s₀, -, rfl⟩ := List.mem_map.mp hs
  exact h s₀

theorem heard_blank (L : Backend) (n : Nat) (s : (plain L n).State) : heard L n (blank L n s) = [] := by
  induction n with
  | zero => rfl
  | succ n ih =>
    cases s with
    | inl s => rfl
    | inr g => exact heard_mapStates_blank ih

/-- What they should not have been handed. -/
def misheard (L : Backend) (n : Nat) (s : (nest L n).State) : List Call := (heard L n s).filter Call.isRefused

theorem filter_heard (g : Failover (nest L n)) :
    (heardInside g).filter Call.isRefused = (g.views (misheard L n)).flatten := by
  rw [heardInside, List.filter_flatMap, Failover.views, ← List.flatMap_def]
  rfl

theorem misheard_group (g : Failover (nest L n)) (calls : List Call) :
    misheard L (n + 1) (.inr g, calls) = calls.filter Call.isRefused ++ (g.views (misheard L n)).flatten :=
  (List.filter_append ..).trans (congrArg (_ ++ ·) (filter_heard g))

theorem nest_spares (L : Backend) (n : Nat) : (nest L n).Spares (misheard L n) := by
  induction n with
  | zero => exact ((Backend.Spares.blind L).recorded).map Prod.fst
  | succ n ih =>
    have hkinds : (L.sum (Failover.backend (nest L n))).Spares
        (Sum.elim (fun _ => []) (Failover.views (misheard L n))) :=
      ((Backend.Spares.blind L).map fun _ => []).sum (Failover.spares_backend ih)
    have hboth := hkinds.recorded.map fun q => q.1 ++ q.2.flatten
    have hview : (misheard L (n + 1)) = fun s => s.2.filter Call.isRefused ++
        (Sum.elim (fun _ => []) (Failover.views (misheard L n)) s.1).flatten := by
      funext s
      obtain ⟨s | g, calls⟩ := s
      · exact List.filter_append ..
      · exact misheard_group g calls
    rw [hview]
    exact hboth

/-! ## Steps -/

def changeLeaf (change : L.State → L.State) : (n : Nat) → (nest L n).State → (nest L n).State
  | 0, s => (change s.1, s.2)
  | _ + 1, s => (Sum.map change id s.1, s.2)

open Failover (operate refresh)

/-- A step of a tree: a turn of some call on its group, or something inside. -/
inductive Step (L : Backend) : (n : Nat) → Failover (nest L n) → Failover (nest L n) → Prop
  | start {n : Nat} (clock : Clock) (op : Operation) (g : Failover (nest L n)) :
      Step L n g ((operate (nest L n)).start clock op g).1
  | resume {n : Nat} (clock : Clock) {op : Operation} {x : (operate (nest L n)).Flight} (g : Failover (nest L n)) :
      (operate (nest L n)).Comes op (.waiting x) → Step L n g ((operate (nest L n)).resume clock x g).1
  | abandon {n : Nat} {op : Operation} {x : (operate (nest L n)).Flight} (g : Failover (nest L n)) :
      (operate (nest L n)).Comes op (.waiting x) → Step L n g ((operate (nest L n)).abandon x g)
  /-- A turn of a refresh, or of a health check of the group. -/
  | check {n : Nat} (clock : Clock) (g : Failover (nest L n)) : Step L n g ((refresh (nest L n)).start clock () g).1
  | resumeCheck {n : Nat} (clock : Clock) (checks : Monitor.Checks (nest L n)) (g : Failover (nest L n)) :
      Step L n g ((refresh (nest L n)).resume clock checks g).1
  | abandonCheck {n : Nat} (checks : Monitor.Checks (nest L n)) (g : Failover (nest L n)) :
      Step L n g ((refresh (nest L n)).abandon checks g)
  /-- A leaf changes by itself, or by the hand of others. -/
  | leaf {n : Nat} (i : Nat) (change : L.State → L.State) (g : Failover (nest L n)) :
      Step L n g { g with backends := g.backends.modify i (changeLeaf change n) }
  /-- A member that is a group makes a step, called on by others. -/
  | inside {n i : Nat} {inner inner' : Failover (nest L n)} {calls : List Call} {g : Failover (nest L (n + 1))} :
      g.backends[i]? = some (.inr inner, calls) → Step L n inner inner' →
      Step L (n + 1) g (g.setBackend i (.inr inner', calls))

theorem misheard_changeLeaf (change : L.State → L.State) (n : Nat) (s : (nest L n).State) :
    misheard L n (changeLeaf change n s) = misheard L n s := by
  cases n with
  | zero => rfl
  | succ n => obtain ⟨s | g, calls⟩ := s <;> rfl

theorem views_changeLeaf (change : L.State → L.State) (i : Nat) (g : Failover (nest L n)) :
    ({ g with backends := g.backends.modify i (changeLeaf change n) } : Failover (nest L n)).views (misheard L n) =
      g.views (misheard L n) := by
  refine List.ext_getElem? fun j => ?_
  unfold Failover.views
  rw [List.getElem?_map, List.getElem?_map, List.getElem?_modify]
  cases g.backends[j]? with
  | none => rfl
  | some s =>
    by_cases hj : i = j
    · simp [hj, misheard_changeLeaf]
    · simp [hj]

theorem Step.views_misheard {g g' : Failover (nest L n)} (h : Step L n g g') :
    g'.views (misheard L n) = g.views (misheard L n) := by
  induction h with
  | start clock op g => exact Failover.start_views (nest_spares L _) clock op g
  | resume clock g hx => exact Failover.resume_views (nest_spares L _) hx clock g
  | abandon g hx => exact Failover.abandon_views (nest_spares L _) hx g
  | check clock g => exact (Failover.refresh_leaves (nest_spares L _).probe).start clock () g
  | resumeCheck clock checks g => exact (Failover.refresh_leaves (nest_spares L _).probe).resume clock checks g
  | abandonCheck checks g => exact (Failover.refresh_leaves (nest_spares L _).probe).abandon checks g
  | leaf i change g => exact views_changeLeaf change i g
  | inside hb _ ih =>
    refine Failover.views_kept hb ?_
    rw [misheard_group, misheard_group, ih]

theorem views_misheard {g₀ g : Failover (nest L n)} (h : Relation.ReflTransGen (Step L n) g₀ g) :
    g.views (misheard L n) = g₀.views (misheard L n) := by
  induction h with
  | refl => rfl
  | tail _ hstep ih => exact hstep.views_misheard.trans ih

/-- A group as it is when recording begins. -/
def watched (g : Failover (plain L n)) : Failover (nest L n) := g.mapStates (blank L n)

/-- Any group answers an increment as `Refuses` says. A tree `g₀` that is recorded goes on as it
    would without, and wherever it gets to, nothing inside has been handed a bad window. -/
theorem bad_windows_refused (g₀ : Failover (plain L n)) {g : Failover (nest L n)}
    (hsteps : Relation.ReflTransGen (Step L n) (watched g₀) g) :
    (∀ B key window, Failover.Refuses B key window) ∧
      (watched g₀).mapStates (erase L n) = g₀ ∧
      (Failover.backend (nest L n)).Mirrors (Failover.backend (plain L n)) (Failover.mapStates (erase L n)) ∧
      ∀ key window, .operation (.increment key window) ∈ heardInside g → ¬ Failover.IsBad window := by
  refine ⟨Failover.refuses, mapStates_blank (erase_blank L n), Failover.mirrors_backend (nest_mirrors L n),
    fun key window hmem hbad => ?_⟩
  obtain ⟨e, he⟩ := Failover.isBad_iff.mp hbad
  have hrefused : Call.isRefused (.operation (.increment key window)) = true := by
    rw [Call.isRefused, Failover.refusal?_increment.mpr he]
    rfl
  have hfresh : heardInside (watched g₀) = [] := heard_mapStates_blank (heard_blank L n)
  have hnone : (heardInside g).filter Call.isRefused = [] := by
    rw [filter_heard, views_misheard hsteps, ← filter_heard, hfresh, List.filter_nil]
  exact List.not_mem_nil (hnone ▸ List.mem_filter.mpr ⟨hmem, hrefused⟩)

/-- A group of one store, in a group of its own. -/
def storeInside : Failover (plain Store.backend 1) :=
  Registry.assemble (.ofBackends [⟨"group", "multi", []⟩])
    [.inr (Registry.assemble (.ofBackends [⟨"store", "memory", []⟩]) [Store.empty defaultPurgeEvery])]

/-- An increment with no window at all, and one with a window of a minute. -/
def askedTwice : Failover (nest Store.backend 1) :=
  ((operate _).start ⟨0, 0⟩ (.increment "k" (seconds 60))
    ((operate _).start ⟨0, 0⟩ (.increment "k" 0) (watched storeInside)).1).1

theorem bad_windows_refused_askedTwice :
    Relation.ReflTransGen (Step Store.backend 1) (watched storeInside) askedTwice ∧
      heardInside askedTwice = [.operation (.increment "k" (seconds 60)), .check,
        .operation (.increment "k" (seconds 60)), .check] ∧
      (∀ B key window, Failover.Refuses B key window) ∧
      ∀ key window, .operation (.increment key window) ∈ heardInside askedTwice → ¬ Failover.IsBad window := by
  have hsteps : Relation.ReflTransGen (Step Store.backend 1) (watched storeInside) askedTwice :=
    (Relation.ReflTransGen.single (.start ..)).tail (.start ..)
  have h := bad_windows_refused storeInside hsteps
  exact ⟨hsteps, rfl, h.1, h.2.2.2⟩

end Nested

end RateCounter
