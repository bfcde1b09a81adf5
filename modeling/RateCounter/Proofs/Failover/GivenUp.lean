/-
  RateCounter.Proofs.Failover.GivenUp — what an operation leaves behind that is given up.

  An operation may be given up between any two of its turns: among its checks, of which some
  are over, or in an attempt, after others that failed. Then the health records are told of
  the checks and the attempts that are over, each once and the checks before the attempts,
  and of nothing else. The rotation has gone on if the candidates were chosen and one was
  healthy. Every record is claimed as before the operation (`abandon_leaves_completed`).

  What is over at which instant is known from each backend by itself: `Underway` says it of
  the checks, `Tries` of the attempts.
-/

import RateCounter.Proofs.Failover.Reference
import RateCounter.Proofs.Health.Underway

namespace RateCounter.Failover

open Monitor (Watch Checks)
open Service (follow_lift)

variable {B : Backend}

/-! ## Attempts at given instants -/

/-- Attempts one after the other, each with `ms` milliseconds. All have failed, and then the one at `i` waits. -/
inductive Tries (op : Operation) (ms : Nat) (backends : List B.State) (i : Nat) :
    Clock → List Clock → List (Attempt B) → Prop
  | waits {clock last : Clock} {instants : List Clock} {b b' : B.State} {f : (B.operate.within (millis ms)).Flight} :
      backends[i]? = some b →
      (B.operate.within (millis ms)).follow clock ((B.operate.within (millis ms)).start clock op b) instants =
        ⟨last, [], b', .waiting f⟩ →
      Tries op ms backends i clock instants []
  | failed {clock last : Clock} {instants spare : List Clock} {b : B.State} {a : Attempt B} {e : BackendError}
      {tried : List (Attempt B)} : backends[a.position]? = some b →
      (B.operate.within (millis ms)).follow clock ((B.operate.within (millis ms)).start clock op b) instants =
        ⟨last, spare, a.left, .done a.answer⟩ →
      a.outcome op ms = .error e → Tries op ms backends i last spare tried →
      Tries op ms backends i clock instants (a :: tried)

theorem Tries.congr {op : Operation} {ms : Nat} {bs bs' : List B.State} {i : Nat} {clock : Clock}
    {instants : List Clock} {tried : List (Attempt B)} (h : Tries op ms bs i clock instants tried)
    (heq : ∀ j ∈ tried.map Attempt.position ++ [i], bs[j]? = bs'[j]?) : Tries op ms bs' i clock instants tried := by
  induction h with
  | waits hb hwaits => exact .waits ((heq i (by simp)).symm.trans hb) hwaits
  | failed hb hover hout _ ih =>
    exact .failed ((heq _ (by simp)).symm.trans hb) hover hout
      (ih fun j hj => heq j (List.mem_cons_of_mem _ hj))

theorem afterAttempt_follow (op : Operation) {i : Nat} (rest : List Nat) (fs : List Failure) {g : Failover B}
    (hi : i < g.backends.length) (limit : Nat) (p : B.State × Turn (B.operate.within limit).Flight (Option Outcome))
    (clock : Clock) (instants : List Clock) :
    (operate B).follow clock (afterAttempt clock op i rest fs g p) instants =
      let q := (B.operate.within limit).follow clock p instants
      (operate B).follow q.last (afterAttempt q.last op i rest fs g (q.state, q.turn)) q.spare := by
  refine follow_lift (S := B.operate.within limit) (T := operate B) (I := fun _ => True)
    (fun c p => afterAttempt c op i rest fs g p) (fun b attempt _ => ?_) (fun _ _ _ _ => trivial) trivial clock
    instants
  refine ⟨g.setBackend i b, .attempting op i attempt rest fs, fun _ => rfl, rfl, fun now => ?_⟩
  have hb : (g.setBackend i b).backends[i]? = some b := by simp [setBackend, hi]
  show resumeOperation now (.attempting op i attempt rest fs) (g.setBackend i b) = _
  simp only [resumeOperation, hb]
  exact afterAttempt_setBackend ..

/-- What attempts leave of which the last is given up: the others have gone into the records. -/
structure Left (op : Operation) (ms : Nat) (g : Failover B) (tried : List (Attempt B)) (g' : Failover B) : Prop where
  records : ∀ j : Nat, g'.monitor.records[j]? =
    g.monitor.records[j]?.map (noted op ms g.monitor.threshold (attemptAt tried j))
  rotation : g'.rotation = g.rotation

theorem abandon_attempting (op : Operation) (i : Nat) (attempt : Service.Bounded B.operate.Flight) (rest : List Nat)
    (fs : List Failure) (g : Failover B) :
    ((operate B).abandon (.attempting op i attempt rest fs) g).monitor = g.monitor ∧
      ((operate B).abandon (.attempting op i attempt rest fs) g).rotation = g.rotation := by
  simp only [operate, abandonOperation]
  cases g.backends[i]? <;> exact ⟨rfl, rfl⟩

theorem tryEach_givenUp (op : Operation) {ms : Nat} {cs : List Nat} (hcs : cs.Nodup) (fs : List Failure)
    {g : Failover B} (hrange : ∀ i ∈ cs, i < g.backends.length) (htimeout : g.timeout = millis ms) {clock last : Clock}
    {instants spare : List Clock} {s : Failover B} {x : Execution B}
    (h : (operate B).follow clock (tryEach clock op cs fs g) instants = ⟨last, spare, s, .waiting x⟩) :
    ∃ tried i, Tries op ms g.backends i clock instants tried ∧ tried.map Attempt.position ++ [i] <+: cs ∧
      Left op ms g tried ((operate B).abandon x s) := by
  induction cs generalizing fs g clock instants with
  | nil => exact nomatch (Service.follow_done (operate B) clock g _ instants).symm.trans h
  | cons i cs ih =>
    obtain ⟨hi, hnodup⟩ := List.nodup_cons.mp hcs
    have hlt : i < g.backends.length := hrange i (List.mem_cons_self ..)
    have hb := List.getElem?_eq_getElem hlt
    have hattempt : tryEach clock op (i :: cs) fs g =
        afterAttempt clock op i cs fs g ((B.operate.within (millis ms)).start clock op g.backends[i]) :=
      htimeout ▸ tryEach_cons clock op cs fs hb
    rw [hattempt] at h
    have hfollow := (afterAttempt_follow op cs fs hlt (millis ms) _ clock instants).symm.trans h
    generalize hq : (B.operate.within (millis ms)).follow clock
      ((B.operate.within (millis ms)).start clock op g.backends[i]) instants = q at hfollow
    obtain ⟨last', spare', b', answer | attempt⟩ := q
    · let a : Attempt B := ⟨i, answer, b'⟩
      have hafter := afterAttempt_answered op htimeout last' a cs fs
      cases hout : a.outcome op ms with
      | ok v =>
        simp only [hout] at hafter
        have hdone := (congrArg (fun p => (operate B).follow last' p spare') hafter).symm.trans hfollow
        exact nomatch (Service.follow_done (operate B) last' _ _ spare').symm.trans hdone
      | error e =>
        simp only [hout] at hafter
        have hrest := (congrArg (fun p => (operate B).follow last' p spare') hafter).symm.trans hfollow
        have hframe := note_frame op ms g a
        have hsize : (note op ms g a).backends.length = g.backends.length := congrArg Frame.backends hframe
        obtain ⟨tried, j, htries, horder, hleft⟩ := ih hnodup _ (fun j hj => hsize ▸ hrange j (List.mem_cons_of_mem _ hj))
          ((congrArg Frame.timeout hframe).trans htimeout) hrest
        have hothers : ∀ k ∈ tried.map Attempt.position ++ [j], (note op ms g a).backends[k]? = g.backends[k]? := by
          intro k hk
          rw [note_backends, List.getElem?_set_ne fun e : i = k => hi (e ▸ horder.subset hk)]
        have hnew : a.position ∉ tried.map Attempt.position := fun h => hi (horder.subset (List.mem_append_left _ h))
        have hthreshold : (note op ms g a).monitor.threshold = g.monitor.threshold := congrArg Frame.threshold hframe
        exact ⟨a :: tried, j, .failed hb hq hout (htries.congr hothers), List.cons_prefix_cons.mpr ⟨rfl, horder⟩,
          noted_cons hnew fun k => hthreshold ▸ hleft.records k, hleft.rotation.trans (note_rotation ..)⟩
    · obtain rfl := Service.follow_waiting hq
      cases hfollow
      obtain ⟨hmonitor, hrotation⟩ := abandon_attempting op i attempt cs fs (g.setBackend i b')
      refine ⟨[], i, .waits hb hq, ⟨cs, rfl⟩, fun j => ?_, hrotation⟩
      rw [hmonitor]
      exact Option.map_id'.symm

/-! ## An operation at given instants -/

/-- How far an operation came that is given up, and the rotation it leaves: a check is not over, or all are, the
    candidates were chosen, and the attempt at one of them waits. -/
inductive Progress (op : Operation) (ms : Nat) (clock : Clock) (instants : List Clock) (g : Failover B)
    (checkups : List (Checkup B)) : List (Attempt B) → Rotation → Prop
  | checking {i : Nat} : g.monitor.IsDue clock i → i ∉ checkups.map Checkup.position →
      Progress op ms clock instants g checkups [] g.rotation
  | attempting {last : Clock} {spare : List Clock} {tried : List (Attempt B)} {i : Nat} :
      (∀ j, g.monitor.IsDue clock j → j ∈ checkups.map Checkup.position) →
      (refresh B).follow clock ((refresh B).start clock () g) instants =
        ⟨last, spare, g.setWatch (g.watch.examined checkups), .done ()⟩ →
      Tries op ms (g.watch.examined checkups).backends i last spare tried →
      tried.map Attempt.position ++ [i] <+: (g.rotation.candidates (g.watch.examined checkups).monitor.flags).1 →
      Progress op ms clock instants g checkups tried
        (if true ∈ (g.watch.examined checkups).monitor.flags then g.rotation.next else g.rotation)

/-- An operation that was called at `clock` on `g`, had turns at `instants`, and was given up, leaves `g'`. -/
structure GivenUp (op : Operation) (ms : Nat) (clock : Clock) (instants : List Clock) (g g' : Failover B)
    (checkups : List (Checkup B)) (tried : List (Attempt B)) : Prop
    extends Monitor.Underway clock instants g.watch checkups where
  distinct : (tried.map Attempt.position).Nodup
  progress : Progress op ms clock instants g checkups tried g'.rotation
  records : ∀ i : Nat, g'.monitor.records[i]? = (g.watch.examined checkups).monitor.records[i]?.map
    (noted op ms g.monitor.threshold (attemptAt tried i))
  claims : g'.monitor.records.map Health.claimed = g.monitor.records.map Health.claimed
  frame : g'.frame = g.frame

theorem noted_claimed (op : Operation) (ms threshold : Nat) (attempt : Option (Attempt B)) (h : Health) :
    (noted op ms threshold attempt h).claimed = h.claimed := by
  unfold noted
  split <;> rfl

theorem refresh_follow (g : Failover B) (clock : Clock) (instants : List Clock) :
    (refresh B).follow clock ((refresh B).start clock () g) instants =
      let q := (Monitor.refresh B).follow clock ((Monitor.refresh B).start clock () g.watch) instants
      ⟨q.last, q.spare, g.setWatch q.state, q.turn⟩ :=
  Service.follow_focus watch_setWatch setWatch_setWatch ((Monitor.refresh B).start clock () g.watch) g clock instants

theorem afterChecks_follow (op : Operation) (p : Failover B × Turn (refresh B).Flight Unit) (clock : Clock)
    (instants : List Clock) :
    (operate B).follow clock (afterChecks clock op p) instants =
      let q := (refresh B).follow clock p instants
      (operate B).follow q.last (afterChecks q.last op (q.state, q.turn)) q.spare :=
  follow_lift (S := refresh B) (T := operate B) (I := fun _ => True) (fun c p => afterChecks c op p)
    (fun g checks _ => ⟨g, .checking op checks, fun _ => rfl, rfl, fun _ => rfl⟩) (fun _ _ _ _ => trivial) trivial
    clock instants

/-- Neither the checkups nor the attempts claim a record or release one. -/
theorem claims_of_records {op : Operation} {ms : Nat} {g : Failover B} {records : List Health}
    {checkups : List (Checkup B)} {tried : List (Attempt B)}
    (h : ∀ i : Nat, records[i]? = (g.watch.examined checkups).monitor.records[i]?.map
      (noted op ms g.monitor.threshold (attemptAt tried i))) :
    records.map Health.claimed = g.monitor.records.map Health.claimed := by
  refine List.ext_getElem? fun i => ?_
  rw [List.getElem?_map, List.getElem?_map, h i]
  show (((g.monitor.records.mapIdx _)[i]?).map _).map _ = _
  rw [List.getElem?_mapIdx, Option.map_map, Option.map_map]
  refine Option.map_congr fun r _ => ?_
  rw [Function.comp_apply, Function.comp_apply, noted_claimed]
  cases Checkup.find checkups i with
  | none => rfl
  | some k => exact k.record_claimed g.monitor r

theorem follow_frame (clock clock' : Clock) (op : Operation) (g : Failover B) (instants : List Clock) :
    ((operate B).follow clock ((operate B).start clock' op g) instants).state.frame = g.frame :=
  Service.follow_inv (I := fun g' : Failover B => g'.frame = g.frame)
    (fun now x _ h => (resume_frame now x _).trans h) (start_frame clock' op g) clock instants

/-- The choice of the candidates and the attempts at them. -/
theorem dispatch_givenUp (op : Operation) {ms : Nat} {g : Failover B}
    (hsame : g.monitor.records.length = g.backends.length) (htimeout : g.timeout = millis ms) {clock last : Clock}
    {instants spare : List Clock} {g₁ : Failover B} {x : Execution B}
    (h : (operate B).follow clock (dispatch clock op g) instants = ⟨last, spare, g₁, .waiting x⟩) :
    ∃ tried i, Tries op ms g.backends i clock instants tried ∧
      tried.map Attempt.position ++ [i] <+: (g.rotation.candidates g.monitor.flags).1 ∧
      Left op ms { g with rotation := if true ∈ g.monitor.flags then g.rotation.next else g.rotation } tried
        ((operate B).abandon x g₁) := by
  obtain ⟨hnodup, hrange⟩ := g.rotation.candidates_nodup g.monitor.flags
  have hflags : g.monitor.flags.length = g.backends.length := (List.length_map ..).trans hsame
  have hleft := tryEach_givenUp op hnodup [] (g := { g with rotation := (g.rotation.candidates g.monitor.flags).2 })
    (fun i hi => hflags ▸ hrange i hi) htimeout h
  rwa [Rotation.candidates_rotation] at hleft

theorem abandon_leaves_completed {c : Config} {g : Failover B} (hg : Reach c g) {op : Operation} {clock last : Clock}
    {instants spare : List Clock} {g₁ : Failover B} {x : Execution B}
    (h : (operate B).follow clock ((operate B).start clock op g) instants = ⟨last, spare, g₁, .waiting x⟩) :
    ∃ checkups tried,
      GivenUp op c.operationTimeoutMs.toNat clock instants g ((operate B).abandon x g₁) checkups tried := by
  have hsame : g.monitor.records.length = g.backends.length :=
    (congrArg Frame.records hg.frame).trans (congrArg Frame.backends hg.frame).symm
  have htimeout : g.timeout = millis c.operationTimeoutMs.toNat := congrArg Frame.timeout hg.frame
  have hframe : ((operate B).abandon x g₁).frame = g.frame := by
    have hfollow := follow_frame clock clock op g instants
    rw [h] at hfollow
    exact (abandon_frame x g₁).trans hfollow
  cases hop : refusal? op with
  | some e =>
    rw [startOperation_refused hop] at h
    exact nomatch (Service.follow_done (operate B) clock g _ instants).symm.trans h
  | none =>
    rw [startOperation_accepted hop, afterChecks_follow] at h
    obtain ⟨checkups, hunder, hrefreshing⟩ := Monitor.refresh_underway g.watch clock instants
    have hchecks := refresh_follow g clock instants
    rw [hchecks] at h
    generalize hq : (Monitor.refresh B).follow clock ((Monitor.refresh B).start clock () g.watch) instants = q
      at hrefreshing hchecks h
    obtain ⟨last', spare', w', turn⟩ := q
    refine ⟨checkups, ?_⟩
    cases hrefreshing with
    | ended hdone =>
      have hlengths : (g.watch.examined checkups).monitor.records.length = (g.watch.examined checkups).backends.length :=
        List.length_mapIdx.trans (hsame.trans List.length_mapIdx.symm)
      obtain ⟨tried, i, htries, horder, hrecords, hrotation⟩ :=
        dispatch_givenUp op (g := g.setWatch (g.watch.examined checkups)) hlengths htimeout h
      have hall : ∀ j, g.monitor.IsDue clock j → j ∈ checkups.map Checkup.position := fun j hdue => by
        obtain ⟨r, hr, -⟩ := id hdue
        exact hdone j (hsame ▸ (List.getElem?_eq_some_iff.mp hr).1) hdue
      have hdistinct : (tried.map Attempt.position).Nodup :=
        (g.rotation.candidates_nodup _).1.sublist ((List.sublist_append_left ..).trans horder.sublist)
      refine ⟨tried, hunder, hdistinct, ?_, hrecords, claims_of_records hrecords, hframe⟩
      rw [hrotation]
      exact .attempting hall hchecks htries horder
    | @waits i checks w' hi hdue hnot hgivenUp =>
      obtain rfl := Service.follow_waiting hq
      cases h
      have hrecords : ∀ j : Nat, ((operate B).abandon (.checking op checks) (g.setWatch w')).monitor.records[j]? =
          (g.watch.examined checkups).monitor.records[j]?.map
            (noted op c.operationTimeoutMs.toNat g.monitor.threshold (attemptAt (B := B) [] j)) := fun j =>
        (congrArg (fun m : Monitor => m.records[j]?) hgivenUp).trans Option.map_id'.symm
      exact ⟨[], hunder, List.nodup_nil, .checking hdue hnot, hrecords, claims_of_records hrecords, hframe⟩

/-- Two stores that never answer. -/
def mute : Registry Unit Simulation.FaultyStore.backend.State :=
  Registry.empty.register "faulty" fun _ trace =>
    (.ok (.ofFaults { Simulation.Faults.none with hanging := true }), trace)

def mutePair : Failover Simulation.FaultyStore.backend :=
  Registry.assemble firstHangs (List.replicate 2 (.ofFaults { Simulation.Faults.none with hanging := true }))

theorem mutePair_reach : Reach firstHangs mutePair := .built mute () rfl

/-- When the checks run out, when the attempt at the first store does, and then while the second is asked. -/
def beforeLast : List Clock := [⟨millis 500, millis 500⟩, ⟨millis 1500, millis 1500⟩, ⟨millis 1600, millis 1600⟩]

theorem abandon_leaves_completed_beforeLast :
    Reach firstHangs mutePair ∧ ∃ last spare g₁ x,
      (operate _).follow ⟨0, 0⟩ ((operate _).start ⟨0, 0⟩ (.increment "k" (seconds 60)) mutePair) beforeLast =
          ⟨last, spare, g₁, .waiting x⟩ ∧
        ∃ checkups tried, GivenUp (.increment "k" (seconds 60)) firstHangs.operationTimeoutMs.toNat ⟨0, 0⟩ beforeLast
          mutePair ((operate _).abandon x g₁) checkups tried :=
  ⟨mutePair_reach, _, _, _, _, rfl, abandon_leaves_completed mutePair_reach rfl⟩

/-- The check and the attempt at the first store have failed, and the check of the second. -/
example :
    let q := (operate _).follow ⟨0, 0⟩ ((operate _).start ⟨0, 0⟩ (.increment "k" (seconds 60)) mutePair) beforeLast
    q.state.monitor.records.map (·.failures) = [2, 1] ∧ q.state.monitor.records.map (·.claimed) = [false, false] := by
  cbv

end RateCounter.Failover
