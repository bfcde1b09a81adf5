/-
  RateCounter.Proofs.Failover.Elapsed — how long an operation of a group takes.

  The checks of an operation overlap, its attempts do not. So an operation that runs alone
  takes as long as the longest of its checks and then all of its attempts one after the
  other, where each check and each attempt takes its own delay, or its time limit if that is
  less. What is over just at its time limit is in time (`operate_elapsed`).
-/

import RateCounter.Proofs.Delay
import RateCounter.Proofs.Failover.Prompt
import RateCounter.Proofs.Health.Checkups
import Mathlib.Data.List.Perm.Subperm

namespace RateCounter

theorem Clock.wait_wait (c : Clock) (a b : Nat) : (c.wait a).wait b = c.wait (a + b) := by
  simp only [Clock.wait, Nat.add_assoc, Int.add_assoc, Int.natCast_add]

theorem Clock.wait_zero (c : Clock) : c.wait 0 = c := by
  simp only [Clock.wait, Nat.add_zero, Int.natCast_zero, Int.add_zero]

namespace Failover

open Service (Takes InTime capped)

variable {B : Backend}

/-! ## Checks -/

/-- A check that begins at `clock`, and how long it would take if it were left to itself. -/
structure CheckTakes (clock : Clock) (limit : Nat) (g : Failover B) (k : Checkup B) (d : Option Nat) : Prop where
  takes : ∃ b, g.backends[k.position]? = some b ∧ B.probe.Takes clock (B.probe.start clock () b) d
  ended : k.ended = clock.wait (capped limit d)
  inTime : k.answer.isSome = true ↔ InTime limit d

/-- The longest of some delays under a limit; no time, if there are none. -/
def longest (limit : Nat) (delays : List (Option Nat)) : Nat := (delays.map (capped limit)).foldr max 0

theorem longest_le (limit : Nat) (delays : List (Option Nat)) : longest limit delays ≤ limit :=
  Monitor.foldr_max_le.mpr fun x hx => by
    obtain ⟨d, -, rfl⟩ := List.mem_map.mp hx
    exact Service.capped_le limit d

theorem exists_checkTakes (hB : B.probe.Prompt) {clock clock₁ : Clock} {g g₁ : Failover B} {checkups : List (Checkup B)}
    (h : Monitor.Examined clock g.watch checkups clock₁ g₁.watch) :
    ∃ waits, List.Forall₂ (CheckTakes clock g.monitor.timeout g) checkups waits := by
  have hends := h.ends
  generalize checkups = ks at hends
  induction ks with
  | nil => exact ⟨[], .nil⟩
  | cons k ks ih =>
    obtain ⟨⟨b, hb, hk⟩, hends⟩ := List.forall_mem_cons.mp hends
    obtain ⟨waits, ih⟩ := ih hends
    obtain ⟨d, hd⟩ := B.probe.exists_takes clock (B.probe.start clock () b)
    exact ⟨d :: waits, .cons ⟨⟨b, hb, hd⟩, hk.clock_of_takes hd, hk.isSome_iff hB hd⟩ ih⟩

theorem last_eq_longest {clock : Clock} {limit : Nat} {g : Failover B} {checkups : List (Checkup B)}
    {waits : List (Option Nat)} (h : List.Forall₂ (CheckTakes clock limit g) checkups waits) :
    Checkup.last checkups - clock.mono = longest limit waits := by
  induction h with
  | nil => exact Nat.zero_sub _
  | @cons k d checkups waits hk _ ih =>
    have hover : k.ended.mono = clock.mono + capped limit d := congrArg Clock.mono hk.ended
    simp only [Checkup.last, longest, List.map_cons, List.foldr_cons] at ih ⊢
    omega

/-! ## Attempts -/

/-- Attempts one after the other, and how long each would take if it were left to itself. -/
inductive AttemptsTake (op : Operation) (limit : Nat) (backends : List B.State) :
    Clock → List (Attempt B) → List (Option Nat) → Prop
  | nil (clock : Clock) : AttemptsTake op limit backends clock [] []
  | cons {clock : Clock} {a : Attempt B} {b : B.State} {d : Option Nat} {tried : List (Attempt B)}
      {delays : List (Option Nat)} : backends[a.position]? = some b →
      B.operate.Takes clock (B.operate.start clock op b) d → (a.answer.isSome = true ↔ InTime limit d) →
      AttemptsTake op limit backends (clock.wait (capped limit d)) tried delays →
      AttemptsTake op limit backends clock (a :: tried) (d :: delays)

/-- All of some delays under a limit, one after the other. -/
def total (limit : Nat) : List (Option Nat) → Nat
  | [] => 0
  | d :: delays => capped limit d + total limit delays

theorem exists_attemptsTake (hB : B.operate.Prompt) {op : Operation} {ms : Nat} {backends : List B.State}
    {clock clock' : Clock} {tried : List (Attempt B)} (h : Attempts op ms backends clock tried clock') :
    ∃ delays, AttemptsTake op (millis ms) backends clock tried delays ∧
      clock' = clock.wait (total (millis ms) delays) := by
  induction h with
  | nil clock => exact ⟨[], .nil clock, (Clock.wait_zero clock).symm⟩
  | @cons clock clock₁ clock' b a tried hb hends _ ih =>
    obtain ⟨delays, htake, rfl⟩ := ih
    obtain ⟨d, hd⟩ := B.operate.exists_takes clock (B.operate.start clock op b)
    obtain rfl := hends.clock_of_takes hd
    exact ⟨d :: delays, .cons hb hd (hends.isSome_iff hB hd) htake, Clock.wait_wait ..⟩

theorem AttemptsTake.length_eq {op : Operation} {limit : Nat} {backends : List B.State} {clock : Clock}
    {tried : List (Attempt B)} {delays : List (Option Nat)} (h : AttemptsTake op limit backends clock tried delays) :
    delays.length = tried.length := by
  induction h with
  | nil => rfl
  | cons _ _ _ _ ih => exact congrArg Nat.succ ih

theorem total_le (limit : Nat) (delays : List (Option Nat)) : total limit delays ≤ delays.length * limit := by
  induction delays with
  | nil => exact Nat.zero_le _
  | cons d delays ih =>
    have hd := Service.capped_le limit d
    simp only [total, List.length_cons, Nat.succ_mul] at ih ⊢
    omega

/-! ## Operations -/

/-- The checks and the attempts of an operation that is called at `clock`, and the time that they take. -/
structure Elapsed (c : Config) (op : Operation) (clock : Clock) (g : Failover B) (checkups : List (Checkup B))
    (waits : List (Option Nat)) (clock₁ : Clock) (g₁ : Failover B) (tried : List (Attempt B))
    (delays : List (Option Nat)) (clock' : Clock) : Prop where
  checks : List.Forall₂ (CheckTakes clock c.checkTimeout g) checkups waits
  checked : clock₁ = clock.wait (longest c.checkTimeout waits)
  attempts : AttemptsTake op c.operationTimeout g₁.backends clock₁ tried delays
  ended : clock' = clock.wait (longest c.checkTimeout waits + total c.operationTimeout delays)
  most : clock'.mono ≤ clock.mono + (c.checkTimeout + c.backends.length * c.operationTimeout)

theorem refresh_examines (hB : B.probe.Tame) (g : Failover B) (clock : Clock) :
    ∃ n clock₁ g₁ checkups, (refresh B).Runs n clock ((refresh B).start clock () g) clock₁ g₁ () ∧
      Monitor.Examined clock g.watch checkups clock₁ g₁.watch := by
  obtain ⟨n, clock₁, w', checkups, hrun, hexamined⟩ := Monitor.refresh_examines hB g.watch clock
  exact ⟨n, clock₁, setWatch w' g, checkups, hrun.focus watch_setWatch setWatch_setWatch g, hexamined⟩

theorem Reference.length_le {c : Config} {op : Operation} {clock clock' : Clock} {g g' : Failover B}
    {tried : List (Attempt B)} {r : Result} (h : Reference c op clock g tried clock' g' r) :
    tried.length ≤ g.monitor.records.length := by
  have hsub : tried.map Attempt.position ⊆ List.range g.monitor.records.length := fun i hi => by
    have hlt := (g.rotation.candidates_nodup g.monitor.flags).2 i (h.order.subset hi)
    simpa [Monitor.flags] using hlt
  simpa using (h.once.subperm hsub).length_le

/-- With no check in flight. A refused operation takes no time. -/
theorem operate_elapsed (hB : B.Prompt) {c : Config} {g : Failover B} (hg : Reach c g)
    (hfree : ∀ h ∈ g.monitor.records, h.claimed = false) (clock : Clock) (op : Operation) :
    (∀ e, refusal? op = some e →
        (operate B).call 0 clock op g = (clock, g, some (.error (.invalidArgument e.message)))) ∧
      (refusal? op = none → ∃ fuel checkups waits clock₁ g₁ tried delays clock' g' r,
        (operate B).call fuel clock op g = (clock', g', some r) ∧
          Monitor.Refreshed clock g.watch checkups clock₁ g₁.watch ∧ Reference c op clock₁ g₁ tried clock' g' r ∧
          Elapsed c op clock g checkups waits clock₁ g₁ tried delays clock') := by
  refine ⟨fun e hop => ?_, fun hop => ?_⟩
  · simp only [Service.call, operate, startOperation, hop, Service.settle]
  obtain ⟨k, n, clock₁, g₁, tried, clock', g', r, hchecks, hframe, -, hrun, href⟩ :=
    operate_reference hB.tame hg clock hop
  obtain ⟨_, clock₂, g₂, checkups, hchecks', hexamined⟩ := refresh_examines hB.tame.probe g clock
  obtain ⟨hclock, hgroup, -⟩ := hchecks'.unique hchecks
  rw [hclock, hgroup] at hexamined
  have hlimit : g.monitor.timeout = c.checkTimeout := congrArg Frame.checkTimeout hg.frame
  have hrecords : g₁.monitor.records.length = c.backends.length :=
    congrArg Frame.records (hframe.trans hg.frame)
  obtain ⟨waits, hwaits⟩ := exists_checkTakes hB.probe hexamined
  obtain ⟨delays, hdelays, hover⟩ := exists_attemptsTake hB.operate href.attempts
  rw [hlimit] at hwaits
  have hchecked := hexamined.ended
  rw [Clock.waitUntil, last_eq_longest hwaits] at hchecked
  have hfinal : clock' = clock.wait (longest c.checkTimeout waits + total c.operationTimeout delays) := by
    rw [hover, hchecked]
    exact Clock.wait_wait ..
  have hmost : total c.operationTimeout delays ≤ c.backends.length * c.operationTimeout :=
    calc total c.operationTimeout delays
      _ ≤ delays.length * c.operationTimeout := total_le ..
      _ = tried.length * c.operationTimeout := by rw [hdelays.length_eq]
      _ ≤ c.backends.length * c.operationTimeout := Nat.mul_le_mul_right _ (hrecords ▸ href.length_le)
  refine ⟨n + k, checkups, waits, clock₁, g₁, tried, delays, clock', g', r, hrun.settle (Nat.le_refl _),
    ⟨hexamined, fun i => ?_⟩, href, hwaits, hchecked, hdelays, hfinal, ?_⟩
  · exact (hexamined.due i).trans (and_congr_right fun _ => Monitor.isDue_iff hfree clock i)
  · have hlongest := longest_le c.checkTimeout waits
    rw [hfinal, Clock.wait_mono]
    omega

theorem operate_elapsed_firstHangs :
    Simulation.FaultyStore.backend.Prompt ∧ Reach firstHangs hangingPair ∧
      (∀ h ∈ hangingPair.monitor.records, h.claimed = false) ∧
      refusal? (.increment "k" (seconds 60)) = none ∧
      ∃ fuel checkups waits clock₁ g₁ tried delays clock' g' r,
        (operate _).call fuel ⟨0, 0⟩ (.increment "k" (seconds 60)) hangingPair = (clock', g', some r) ∧
          Monitor.Refreshed ⟨0, 0⟩ hangingPair.watch checkups clock₁ g₁.watch ∧
          Reference firstHangs (.increment "k" (seconds 60)) clock₁ g₁ tried clock' g' r ∧
          Elapsed firstHangs (.increment "k" (seconds 60)) ⟨0, 0⟩ hangingPair checkups waits clock₁ g₁ tried delays
            clock' :=
  ⟨Simulation.FaultyStore.prompt, hangingPair_reach, by decide, rfl,
    (operate_elapsed Simulation.FaultyStore.prompt hangingPair_reach (by decide) ⟨0, 0⟩
      (.increment "k" (seconds 60))).2 rfl⟩

end Failover

end RateCounter
