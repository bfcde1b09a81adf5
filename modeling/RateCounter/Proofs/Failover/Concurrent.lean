/-
  RateCounter.Proofs.Failover.Concurrent — increments of one key that are under way at once.

  The strategy is `firstHealthy`, and the first backend is a memory store of which no
  failure is noted. Between two moments at which no increment of the key is under way, any
  calls are made, have turns and are dropped. Whichever turns the increments had, they have
  returned consecutive counts if they were carried out in one window of the key, and a read
  that is called then returns the last of them (`increments_consecutive`).

  The counts are consecutive in the order in which the store carried the increments out
  (`Executed.counted`); that they are those which were returned is in the log (`Booked`).
-/

import RateCounter.Proofs.Failover.Deadlines
import RateCounter.Proofs.Failover.OneWindow

namespace RateCounter

open Failover (Execution Result refusal?)
open Traffic (isHitOf)

/-! ## Increments of a key -/

/-- An increment of the key that is not refused. -/
def Operation.isHit (key : String) (op : Operation) : Bool :=
  match op with
  | .increment other _ => decide (other = key ∧ refusal? op = none)
  | _ => false

/-- A move that calls one. -/
def Move.isHit {B : Backend} (key : String) : Move B → Bool
  | .operate op => op.isHit key
  | _ => false

namespace Caller

variable {B : Backend} {key : String} {c c' : Caller B}

/-- A call of one that was not dropped. -/
def asksHit (key : String) (c : Caller B) : Bool := c.asks.any (Operation.isHit key)

/-- What it returned. -/
def hit? (key : String) : Caller B → Option Result
  | .returned op result => if op.isHit key then some result else none
  | _ => none

/-- No increment of the key is under way. -/
def Quiet (key : String) : Caller B → Prop
  | .operating x => x.operation.isHit key = false
  | _ => True

theorem asks_ofOperation {op : Operation} {turn : Turn (Failover.operate B).Flight Result}
    (h : ∀ x, turn = .waiting x → x.operation = op) : (ofOperation op turn).asks = some op := by
  cases turn with
  | done result => rfl
  | waiting x => exact congrArg some (h x rfl)

theorem hit?_isSome_le (key : String) (c : Caller B) : (c.hit? key).isSome = true → c.asksHit key = true := by
  cases c with
  | returned op result =>
    intro h
    by_cases hop : op.isHit key = true
    · exact hop
    · simp [hit?, hop] at h
  | _ => exact nofun

theorem Quiet.hit?_isSome (h : c.Quiet key) : (c.hit? key).isSome = c.asksHit key := by
  cases c with
  | operating x => exact h.symm
  | returned op result =>
    show (if op.isHit key then some result else none).isSome = op.isHit key
    cases op.isHit key <;> rfl
  | _ => rfl

/-- A call that is no increment of the key does not become one, and one that has returned stays as it is. -/
theorem Goes.quiet {t : Traffic B} (h : Goes t c c') (hc : c.Quiet key) : c'.Quiet key ∧ c'.hit? key = c.hit? key := by
  cases h with
  | operation x =>
    have hended := (Failover.resume_ended t.clock x t.group).operation
    generalize ((Failover.operate B).resume t.clock x t.group).2 = turn at hended
    have hop : x.operation.isHit key = false := hc
    cases turn with
    | waiting y =>
      refine ⟨?_, rfl⟩
      show y.operation.isHit key = false
      rw [hended y rfl, hop]
    | done result => exact ⟨trivial, if_neg (Bool.eq_false_iff.mp hop)⟩
  | refresh checks =>
    cases ((Failover.refresh B).resume t.clock checks t.group).2 <;> exact ⟨trivial, rfl⟩
  | operationDropped x => exact ⟨trivial, rfl⟩
  | refreshDropped checks => exact ⟨trivial, rfl⟩

end Caller

namespace Traffic

variable {B : Backend} {key : String} {t : Traffic B}

/-- No increment of the key is under way. -/
def Quiet (key : String) (t : Traffic B) : Prop := ∀ c ∈ t.callers, c.Quiet key

/-- What the increments of the key have returned. -/
def hits (key : String) (t : Traffic B) : List Result := t.callers.filterMap (Caller.hit? key)

/-- The same of those called after the first `n` calls. -/
def hitsSince (key : String) (n : Nat) (t : Traffic B) : List Result :=
  (t.callers.drop n).filterMap (Caller.hit? key)

/-- How many increments of the key were called and not dropped. -/
def asked (key : String) (t : Traffic B) : Nat := t.callers.countP (Caller.asksHit key)

theorem length_hits (t : Traffic B) (key : String) :
    (t.hits key).length = t.callers.countP fun c => (c.hit? key).isSome :=
  List.length_filterMap_eq_countP

theorem length_hits_le (t : Traffic B) (key : String) : (t.hits key).length ≤ t.asked key := by
  rw [length_hits]
  exact List.countP_mono_left fun c _ => Caller.hit?_isSome_le key c

theorem Quiet.length_hits (h : t.Quiet key) : (t.hits key).length = t.asked key := by
  rw [Traffic.length_hits]
  exact List.countP_congr fun c hc => by rw [(h c hc).hit?_isSome]

theorem asked_place (key : String) {k : Nat} (hk : k ≤ t.callers.length) (c : Caller B) :
    (place k c t.callers).countP (Caller.asksHit key) + ((t.callers[k]?.map (Caller.asksHit key)).getD false).toNat =
      t.asked key + (c.asksHit key).toNat := countP_place hk c (Caller.asksHit key)

theorem asked_resumed {k : Nat} {c : Caller B} (hk : t.callers[k]? = some c) :
    (t.resumed k c).asked key = t.asked key := by
  have hplace := fun c' => asked_place key (number_le hk) c'
  rw [hk] at hplace
  cases c with
  | operating x =>
    have hasks := Caller.asks_ofOperation (Failover.resume_ended t.clock x t.group).operation
    refine Nat.add_right_cancel ((hplace (.ofOperation x.operation _)).trans ?_)
    rw [Caller.asksHit, hasks]
    rfl
  | refreshing checks =>
    refine (hplace (.ofRefresh _)).trans ?_
    rw [Caller.asksHit, Caller.asks_ofRefresh]
    rfl
  | returned op result => rfl
  | refreshed => rfl
  | dropped => rfl

theorem asked_abandoned_le {k : Nat} {c : Caller B} (hk : t.callers[k]? = some c) :
    (t.abandoned k c).asked key ≤ t.asked key := by
  have hplace := asked_place key (number_le hk) .dropped
  have hle : (place k .dropped t.callers).countP (Caller.asksHit key) ≤ t.asked key := Nat.le.intro hplace
  cases c with
  | operating x => exact hle
  | refreshing checks => exact hle
  | returned op result => exact Nat.le_refl _
  | refreshed => exact Nat.le_refl _
  | dropped => exact Nat.le_refl _

/-- A move calls at most one more, and none is lost unless a call is dropped. -/
theorem asked_after (t : Traffic B) (key : String) (move : Move B) :
    (t.after move).asked key ≤ t.asked key + (move.isHit key).toNat ∧
      ((∀ k, move ≠ .drop k) → (t.after move).asked key = t.asked key + (move.isHit key).toNat) := by
  have hplace := asked_place key (Nat.le_refl t.callers.length)
  rw [List.getElem?_eq_none (Nat.le_refl _)] at hplace
  cases move with
  | operate op =>
    have hasks := Caller.asks_ofOperation (Failover.start_ended t.clock op t.group).operation
    have heq : (t.after (.operate op)).asked key = t.asked key + (op.isHit key).toNat := by
      refine (hplace (.ofOperation op _)).trans ?_
      rw [Caller.asksHit, hasks]
      rfl
    exact ⟨Nat.le_of_eq heq, fun _ => heq⟩
  | refresh =>
    have heq : (t.after .refresh).asked key = t.asked key := by
      refine (hplace (.ofRefresh _)).trans ?_
      rw [Caller.asksHit, Caller.asks_ofRefresh]
      rfl
    exact ⟨Nat.le_of_eq heq, fun _ => heq⟩
  | turn k =>
    have heq : (t.callers[k]?.elim t (t.resumed k)).asked key = t.asked key := by
      cases hk : t.callers[k]? with
      | none => rfl
      | some c => exact asked_resumed hk
    exact ⟨Nat.le_of_eq heq, fun _ => heq⟩
  | drop k =>
    refine ⟨?_, fun hdrop => absurd rfl (hdrop k)⟩
    show (t.callers[k]?.elim t (t.abandoned k)).asked key ≤ t.asked key
    cases hk : t.callers[k]? with
    | none => exact Nat.le_refl _
    | some c => exact asked_abandoned_le hk
  | report i result => exact ⟨Nat.le_refl _, fun _ => rfl⟩
  | outside change => exact ⟨Nat.le_refl _, fun _ => rfl⟩
  | pass elapsed wall => exact ⟨Nat.le_refl _, fun _ => rfl⟩

theorem asked_run (t : Traffic B) (key : String) (moves : List (Move B)) :
    (t.run moves).asked key ≤ t.asked key + moves.countP (Move.isHit key) ∧
      ((∀ k, .drop k ∉ moves) → (t.run moves).asked key = t.asked key + moves.countP (Move.isHit key)) := by
  induction moves generalizing t with
  | nil => exact ⟨Nat.le_refl _, fun _ => rfl⟩
  | cons move moves ih =>
    obtain ⟨hle, heq⟩ := t.asked_after key move
    obtain ⟨ihle, iheq⟩ := ih (t.after move)
    have hcons : (move :: moves).countP (Move.isHit key) = (move.isHit key).toNat + moves.countP (Move.isHit key) := by
      rw [List.countP_cons]
      cases move.isHit key <;> simp [Nat.add_comm]
    rw [hcons]
    refine ⟨?_, fun hdrop => ?_⟩
    · exact Nat.le_trans ihle (by omega)
    · have hmove : ∀ k, move ≠ .drop k := fun k hk => hdrop k (hk ▸ List.mem_cons_self ..)
      have hrest := iheq fun k hk => hdrop k (List.mem_cons_of_mem _ hk)
      exact hrest.trans (by rw [heq hmove]; omega)

theorem quiet_after (move : Move B) {k : Nat} {c : Caller B} (hk : t.callers[k]? = some c) (hc : c.Quiet key) :
    ∃ c', (t.after move).callers[k]? = some c' ∧ c'.Quiet key ∧ c'.hit? key = c.hit? key := by
  have hlt : k < t.callers.length := (List.getElem?_eq_some_iff.mp hk).1
  rcases t.callers_after move with hsame | ⟨j, d, d', -, hj, hgoes, hplace⟩ | ⟨d, -, hplace⟩
  · exact ⟨c, hsame ▸ hk, hc, rfl⟩
  · have hle := number_le hj
    rw [hplace, getElem?_place hle]
    by_cases hkj : k = j
    · subst hkj
      obtain rfl := Option.some.inj (hj.symm.trans hk)
      rw [if_pos rfl]
      exact ⟨d', rfl, hgoes.quiet hc⟩
    · rw [if_neg hkj]
      exact ⟨c, hk, hc, rfl⟩
  · rw [hplace, getElem?_place (Nat.le_refl _), if_neg (Nat.ne_of_lt hlt)]
    exact ⟨c, hk, hc, rfl⟩

theorem quiet_run (moves : List (Move B)) {k : Nat} {c : Caller B} (hk : t.callers[k]? = some c) (hc : c.Quiet key) :
    ∃ c', (t.run moves).callers[k]? = some c' ∧ c'.Quiet key ∧ c'.hit? key = c.hit? key := by
  induction moves generalizing t c with
  | nil => exact ⟨c, hk, hc, rfl⟩
  | cons move moves ih =>
    obtain ⟨c₁, hk₁, hc₁, hhit₁⟩ := quiet_after move hk hc
    obtain ⟨c₂, hk₂, hc₂, hhit₂⟩ := ih hk₁ hc₁
    exact ⟨c₂, hk₂, hc₂, hhit₂.trans hhit₁⟩

/-- The increments of a quiet moment are the same later on. -/
theorem Quiet.hits_run (h : t.Quiet key) (moves : List (Move B)) :
    (t.run moves).hits key = t.hits key ++ (t.run moves).hitsSince key t.callers.length := by
  have htake : ((t.run moves).callers.take t.callers.length).map (Caller.hit? key) =
      t.callers.map (Caller.hit? key) := by
    refine List.ext_getElem? fun k => ?_
    rw [List.getElem?_map, List.getElem?_map]
    cases hk : t.callers[k]? with
    | some c =>
      obtain ⟨c', hk', -, hhit⟩ := quiet_run moves hk (h c (List.mem_of_getElem? hk))
      rw [List.getElem?_take_of_lt (List.getElem?_eq_some_iff.mp hk).1, hk']
      exact congrArg some hhit
    | none =>
      rw [List.getElem?_take_eq_none (List.getElem?_eq_none_iff.mp hk)]
  have hmap : ∀ callers : List (Caller B), callers.filterMap (Caller.hit? key) =
      (callers.map (Caller.hit? key)).filterMap id := fun callers => by
    rw [List.filterMap_map]
    rfl
  unfold hits hitsSince
  rw [hmap t.callers, ← htake, ← hmap, ← List.filterMap_append, List.take_append_drop]

/-- As many have returned as were called, unless calls were dropped. -/
theorem Quiet.length_hitsSince (h : t.Quiet key) {moves : List (Move B)} (hover : (t.run moves).Quiet key) :
    ((t.run moves).hitsSince key t.callers.length).length ≤ moves.countP (Move.isHit key) ∧
      ((∀ k, .drop k ∉ moves) →
        ((t.run moves).hitsSince key t.callers.length).length = moves.countP (Move.isHit key)) := by
  have hsplit := congrArg List.length (h.hits_run moves)
  rw [List.length_append, hover.length_hits, h.length_hits] at hsplit
  obtain ⟨hle, heq⟩ := t.asked_run key moves
  exact ⟨by omega, fun hdrop => by have := heq hdrop; omega⟩

/-- There are no more of them if none is called. -/
theorem Quiet.hits_unchanged (h : t.Quiet key) {moves : List (Move B)}
    (hmoves : ∀ move ∈ moves, move.isHit key = false) : (t.run moves).hits key = t.hits key := by
  have hsplit := h.hits_run moves
  have hcount : moves.countP (Move.isHit key) = 0 :=
    List.countP_eq_zero.mpr fun move hmove => Bool.eq_false_iff.mp (hmoves move hmove)
  have hlength := congrArg List.length hsplit
  have hle := Nat.le_trans ((t.run moves).length_hits_le key) (t.asked_run key moves).1
  rw [List.length_append, h.length_hits] at hlength
  have hnil : (t.run moves).hitsSince key t.callers.length = [] := List.eq_nil_of_length_eq_zero (by omega)
  rw [hsplit, hnil, List.append_nil]

/-! ## What was returned was carried out -/

variable {store? : B.State → Option Store} {operation : B.operate.Flight → Operation} {s₀ s : Store} {m₀ : Monitor}

theorem Booked.perm (h : Booked t) : (Note.carried t.log).Perm (t.callers.filterMap Caller.value?) := by
  refine List.perm_iff_count.mpr fun p => ?_
  show (Note.carried t.log).countP (· == p) = (t.callers.filterMap Caller.value?).countP (· == p)
  rw [h.counted, List.countP_filterMap]
  exact List.countP_congr fun c _ => by cases c.value? <;> rfl

theorem isHit_eq {op : Operation} (hop : refusal? op = none) (v : Value) : op.isHit key = isHitOf key (op, v) := by
  cases op with
  | increment other length => simp [Operation.isHit, isHitOf, hop, beq_eq_decide]
  | _ => rfl

theorem isHit_refused {op : Operation} (hop : refusal? op ≠ none) : op.isHit key = false := by
  cases op with
  | increment other length => simp [Operation.isHit, hop]
  | _ => rfl

/-- What an increment of the key returned is the value of a hit. -/
theorem Leading.hit?_eq (h : Leading store? operation s₀ t) {c : Caller B} (hc : c ∈ t.callers) :
    c.hit? key = (c.value?.filter (isHitOf key)).map fun p => .ok p.2 := by
  obtain ⟨k, hk⟩ := List.mem_iff_getElem?.mp hc
  cases c with
  | returned op result =>
    have hanswered := h.answered k op result hk
    cases result with
    | error e =>
      have hrefused : refusal? op ≠ none := fun hop => nomatch hanswered.mpr hop
      exact if_neg (Bool.eq_false_iff.mp (isHit_refused hrefused))
    | ok v =>
      show (if op.isHit key then some (Except.ok v) else none) = _
      rw [isHit_eq (hanswered.mp ⟨v, rfl⟩) v]
      cases hhit : isHitOf key (op, v) <;> simp [Caller.value?, Option.filter, hhit]
  | operating x => rfl
  | refreshing checks => rfl
  | refreshed => rfl
  | dropped => rfl

theorem Leading.hits_perm (h : Leading store? operation s₀ t) (hbooked : Booked t) (key : String) :
    (t.hits key).Perm ((Note.hits key t.log).map .ok) := by
  have hhits : t.hits key = ((t.callers.filterMap Caller.value?).filter (isHitOf key)).map fun p => .ok p.2 := by
    rw [List.filter_filterMap, List.map_filterMap]
    exact List.filterMap_congr fun c hc => h.hit?_eq hc
  rw [hhits, Note.hits, List.map_map]
  exact ((hbooked.perm.symm.filter _).map _)

/-- What the increments have returned in the meantime are the hits that were noted in the meantime. -/
theorem Led.returned_perm {t₀ t₁ : Traffic B} (h₀ : Led store? operation s₀ m₀ t₀) (h₁ : Led store? operation s₀ m₀ t₁)
    {since : List Note} (hlog : t₁.log = since ++ t₀.log) {returned : List Result}
    (hhits : t₁.hits key = t₀.hits key ++ returned) : returned.Perm ((Note.hits key since).map .ok) := by
  have hbefore := h₀.leading.hits_perm h₀.booked key
  have hafter := h₁.leading.hits_perm h₁.booked key
  rw [hhits, hlog, Note.hits_append, List.map_append] at hafter
  have hcancel : (t₀.hits key ++ returned).Perm (t₀.hits key ++ (Note.hits key since).map .ok) :=
    hafter.trans (List.perm_append_comm.trans (hbefore.symm.append_right _))
  exact (List.perm_append_left_iff _).mp hcancel

/-- What the first store carried out in the meantime. -/
theorem Led.executed {t₀ t₁ : Traffic B} (h₀ : Led store? operation s₀ m₀ t₀) (h₁ : Led store? operation s₀ m₀ t₁)
    (hs : t₀.group.firstStore store? = some s) {since : List Note} (hlog : t₁.log = since ++ t₀.log) :
    ∃ s', Executed s (Note.about 0 since) s' := by
  obtain ⟨s', hs', hbefore⟩ := h₀.leading.executed
  obtain ⟨s₁, -, hafter⟩ := h₁.leading.executed
  obtain rfl := Option.some.inj (hs.symm.trans hs')
  rw [hlog, Note.about_append] at hafter
  obtain ⟨s'', hearlier, hlater⟩ := hafter.split
  obtain rfl : s = s'' := hbefore.eq_replay.trans hearlier.eq_replay.symm
  exact ⟨s₁, hlater⟩

/-- Nothing was carried out elsewhere. -/
theorem Led.hits_first (h : Led store? operation s₀ m₀ t) {since earlier : List Note} (hlog : t.log = since ++ earlier)
    (key : String) : Note.hits key (Note.about 0 since) = Note.hits key since :=
  Note.hits_about fun n hn => h.leading.position n (hlog ▸ List.mem_append_left _ hn)

/-! ## One batch -/

/-- Increments of the key that are called and over between `t₀` and `t₁`, and a read that is called then. The
    increments and the read are carried out in one window, by the store that is `s` at `t₀`. -/
structure Batch (key : String) (now : Instant) (s : Store) (t₀ t₁ : Traffic B) (later : List (Move B)) : Prop where
  quiet : t₀.Quiet key
  finished : t₁.Quiet key
  last : ∀ move ∈ later, move.isHit key = false
  window : ∀ since, (t₁.run (.operate (.count key) :: later)).log = since ++ t₀.log →
    InOneWindow key t₁.callers.length now s (Note.about 0 since)
  room : s.count key now + (t₁.hitsSince key t₀.callers.length).length ≤ maxCount

/-- What a call has returned was carried out since it began. -/
theorem Booked.note {t₁ t₂ : Traffic B} (h : Booked t₂) (hkept : Kept m₀ t₁) {since : List Note}
    (hlog : t₂.log = since ++ t₁.log) {k : Nat} (hk : t₁.callers.length ≤ k) {op : Operation} {v : Value}
    (hreturned : t₂.callers[k]? = some (.returned op (.ok v))) :
    ∃ n ∈ since, n.caller = some k ∧ n.carried? = some (op, v) := by
  have hcarried := h.carried k _ hreturned
  have hmem : (op, v) ∈ Note.carried (Note.calledBy k t₂.log) := hcarried ▸ List.mem_singleton_self _
  obtain ⟨n, hn, hop⟩ := List.mem_filterMap.mp hmem
  obtain ⟨hn, hcaller⟩ := List.mem_filter.mp hn
  have hcaller : n.caller = some k := by simpa using hcaller
  refine ⟨n, ?_, hcaller, hop⟩
  rw [hlog] at hn
  refine (List.mem_append.mp hn).resolve_right fun hold => ?_
  exact absurd (hkept.numbers n hold k hcaller) (Nat.not_lt.mpr hk)

section Batch

variable {t₀ t₁ t₂ : Traffic B} {during later : List (Move B)} {now : Instant} {since₁ since₂ : List Note}

theorem Batch.noted (h : Batch key now s t₀ t₁ later) (ht₂ : t₂ = t₁.run (.operate (.count key) :: later))
    (hlog₁ : t₁.log = since₁ ++ t₀.log) (hlog₂ : t₂.log = since₂ ++ t₁.log) :
    InOneWindow key t₁.callers.length now s (Note.about 0 since₂ ++ Note.about 0 since₁) := by
  rw [← Note.about_append]
  exact h.window _ (by rw [← ht₂, hlog₂, hlog₁, List.append_assoc])

/-- As many increments have returned as hits were noted. -/
theorem Batch.returned_perm (h : Batch key now s t₀ t₁ later) (h₀ : Led store? operation s₀ m₀ t₀)
    (h₁ : Led store? operation s₀ m₀ t₁) (ht₁ : t₁ = t₀.run during) (hlog₁ : t₁.log = since₁ ++ t₀.log) :
    (t₁.hitsSince key t₀.callers.length).Perm ((Note.hits key since₁).map .ok) := by
  refine h₀.returned_perm h₁ hlog₁ ?_
  rw [ht₁]
  exact h.quiet.hits_run during

theorem Batch.consecutive (h : Batch key now s t₀ t₁ later) (h₀ : Led store? operation s₀ m₀ t₀)
    (h₁ : Led store? operation s₀ m₀ t₁) (ht₁ : t₁ = t₀.run during)
    (hs : t₀.group.firstStore store? = some s) :
    (t₁.hitsSince key t₀.callers.length).Perm ((List.range (t₁.hitsSince key t₀.callers.length).length).map fun j =>
      .ok (.count (s.count key now + 1 + j))) := by
  obtain ⟨since₁, hlog₁⟩ : ∃ since, t₁.log = since ++ t₀.log := ht₁ ▸ t₀.log_run during
  obtain ⟨since₂, hlog₂⟩ := t₁.log_run (.operate (.count key) :: later)
  have hreturned := h.returned_perm h₀ h₁ ht₁ hlog₁
  have hlength := hreturned.length_eq
  rw [List.length_map] at hlength
  obtain ⟨s₁, hexecuted⟩ := h₀.executed h₁ hs hlog₁
  have hhits := h₁.hits_first hlog₁ key
  have hcounted := hexecuted.counted (h.noted rfl hlog₁ hlog₂).suffix (hhits.symm ▸ hlength ▸ h.room)
  have hvalues := hcounted.values
  rw [hhits, ← hlength] at hvalues
  rw [hvalues] at hreturned
  refine hreturned.trans (((descending_perm ..).map Except.ok).trans ?_)
  rw [List.map_map]
  exact .refl _

theorem Batch.read (h : Batch key now s t₀ t₁ later) (h₀ : Led store? operation s₀ m₀ t₀)
    (h₁ : Led store? operation s₀ m₀ t₁) (h₂ : Led store? operation s₀ m₀ t₂) (ht₁ : t₁ = t₀.run during)
    (ht₂ : t₂ = t₁.run (.operate (.count key) :: later)) (hs : t₀.group.firstStore store? = some s) {result : Result}
    (hresult : t₂.callers[t₁.callers.length]? = some (.returned (.count key) result)) :
    result = .ok (.count (s.count key now + (t₁.hitsSince key t₀.callers.length).length)) := by
  obtain ⟨since₁, hlog₁⟩ : ∃ since, t₁.log = since ++ t₀.log := ht₁ ▸ t₀.log_run during
  obtain ⟨since₂, hlog₂⟩ : ∃ since, t₂.log = since ++ t₁.log := ht₂ ▸ t₁.log_run _
  have hlength := (h.returned_perm h₀ h₁ ht₁ hlog₁).length_eq
  rw [List.length_map] at hlength
  have hhits₁ := h₁.hits_first hlog₁ key
  -- No hit comes after the increments.
  have hhits₂ : Note.hits key since₂ = [] := by
    have hsame : t₂.hits key = t₁.hits key ++ [] := by
      rw [List.append_nil, ht₂]
      exact h.finished.hits_unchanged (List.forall_mem_cons.mpr ⟨rfl, h.last⟩)
    exact List.map_eq_nil_iff.mp (List.Perm.eq_nil (h₁.returned_perm h₂ hlog₂ hsame).symm)
  obtain ⟨v, rfl⟩ := (h₂.leading.answered _ _ _ hresult).mpr rfl
  obtain ⟨n, hn, hcaller, hcarried⟩ := h₂.booked.note h₁.kept hlog₂ (Nat.le_refl _) hresult
  have hposition : n.position = 0 :=
    h₂.leading.position n (hlog₂ ▸ List.mem_append_left _ hn) (by rw [hcarried]; nofun)
  have hmem : n ∈ Note.about 0 since₂ := Note.mem_about.mpr ⟨hn, hposition⟩
  obtain ⟨after, before, hsplit⟩ := List.append_of_mem hmem
  have hbefore : Note.hits key (before ++ Note.about 0 since₁) = Note.hits key since₁ := by
    have hnil : Note.hits key (after ++ n :: before) = [] := by
      rw [← hsplit, h₂.hits_first hlog₂, hhits₂]
    rw [← List.singleton_append, Note.hits_append, Note.hits_append, List.append_eq_nil_iff,
      List.append_eq_nil_iff] at hnil
    rw [Note.hits_append, hnil.2.2, List.nil_append, hhits₁]
  have hlog : t₂.log = (since₂ ++ since₁) ++ t₀.log := by rw [hlog₂, hlog₁, List.append_assoc]
  obtain ⟨s₂, hexecuted⟩ := h₀.executed h₂ hs hlog
  have hwindow := h.noted ht₂ hlog₁ hlog₂
  rw [Note.about_append, hsplit, List.append_assoc, List.cons_append] at hexecuted
  rw [hsplit, List.append_assoc, List.cons_append] at hwindow
  have hvalue := hexecuted.read hwindow hcarried hcaller (by rw [hbefore, ← hlength]; exact h.room)
  rw [hvalue, hbefore, hlength]

end Batch

/-- What comes of a batch, and of the read. -/
structure Consecutive (key : String) (c : Nat) (t₀ t₁ t₂ : Traffic B) (during : List (Move B)) : Prop where
  /-- Each count once, in some order. -/
  returned : (t₁.hitsSince key t₀.callers.length).Perm
    ((List.range (t₁.hitsSince key t₀.callers.length).length).map fun j => .ok (.count (c + 1 + j)))
  /-- They are as many as were called. -/
  all : (∀ k, .drop k ∉ during) →
    (t₁.hitsSince key t₀.callers.length).length = during.countP (Move.isHit key)
  read : ∀ result, t₂.callers[t₁.callers.length]? = some (.returned (.count key) result) →
    result = .ok (.count (c + (t₁.hitsSince key t₀.callers.length).length))

/-- Any first backend that is a memory store, any others, and any other calls meanwhile. -/
theorem increments_consecutive (hB : PartlyGated B store? operation) {g : Failover B}
    (hstrategy : g.rotation.strategy = .firstHealthy) (hfirst : (g.firstStore store?).isSome)
    (interval timeout threshold : Nat) (clock : Clock) {before during later : List (Move B)}
    (hspares : ∀ move ∈ before ++ during ++ later, SparesFirst store? move) {t₀ t₁ t₂ : Traffic B}
    (ht₀ : t₀ = (opened g interval timeout threshold clock).run before) (ht₁ : t₁ = t₀.run during)
    (ht₂ : t₂ = t₁.run (.operate (.count key) :: later)) (hnone : Unfailing 0 t₂.log)
    (hs : t₀.group.firstStore store? = some s) {now : Instant} (hbatch : Batch key now s t₀ t₁ later) :
    Consecutive key (s.count key now) t₀ t₁ t₂ during ∧
      ∀ moves, (∀ move ∈ moves, SparesFirst store? move) →
        Unfailing 0 ((opened g interval timeout threshold clock).run moves).log →
        ((opened g interval timeout threshold clock).run moves).AnswersInTwoTurns store? := by
  have hfresh := fresh_start g.backends.length interval timeout threshold
  obtain ⟨s₀, hs₀⟩ := Option.isSome_iff_exists.mp hfirst
  have hopened : Led store? operation s₀ (.start g.backends.length interval timeout threshold)
      (opened g interval timeout threshold clock) := led_opened hstrategy hs₀ interval timeout threshold clock
  -- All three moments are of one run, in which no failure of the first backend is noted.
  have hnone₁ : Unfailing 0 t₁.log := unfailing_run (ht₂ ▸ hnone)
  have hnone₀ : Unfailing 0 t₀.log := unfailing_run (ht₁ ▸ hnone₁)
  have h₀ := hopened.run hB hfresh (fun move hmove => hspares move (by simp [hmove])) ht₀ hnone₀
  have h₁ := h₀.run hB hfresh (fun move hmove => hspares move (by simp [hmove])) ht₁ hnone₁
  have hlater : ∀ move ∈ .operate (.count key) :: later, SparesFirst store? move :=
    List.forall_mem_cons.mpr ⟨trivial, fun move hmove => hspares move (by simp [hmove])⟩
  have h₂ := h₁.run hB hfresh hlater ht₂ hnone
  refine ⟨⟨hbatch.consecutive h₀ h₁ ht₁ hs, fun hdrop => ?_, fun result => hbatch.read h₀ h₁ h₂ ht₁ ht₂ hs⟩,
    fun moves hmoves hnone => (hopened.run hB hfresh hmoves rfl hnone).answersInTwoTurns hB hfresh⟩
  rw [ht₁]
  exact (hbatch.quiet.length_hitsSince (ht₁ ▸ hbatch.finished)).2 hdrop

/-! ## Two increments at once -/

open Simulation (Faults FaultyStore)

/-- A store, or a group of stores that stands in the place of one. -/
abbrev storeOrGroup : Backend := FaultyStore.backend.sum (Failover.backend FaultyStore.backend)

def stored : storeOrGroup.State → Option Store := Sum.elim (fun s => some s.store) fun _ => none

def underWay : storeOrGroup.operate.Flight → Operation := Sum.elim FaultyStore.Held.op Execution.operation

/-- A store beside a group whose own first store hangs. -/
def besideGroup : Failover storeOrGroup where
  names := ["a", "b"]
  backends := [.inl (.ofFaults Faults.none), .inr Failover.hangingPair]
  monitor := .start 2 (seconds 10) (millis 500) 1
  rotation := .start .firstHealthy
  timeout := seconds 5

def atFirst : Traffic storeOrGroup := opened besideGroup (seconds 10) (millis 500) 1 ⟨0, 0⟩

/-- The operations of the store take some time from now on. -/
def delayStore (delay : Nat) : Nat → storeOrGroup.State → storeOrGroup.State
  | _, .inl s => .inl { s with faults := { Faults.none with delay := delay } }
  | _, .inr g => .inr g

/-- The first increment has to wait for the check of the group, and the other overtakes it. -/
def twoAtOnce : List (Move storeOrGroup) :=
  [.outside (delayStore (millis 300)), .operate hit, .outside (delayStore (millis 100)), .operate hit,
    .pass (millis 500) 0, .turn 1, .turn 0, .pass (millis 100) 0, .turn 0]

def afterBoth : Traffic storeOrGroup := atFirst.run twoAtOnce

def readLast : List (Move storeOrGroup) := [.pass (millis 100) 0, .turn 2]

def afterRead : Traffic storeOrGroup := afterBoth.run (.operate (.count "k") :: readLast)

theorem delayStore_spares (delay : Nat) : SparesFirst stored (.outside (delayStore delay)) := by
  intro b s hs
  cases b with
  | inl b => exact hs
  | inr g => cases hs

theorem twoAtOnce_spares : ∀ move ∈ [] ++ twoAtOnce ++ readLast, SparesFirst stored move := by
  have hfirst := delayStore_spares (millis 300)
  have hsecond := delayStore_spares (millis 100)
  simp only [twoAtOnce, readLast, List.nil_append, List.cons_append, List.forall_mem_cons]
  exact ⟨hfirst, trivial, hsecond, trivial, trivial, trivial, trivial, trivial, trivial, trivial, trivial,
    fun _ hmove => absurd hmove List.not_mem_nil⟩

theorem afterBoth_callers : afterBoth.callers = [.returned hit (.ok (.count 2)), .returned hit (.ok (.count 1))] := rfl

theorem afterRead_unfailing : Unfailing 0 afterRead.log := by
  have hresults : (Note.about 0 afterRead.log).map (fun n => n.what.result?) =
      [some (.ok ()), some (.ok ()), some (.ok ()), some (.ok ()), none] := rfl
  intro n hn e he
  have hmem := List.mem_map_of_mem (f := fun n => n.what.result?) hn
  rw [hresults] at hmem
  simp [he] at hmem

theorem twoAtOnce_batch : Batch "k" 0 (Store.empty defaultPurgeEvery) atFirst afterBoth readLast where
  quiet := fun _ hc => absurd hc List.not_mem_nil
  finished := by
    rw [Quiet, afterBoth_callers]
    exact List.forall_mem_cons.mpr ⟨trivial, List.forall_mem_singleton.mpr trivial⟩
  last := by simp [readLast, Move.isHit]
  window since hsince := by
    obtain rfl : afterRead.log = since := hsince.trans (List.append_nil since)
    refine of_decide_eq_true ?_
    rw [afterBoth_callers]
    rfl
  room := by
    rw [hitsSince, afterBoth_callers]
    decide

theorem increments_consecutive_twoAtOnce :
    PartlyGated storeOrGroup stored underWay ∧ besideGroup.rotation.strategy = .firstHealthy ∧
      (besideGroup.firstStore stored).isSome ∧ Unfailing 0 afterRead.log ∧
      Batch "k" 0 (Store.empty defaultPurgeEvery) atFirst afterBoth readLast ∧
      Consecutive "k" 0 atFirst afterBoth afterRead twoAtOnce := by
  have hB : PartlyGated storeOrGroup stored underWay :=
    FaultyStore.gated.partly.inl (C := Failover.backend FaultyStore.backend) Execution.operation
  have hopened : atFirst = (opened besideGroup (seconds 10) (millis 500) 1 ⟨0, 0⟩).run [] := rfl
  obtain ⟨hconsecutive, -⟩ := increments_consecutive hB rfl rfl (seconds 10) (millis 500) 1 ⟨0, 0⟩ twoAtOnce_spares
    hopened rfl rfl afterRead_unfailing rfl twoAtOnce_batch
  exact ⟨hB, rfl, rfl, afterRead_unfailing, twoAtOnce_batch, hconsecutive⟩

end Traffic

end RateCounter
