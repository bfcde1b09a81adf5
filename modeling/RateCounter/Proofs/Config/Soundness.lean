/-
  RateCounter.Proofs.Config.Soundness — which configurations are sound, and which problem of an
  unsound one is told.

  A configuration may have any number of problems. Each has a place in the order of the search
  (`Problem`): that there is no backend comes first, then whatever is wrong with the backends,
  one after the other, then the limits. A name is a duplicate where a backend before has it.
  The check stops at what it meets first, and remembers the names that it has passed.
  - `checkBackends_cases`: it passes all backends if none has a flaw; otherwise it stops at the
    least place of a flaw.
  - `check_tells_first`: accepted are exactly the sound configurations; of another the problem at
    the least place is told.
-/

import Mathlib.Data.List.Nodup
import Mathlib.Data.Prod.Lex
import RateCounter.Config

namespace RateCounter.Config

/-! ## Sound configurations -/

/-- A text with a character that is not white space. -/
def Legible (s : String) : Prop := ∃ ch ∈ s.toList, Text.isWhiteSpace ch = false

structure Sound (c : Config) : Prop where
  populated : c.backends ≠ []
  names : ∀ b ∈ c.backends, Legible b.name
  kinds : ∀ b ∈ c.backends, Legible b.kind
  distinct : (c.backends.map BackendSpec.name).Nodup
  threshold : c.failureThreshold ≠ 0
  operationTimeout : c.operationTimeoutMs ≠ 0
  checkTimeout : c.healthCheckTimeoutMs ≠ 0

theorem legible_iff {s : String} : Legible s ↔ ¬ Text.isBlank s = true := by
  rw [Text.isBlank_iff]
  simp [Legible]

/-! ## Problems and their places -/

/-- What is wrong with a backend after others of these names, and its rank among the flaws of this backend. -/
inductive Flaw (earlier : List String) (b : BackendSpec) : Nat → ConfigError → Prop
  | blankName : ¬ Legible b.name → Flaw earlier b 0 .blankName
  | blankKind : ¬ Legible b.kind → Flaw earlier b 1 (.blankKind b.name)
  | duplicateName : b.name ∈ earlier → Flaw earlier b 2 (.duplicateName b.name)

/-- What is wrong with the backend at a position, after names that were seen already. -/
def FlawAt (seen : List String) (backends : List BackendSpec) (i k : Nat) (e : ConfigError) : Prop :=
  ∃ b, backends[i]? = some b ∧ Flaw (seen ++ (backends.take i).map BackendSpec.name) b k e

/-- A limit that must not be zero, with its rank among the limits. -/
inductive ZeroLimit (c : Config) : Nat → ConfigError → Prop
  | threshold : c.failureThreshold = 0 → ZeroLimit c 0 .zeroThreshold
  | operationTimeout : c.operationTimeoutMs = 0 → ZeroLimit c 1 .zeroOperationTimeout
  | checkTimeout : c.healthCheckTimeoutMs = 0 → ZeroLimit c 2 .zeroCheckTimeout

/-- What is wrong with a configuration, and where in the search it comes. -/
inductive Problem (c : Config) : ℕ ×ₗ ℕ → ConfigError → Prop
  | noBackends : c.backends = [] → Problem c (toLex (0, 0)) .noBackends
  | backend {i k : Nat} {e : ConfigError} : FlawAt [] c.backends i k e → Problem c (toLex (i + 1, k)) e
  | limit {k : Nat} {e : ConfigError} : ZeroLimit c k e → Problem c (toLex (c.backends.length + 1, k)) e

/-- The problem that comes before all others. -/
def FirstProblem (c : Config) (e : ConfigError) : Prop :=
  ∃ p, Problem c p e ∧ ∀ p' e', Problem c p' e' → p ≤ p'

/-! ## One backend after the other -/

theorem Flaw.congr {earlier earlier' : List String} {b : BackendSpec} {k : Nat} {e : ConfigError}
    (hnames : ∀ name, name ∈ earlier ↔ name ∈ earlier') (h : Flaw earlier b k e) : Flaw earlier' b k e := by
  cases h with
  | blankName h => exact .blankName h
  | blankKind h => exact .blankKind h
  | duplicateName h => exact .duplicateName ((hnames _).mp h)

theorem Flaw.unique {earlier : List String} {b : BackendSpec} {k : Nat} {e e' : ConfigError} (h : Flaw earlier b k e)
    (h' : Flaw earlier b k e') : e = e' := by
  cases h <;> cases h' <;> rfl

theorem flawAt_nil {seen : List String} {i k : Nat} {e : ConfigError} : ¬ FlawAt seen [] i k e := by
  rintro ⟨b, hb, -⟩
  simp at hb

theorem flawAt_zero {seen : List String} {b : BackendSpec} {rest : List BackendSpec} {k : Nat} {e : ConfigError} :
    FlawAt seen (b :: rest) 0 k e ↔ Flaw seen b k e := by
  simp [FlawAt]

/-- After the first backend its name is one of those that were seen. -/
theorem flawAt_succ {seen : List String} {b : BackendSpec} {rest : List BackendSpec} {i k : Nat} {e : ConfigError} :
    FlawAt seen (b :: rest) (i + 1) k e ↔ FlawAt (b.name :: seen) rest i k e := by
  have hnames : ∀ name, name ∈ seen ++ ((b :: rest).take (i + 1)).map BackendSpec.name ↔
      name ∈ (b.name :: seen) ++ (rest.take i).map BackendSpec.name := by
    intro name
    simp only [List.take_succ_cons, List.map_cons, List.mem_append, List.mem_cons]
    tauto
  constructor
  · rintro ⟨b', hb', h⟩
    exact ⟨b', hb', h.congr hnames⟩
  · rintro ⟨b', hb', h⟩
    exact ⟨b', hb', h.congr fun name => (hnames name).symm⟩

theorem FlawAt.lt_length {seen : List String} {backends : List BackendSpec} {i k : Nat} {e : ConfigError}
    (h : FlawAt seen backends i k e) : i < backends.length := by
  obtain ⟨b, hb, -⟩ := h
  exact (List.getElem?_eq_some_iff.mp hb).1

/-- The check passes all backends, or it stops at the first flaw. -/
theorem checkBackends_cases (seen : List String) (backends : List BackendSpec) :
    (checkBackends seen backends = .ok () ∧ ∀ i k e, ¬ FlawAt seen backends i k e) ∨
      ∃ i k e, checkBackends seen backends = .error e ∧ FlawAt seen backends i k e ∧
        ∀ i' k' e', FlawAt seen backends i' k' e' → toLex (i, k) ≤ toLex (i', k') := by
  induction backends generalizing seen with
  | nil => exact .inl ⟨rfl, fun i k e => flawAt_nil⟩
  | cons b rest ih =>
    -- A flaw of `b` comes first if `b` has none of a lesser rank.
    have hfirst : ∀ {k e}, checkBackends seen (b :: rest) = .error e → Flaw seen b k e →
        (∀ k' e', Flaw seen b k' e' → k ≤ k') → ∃ i k e, checkBackends seen (b :: rest) = .error e ∧
          FlawAt seen (b :: rest) i k e ∧
          ∀ i' k' e', FlawAt seen (b :: rest) i' k' e' → toLex (i, k) ≤ toLex (i', k') := by
      intro k e hcheck hflaw hleast
      refine ⟨0, k, e, hcheck, flawAt_zero.mpr hflaw, ?_⟩
      intro i' k' e' h'
      rw [Prod.Lex.toLex_le_toLex]
      cases i' with
      | zero => exact .inr ⟨rfl, hleast k' e' (flawAt_zero.mp h')⟩
      | succ i' => exact .inl i'.succ_pos
    by_cases hname : Text.isBlank b.name = true
    · refine .inr (hfirst (k := 0) (by simp [checkBackends, hname]) (.blankName (by simp [legible_iff, hname])) ?_)
      intro k' e' _
      omega
    by_cases hkind : Text.isBlank b.kind = true
    · refine .inr (hfirst (k := 1) (by simp [checkBackends, hname, hkind])
        (.blankKind (by simp [legible_iff, hkind])) ?_)
      intro k' e' h'
      cases h' with
      | blankName h => exact absurd (legible_iff.mpr hname) h
      | _ => omega
    by_cases hseen : b.name ∈ seen
    · refine .inr (hfirst (k := 2) (by simp [checkBackends, hname, hkind, hseen]) (.duplicateName hseen) ?_)
      intro k' e' h'
      cases h' with
      | blankName h => exact absurd (legible_iff.mpr hname) h
      | blankKind h => exact absurd (legible_iff.mpr hkind) h
      | duplicateName => omega
    have hnone : ∀ k e, ¬ Flaw seen b k e := by
      intro k e h
      cases h with
      | blankName h => exact h (legible_iff.mpr hname)
      | blankKind h => exact h (legible_iff.mpr hkind)
      | duplicateName h => exact hseen h
    have hcheck : checkBackends seen (b :: rest) = checkBackends (b.name :: seen) rest := by
      simp [checkBackends, hname, hkind, hseen]
    rw [hcheck]
    rcases ih (b.name :: seen) with ⟨hok, hfree⟩ | ⟨i, k, e, herror, hflaw, hleast⟩
    · refine .inl ⟨hok, ?_⟩
      intro i k e h
      cases i with
      | zero => exact hnone k e (flawAt_zero.mp h)
      | succ i => exact hfree i k e (flawAt_succ.mp h)
    · refine .inr ⟨i + 1, k, e, herror, flawAt_succ.mpr hflaw, ?_⟩
      intro i' k' e' h'
      cases i' with
      | zero => exact absurd (flawAt_zero.mp h') (hnone k' e')
      | succ i' =>
        have hle := hleast i' k' e' (flawAt_succ.mp h')
        rw [Prod.Lex.toLex_le_toLex] at hle ⊢
        simp only at hle ⊢
        omega

/-! ## The whole configuration -/

theorem ZeroLimit.unique {c : Config} {k : Nat} {e e' : ConfigError} (h : ZeroLimit c k e) (h' : ZeroLimit c k e') :
    e = e' := by
  cases h <;> cases h' <;> rfl

theorem FlawAt.unique {seen : List String} {backends : List BackendSpec} {i k : Nat} {e e' : ConfigError}
    (h : FlawAt seen backends i k e) (h' : FlawAt seen backends i k e') : e = e' := by
  obtain ⟨b, hb, h⟩ := h
  obtain ⟨b', hb', h'⟩ := h'
  obtain rfl := Option.some_inj.mp (hb.symm.trans hb')
  exact h.unique h'

/-- No two problems have one place. -/
theorem Problem.unique {c : Config} {p : ℕ ×ₗ ℕ} {e e' : ConfigError} (h : Problem c p e) (h' : Problem c p e') :
    e = e' := by
  generalize hp : p = p' at h'
  cases h with
  | noBackends =>
    cases h' with
    | noBackends => rfl
    | backend => cases hp
    | limit => cases hp
  | backend h =>
    cases h' with
    | noBackends => cases hp
    | backend h' => cases hp; exact h.unique h'
    | limit => cases hp; exact absurd h.lt_length (lt_irrefl _)
  | limit h =>
    cases h' with
    | noBackends => cases hp
    | backend h' => cases hp; exact absurd h'.lt_length (lt_irrefl _)
    | limit h' => cases hp; exact h.unique h'

theorem FirstProblem.unique {c : Config} {e e' : ConfigError} (h : FirstProblem c e) (h' : FirstProblem c e') :
    e = e' := by
  obtain ⟨p, hp, hleast⟩ := h
  obtain ⟨p', hp', hleast'⟩ := h'
  obtain rfl := le_antisymm (hleast p' e' hp') (hleast' p e hp)
  exact hp.unique hp'

/-- The limits are looked at in order. -/
theorem limits_cases {c : Config} (hnone : c.backends ≠ []) (hok : checkBackends [] c.backends = .ok ()) :
    (c.check = .ok () ∧ ∀ k e, ¬ ZeroLimit c k e) ∨
      ∃ k e, c.check = .error e ∧ ZeroLimit c k e ∧ ∀ k' e', ZeroLimit c k' e' → k ≤ k' := by
  by_cases hthreshold : c.failureThreshold = 0
  · refine .inr ⟨0, .zeroThreshold, by simp [check, hnone, hok, hthreshold], .threshold hthreshold, ?_⟩
    intro k' e' _
    omega
  by_cases hoperation : c.operationTimeoutMs = 0
  · refine .inr ⟨1, .zeroOperationTimeout, by simp [check, hnone, hok, hthreshold, hoperation],
      .operationTimeout hoperation, ?_⟩
    intro k' e' h'
    cases h' with
    | threshold h => exact absurd h hthreshold
    | _ => omega
  by_cases hcheck : c.healthCheckTimeoutMs = 0
  · refine .inr ⟨2, .zeroCheckTimeout, by simp [check, hnone, hok, hthreshold, hoperation, hcheck],
      .checkTimeout hcheck, ?_⟩
    intro k' e' h'
    cases h' with
    | threshold h => exact absurd h hthreshold
    | operationTimeout h => exact absurd h hoperation
    | checkTimeout => omega
  · refine .inl ⟨by simp [check, hnone, hok, hthreshold, hoperation, hcheck], ?_⟩
    intro k e h
    cases h with
    | threshold h => exact hthreshold h
    | operationTimeout h => exact hoperation h
    | checkTimeout h => exact hcheck h

theorem check_cases (c : Config) :
    (c.check = .ok () ∧ ∀ p e, ¬ Problem c p e) ∨ ∃ e, c.check = .error e ∧ FirstProblem c e := by
  by_cases hnone : c.backends = []
  · refine .inr ⟨.noBackends, by simp [check, hnone], _, .noBackends hnone, ?_⟩
    intro p' e' h'
    cases h' with
    | noBackends => exact le_refl _
    | _ => exact Prod.Lex.toLex_le_toLex.mpr (.inl (Nat.succ_pos _))
  rcases checkBackends_cases [] c.backends with ⟨hok, hfree⟩ | ⟨i, k, e, herror, hflaw, hleast⟩
  · rcases limits_cases hnone hok with ⟨hcheck, hnonzero⟩ | ⟨k, e, hcheck, hzero, hleast⟩
    · refine .inl ⟨hcheck, ?_⟩
      intro p e h
      cases h with
      | noBackends h => exact hnone h
      | backend h => exact hfree _ _ _ h
      | limit h => exact hnonzero _ _ h
    · refine .inr ⟨e, hcheck, _, .limit hzero, ?_⟩
      intro p' e' h'
      cases h' with
      | noBackends h => exact absurd h hnone
      | backend h => exact absurd h (hfree _ _ _)
      | limit h => exact Prod.Lex.toLex_le_toLex.mpr (.inr ⟨rfl, hleast _ _ h⟩)
  · refine .inr ⟨e, by simp [check, hnone, herror], _, .backend hflaw, ?_⟩
    intro p' e' h'
    cases h' with
    | noBackends h => exact absurd h hnone
    | backend h =>
      have hle := hleast _ _ _ h
      rw [Prod.Lex.toLex_le_toLex] at hle ⊢
      simp only at hle ⊢
      omega
    | limit => exact Prod.Lex.toLex_le_toLex.mpr (.inl (Nat.succ_lt_succ hflaw.lt_length))

/-- Names are different if none of them stands before itself. -/
theorem nodup_names_iff (backends : List BackendSpec) :
    (backends.map BackendSpec.name).Nodup ↔
      ∀ i b, backends[i]? = some b → b.name ∉ (backends.take i).map BackendSpec.name := by
  rw [List.Nodup, List.pairwise_map, List.pairwise_iff_getElem]
  constructor
  · intro hdistinct i b hb hmem
    obtain ⟨hi, rfl⟩ := List.getElem?_eq_some_iff.mp hb
    obtain ⟨b', hb', hname⟩ := List.mem_map.mp hmem
    obtain ⟨j, hj, rfl⟩ := List.mem_take_iff_getElem.mp hb'
    exact hdistinct j i (by omega) hi (by omega) hname
  · intro hbefore i j hi hj hij hname
    refine hbefore j backends[j] (List.getElem?_eq_getElem hj) (List.mem_map.mpr ⟨backends[i], ?_, hname⟩)
    exact List.mem_take_iff_getElem.mpr ⟨i, by omega, rfl⟩

theorem sound_iff (c : Config) : Sound c ↔ ∀ p e, ¬ Problem c p e := by
  constructor
  · intro hsound p e h
    cases h with
    | noBackends h => exact hsound.populated h
    | backend h =>
      obtain ⟨b, hb, h⟩ := h
      have hmem := List.mem_of_getElem? hb
      cases h with
      | blankName h => exact h (hsound.names b hmem)
      | blankKind h => exact h (hsound.kinds b hmem)
      | duplicateName h => exact (nodup_names_iff _).mp hsound.distinct _ b hb h
    | limit h =>
      cases h with
      | threshold h => exact hsound.threshold h
      | operationTimeout h => exact hsound.operationTimeout h
      | checkTimeout h => exact hsound.checkTimeout h
  · intro hfree
    have hflaw : ∀ i b, c.backends[i]? = some b → ∀ k e, ¬ Flaw ((c.backends.take i).map BackendSpec.name) b k e :=
      fun i b hb k e h => hfree _ e (.backend ⟨b, hb, h⟩)
    refine ⟨fun h => hfree _ _ (.noBackends h), fun b hb => ?_, fun b hb => ?_, (nodup_names_iff _).mpr ?_,
      fun h => hfree _ _ (.limit (.threshold h)), fun h => hfree _ _ (.limit (.operationTimeout h)),
      fun h => hfree _ _ (.limit (.checkTimeout h))⟩
    · obtain ⟨i, hi⟩ := List.mem_iff_getElem?.mp hb
      by_contra hblank
      exact hflaw i b hi _ _ (.blankName hblank)
    · obtain ⟨i, hi⟩ := List.mem_iff_getElem?.mp hb
      by_contra hblank
      exact hflaw i b hi _ _ (.blankKind hblank)
    · intro i b hb hmem
      exact hflaw i b hb _ _ (.duplicateName hmem)

theorem check_eq_ok_iff (c : Config) : c.check = .ok () ↔ Sound c := by
  rw [sound_iff]
  rcases check_cases c with ⟨hok, hfree⟩ | ⟨e, herror, p, hp, -⟩
  · exact iff_of_true hok hfree
  · constructor
    · intro hok
      rw [herror] at hok
      cases hok
    · intro hfree
      exact absurd hp (hfree p e)

theorem check_eq_error_iff (c : Config) (e : ConfigError) : c.check = .error e ↔ FirstProblem c e := by
  rcases check_cases c with ⟨hok, hfree⟩ | ⟨e', herror, hfirst⟩
  · constructor
    · intro h
      rw [hok] at h
      cases h
    · rintro ⟨p, hp, -⟩
      exact absurd hp (hfree p e)
  · rw [herror, Except.error.injEq]
    constructor
    · rintro rfl
      exact hfirst
    · intro h
      exact hfirst.unique h

/-- The check accepts exactly the sound configurations, and tells the first problem of any other. -/
theorem check_tells_first (c : Config) :
    (c.check = .ok () ↔ Sound c) ∧ ∀ e, c.check = .error e ↔ FirstProblem c e :=
  ⟨check_eq_ok_iff c, check_eq_error_iff c⟩

/-- The second backend has a blank kind and a name that was there before, and the threshold is zero. -/
example : check ⟨[⟨"a", "memory", []⟩, ⟨"a", " ", []⟩], .firstHealthy, 30, 500, 0, 1000, .default⟩ =
    .error (.blankKind "a") := by decide

end RateCounter.Config
