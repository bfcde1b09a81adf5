/-
  RateCounter.Proofs.Mesh.Settings — which settings a mesh backend takes, and what becomes of them.

  Eight fields are declared, each with its kind (`declared`). A field is at fault if it is not
  declared or its value is not of its kind (`Fault`).
  - `typedSettings_exact`: settings are taken exactly if the address to listen on is there and no
    field is at fault. Then every field that is given keeps its value and the others have their
    defaults (`Carries`), up to the cluster that is joined (`Describes`). Otherwise the first field
    at fault, in the order of the bytes of the names, is what is wrong; that the address is missing
    is told only if no field is at fault (`Reported`).
-/

import Mathlib.Data.List.Nodup
import RateCounter.Mesh.Settings
import RateCounter.Proofs.Settings.Values
import RateCounter.Registry

namespace RateCounter.Mesh.MeshSettings

open Json (Given IsText IsWord64)
open Settings

/-! ## The declared fields -/

/-- The kinds of values that settings have. -/
inductive Kind where
  | address
  | text
  | texts
  | word64
  | orNull (kind : Kind)
  deriving DecidableEq, Repr

/-- A value of this kind. -/
def Kind.Holds : Kind → Json → Prop
  | address, j => ∃ a, IsAddress j a
  | text, j => ∃ s, IsText j s
  | texts, j => ∃ ss, IsTexts j ss
  | word64, j => ∃ n, IsWord64 j n
  | orNull kind, j => j = .null ∨ kind.Holds j

/-- What is wrong with a value that should be of this kind. -/
def Kind.Flaw : Kind → Json → Problem → Prop
  | address, j, p => AddressFlaw j p
  | text, j, p => TextFlaw j p
  | texts, j, p => TextsFlaw j p
  | word64, j, p => WordFlaw j p
  | orNull kind, j, p => j ≠ .null ∧ kind.Flaw j p

def declared : List (String × Kind) :=
  [("listen_addr", .address), ("advertise_addr", .orNull .address), ("node_id", .orNull .text), ("cluster_id", .text),
   ("seed_nodes", .texts), ("gossip_interval_ms", .word64), ("dead_node_grace_period_secs", .word64),
   ("health_check_timeout_ms", .word64)]

/-- A declared field with a value of its kind. -/
def Fits (name : String) (j : Json) : Prop := ∃ kind, (name, kind) ∈ declared ∧ kind.Holds j

/-- What is wrong with a field. -/
inductive Fault (name : String) (j : Json) : Problem → Prop
  | unknown : (∀ kind, (name, kind) ∉ declared) → Fault name j (.unknownField name fieldNames)
  | flaw {kind : Kind} {p : Problem} : (name, kind) ∈ declared → kind.Flaw j p → Fault name j p

theorem Kind.holds_iff (kind : Kind) (j : Json) : kind.Holds j ↔ ∀ p, ¬ kind.Flaw j p := by
  induction kind with
  | address => exact address_reads.says_iff j
  | text => exact text_reads.says_iff j
  | texts => exact texts_reads.says_iff j
  | word64 => exact word64_reads.says_iff j
  | orNull kind ih =>
    simp only [Holds, Flaw, ih]
    by_cases hnull : j = .null <;> simp [hnull]

/-- No name is declared twice. -/
theorem declared_unique {name : String} {kind kind' : Kind} (h : (name, kind) ∈ declared)
    (h' : (name, kind') ∈ declared) : kind = kind' := by
  have hnodup : (declared.map Prod.fst).Nodup := by decide
  exact congrArg Prod.snd (List.inj_on_of_nodup_map hnodup h h' rfl)

theorem fits_iff (name : String) (j : Json) : Fits name j ↔ ∀ p, ¬ Fault name j p := by
  constructor
  · rintro ⟨kind, hkind, hholds⟩ p h
    cases h with
    | unknown h => exact h kind hkind
    | @flaw kind' _ hkind' hflaw =>
      obtain rfl := declared_unique hkind hkind'
      exact (kind.holds_iff j).mp hholds p hflaw
  · intro hnone
    by_contra hfits
    by_cases hdeclared : ∃ kind, (name, kind) ∈ declared
    · obtain ⟨kind, hkind⟩ := hdeclared
      exact hfits ⟨kind, hkind, (kind.holds_iff j).mpr fun p hp => hnone p (.flaw hkind hp)⟩
    · exact hnone _ (.unknown fun kind hkind => hdeclared ⟨kind, hkind⟩)

/-! ## One field -/

/-- An address that is there. -/
def IsThere (j : Json) (a : Option Net.Address) : Prop := ∃ b, a = some b ∧ IsAddress j b

/-- What a field does to the settings known so far: it sets its own part and leaves the others. -/
structure Sets (name : String) (j : Json) (d d' : Draft) : Prop where
  listenAddr : SetBy "listen_addr" IsThere name j d.listenAddr d'.listenAddr
  advertiseAddr : SetBy "advertise_addr" (IsOptional IsAddress) name j d.advertiseAddr d'.advertiseAddr
  nodeId : SetBy "node_id" (IsOptional IsText) name j d.nodeId d'.nodeId
  clusterId : SetBy "cluster_id" IsText name j d.clusterId d'.clusterId
  seedNodes : SetBy "seed_nodes" IsTexts name j d.seedNodes d'.seedNodes
  gossipInterval : SetBy "gossip_interval_ms" IsWord64 name j d.gossipIntervalMs d'.gossipIntervalMs
  gracePeriod : SetBy "dead_node_grace_period_secs" IsWord64 name j d.deadNodeGracePeriodSecs d'.deadNodeGracePeriodSecs
  checkTimeout : SetBy "health_check_timeout_ms" IsWord64 name j d.healthCheckTimeoutMs d'.healthCheckTimeoutMs

theorem readField_sets {d d' : Draft} {name : String} {j : Json} (h : readField d name j = .ok d') :
    Sets name j d d' := by
  unfold readField at h
  split at h
  · obtain ⟨a, ha, rfl⟩ := (address_reads.map_eq_ok_iff _ _ _).mp h
    constructor <;> simp [SetBy, IsThere, *]
  split at h
  · obtain ⟨a, ha, rfl⟩ := (address_reads.optional.map_eq_ok_iff _ _ _).mp h
    constructor <;> simp [SetBy, *]
  split at h
  · obtain ⟨id, hid, rfl⟩ := (text_reads.optional.map_eq_ok_iff _ _ _).mp h
    constructor <;> simp [SetBy, *]
  split at h
  · obtain ⟨id, hid, rfl⟩ := (text_reads.map_eq_ok_iff _ _ _).mp h
    constructor <;> simp [SetBy, *]
  split at h
  · obtain ⟨seeds, hseeds, rfl⟩ := (texts_reads.map_eq_ok_iff _ _ _).mp h
    constructor <;> simp [SetBy, *]
  split at h
  · obtain ⟨n, hn, rfl⟩ := (word64_reads.map_eq_ok_iff _ _ _).mp h
    constructor <;> simp [SetBy, *]
  split at h
  · obtain ⟨n, hn, rfl⟩ := (word64_reads.map_eq_ok_iff _ _ _).mp h
    constructor <;> simp [SetBy, *]
  split at h
  · obtain ⟨n, hn, rfl⟩ := (word64_reads.map_eq_ok_iff _ _ _).mp h
    constructor <;> simp [SetBy, *]
  · cases h

/-- A declared field is at fault exactly if its value has a flaw. -/
theorem fault_iff_flaw {name : String} {kind : Kind} (h : (name, kind) ∈ declared) (j : Json) (p : Problem) :
    Fault name j p ↔ kind.Flaw j p := by
  constructor
  · intro hfault
    cases hfault with
    | unknown hnone => exact absurd h (hnone kind)
    | flaw h' hflaw => exact declared_unique h' h ▸ hflaw
  · exact .flaw h

theorem reading_error_iff {α : Type} {read : Json → Except Problem α} {Says : Json → α → Prop} (kind : Kind)
    (hread : Reads read Says kind.Flaw) {name : String} (h : (name, kind) ∈ declared) (change : α → Draft) (j : Json)
    (p : Problem) : (read j).map change = .error p ↔ Fault name j p := by
  rw [hread.map_eq_error_iff, fault_iff_flaw h]

theorem readField_eq_error_iff (d : Draft) (name : String) (j : Json) (p : Problem) :
    readField d name j = .error p ↔ Fault name j p := by
  unfold readField
  split
  · exact reading_error_iff .address address_reads (by simp [declared, *]) _ j p
  split
  · exact reading_error_iff (.orNull .address) address_reads.optional (by simp [declared, *]) _ j p
  split
  · exact reading_error_iff (.orNull .text) text_reads.optional (by simp [declared, *]) _ j p
  split
  · exact reading_error_iff .text text_reads (by simp [declared, *]) _ j p
  split
  · exact reading_error_iff .texts texts_reads (by simp [declared, *]) _ j p
  split
  · exact reading_error_iff .word64 word64_reads (by simp [declared, *]) _ j p
  split
  · exact reading_error_iff .word64 word64_reads (by simp [declared, *]) _ j p
  split
  · exact reading_error_iff .word64 word64_reads (by simp [declared, *]) _ j p
  · have hnone : ∀ kind, (name, kind) ∉ declared := by simp [declared, *]
    rw [Except.error.injEq]
    constructor
    · rintro rfl
      exact .unknown hnone
    · intro h
      cases h with
      | unknown => rfl
      | flaw hkind => exact absurd hkind (hnone _)

/-! ## All fields -/

/-- The address to listen on is there, and every field fits. -/
structure Accepted (fields : Json.Fields) : Prop where
  present : ∃ j, ("listen_addr", j) ∈ fields
  fits : ∀ f ∈ fields, Fits f.1 f.2

/-- What is wrong with fields that are not accepted. -/
inductive Reported (fields : Json.Fields) : Problem → Prop
  | field {name : String} {j : Json} {p : Problem} : (name, j) ∈ fields → Fault name j p →
      (∀ g ∈ fields, ¬ Fits g.1 g.2 → Text.bytes name ≤ Text.bytes g.1) → Reported fields p
  | missing : (∀ f ∈ fields, Fits f.1 f.2) → (∀ j, ("listen_addr", j) ∉ fields) →
      Reported fields (.missingField "listen_addr")

/-- Every field that is given keeps its value, and the others have their defaults. -/
structure Carries (fields : Json.Fields) (s : MeshSettings) : Prop where
  listenAddr : ∃ j, fields.lookup "listen_addr" = some j ∧ IsAddress j s.listenAddr
  advertiseAddr : Given (IsOptional IsAddress) none (fields.lookup "advertise_addr") s.advertiseAddr
  nodeId : Given (IsOptional IsText) none (fields.lookup "node_id") s.nodeId
  clusterId : Given IsText "hivecount" (fields.lookup "cluster_id") s.clusterId
  seedNodes : Given IsTexts [] (fields.lookup "seed_nodes") s.seedNodes
  gossipInterval : Given IsWord64 100 (fields.lookup "gossip_interval_ms") s.gossipIntervalMs
  gracePeriod : Given IsWord64 3600 (fields.lookup "dead_node_grace_period_secs") s.deadNodeGracePeriodSecs
  checkTimeout : Given IsWord64 250 (fields.lookup "health_check_timeout_ms") s.healthCheckTimeoutMs

/-- The length of time that a number of some unit says. -/
def IsSpan (unit : Nat → Nat) (j : Json) (length : Nat) : Prop := ∃ n, IsWord64 j n ∧ length = unit n.toNat

/-- The cluster that fields describe. A node id that is not given is left to chance. -/
structure Describes (fields : Json.Fields) (c : ClusterConfig) : Prop where
  listenAddr : ∃ j, fields.lookup "listen_addr" = some j ∧ IsAddress j c.listenAddr
  advertised : ∀ j, fields.lookup "advertise_addr" = some j → j ≠ .null → IsAddress j c.advertiseAddr
  ownAddress : (∀ j, fields.lookup "advertise_addr" = some j → j = .null) → c.advertiseAddr = c.listenAddr
  nodeId : Given (IsOptional IsText) none (fields.lookup "node_id") c.nodeId
  clusterId : Given IsText "hivecount" (fields.lookup "cluster_id") c.clusterId
  seedNodes : Given IsTexts [] (fields.lookup "seed_nodes") c.seedNodes
  gossipInterval : Given (IsSpan millis) (millis 100) (fields.lookup "gossip_interval_ms") c.gossipInterval
  gracePeriod :
    Given (IsSpan seconds) (seconds 3600) (fields.lookup "dead_node_grace_period_secs") c.deadNodeGracePeriod

theorem not_fits_iff (name : String) (j : Json) : ¬ Fits name j ↔ ∃ p, Fault name j p := by
  rw [fits_iff]
  simp

theorem Fault.unique {name : String} {j : Json} {p q : Problem} (hp : Fault name j p) (hq : Fault name j q) :
    p = q := by
  rw [← readField_eq_error_iff Draft.default] at hp hq
  exact Except.error.inj (hp.symm.trans hq)

variable {fields : Json.Fields}

theorem Reported.not_accepted {p : Problem} (h : Reported fields p) : ¬ Accepted fields := by
  rintro ⟨⟨j, hj⟩, hfits⟩
  cases h with
  | field hmem hfault => exact (not_fits_iff _ _).mpr ⟨_, hfault⟩ (hfits _ hmem)
  | missing _ hnone => exact hnone j hj

/-- Two fields of least name are one field. -/
theorem Reported.unique (hmap : Json.Ascending fields) {p q : Problem} (hp : Reported fields p)
    (hq : Reported fields q) : p = q := by
  cases hp with
  | @field name j _ hmem hfault hleast =>
    cases hq with
    | @field name' j' _ hmem' hfault' hleast' =>
      have hle := hleast _ hmem' ((not_fits_iff _ _).mpr ⟨_, hfault'⟩)
      have hle' := hleast' _ hmem ((not_fits_iff _ _).mpr ⟨_, hfault⟩)
      obtain rfl := le_antisymm (Text.bytes_le_iff.mp hle) (Text.bytes_le_iff.mp hle')
      rw [← Json.lookup_eq_some_iff hmap.names_nodup] at hmem hmem'
      obtain rfl := Option.some_inj.mp (hmem.symm.trans hmem')
      exact hfault.unique hfault'
    | missing hfits => exact absurd (hfits _ hmem) ((not_fits_iff _ _).mpr ⟨_, hfault⟩)
  | missing hfits =>
    cases hq with
    | field hmem hfault => exact absurd (hfits _ hmem) ((not_fits_iff _ _).mpr ⟨_, hfault⟩)
    | missing => rfl

theorem listenAddr_given {d : Draft} (hmap : Json.Ascending fields)
    (h : readFields readField Draft.default fields = .ok d) :
    Given IsThere none (fields.lookup "listen_addr") d.listenAddr :=
  given_of_setBy Draft.listenAddr (fun _ _ _ _ h => (readField_sets h).listenAddr) hmap.names_nodup h

theorem finish_eq_ok {d : Draft} {s : MeshSettings} (h : d.finish = .ok s) :
    d = ⟨some s.listenAddr, s.advertiseAddr, s.nodeId, s.clusterId, s.seedNodes, s.gossipIntervalMs,
      s.deadNodeGracePeriodSecs, s.healthCheckTimeoutMs⟩ := by
  unfold Draft.finish at h
  split at h
  · cases h
  · rename_i a ha
    cases h
    rw [← ha]

theorem read_cases (hmap : Json.Ascending fields) :
    (∃ s, read fields = .ok s ∧ Accepted fields) ∨ ∃ p, read fields = .error p ∧ Reported fields p := by
  unfold read
  cases hread : readFields readField Draft.default fields with
  | error p =>
    refine .inr ⟨p, rfl, ?_⟩
    obtain ⟨before, f, after, rfl, hfree, hfault⟩ := (readFields_eq_error_iff readField_eq_error_iff _ _ _).mp hread
    refine .field (List.mem_append_right _ List.mem_cons_self) hfault ?_
    intro g hg hfault'
    refine hmap.le_of_first hg fun hbefore => ?_
    exact hfault' ((fits_iff _ _).mpr (hfree g hbefore))
  | ok d =>
    have hfits : ∀ f ∈ fields, Fits f.1 f.2 := by
      intro f hf
      exact (fits_iff _ _).mpr ((readFields_ok_iff readField_eq_error_iff _ _).mp ⟨d, hread⟩ f hf)
    have hgiven := listenAddr_given hmap hread
    cases hd : d.listenAddr with
    | none =>
      refine .inr ⟨.missingField "listen_addr", by simp only [Except.bind, Draft.finish, hd], .missing hfits ?_⟩
      intro j hj
      rw [(Json.lookup_eq_some_iff hmap.names_nodup).mpr hj, hd] at hgiven
      cases hgiven with
      | given h =>
        obtain ⟨a, ha, -⟩ := h
        cases ha
    | some a =>
      obtain ⟨s, hs⟩ : ∃ s, d.finish = .ok s := by simp [Draft.finish, hd]
      refine .inl ⟨s, hs, ?_, hfits⟩
      obtain ⟨j, hj, -⟩ := hgiven.exists_of_ne (by rw [hd]; exact Option.some_ne_none a)
      exact ⟨j, (Json.lookup_eq_some_iff hmap.names_nodup).mp hj⟩

theorem read_isOk_iff (hmap : Json.Ascending fields) : (∃ s, read fields = .ok s) ↔ Accepted fields := by
  rcases read_cases hmap with ⟨s, hok, haccepted⟩ | ⟨p, herror, hreported⟩
  · exact iff_of_true ⟨s, hok⟩ haccepted
  · refine iff_of_false ?_ hreported.not_accepted
    rintro ⟨s, hok⟩
    rw [herror] at hok
    cases hok

theorem read_eq_error_iff (hmap : Json.Ascending fields) (p : Problem) :
    read fields = .error p ↔ Reported fields p := by
  rcases read_cases hmap with ⟨s, hok, haccepted⟩ | ⟨q, herror, hreported⟩
  · constructor
    · intro h
      rw [hok] at h
      cases h
    · intro h
      exact absurd haccepted h.not_accepted
  · rw [herror, Except.error.injEq]
    constructor
    · rintro rfl
      exact hreported
    · intro h
      exact hreported.unique hmap h

theorem read_carries {s : MeshSettings} (hmap : Json.Ascending fields) (h : read fields = .ok s) :
    Carries fields s := by
  have hnodup := hmap.names_nodup
  unfold read at h
  cases hread : readFields readField Draft.default fields with
  | error p =>
    rw [hread] at h
    cases h
  | ok d =>
    rw [hread] at h
    obtain rfl := finish_eq_ok h
    obtain ⟨j, hj, a, ha, haddress⟩ :=
      (listenAddr_given hmap hread).exists_of_ne (Option.some_ne_none s.listenAddr)
    cases ha
    refine ⟨⟨j, hj, haddress⟩, ?_, ?_, ?_, ?_, ?_, ?_, ?_⟩
    · exact given_of_setBy Draft.advertiseAddr (fun _ _ _ _ h => (readField_sets h).advertiseAddr) hnodup hread
    · exact given_of_setBy Draft.nodeId (fun _ _ _ _ h => (readField_sets h).nodeId) hnodup hread
    · exact given_of_setBy Draft.clusterId (fun _ _ _ _ h => (readField_sets h).clusterId) hnodup hread
    · exact given_of_setBy Draft.seedNodes (fun _ _ _ _ h => (readField_sets h).seedNodes) hnodup hread
    · exact given_of_setBy Draft.gossipIntervalMs (fun _ _ _ _ h => (readField_sets h).gossipInterval) hnodup hread
    · exact given_of_setBy Draft.deadNodeGracePeriodSecs (fun _ _ _ _ h => (readField_sets h).gracePeriod) hnodup hread
    · exact given_of_setBy Draft.healthCheckTimeoutMs (fun _ _ _ _ h => (readField_sets h).checkTimeout) hnodup hread

/-! ## The cluster -/

theorem given_span (unit : Nat → Nat) {default n : UInt64} {given : Option Json} (h : Given IsWord64 default given n)
    {count : Nat} (hcount : default.toNat = count) : Given (IsSpan unit) (unit count) given (unit n.toNat) := by
  cases h with
  | omitted => exact hcount ▸ .omitted
  | given h => exact .given ⟨n, h, rfl⟩

theorem Carries.describes {s : MeshSettings} (h : Carries fields s) : Describes fields s.clusterConfig where
  listenAddr := h.listenAddr
  advertised := by
    intro j hj hnull
    have hgiven := h.advertiseAddr
    rw [hj] at hgiven
    unfold clusterConfig
    generalize s.advertiseAddr = a at hgiven
    cases hgiven with
    | given h =>
      cases h with
      | null => exact absurd rfl hnull
      | value _ h => exact h
  ownAddress := by
    intro hnull
    have hgiven := h.advertiseAddr
    unfold clusterConfig
    generalize s.advertiseAddr = a at hgiven ⊢
    generalize fields.lookup "advertise_addr" = given at hnull hgiven
    cases hgiven with
    | omitted => rfl
    | given h =>
      obtain rfl := hnull _ rfl
      cases h with
      | null => rfl
      | value hne => exact absurd rfl hne
  nodeId := h.nodeId
  clusterId := h.clusterId
  seedNodes := h.seedNodes
  gossipInterval := given_span millis h.gossipInterval (by decide)
  gracePeriod := given_span seconds h.gracePeriod (by decide)

/-! ## The settings of a backend -/

/-- The words in which a refusal names the backend and its kind. -/
def refusalLead (b : BackendSpec) : String :=
  "Configuration error: " ++ "invalid settings for backend '" ++ b.name ++ "' (" ++ b.kind ++ "): "

theorem badSettings_message (b : BackendSpec) (p : Problem) :
    (Error.configuration (.badSettings b.name b.kind p)).message = refusalLead b ++ p.message := by
  unfold Error.message ConfigError.message refusalLead
  simp only [String.append_assoc]

/-- No field is passed over and none is made up: settings are taken as they are, or refused for the first field at
    fault. -/
theorem typedSettings_exact (b : BackendSpec) (hmap : Json.Ascending b.settings) :
    ((∃ s, Registry.typedSettings read b = .ok s) ↔ Accepted b.settings) ∧
      (∀ s, Registry.typedSettings read b = .ok s →
        Carries b.settings s ∧ Describes b.settings s.clusterConfig) ∧
      ∀ e, Registry.typedSettings read b = .error e ↔
        ∃ p, Reported b.settings p ∧ e = .configuration (.badSettings b.name b.kind p) ∧
          e.message = refusalLead b ++ p.message := by
  have hok : ∀ s, Registry.typedSettings read b = .ok s ↔ read b.settings = .ok s := by
    intro s
    unfold Registry.typedSettings
    cases read b.settings <;> simp
  refine ⟨?_, ?_, ?_⟩
  · simp only [hok]
    exact read_isOk_iff hmap
  · intro s h
    have hcarries := read_carries hmap ((hok s).mp h)
    exact ⟨hcarries, hcarries.describes⟩
  · intro e
    simp only [← read_eq_error_iff hmap]
    unfold Registry.typedSettings
    cases hread : read b.settings with
    | ok s => simp
    | error p =>
      constructor
      · intro h
        cases h
        exact ⟨p, rfl, rfl, badSettings_message b p⟩
      · rintro ⟨q, hq, rfl, -⟩
        cases hq
        rfl

/-- A mesh backend whose settings are put together in the order given. -/
def edge (given : Json.Fields) : BackendSpec :=
  ⟨"edge", "mesh", given.foldl (fun acc f => Json.put f.1 f.2 acc) []⟩

/-- A field that is not declared, two with values of another kind, and no address to listen on. -/
def faulty : BackendSpec :=
  edge [("zone", .text "eu"), ("seed_nodes", .list [.text "10.0.0.2:7946", .int 3]), ("gossip_interval_ms", .int (-1))]

def plain : BackendSpec :=
  edge [("node_id", .text "a"), ("listen_addr", .text "10.0.0.1:7946"), ("advertise_addr", .null)]

theorem typedSettings_exact_edge :
    Json.Ascending faulty.settings ∧ ¬ Accepted faulty.settings ∧ Reported faulty.settings (.outOfRange (-1) .word64) ∧
      Json.Ascending plain.settings ∧ Accepted plain.settings ∧
      Describes plain.settings
        ⟨some "a", ⟨.v4 [10, 0, 0, 1], 7946, 0⟩, ⟨.v4 [10, 0, 0, 1], 7946, 0⟩, [], "hivecount", millis 100,
          seconds 3600⟩ := by
  have hfaulty : Json.Ascending faulty.settings := Json.ascending_foldl_put List.Pairwise.nil _
  have hplain : Json.Ascending plain.settings := Json.ascending_foldl_put List.Pairwise.nil _
  have hrefused : Registry.typedSettings read faulty =
      .error (.configuration (.badSettings "edge" "mesh" (.outOfRange (-1) .word64))) := by decide
  have htaken : Registry.typedSettings read plain =
      .ok ⟨⟨.v4 [10, 0, 0, 1], 7946, 0⟩, none, some "a", "hivecount", [], 100, 3600, 250⟩ := by decide
  obtain ⟨haccepted, -, hreported⟩ := typedSettings_exact faulty hfaulty
  obtain ⟨p, hp, he, -⟩ := (hreported _).mp hrefused
  cases he
  obtain ⟨haccepted', hdescribes, -⟩ := typedSettings_exact plain hplain
  refine ⟨hfaulty, ?_, hp, hplain, haccepted'.mp ⟨_, htaken⟩, (hdescribes _ htaken).2⟩
  intro h
  obtain ⟨s, hs⟩ := haccepted.mpr h
  cases hs.symm.trans hrefused

end RateCounter.Mesh.MeshSettings
