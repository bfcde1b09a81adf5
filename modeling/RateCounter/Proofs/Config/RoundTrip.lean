/-
  RateCounter.Proofs.Config.RoundTrip — what JSON documents say of a configuration.

  `Wording` tells which documents say a configuration: each field stands in its form under its
  name, or at its place in a list, and those that have a default may be left out. Names that
  are not known and the order of the names do not matter. What is written of a configuration is
  one of its wordings, the one with all fields.
  - `ofJson?_eq_some_iff`: a document is read as a configuration exactly if it is a wording of it.
  - `json_round_trip`: what is written is read as it was. So what a document says, in whatever
    wording, is still the same after it has been written and read again, and written once more it
    does not change.
-/

import Mathlib.Data.List.Forall2
import RateCounter.Config.Json
import RateCounter.Proofs.Json.Fields

namespace RateCounter.Config

open Json (Given IsText IsWord64)

/-! ## Wordings -/

/-- An object, or a list of as many values as there are names, or fewer. -/
inductive Structured (names : List String) : Json → Prop
  | object (fields : Json.Fields) : Structured names (.object fields)
  | list {items : List Json} : items.length ≤ names.length → Structured names (.list items)

/-- The value that a structure has for a field: under its name, or at its place in a list. -/
def member? (names : List String) (name : String) : Json → Option Json
  | .object fields => fields.lookup name
  | .list items => (names.zip items).lookup name
  | _ => none

def IsWord32 (j : Json) (n : UInt32) : Prop := j = .int n.toNat

def IsFields (j : Json) (fields : Json.Fields) : Prop := j = .object fields

/-- An alternative by its name, or as the name with nothing to it. -/
def IsName {α : Type} (nameOf : α → String) (j : Json) (a : α) : Prop :=
  j = .text (nameOf a) ∨ j = .object [(nameOf a, .null)]

structure BackendWording (j : Json) (b : BackendSpec) : Prop where
  structured : Structured backendFields j
  name : member? backendFields "name" j = some (.text b.name)
  kind : member? backendFields "kind" j = some (.text b.kind)
  settings : Given IsFields [] (member? backendFields "settings" j) b.settings

structure LoggingWording (j : Json) (l : Logging) : Prop where
  structured : Structured loggingFields j
  level : Given IsText "info" (member? loggingFields "level" j) l.level
  format : Given (IsName LogFormat.name) .text (member? loggingFields "format" j) l.format

/-- A document that says this configuration. -/
structure Wording (j : Json) (c : Config) : Prop where
  structured : Structured configFields j
  backends : ∃ items, member? configFields "backends" j = some (.list items) ∧
    List.Forall₂ BackendWording items c.backends
  strategy : Given (IsName Strategy.name) .firstHealthy (member? configFields "strategy" j) c.strategy
  interval : Given IsWord64 30 (member? configFields "health_check_interval_secs" j) c.healthCheckIntervalSecs
  checkTimeout : Given IsWord64 500 (member? configFields "health_check_timeout_ms" j) c.healthCheckTimeoutMs
  threshold : Given IsWord32 1 (member? configFields "failure_threshold" j) c.failureThreshold
  operationTimeout : Given IsWord64 1000 (member? configFields "operation_timeout_ms" j) c.operationTimeoutMs
  logging : Given LoggingWording .default (member? configFields "logging" j) c.logging

/-! ## Reading a field -/

theorem required_eq_some_iff {δ α : Type} {read : δ → Option α} {name : String} {fields : List (String × δ)} {a : α} :
    required read name fields = some a ↔ ∃ d, fields.lookup name = some d ∧ read d = some a :=
  Option.bind_eq_some_iff

theorem optional_eq_some_iff {α : Type} {read : Json → Option α} {Says : Json → α → Prop}
    (hread : ∀ j a, read j = some a ↔ Says j a) {default a : α} {name : String} {fields : Json.Fields} :
    optional read default name fields = some a ↔ Given Says default (fields.lookup name) a := by
  unfold optional
  cases fields.lookup name with
  | none =>
    constructor
    · intro h
      cases h
      exact .omitted
    · intro h
      cases h
      rfl
  | some j =>
    constructor
    · intro h
      exact .given ((hread j a).mp h)
    · intro h
      cases h with
      | given h => exact (hread j a).mpr h

theorem readAll_eq_some_iff {δ α : Type} {read : δ → Option α} {Says : δ → α → Prop}
    (hread : ∀ d a, read d = some a ↔ Says d a) {ds : List δ} {as : List α} :
    readAll read ds = some as ↔ List.Forall₂ Says ds as := by
  induction ds generalizing as with
  | nil =>
    rw [List.forall₂_nil_left_iff, readAll, Option.some_inj]
    exact eq_comm
  | cons d ds ih =>
    rw [List.forall₂_cons_left_iff, readAll, Option.bind_eq_some_iff]
    constructor
    · rintro ⟨a, ha, h⟩
      obtain ⟨rest, hrest, rfl⟩ := Option.map_eq_some_iff.mp h
      exact ⟨a, rest, (hread d a).mp ha, ih.mp hrest, rfl⟩
    · rintro ⟨a, rest, ha, hrest, rfl⟩
      exact ⟨a, (hread d a).mpr ha, Option.map_eq_some_iff.mpr ⟨rest, ih.mpr hrest, rfl⟩⟩

theorem text?_eq_some_iff (j : Json) (s : String) : Format.json.text? j = some s ↔ IsText j s := by
  cases j <;> simp [Format.json, IsText]

theorem settings?_eq_some_iff (j : Json) (fields : Json.Fields) :
    Format.json.settings? j = some fields ↔ IsFields j fields := by
  cases j <;> simp [Format.json, IsFields]

theorem list?_eq_some_iff (j : Json) (items : List Json) : Format.json.list? j = some items ↔ j = .list items := by
  cases j <;> simp [Format.json]

theorem word64?_eq_some_iff (j : Json) (n : UInt64) : Format.json.word64? j = some n ↔ IsWord64 j n := by
  cases j with
  | int i =>
    have hn : n.toNat < Word.count64 := n.toNat_lt
    simp only [Format.json, IsWord64, Json.int.injEq, Option.ite_none_right_eq_some, Option.some_inj]
    constructor
    · rintro ⟨⟨hnonneg, hlt⟩, rfl⟩
      rw [UInt64.toNat_ofNat_of_lt' (by unfold Word.count64 at hlt; simp only [UInt64.size]; omega)]
      omega
    · rintro rfl
      exact ⟨⟨by omega, by omega⟩, by simp⟩
  | _ => simp [Format.json, IsWord64]

theorem word32?_eq_some_iff (j : Json) (n : UInt32) : Format.json.word32? j = some n ↔ IsWord32 j n := by
  cases j with
  | int i =>
    have hn : n.toNat < Word.count32 := n.toNat_lt
    simp only [Format.json, IsWord32, Json.int.injEq, Option.ite_none_right_eq_some, Option.some_inj]
    constructor
    · rintro ⟨⟨hnonneg, hlt⟩, rfl⟩
      rw [UInt32.toNat_ofNat_of_lt' (by unfold Word.count32 at hlt; simp only [UInt32.size]; omega)]
      omega
    · rintro rfl
      exact ⟨⟨by omega, by omega⟩, by simp⟩
  | _ => simp [Format.json, IsWord32]

theorem alternative?_eq_some_iff (j : Json) (s : String) :
    Format.json.alternative? j = some s ↔ j = .text s ∨ j = .object [(s, .null)] := by
  constructor
  · intro h
    simp only [Format.json] at h
    split at h
    · cases h
      exact .inl rfl
    · cases h
      exact .inr rfl
    · cases h
  · rintro (rfl | rfl) <;> rfl

/-- Alternatives that are read by their names. -/
theorem named?_eq_some_iff {α : Type} {ofName? : String → Option α} {nameOf : α → String}
    (hname : ∀ s a, ofName? s = some a ↔ s = nameOf a) (j : Json) (a : α) :
    (Format.json.alternative? j).bind ofName? = some a ↔ IsName nameOf j a := by
  simp only [Option.bind_eq_some_iff, alternative?_eq_some_iff, hname, exists_eq_right, IsName]

theorem strategy_ofName?_eq_some_iff (name : String) (s : Strategy) :
    Strategy.ofName? name = some s ↔ name = s.name := by
  constructor
  · intro h
    unfold Strategy.ofName? at h
    split at h
    · cases h
      assumption
    split at h
    · cases h
      assumption
    · cases h
  · rintro rfl
    exact s.ofName?_name

theorem logFormat_ofName?_eq_some_iff (name : String) (f : LogFormat) :
    LogFormat.ofName? name = some f ↔ name = f.name := by
  constructor
  · intro h
    unfold LogFormat.ofName? at h
    split at h
    · cases h
      assumption
    split at h
    · cases h
      assumption
    · cases h
  · rintro rfl
    exact f.ofName?_name

/-! ## Reading structures -/

theorem fields?_eq_some {names : List String} {j : Json} {fields : Json.Fields}
    (h : Format.json.fields? names j = some fields) :
    Structured names j ∧ ∀ name, member? names name j = fields.lookup name := by
  cases j with
  | object given =>
    cases h
    exact ⟨.object _, fun _ => rfl⟩
  | list items =>
    simp only [Format.json, Format.positional?, Option.ite_none_right_eq_some, Option.some_inj] at h
    obtain ⟨hlength, rfl⟩ := h
    exact ⟨.list hlength, fun _ => rfl⟩
  | _ => cases h

theorem Structured.fields? {names : List String} {j : Json} (h : Structured names j) :
    ∃ fields, Format.json.fields? names j = some fields := by
  cases h with
  | object fields => exact ⟨fields, rfl⟩
  | list hlength => exact ⟨_, if_pos hlength⟩

theorem backend?_eq_some_iff (j : Json) (b : BackendSpec) :
    backend? Format.json j = some b ↔ BackendWording j b := by
  constructor
  · intro h
    obtain ⟨fields, hfields, h⟩ := Option.bind_eq_some_iff.mp h
    obtain ⟨hstructured, hmember⟩ := fields?_eq_some hfields
    obtain ⟨name, hname, h⟩ := Option.bind_eq_some_iff.mp h
    obtain ⟨kind, hkind, h⟩ := Option.bind_eq_some_iff.mp h
    obtain ⟨settings, hsettings, rfl⟩ := Option.map_eq_some_iff.mp h
    obtain ⟨_, hlookup, hname⟩ := required_eq_some_iff.mp hname
    obtain rfl := (text?_eq_some_iff _ _).mp hname
    obtain ⟨_, hlookup', hkind⟩ := required_eq_some_iff.mp hkind
    obtain rfl := (text?_eq_some_iff _ _).mp hkind
    refine ⟨hstructured, (hmember _).trans hlookup, (hmember _).trans hlookup', ?_⟩
    rw [hmember]
    exact (optional_eq_some_iff settings?_eq_some_iff).mp hsettings
  · rintro ⟨hstructured, hname, hkind, hsettings⟩
    obtain ⟨fields, hfields⟩ := hstructured.fields?
    rw [(fields?_eq_some hfields).2] at hname hkind hsettings
    have hname := required_eq_some_iff.mpr ⟨_, hname, (text?_eq_some_iff _ b.name).mpr rfl⟩
    have hkind := required_eq_some_iff.mpr ⟨_, hkind, (text?_eq_some_iff _ b.kind).mpr rfl⟩
    have hsettings := (optional_eq_some_iff settings?_eq_some_iff).mpr hsettings
    simp only [backend?, hfields, hname, hkind, hsettings, Option.bind_some, Option.map_some]

theorem logging?_eq_some_iff (j : Json) (l : Logging) :
    logging? Format.json j = some l ↔ LoggingWording j l := by
  constructor
  · intro h
    obtain ⟨fields, hfields, h⟩ := Option.bind_eq_some_iff.mp h
    obtain ⟨hstructured, hmember⟩ := fields?_eq_some hfields
    obtain ⟨level, hlevel, h⟩ := Option.bind_eq_some_iff.mp h
    obtain ⟨format, hformat, rfl⟩ := Option.map_eq_some_iff.mp h
    refine ⟨hstructured, ?_, ?_⟩
    · rw [hmember]
      exact (optional_eq_some_iff text?_eq_some_iff).mp hlevel
    · rw [hmember]
      exact (optional_eq_some_iff (named?_eq_some_iff logFormat_ofName?_eq_some_iff)).mp hformat
  · rintro ⟨hstructured, hlevel, hformat⟩
    obtain ⟨fields, hfields⟩ := hstructured.fields?
    rw [(fields?_eq_some hfields).2] at hlevel hformat
    have hlevel := (optional_eq_some_iff text?_eq_some_iff).mpr hlevel
    have hformat := (optional_eq_some_iff (named?_eq_some_iff logFormat_ofName?_eq_some_iff)).mpr hformat
    simp only [logging?, hfields, hlevel, hformat, Option.bind_some, Option.map_some]

/-- Documents are read exactly as they are worded. -/
theorem ofJson?_eq_some_iff (j : Json) (c : Config) : ofJson? j = some c ↔ Wording j c := by
  have hlist : ∀ d specs, (Format.json.list? d).bind (readAll (backend? Format.json)) = some specs ↔
      ∃ items, d = .list items ∧ List.Forall₂ BackendWording items specs := by
    intro d specs
    simp only [Option.bind_eq_some_iff, list?_eq_some_iff, readAll_eq_some_iff backend?_eq_some_iff]
  constructor
  · intro h
    obtain ⟨fields, hfields, h⟩ := Option.bind_eq_some_iff.mp h
    obtain ⟨hstructured, hmember⟩ := fields?_eq_some hfields
    obtain ⟨backends, hbackends, h⟩ := Option.bind_eq_some_iff.mp h
    obtain ⟨strategy, hstrategy, h⟩ := Option.bind_eq_some_iff.mp h
    obtain ⟨interval, hinterval, h⟩ := Option.bind_eq_some_iff.mp h
    obtain ⟨checkTimeout, hcheckTimeout, h⟩ := Option.bind_eq_some_iff.mp h
    obtain ⟨threshold, hthreshold, h⟩ := Option.bind_eq_some_iff.mp h
    obtain ⟨operationTimeout, hoperationTimeout, h⟩ := Option.bind_eq_some_iff.mp h
    obtain ⟨logging, hlogging, rfl⟩ := Option.map_eq_some_iff.mp h
    obtain ⟨d, hlookup, hd⟩ := required_eq_some_iff.mp hbackends
    obtain ⟨items, rfl, hitems⟩ := (hlist _ _).mp hd
    refine ⟨hstructured, ⟨items, (hmember _).trans hlookup, hitems⟩, ?_, ?_, ?_, ?_, ?_, ?_⟩ <;> rw [hmember]
    · exact (optional_eq_some_iff (named?_eq_some_iff strategy_ofName?_eq_some_iff)).mp hstrategy
    · exact (optional_eq_some_iff word64?_eq_some_iff).mp hinterval
    · exact (optional_eq_some_iff word64?_eq_some_iff).mp hcheckTimeout
    · exact (optional_eq_some_iff word32?_eq_some_iff).mp hthreshold
    · exact (optional_eq_some_iff word64?_eq_some_iff).mp hoperationTimeout
    · exact (optional_eq_some_iff logging?_eq_some_iff).mp hlogging
  · rintro ⟨hstructured, ⟨items, hitem, hitems⟩, hstrategy, hinterval, hcheckTimeout, hthreshold, hoperationTimeout,
      hlogging⟩
    obtain ⟨fields, hfields⟩ := hstructured.fields?
    rw [(fields?_eq_some hfields).2] at hitem hstrategy hinterval hcheckTimeout hthreshold hoperationTimeout hlogging
    have hbackends : required (fun d => (Format.json.list? d).bind (readAll (backend? Format.json))) "backends" fields =
        some c.backends := required_eq_some_iff.mpr ⟨_, hitem, (hlist _ _).mpr ⟨items, rfl, hitems⟩⟩
    have hstrategy := (optional_eq_some_iff (named?_eq_some_iff strategy_ofName?_eq_some_iff)).mpr hstrategy
    have hinterval := (optional_eq_some_iff word64?_eq_some_iff).mpr hinterval
    have hcheckTimeout := (optional_eq_some_iff word64?_eq_some_iff).mpr hcheckTimeout
    have hthreshold := (optional_eq_some_iff word32?_eq_some_iff).mpr hthreshold
    have hoperationTimeout := (optional_eq_some_iff word64?_eq_some_iff).mpr hoperationTimeout
    have hlogging := (optional_eq_some_iff logging?_eq_some_iff).mpr hlogging
    simp only [ofJson?, ofDocument?, hfields, hbackends, hstrategy, hinterval, hcheckTimeout, hthreshold,
      hoperationTimeout, hlogging, Option.bind_some, Option.map_some]

/-! ## Writing -/

theorem backendToJson_wording (b : BackendSpec) : BackendWording (backendToJson b) b where
  structured := .object _
  name := by simp [member?, backendToJson, List.lookup_cons]
  kind := by simp [member?, backendToJson]
  settings := by
    have h : member? backendFields "settings" (backendToJson b) = some (.object b.settings) := by
      simp [member?, backendToJson, List.lookup_cons]
    rw [h]
    exact .given rfl

theorem loggingToJson_wording (l : Logging) : LoggingWording (loggingToJson l) l where
  structured := .object _
  level := by
    have h : member? loggingFields "level" (loggingToJson l) = some (.text l.level) := by
      simp [member?, loggingToJson, List.lookup_cons]
    rw [h]
    exact .given rfl
  format := by
    have h : member? loggingFields "format" (loggingToJson l) = some (.text l.format.name) := by
      simp [member?, loggingToJson]
    rw [h]
    exact .given (.inl rfl)

/-- The fields that are written of a configuration. -/
structure Written (c : Config) (j : Json) : Prop where
  backends : member? configFields "backends" j = some (.list (c.backends.map backendToJson))
  strategy : member? configFields "strategy" j = some (.text c.strategy.name)
  interval : member? configFields "health_check_interval_secs" j = some (.int c.healthCheckIntervalSecs.toNat)
  checkTimeout : member? configFields "health_check_timeout_ms" j = some (.int c.healthCheckTimeoutMs.toNat)
  threshold : member? configFields "failure_threshold" j = some (.int c.failureThreshold.toNat)
  operationTimeout : member? configFields "operation_timeout_ms" j = some (.int c.operationTimeoutMs.toNat)
  logging : member? configFields "logging" j = some (loggingToJson c.logging)

theorem toJson_written (c : Config) : Written c c.toJson := by
  constructor <;> simp [member?, toJson, List.lookup_cons]

theorem toJson_wording (c : Config) : Wording c.toJson c := by
  have h := toJson_written c
  refine ⟨.object _, ⟨_, h.backends, ?_⟩, ?_, ?_, ?_, ?_, ?_, ?_⟩
  · rw [List.forall₂_map_left_iff, List.forall₂_same]
    intro b _
    exact backendToJson_wording b
  · rw [h.strategy]
    exact .given (.inl rfl)
  · rw [h.interval]
    exact .given rfl
  · rw [h.checkTimeout]
    exact .given rfl
  · rw [h.threshold]
    exact .given rfl
  · rw [h.operationTimeout]
    exact .given rfl
  · rw [h.logging]
    exact .given (loggingToJson_wording c.logging)

theorem ofJson?_toJson (c : Config) : ofJson? c.toJson = some c := (ofJson?_eq_some_iff _ _).mpr (toJson_wording c)

/-! ## Settings -/

/-- The settings that a document gives to a backend; none is the same as an empty object. -/
def settingsOf (j : Json) : Json.Fields :=
  match member? backendFields "settings" j with
  | some (.object fields) => fields
  | _ => []

/-- The settings of all backends in a document. -/
def settingsIn (j : Json) : List Json.Fields :=
  match member? configFields "backends" j with
  | some (.list items) => items.map settingsOf
  | _ => []

theorem BackendWording.settingsOf_eq {j : Json} {b : BackendSpec} (h : BackendWording j b) :
    settingsOf j = b.settings := by
  have hsettings := h.settings
  unfold settingsOf
  generalize member? backendFields "settings" j = given at hsettings ⊢
  generalize b.settings = fields at hsettings ⊢
  cases hsettings with
  | omitted => rfl
  | given h =>
    rw [IsFields] at h
    rw [h]

theorem Wording.settingsIn_eq {j : Json} {c : Config} (h : Wording j c) :
    settingsIn j = c.backends.map BackendSpec.settings := by
  obtain ⟨items, hmember, hitems⟩ := h.backends
  simp only [settingsIn, hmember]
  clear hmember
  generalize c.backends = specs at hitems ⊢
  induction hitems with
  | nil => rfl
  | cons hb _ ih => rw [List.map_cons, List.map_cons, hb.settingsOf_eq, ih]

/-! ## There and back -/

/-- Every configuration is read as it was written, and every document that is read keeps what it says. -/
theorem json_round_trip :
    (∀ c : Config, ofJson? c.toJson = some c) ∧
      (∀ j c, ofJson? j = some c ↔ Wording j c) ∧
      ∀ j c, ofJson? j = some c →
        ofJson? c.toJson = ofJson? j ∧ (ofJson? c.toJson).map toJson = some c.toJson ∧
          (ofJson? c.toJson).map check = (ofJson? j).map check ∧
          settingsIn j = c.backends.map BackendSpec.settings ∧ settingsIn c.toJson = settingsIn j := by
  refine ⟨ofJson?_toJson, ofJson?_eq_some_iff, ?_⟩
  intro j c hj
  have hsettings := ((ofJson?_eq_some_iff j c).mp hj).settingsIn_eq
  have hwritten := (toJson_wording c).settingsIn_eq
  refine ⟨(ofJson?_toJson c).trans hj.symm, ?_, ?_, hsettings, hwritten.trans hsettings.symm⟩
  · rw [ofJson?_toJson, Option.map_some]
  · rw [ofJson?_toJson, hj]

/-- Names that are not known, no defaults, another order, a backend as a list and an alternative as an object. -/
def rearranged : Json :=
  .object
    [("zone", .int 7), ("strategy", .object [("round_robin", .null)]), ("failure_threshold", .int 4294967295),
     ("backends", .list
       [.list [.text "a", .text "mesh", .object [("listen_addr", .text "127.0.0.1:7946"), ("more", .list [.null])]],
        .object [("kind", .text "memory"), ("colour", .bool true), ("name", .text "b")]])]

/-- What it says. -/
def arranged : Config :=
  ⟨[⟨"a", "mesh", [("listen_addr", .text "127.0.0.1:7946"), ("more", .list [.null])]⟩, ⟨"b", "memory", []⟩],
    .roundRobin, 30, 500, 4294967295, 1000, .default⟩

theorem json_round_trip_rearranged :
    ofJson? rearranged = some arranged ∧ rearranged ≠ arranged.toJson ∧ ofJson? arranged.toJson = ofJson? rearranged ∧
      (ofJson? arranged.toJson).map toJson = some arranged.toJson ∧
      (ofJson? arranged.toJson).map check = (ofJson? rearranged).map check ∧
      settingsIn arranged.toJson = settingsIn rearranged := by
  have hread : ofJson? rearranged = some arranged := by decide
  have h := json_round_trip.2.2 rearranged arranged hread
  exact ⟨hread, by decide, h.1, h.2.1, h.2.2.1, h.2.2.2.2⟩

end RateCounter.Config
