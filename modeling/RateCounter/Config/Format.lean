/-
  RateCounter.Config.Format — reading a configuration from a document of any format.

  A `Format` says how the documents of one format give texts, whole numbers, lists, named
  fields and names of alternatives. What the fields are, and what they are when left out,
  is said once for all formats (`Config.ofDocument?`). Unknown fields are passed over.
-/

import RateCounter.Config

namespace RateCounter

structure Format (δ : Type) where
  text? : δ → Option String
  word64? : δ → Option UInt64
  word32? : δ → Option UInt32
  list? : δ → Option (List δ)
  /-- The fields of a structure, given the names they have in order. -/
  fields? : List String → δ → Option (List (String × δ))
  /-- The name of an alternative without contents. -/
  alternative? : δ → Option String
  settings? : δ → Option Json.Fields

namespace Config

variable {δ : Type}

/-- A field that must be there. -/
def required {α : Type} (read : δ → Option α) (name : String) (fields : List (String × δ)) : Option α :=
  (fields.lookup name).bind read

/-- A field that may be left out. -/
def optional {α : Type} (read : δ → Option α) (default : α) (name : String) (fields : List (String × δ)) : Option α :=
  match fields.lookup name with
  | none => some default
  | some d => read d

/-- All items of a list, if every one can be read. -/
def readAll {α : Type} (read : δ → Option α) : List δ → Option (List α)
  | [] => some []
  | d :: rest => (read d).bind fun a => (readAll read rest).map (a :: ·)

def backendFields : List String := ["name", "kind", "settings"]

def backend? (F : Format δ) (d : δ) : Option BackendSpec :=
  (F.fields? backendFields d).bind fun fields =>
  (required F.text? "name" fields).bind fun name =>
  (required F.text? "kind" fields).bind fun kind =>
  (optional F.settings? [] "settings" fields).map fun settings => ⟨name, kind, settings⟩

def loggingFields : List String := ["level", "format"]

def logging? (F : Format δ) (d : δ) : Option Logging :=
  (F.fields? loggingFields d).bind fun fields =>
  (optional F.text? "info" "level" fields).bind fun level =>
  (optional (fun d => (F.alternative? d).bind LogFormat.ofName?) .text "format" fields).map fun format =>
    ⟨level, format⟩

def configFields : List String :=
  ["backends", "strategy", "health_check_interval_secs", "health_check_timeout_ms", "failure_threshold",
   "operation_timeout_ms", "logging"]

/-- The configuration a document holds. -/
def ofDocument? (F : Format δ) (d : δ) : Option Config :=
  (F.fields? configFields d).bind fun fields =>
  (required (fun d => (F.list? d).bind (readAll (backend? F))) "backends" fields).bind fun backends =>
  (optional (fun d => (F.alternative? d).bind Strategy.ofName?) .firstHealthy "strategy" fields).bind fun strategy =>
  (optional F.word64? 30 "health_check_interval_secs" fields).bind fun interval =>
  (optional F.word64? 500 "health_check_timeout_ms" fields).bind fun checkTimeout =>
  (optional F.word32? 1 "failure_threshold" fields).bind fun threshold =>
  (optional F.word64? 1000 "operation_timeout_ms" fields).bind fun operationTimeout =>
  (optional (logging? F) .default "logging" fields).map fun logging =>
    ⟨backends, strategy, interval, checkTimeout, threshold, operationTimeout, logging⟩

end Config

end RateCounter
