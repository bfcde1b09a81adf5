/-
  RateCounter.Error — what can go wrong, by cause, and the wording of each cause.

  A single backend fails with a `BackendError`: it was not available, or it met a fault of
  its own. Building or calling a group of backends fails with an `Error`: the
  configuration was refused, an argument no backend could accept, every backend failed,
  the cluster could not be joined or left, or the system refused.
-/

import RateCounter.Settings.Problem

namespace RateCounter

/-! ## One backend -/

inductive BackendError where
  | unavailable (reason : String)
  | internal (reason : String)
  deriving DecidableEq, Repr

namespace BackendError

def message : BackendError → String
  | unavailable reason => "backend unavailable: " ++ reason
  | internal reason => "backend internal error: " ++ reason

/-- A passing failure, not a fault inside the backend. -/
def isUnavailable : BackendError → Bool
  | unavailable _ => true
  | internal _ => false

end BackendError

/-- A failure and the name of the backend it came from. -/
structure Failure where
  backend : String
  error : BackendError
  deriving DecidableEq, Repr

def Failure.message (f : Failure) : String := f.backend ++ ": " ++ f.error.message

/-! ## Configuration -/

inductive ConfigError where
  | noBackends
  | blankName
  | blankKind (name : String)
  | duplicateName (name : String)
  | zeroThreshold
  | zeroOperationTimeout
  | zeroCheckTimeout
  | unknownKind (name kind : String) (known : List String)
  | badSettings (name kind : String) (problem : Settings.Problem)
  | fileNotFound (path : String)
  /-- A text or file that holds no configuration. -/
  | unreadable (lead : String)
  | refused (reason : String)
  deriving DecidableEq, Repr

/-- Stands for the words in which a reader of texts tells what it found wrong. -/
def readerWords : String := "<parser text>"

def ConfigError.message : ConfigError → String
  | noBackends => "at least one backend is required"
  | blankName => "backend name must not be empty"
  | blankKind name => "backend '" ++ name ++ "' has no kind"
  | duplicateName name => "duplicate backend name '" ++ name ++ "'"
  | zeroThreshold => "failure_threshold must be at least 1"
  | zeroOperationTimeout => "operation_timeout_ms must be greater than zero"
  | zeroCheckTimeout => "health_check_timeout_ms must be greater than zero"
  | unknownKind name kind known =>
    "backend '" ++ name ++ "' has unknown kind '" ++ kind ++ "' (known: " ++ ", ".intercalate known ++ ")"
  | badSettings name kind problem =>
    "invalid settings for backend '" ++ name ++ "' (" ++ kind ++ "): " ++ problem.message
  | fileNotFound path => "configuration file not found: " ++ path
  | unreadable lead => lead ++ readerWords
  | refused reason => reason

/-! ## Groups of backends -/

inductive ClusterError where
  | start (reason : String)
  | shutdown (reason : String)
  deriving DecidableEq, Repr

def ClusterError.message : ClusterError → String
  | start reason => "Failed to start cluster: " ++ reason
  | shutdown reason => "Failed to shut down cluster: " ++ reason

inductive Error where
  | configuration (cause : ConfigError)
  | invalidArgument (reason : String)
  | allBackendsFailed (operation : String) (failures : List Failure)
  | cluster (cause : ClusterError)
  | io (reason : String)
  deriving DecidableEq, Repr

def Error.message : Error → String
  | configuration cause => "Configuration error: " ++ cause.message
  | invalidArgument reason => "Invalid argument: " ++ reason
  | allBackendsFailed operation failures =>
    "All backends failed for " ++ operation ++ ": [" ++ ", ".intercalate (failures.map Failure.message) ++ "]"
  | cluster cause => "Cluster error: " ++ cause.message
  | io reason => "I/O error: " ++ reason

/-- How the failure of a group looks to a group it belongs to. -/
def Error.toBackendError : Error → BackendError
  | e@(allBackendsFailed ..) => .unavailable e.message
  | e => .internal e.message

end RateCounter
