/-
  RateCounter.Settings.Problem — what can be wrong with the settings of a backend.

  A problem names a field that is not known or not there, or the value met where another
  type was expected.
-/

import RateCounter.Json
import RateCounter.Text.Quoted

namespace RateCounter.Settings

/-- What a field holds. -/
inductive Expected where
  | word64
  | text
  | list
  | address
  deriving DecidableEq, Repr

inductive Problem where
  | unknownField (name : String) (known : List String)
  | missingField (name : String)
  | wrongType (found : Json) (expected : Expected)
  | outOfRange (n : Int) (expected : Expected)
  | badAddress
  deriving DecidableEq, Repr

def Expected.describe : Expected → String
  | word64 => "u64"
  | text => "a string"
  | list => "a sequence"
  | address => "socket address"

/-- A value as a message shows it. -/
def describeValue : Json → String
  | .null => "null"
  | .bool b => "boolean `" ++ (if b then "true" else "false") ++ "`"
  | .int n => "integer `" ++ toString n ++ "`"
  | .float x => "floating point `" ++ x.compact ++ "`"
  | .text s => "string " ++ Text.quoted s
  | .list _ => "sequence"
  | .object _ => "map"

def fieldName (name : String) : String := "`" ++ name ++ "`"

def describeKnown : List String → String
  | [name] => fieldName name
  | names => "one of " ++ ", ".intercalate (names.map fieldName)

def Problem.message : Problem → String
  | unknownField name known => "unknown field " ++ fieldName name ++ ", expected " ++ describeKnown known
  | missingField name => "missing field " ++ fieldName name
  | wrongType found expected => "invalid type: " ++ describeValue found ++ ", expected " ++ expected.describe
  | outOfRange n expected => "invalid value: " ++ describeValue (.int n) ++ ", expected " ++ expected.describe
  | badAddress => "invalid socket address syntax"

end RateCounter.Settings
