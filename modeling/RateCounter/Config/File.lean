/-
  RateCounter.Config.File — reading the configuration from a file.

  The name of the file tells its format: `.yaml`, `.yml` or `.json`. The environment
  overrides the file; the result must be sound.
-/

import RateCounter.Config.Lenient

namespace RateCounter.Config

/-- What follows the last point of the file's name, if that point is not its first character. -/
def extension? (path : String) : Option String :=
  let name := (path.splitOn "/").getLast?.getD ""
  match name.splitOn "." with
  | [] | [_] | ["", _] => none
  | parts => parts.getLast?

/-- The table that a file holds. -/
def table? (path text : String) : Option Lenient.Fields :=
  match extension? path with
  | some "yaml" | some "yml" => Lenient.yamlTable? text
  | some "json" => Lenient.jsonTable? text
  | _ => none

/-- The configuration of a file and the environment, sound or not. -/
def ofFile? (path text : String) (environment : List (String × String)) : Option Config :=
  (table? path text).bind fun file => ofDocument? Format.lenient (Lenient.layers file environment)

/-- Reads a sound configuration from a file, given its text if it is there. -/
def ofFile (path : String) (text : Option String) (environment : List (String × String)) : Except ConfigError Config :=
  match text with
  | none => .error (.fileNotFound path)
  | some text =>
    match ofFile? path text environment with
    | none => .error (.unreadable "")
    | some c => sound c

end RateCounter.Config
