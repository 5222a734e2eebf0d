import PgJson.Error
import PgJson.Json.Layout
import PgJson.Toml.Document

/-!
# Settings

The settings file names a database, the JSON type to look up, and the style of JSON text. It has a
table for each subject, and everything in it is optional; what is not known is ignored. A table
may also be given as the list of its values in order.

The file of the current directory is used if there is one, else that of the user, else defaults.

## Main definitions

* `PgJson.Settings` — what can be set
* `PgJson.Settings.ofText` — the settings in the text of a file
* `PgJson.Settings.load` — the settings in the first file that exists
-/

namespace PgJson

/-- What can be set. -/
structure Settings where
  url? : Option String := none
  typeName : String := "json"
  pretty : Bool := false
deriving DecidableEq, Repr

/-- What is found where a settings file is looked for. -/
inductive SettingsFile where
  | absent
  | directory
  | file (text : String)

namespace Settings

open Toml (Value)

/-- The style of JSON text. -/
def style (s : Settings) : Json.Style := if s.pretty then .pretty else .compact

/-- A string setting, which keeps its default when it is missing; another value is an error. -/
def stringOr (default : String) : Option Value → Option String
  | none => some default
  | some (.string s) => some s
  | some _ => none

/-- A setting that is true or false. -/
def booleanOr (default : Bool) : Option Value → Option Bool
  | none => some default
  | some (.boolean b) => some b
  | some _ => none

/-- A setting without a default. -/
def string? : Option Value → Option (Option String)
  | none => some none
  | some (.string s) => some (some s)
  | some _ => none

/-- Take the database from its table. In a list it may not be missing. A date in place of a table
sets nothing. -/
def setDatabase (s : Settings) : Option Value → Option Settings
  | none => some s
  | some (.datetime _) => some s
  | some (.table entries) => do return { s with url? := ← string? (entries.lookup "url") }
  | some (.array (url :: _)) => do return { s with url? := ← string? (some url) }
  | some _ => none

/-- Take what concerns JSON from its table. -/
def setJson (s : Settings) : Option Value → Option Settings
  | none => some s
  | some (.datetime _) => some s
  | some (.table entries) => do
    return { s with
      typeName := ← stringOr s.typeName (entries.lookup "type_name")
      pretty := ← booleanOr s.pretty (entries.lookup "pretty") }
  | some (.array items) => do
    return { s with
      typeName := ← stringOr s.typeName items[0]?
      pretty := ← booleanOr s.pretty items[1]? }
  | some _ => none

/-- The settings in a document. -/
def ofValue? : Value → Option Settings
  | .table entries => do
    let s ← setDatabase {} (entries.lookup "postgres")
    setJson s (entries.lookup "json")
  | _ => none

/-- The settings in the text of a file. -/
def ofText (text : String) : Except Error Settings :=
  match (Toml.ofText text).bind ofValue? with
  | some s => .ok s
  | none => .error (.configuration .invalidSettings)

/-- Why a directory cannot be read. -/
def directoryReason : String := "Is a directory (os error 21)"

/-- The settings in the first file that exists; none of the others is read. -/
def load : List SettingsFile → Except Error Settings
  | [] => .ok {}
  | .absent :: r => load r
  | .directory :: _ => .error (.configuration (.unreadableSettings directoryReason))
  | .file text :: _ => ofText text

end Settings

end PgJson
