import PgJson.Cli.Arguments
import PgJson.Parameter
import PgJson.Registration
import PgJson.Settings

/-!
# Running a command

A command is run in an environment that is known beforehand, so that its output is a value. The
arguments are judged first, then the settings are read, whatever the command, and then the command
is run.

## Main definitions

* `PgJson.Cli.Environment` — what surrounds a run
* `PgJson.Cli.Output` — the exit code and the two streams
* `PgJson.Cli.Failure` — why a command fails, with its wording
* `PgJson.Cli.run` — arguments to output
-/

namespace PgJson.Cli

/-- What surrounds a run. -/
structure Environment where
  /-- The places where a settings file is looked for, in order. -/
  settingsFiles : List SettingsFile := []
  /-- The database URL of the environment. -/
  databaseUrl? : Option String := none

/-- The exit code and what is written. -/
structure Output where
  exitCode : Nat := 0
  stdout : String := ""
  stderr : String := ""
deriving DecidableEq, Repr

/-- Why a command fails. -/
inductive Failure where
  | library (e : Error)
  | invalidJson (e : Json.Error)
  | noDatabaseUrl
  /-- The database URL has no scheme, so there is no server that it could name. -/
  | relativeUrl
  | unsupportedUrl (url : String)
deriving DecidableEq, Repr

/-- The wording of a failure, each followed by what it is due to. -/
def Failure.message : Failure → String
  | .library e => match e with
    | .encode cause => e.message ++ ": " ++ cause.message
    | .decode cause => e.message ++ ": " ++ cause.message
    | _ => e.message
  | .invalidJson e => "Input is not valid JSON: " ++ e.message
  | .noDatabaseUrl => "No database URL. Use --database-url, set QAIL_DATABASE_URL " ++
      "or add [postgres] url to qail.toml"
  | .relativeUrl => "Failed to connect: error with configuration: " ++
      "relative URL without a base: relative URL without a base"
  | .unsupportedUrl url => "Failed to connect: no connection to " ++ url

/-- Quote a JSON document in a style. -/
def quoteJson (json : String) (style : Json.Style) : Except Failure String := do
  let x ← (Json.ofText json).mapError .invalidJson
  (Parameter.ofJson x).literal (Registry.new.setStyle style) |>.mapError .library

/-- The registry in which both built-in types are registered. -/
def builtinRegistry : Except Error Registry :=
  Builtin.all.foldlM (fun r b =>
    let reg := Registration.ofBuiltin r none true none b
    reg.result.map fun _ => reg.registry) Registry.new

/-- Decode the text of a column, and count the elements of an array. -/
def decodeText (oid : Oid) (text : String) : Except Failure String := do
  let r ← builtinRegistry.mapError .library
  let x ← (r.typecast none oid (some text)).mapError .library
  let count := match x with
    | .array items =>
      if oid.isBuiltinArray then "elements: " ++ toString items.length ++ "\n" else ""
    | _ => ""
  return oid.typeName ++ ": " ++ x.text .pretty ++ "\n" ++ count

/-- Whether a URL starts with a scheme: a letter, more letters, digits and three signs, a colon. -/
def hasScheme (url : String) : Bool :=
  match url.toList with
  | c :: r =>
    c.isAlpha && (r.dropWhile fun c => c.isAlphanum || c == '+' || c == '-' || c == '.').head? ==
      some ':'
  | [] => false

/-- Look up the oids of a type: what is written before the connection is made, and why it is not
made. Servers are reached by applications, which bring their own connections. -/
def connect (url? : Option String) (verbose : Bool) : String × Failure :=
  match url? with
  | none => ("", .noDatabaseUrl)
  | some url =>
    (if verbose then "Connecting to: " ++ url ++ "\n" else "",
      if hasScheme url then .unsupportedUrl url else .relativeUrl)

/-- The output of a failure. -/
def failing (stdout : String) (failure : Failure) : Output :=
  { exitCode := 1, stdout := stdout, stderr := "Error: " ++ failure.message ++ "\n" }

/-- The output of a command that writes text, or fails before it writes any. -/
def finish (result : Except Failure String) : Output :=
  match result with
  | .ok text => { stdout := text }
  | .error failure => failing "" failure

/-- Run a command with its settings. -/
def runCommand (env : Environment) (settings : Settings) (i : Invocation) : Output :=
  match i.command with
  | .oids _ =>
    let url? := (i.databaseUrl?.or env.databaseUrl?).or settings.url?
    let (stdout, failure) := connect url? i.verbose
    failing stdout failure
  | .quote json pretty =>
    finish ((quoteJson json (if pretty then .pretty else settings.style)).map (· ++ "\n"))
  | .decode oid text => finish (decodeText oid text)

/-- The name and version of the program. -/
def versionText : String := "qail-json 0.3.0\n"

/-- How the program is used. -/
def usage : String :=
  "Usage: qail-json [--database-url URL] [-v] COMMAND\n\n" ++
  "  oids [-t TYPE]        look up the oids of a JSON type\n" ++
  "  quote [-p] JSON       write JSON as a string constant\n" ++
  "  decode [-o OID] TEXT  decode the text of a column\n"

/-- The exit code of arguments that do not fit. -/
def misuseCode : Nat := 2

/-- Run the program. -/
def run (env : Environment) (args : List String) : Output :=
  match Arguments.parse args with
  | .error .version => { stdout := versionText }
  | .error .help => { stdout := usage }
  | .error .misuse => { exitCode := misuseCode, stderr := usage }
  | .ok i => match Settings.load env.settingsFiles with
    | .error e => failing "" (.library e)
    | .ok settings => runCommand env settings i

end PgJson.Cli
