import PgJson.Cli.Run

/-!
# The program

Reads the environment, runs the command, and writes its output.
-/

open PgJson

/-- What is found at the path of a settings file. A file that is there but cannot be read as text
counts as a directory. -/
def findSettings (path : String) : IO SettingsFile := do
  try
    return .file (← IO.FS.readFile path)
  catch
    | .noFileOrDirectory .. => return .absent
    | _ => return .directory

/-- The path of the settings file of the user. -/
def userSettings (home : String) : String := home ++ "/.config/qail/" ++ settingsFile

/-- Run the program with its arguments. -/
def main (args : List String) : IO UInt32 := do
  let home ← IO.getEnv "HOME"
  let own ← findSettings settingsFile
  let user ← match home with
    | some home => findSettings (userSettings home)
    | none => pure .absent
  let env : Cli.Environment := ⟨[own, user], ← IO.getEnv "QAIL_DATABASE_URL"⟩
  let output := Cli.run env args
  IO.print output.stdout
  IO.eprint output.stderr
  return UInt32.ofNat output.exitCode
