import PgJson.Json.Error
import PgJson.Text.Blank

/-!
# Failures while reading

Readers take the characters that are left and return a value with the characters after it. When
one fails it says how many bytes were left at the place it stood, and the place itself is worked
out at the end, where the whole text is known.

Readers that loop take a list of steps, of which each round uses up one. Any list that is as long
as the text will do, because every round reads at least one character; the text itself is at hand
and need not be measured.

## Main definitions

* `PgJson.Json.Fault` — a failure inside a text
* `PgJson.Json.Reader` — functions that read from the front of a text
* `PgJson.Json.fail`, `failPast` — fail before, or just after, the next byte
* `PgJson.Json.Fault.error` — a failure as an error with its place
-/

namespace PgJson.Json

open Text (byteSize)

/-- A failure inside a text. -/
inductive Fault where
  /-- With `remaining` bytes left to read. -/
  | here (cause : Cause) (remaining : Nat)
  /-- Inside a document that is embedded in this one; its places are its own. -/
  | embedded (e : Error)
deriving DecidableEq, Repr

/-- Functions that read from the front of a text and return what is left. -/
abbrev Reader (α : Type) := List Char → Except Fault (α × List Char)

/-- Fail where `s` is left. -/
def fail {α : Type} (cause : Cause) (s : List Char) : Except Fault α :=
  .error (.here cause (byteSize s))

/-- Fail one byte further on, which may be inside a character, but not past the end. -/
def failPast {α : Type} (cause : Cause) (s : List Char) : Except Fault α :=
  .error (.here cause (byteSize s - 1))

/-- The error that a failure in `text` amounts to. -/
def Fault.error (text : List Char) : Fault → Error
  | .here cause remaining =>
    ⟨cause, some (Text.locate text (byteSize text - remaining) ⟨1, 0⟩)⟩
  | .embedded e => e

end PgJson.Json
