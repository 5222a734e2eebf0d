import PgJson.Text.Numeral
import PgJson.Text.Position

/-!
# What can be wrong with JSON

Reading a document fails at a place of the text, and converting a value to JSON fails without
one. Both use the same `Error`: a cause, with a position when there is one.

A conversion that fails with a text of its own may report a place in that text, in the wording of
`Error.message`. `Error.ofMessage` finds the place again, so that wording and reading back agree.

## Main definitions

* `PgJson.Json.Cause` — what is wrong
* `PgJson.Json.Error` — a cause and its place
* `PgJson.Json.Error.message` — the wording
* `PgJson.Json.Error.ofMessage` — an error with a text of its own
-/

namespace PgJson.Json

open Text (Position)

/-- What is wrong. -/
inductive Cause where
  | listUnfinished
  | objectUnfinished
  | stringUnfinished
  | valueUnfinished
  | colonExpected
  | listSeparatorExpected
  | objectSeparatorExpected
  | wordExpected
  | valueExpected
  | invalidEscape
  | invalidNumber
  | numberOutOfRange
  | controlCharacter
  | keyNotString
  | nonFiniteKey
  | loneSurrogate
  | trailingComma
  | trailingCharacters
  | escapeUnfinished
  | tooDeep
  /-- The member that stands for an embedded document holds something else than a string. -/
  | notEmbedded (found : String)
  | other (text : String)
deriving DecidableEq, Repr

/-- The wording of a cause. -/
def Cause.message : Cause → String
  | .listUnfinished => "EOF while parsing a list"
  | .objectUnfinished => "EOF while parsing an object"
  | .stringUnfinished => "EOF while parsing a string"
  | .valueUnfinished => "EOF while parsing a value"
  | .colonExpected => "expected `:`"
  | .listSeparatorExpected => "expected `,` or `]`"
  | .objectSeparatorExpected => "expected `,` or `\x7d`"
  | .wordExpected => "expected ident"
  | .valueExpected => "expected value"
  | .invalidEscape => "invalid escape"
  | .invalidNumber => "invalid number"
  | .numberOutOfRange => "number out of range"
  | .controlCharacter => "control character (\\u0000-\\u001F) found while parsing a string"
  | .keyNotString => "key must be a string"
  | .nonFiniteKey => "float key must be finite (got NaN or +/-inf)"
  | .loneSurrogate => "lone leading surrogate in hex escape"
  | .trailingComma => "trailing comma"
  | .trailingCharacters => "trailing characters"
  | .escapeUnfinished => "unexpected end of hex escape"
  | .tooDeep => "recursion limit exceeded"
  | .notEmbedded found => "invalid type: " ++ found ++ ", expected raw value"
  | .other text => text

/-- A cause and, for errors in a text, its place. -/
structure Error where
  cause : Cause
  place : Option Position := none
deriving DecidableEq, Repr

/-- The words between a cause and a line number. -/
def Error.lineMark : String := " at line "

/-- The words between a line number and a column. -/
def Error.columnMark : String := " column "

/-- The wording of an error. -/
def Error.message (e : Error) : String :=
  match e.place with
  | none => e.cause.message
  | some p => e.cause.message ++ Error.lineMark ++ toString p.line ++ Error.columnMark ++
    toString p.column

/-- What stands before and after the last occurrence of `mark`. -/
def splitLast (mark : List Char) : List Char → Option (List Char × List Char)
  | [] => none
  | c :: s => match splitLast mark s with
    | some (before, after) => some (c :: before, after)
    | none => if mark.isPrefixOf (c :: s) then some ([], (c :: s).drop mark.length) else none

/-- The largest number that counts lines or columns. -/
def Error.greatestCount : Nat := Text.greatestUnsigned 64

/-- A text that ends in a place, as `message` writes it: what stands before, and the place. -/
def Error.splitPlace (s : List Char) : Option (List Char × Position) := do
  let (before, after) ← splitLast Error.lineMark.toList s
  let line := after.takeWhile Char.isDigit
  let rest := after.dropWhile Char.isDigit
  guard (Error.columnMark.toList.isPrefixOf rest)
  let column := rest.drop Error.columnMark.length
  let readCount (digits : List Char) : Option Nat :=
    if digits.all Char.isDigit then (Text.readNat Error.greatestCount digits).toOption else none
  return (before, ⟨← readCount line, ← readCount column⟩)

/-- An error with the wording `text`. A place at the end of the text becomes the error's own;
lines count from one, so line zero says that there is no place. -/
def Error.ofMessage (text : String) : Error :=
  match Error.splitPlace text.toList with
  | some (before, place) =>
    ⟨.other (String.ofList before), if place.line == 0 then none else some place⟩
  | none => ⟨.other text, none⟩

end PgJson.Json
