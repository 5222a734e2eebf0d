import PgJson.Json.Layout
import PgJson.Text.Printed

/-!
# Showing values for inspection

An inspected value names the kind of every part: `Number(1)`, `Array [Null]`. Strings are shown in
quotes; the quote, the backslash, NUL, tab, line feed and carriage return are escaped by a letter,
and characters that have no shape of their own are shown by number.

## Main definitions

* `PgJson.Text.inspect` — a text in quotes
* `PgJson.Json.inspect` — a value
-/

namespace PgJson

namespace Text

/-- A character as it stands in an inspected text. -/
def inspectChar (c : Char) : List Char :=
  match c with
  | '\x00' => ['\\', '0']
  | '\t' => ['\\', 't']
  | '\r' => ['\\', 'r']
  | '\n' => ['\\', 'n']
  | '\\' => ['\\', '\\']
  | '"' => ['\\', '"']
  | c =>
    if isPrinted c then [c]
    else ['\\', 'u', '\x7b'] ++ Nat.toDigits 16 c.toNat ++ ['\x7d']

/-- A text in quotes. -/
def inspect (s : String) : List Char := '"' :: s.toList.flatMap inspectChar ++ ['"']

/-- Texts between commas. -/
def commaSeparated (texts : List (List Char)) : List Char :=
  (texts.intersperse [',', ' ']).flatten

end Text

namespace Json

mutual

/-- A value with the kinds of its parts. -/
def inspectChars : Json → List Char
  | .null => "Null".toList
  | .bool b => "Bool(".toList ++ writeBool b ++ [')']
  | .number n => "Number(".toList ++ n.write ++ [')']
  | .string s => "String(".toList ++ Text.inspect s ++ [')']
  | .array items => "Array [".toList ++ Text.commaSeparated (inspectItems items) ++ [']']
  | .object members =>
    "Object \x7b".toList ++ Text.commaSeparated (inspectMembers members) ++ ['\x7d']

/-- The items of a list. -/
def inspectItems : List Json → List (List Char)
  | [] => []
  | x :: xs => inspectChars x :: inspectItems xs

/-- The members of an object. -/
def inspectMembers : List (String × Json) → List (List Char)
  | [] => []
  | (name, x) :: ms =>
    (Text.inspect name ++ ':' :: ' ' :: inspectChars x) :: inspectMembers ms

end

/-- A value with the kinds of its parts. -/
def inspect (x : Json) : String := String.ofList x.inspectChars

end Json

end PgJson
