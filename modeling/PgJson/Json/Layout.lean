import PgJson.Json.NumberLiteral
import PgJson.Json.StringLiteral

/-!
# Laying out lists and objects

A container is written from the texts of its entries. The compact style writes them on one line
without spaces; the pretty style gives each entry a line of its own, indented by two spaces for
every open container, and a space after the colon. Empty containers are two brackets in both.

`Json.write` and the writers of other data models share these functions, so they agree on
everything but the values themselves.

## Main definitions

* `PgJson.Json.Style` — compact or pretty
* `PgJson.Json.Style.enclose` — brackets around entries
* `PgJson.Json.Style.member` — a member of an object
* `PgJson.Json.write` — the text of a value
-/

namespace PgJson

namespace Json

/-- How containers are laid out. -/
inductive Style where
  | compact
  | pretty
deriving DecidableEq, Repr

/-- A new line inside `depth` containers. -/
def Style.newLine : Style → Nat → List Char
  | .compact, _ => []
  | .pretty, depth => '\n' :: List.replicate (2 * depth) ' '

/-- The entries of a container at `depth`, each followed by what separates it from the next. -/
def Style.entries (style : Style) (depth : Nat) : List (List Char) → List Char
  | [] => []
  | [e] => style.newLine (depth + 1) ++ e
  | e :: es => style.newLine (depth + 1) ++ e ++ ',' :: style.entries depth es

/-- A container at `depth` with the given brackets and entries. -/
def Style.enclose (style : Style) (depth : Nat) (first last : Char) (es : List (List Char)) :
    List Char :=
  if es.isEmpty then [first, last]
  else first :: style.entries depth es ++ style.newLine depth ++ [last]

/-- A list at `depth`. -/
def Style.list (style : Style) (depth : Nat) (items : List (List Char)) : List Char :=
  style.enclose depth '[' ']' items

/-- An object at `depth`. -/
def Style.object (style : Style) (depth : Nat) (members : List (List Char)) : List Char :=
  style.enclose depth '\x7b' '\x7d' members

/-- A member with its name. -/
def Style.member (style : Style) (name : String) (value : List Char) : List Char :=
  writeString name ++ ':' :: match style with
    | .compact => value
    | .pretty => ' ' :: value

/-- The word for a truth value. -/
def writeBool (b : Bool) : List Char := if b then "true".toList else "false".toList

/-- The word for null. -/
def writeNull : List Char := "null".toList

mutual

/-- The text of a value inside `depth` containers. -/
def write (style : Style) (depth : Nat) : Json → List Char
  | .null => writeNull
  | .bool b => writeBool b
  | .number n => n.write
  | .string s => writeString s
  | .array items => style.list depth (writeItems style (depth + 1) items)
  | .object members => style.object depth (writeMembers style (depth + 1) members)

/-- The texts of the items of a list. -/
def writeItems (style : Style) (depth : Nat) : List Json → List (List Char)
  | [] => []
  | x :: xs => write style depth x :: writeItems style depth xs

/-- The texts of the members of an object. -/
def writeMembers (style : Style) (depth : Nat) : List (String × Json) → List (List Char)
  | [] => []
  | (name, x) :: ms => style.member name (write style depth x) :: writeMembers style depth ms

end

/-- The text of a value in a style. -/
def text (style : Style) (x : Json) : String := String.ofList (write style 0 x)

end Json

end PgJson
