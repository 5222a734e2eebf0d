import PgJson.ArrayLiteral.Reader
import PgJson.Json.Document
import PgJson.Json.Inspect
import PgJson.Oid

/-!
# Casters

A caster turns the text of a column into a JSON value. A scalar caster applies a decoder to the
whole text. An array caster reads the text as an array literal and applies another caster to each
text element; the result is a JSON list of the same shape, with null for the null elements.

A caster lists the oids of the columns it is meant for. It is found by them (see
`PgJson.Caster.Table`), but they do not matter for the cast itself.

## Scope

An application may bring a decoder of its own. Here a decoder is a function: every call returns, and
what it returns is decided by the text alone. A decoder that keeps a state of its own from one call
to the next, such as a counter, or that looks at anything but its text, is outside of the model. So
is what such a decoder would give when it is called twice, or when two casters share it.

## Main definitions

* `PgJson.Decoder` — how the text of a scalar becomes a value
* `PgJson.ArrayLiteral.Element.decode` — decode the texts of an array element
* `PgJson.Caster` — scalar and array casters
* `PgJson.Caster.cast` — cast a column, which may be NULL
-/

namespace PgJson

/-- How the text of a scalar becomes a value. The value or the error is a function of the text
alone; a decoder with a state of its own is not modelled. -/
abbrev Decoder := String → Except Error Json

/-- The decoder that reads the text as a JSON document. -/
def Decoder.json : Decoder := fun text => (Json.ofText text).mapError .decode

namespace ArrayLiteral.Element

mutual

/-- Decode every text of an element; the first failure in reading order is reported. -/
def decode (decoder : Decoder) : Element → Except Error Json
  | .null => .ok .null
  | .text s => decoder s
  | .nested items => do return .array (← decodeAll decoder items)

/-- Decode every text of a list of elements. -/
def decodeAll (decoder : Decoder) : List Element → Except Error (List Json)
  | [] => .ok []
  | e :: es => do
    let x ← decode decoder e
    return x :: (← decodeAll decoder es)

end

end ArrayLiteral.Element

/-- A caster, with the oids it is meant for and its name. -/
inductive Caster where
  | scalar (oids : List Oid) (name : String) (decoder : Decoder)
  | array (oids : List Oid) (name : String) (element : Caster)

namespace Caster

/-- The oids that a caster is meant for. -/
def oids : Caster → List Oid
  | .scalar oids _ _ => oids
  | .array oids _ _ => oids

/-- The name of a caster. -/
def name : Caster → String
  | .scalar _ name _ => name
  | .array _ name _ => name

/-- The caster for the elements of an array. -/
def element? : Caster → Option Caster
  | .scalar .. => none
  | .array _ _ element => some element

/-- Whether a caster reads array literals. -/
def isArray (c : Caster) : Bool := c.element?.isSome

/-- Cast the text of a column. -/
def decode : Caster → Decoder
  | .scalar _ _ decoder, text => decoder text
  | .array _ _ element, text => do
    let items ← ArrayLiteral.ofText text
    return .array (← ArrayLiteral.Element.decodeAll element.decode items)

/-- Cast a column. NULL becomes null, whatever the caster. -/
def cast (c : Caster) : Option String → Except Error Json
  | none => .ok .null
  | some text => c.decode text

/-- The oids of a caster between brackets. -/
def showOids (oids : List Oid) : List Char :=
  '[' :: Text.commaSeparated (oids.map fun oid => Nat.toDigits 10 oid.toNat) ++ [']']

/-- A caster, shown for inspection. -/
def inspect (c : Caster) : String :=
  let kind := match c.element? with
    | none => ", cast: ".toList ++ Text.inspect "scalar"
    | some element => ", element: ".toList ++ Text.inspect element.name
  String.ofList <| "TypeCaster \x7b oids: ".toList ++ showOids c.oids ++
    ", name: ".toList ++ Text.inspect c.name ++ kind ++ [' ', '\x7d']

end Caster

end PgJson
