import PgJson.Json.Basic

/-!
# Payloads

A payload is application data that describes itself well enough to be encoded: scalars of several
widths, optional and wrapped values, the variants of an enumeration, sequences, and maps whose
keys can again be any payload. JSON values are payloads too. A payload may also refuse to be
encoded, with a message of its own.

## Main definitions

* `PgJson.Payload` — application data to be encoded
* `PgJson.Payload.ofJson` — a JSON value as a payload
-/

namespace PgJson

/-- Application data to be encoded. -/
inductive Payload where
  | unit
  | bool (b : Bool)
  | int (n : Int)
  | float64 (x : Float)
  | float32 (x : Float32)
  | char (c : Char)
  | string (s : String)
  | bytes (bs : List UInt8)
  | none
  | some (p : Payload)
  /-- A value wrapped in a type of its own. -/
  | newtype (p : Payload)
  /-- A variant without data. -/
  | unitVariant (name : String)
  /-- A variant that holds one value. -/
  | newtypeVariant (name : String) (p : Payload)
  | seq (items : List Payload)
  | map (entries : List (Payload × Payload))
  /-- Data that refuses to be encoded. -/
  | refusal (message : String)
deriving Inhabited

namespace Payload

mutual

/-- A JSON value as a payload. -/
def ofJson : Json → Payload
  | .null => .unit
  | .bool b => .bool b
  | .number (.whole n) => .int n
  | .number (.float x) => .float64 x
  | .string s => .string s
  | .array items => .seq (ofItems items)
  | .object members => .map (ofMembers members)

/-- The items of a list as payloads. -/
def ofItems : List Json → List Payload
  | [] => []
  | x :: xs => ofJson x :: ofItems xs

/-- The members of an object as entries with string keys. -/
def ofMembers : List (String × Json) → List (Payload × Payload)
  | [] => []
  | (name, x) :: ms => (.string name, ofJson x) :: ofMembers ms

end

end Payload

end PgJson
