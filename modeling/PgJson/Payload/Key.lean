import PgJson.Json.Layout
import PgJson.Payload.Basic

/-!
# Keys of maps

The members of a JSON object are named by strings, so a map can be encoded only when each of its
keys has a text: strings and characters, whole numbers of any size, truth values, finite floats,
variants without data, and newtypes of these. A payload that is written directly may also have
optional keys, as long as they are present; they have no place in a JSON value.

## Main definitions

* `PgJson.Payload.keyText` — the text of a key
-/

namespace PgJson.Payload

/-- The text of a key, or why there is none; `optional` admits optional values. -/
def keyText (optional : Bool) : Payload → Except Json.Error String
  | .string s => .ok s
  | .char c => .ok (String.singleton c)
  | .int n => .ok (String.ofList (Json.writeWhole n))
  | .bool b => .ok (String.ofList (Json.writeBool b))
  | .float64 x =>
    if x.isFinite then .ok (String.ofList (Decimal.writeDouble x))
    else .error ⟨.nonFiniteKey, Option.none⟩
  | .float32 x =>
    if x.isFinite then .ok (String.ofList (Decimal.writeSingle x))
    else .error ⟨.nonFiniteKey, Option.none⟩
  | .unitVariant name => .ok name
  | .newtype p => keyText optional p
  | .some p => if optional then keyText optional p else .error ⟨.keyNotString, Option.none⟩
  | .refusal message => .error (.ofMessage message)
  | _ => .error ⟨.keyNotString, Option.none⟩

end PgJson.Payload
