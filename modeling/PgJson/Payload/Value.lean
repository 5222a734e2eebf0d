import PgJson.Payload.Key

/-!
# Payloads as JSON values

The value of a payload forgets what JSON cannot tell apart: wrappers disappear, a variant that
holds a value becomes an object with one member, bytes become numbers, and floats that are not
finite become null. Whole numbers must fit 64 bits. When two entries of a map have the same key
text, the later value takes the earlier place.

## Main definitions

* `PgJson.Payload.toJson` — the value of a payload
-/

namespace PgJson.Payload

/-- The value of a float: JSON has no number that is not finite. -/
def floatValue (x : Float) : Json := if x.isFinite then .number (.float x) else .null

/-- The value of a whole number. -/
def wholeValue (n : Int) : Except Json.Error Json :=
  if Json.isWhole n then .ok (.number (.whole n)) else .error ⟨.numberOutOfRange, Option.none⟩

/-- The value of a byte. -/
def byteValue (b : UInt8) : Json := .number (.whole b.toNat)

mutual

/-- The value of a payload, or the first reason in reading order why there is none. -/
def toJson : Payload → Except Json.Error Json
  | .unit => .ok .null
  | .bool b => .ok (.bool b)
  | .int n => wholeValue n
  | .float64 x => .ok (floatValue x)
  | .float32 x => .ok (floatValue x.toFloat)
  | .char c => .ok (.string (String.singleton c))
  | .string s => .ok (.string s)
  | .bytes bs => .ok (.array (bs.map byteValue))
  | .none => .ok .null
  | .some p => toJson p
  | .newtype p => toJson p
  | .unitVariant name => .ok (.string name)
  | .newtypeVariant name p => do return .object [(name, ← toJson p)]
  | .seq items => do return .array (← itemValues items)
  | .map entries => do return .object (Json.Members.ofList (← memberValues entries))
  | .refusal message => .error (.ofMessage message)

/-- The values of the items of a sequence. -/
def itemValues : List Payload → Except Json.Error (List Json)
  | [] => .ok []
  | p :: ps => do
    let x ← toJson p
    return x :: (← itemValues ps)

/-- The names and values of the entries of a map. -/
def memberValues : List (Payload × Payload) → Except Json.Error (List (String × Json))
  | [] => .ok []
  | (k, p) :: es => do
    let name ← keyText false k
    let x ← toJson p
    return (name, x) :: (← memberValues es)

end

end PgJson.Payload
