import PgJson.Payload.Key

/-!
# Writing payloads directly

A payload can be written without making a JSON value of it first. The text then shows the payload
as it is: whole numbers of any size in full, 32-bit floats with the digits that they need, and
every entry of a map, also when keys repeat.

## Main definitions

* `PgJson.Payload.write` — the text of a payload
-/

namespace PgJson.Payload

open Json (Style)

/-- The text of a float that may not be finite. -/
def writeFinite (isFinite : Bool) (digits : List Char) : List Char :=
  if isFinite then digits else Json.writeNull

mutual

/-- The text of a payload inside `depth` containers, or the first reason in reading order why
there is none. -/
def write (style : Style) (depth : Nat) : Payload → Except Json.Error (List Char)
  | .unit => .ok Json.writeNull
  | .bool b => .ok (Json.writeBool b)
  | .int n => .ok (Json.writeWhole n)
  | .float64 x => .ok (writeFinite x.isFinite (Decimal.writeDouble x))
  | .float32 x => .ok (writeFinite x.isFinite (Decimal.writeSingle x))
  | .char c => .ok (Json.writeString (String.singleton c))
  | .string s => .ok (Json.writeString s)
  | .bytes bs => .ok (style.list depth (bs.map fun b => Json.writeWhole b.toNat))
  | .none => .ok Json.writeNull
  | .some p => write style depth p
  | .newtype p => write style depth p
  | .unitVariant name => .ok (Json.writeString name)
  | .newtypeVariant name p => do
    return style.object depth [style.member name (← write style (depth + 1) p)]
  | .seq items => do return style.list depth (← writeItems style (depth + 1) items)
  | .map entries => do return style.object depth (← writeEntries style (depth + 1) entries)
  | .refusal message => .error (.ofMessage message)

/-- The texts of the items of a sequence. -/
def writeItems (style : Style) (depth : Nat) :
    List Payload → Except Json.Error (List (List Char))
  | [] => .ok []
  | p :: ps => do
    let t ← write style depth p
    return t :: (← writeItems style depth ps)

/-- The texts of the entries of a map. -/
def writeEntries (style : Style) (depth : Nat) :
    List (Payload × Payload) → Except Json.Error (List (List Char))
  | [] => .ok []
  | (k, p) :: es => do
    let name ← keyText true k
    let t ← write style depth p
    return style.member name t :: (← writeEntries style depth es)

end

/-- The text of a payload in a style. -/
def text (style : Style) (p : Payload) : Except Json.Error String :=
  (write style 0 p).map String.ofList

end PgJson.Payload
