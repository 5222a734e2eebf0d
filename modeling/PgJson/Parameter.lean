import PgJson.Event
import PgJson.Payload.Value
import PgJson.Payload.Writer
import PgJson.Registry
import PgJson.Sql.Quote

/-!
# Query parameters

A parameter is application data that is to be sent as a JSON literal. Either it brings its own
encoder, or it can be converted to a JSON value and is then left to the default encoder of the
registry, as it is at the moment of encoding. A missing default encoder is noticed before the data
is converted.

## Scope

Encoders and conversions are functions of the content alone, as in `PgJson.Registry`: one that keeps
a state of its own from call to call is outside of the model.

## Main definitions

* `PgJson.Parameter` — data with its encoding
* `PgJson.Parameter.encode` — the JSON text
* `PgJson.Parameter.literal` — the JSON text as a string constant of SQL
-/

namespace PgJson

/-- How the content of a parameter becomes JSON text. -/
inductive Encoding (α : Type) where
  /-- Convert the content, and leave the value to the default encoder. -/
  | byDefault (toJson : α → Except Json.Error Json)
  /-- Always use this encoder, a function of the content alone. -/
  | custom (encode : α → Except Error String)

/-- Whether an encoding is independent of the defaults. -/
def Encoding.isCustom {α : Type} : Encoding α → Bool
  | .byDefault _ => false
  | .custom _ => true

/-- Data to be sent as a JSON literal. -/
structure Parameter (α : Type) where
  content : α
  encoding : Encoding α

/-- The encoder that writes payloads directly. -/
def Payload.encode (style : Json.Style) (p : Payload) : Except Error String :=
  (p.text style).mapError .encode

namespace Parameter

variable {α : Type}

/-- A JSON value, encoded by default. -/
def ofJson (x : Json) : Parameter Json := ⟨x, .byDefault .ok⟩

/-- A payload, encoded by default. -/
def ofPayload (p : Payload) : Parameter Payload := ⟨p, .byDefault Payload.toJson⟩

/-- Data with an encoder of its own. -/
def withEncoder (content : α) (encode : α → Except Error String) : Parameter α :=
  ⟨content, .custom encode⟩

/-- The JSON text of a parameter. -/
def encode (p : Parameter α) (r : Registry) : Except Error String :=
  match p.encoding, r.encoder? with
  | .custom encode, _ => encode p.content
  | .byDefault _, none => .error (.configuration .noEncoder)
  | .byDefault toJson, some encoder => do
    let x ← (toJson p.content).mapError .encode
    encoder x

/-- What is logged when a parameter is encoded. -/
def events (p : Parameter α) (r : Registry) : List Event :=
  if !p.encoding.isCustom && r.encoder?.isSome then [.encodingByDefault] else []

/-- The JSON text of a parameter as a string constant of SQL. -/
def literal (p : Parameter α) (r : Registry) : Except Error String := do
  Sql.quote (← p.encode r)

/-- A parameter, shown for inspection. -/
def inspect (p : Parameter Json) : String :=
  String.ofList <| "Json \x7b adapted: ".toList ++ p.content.inspectChars ++
    ", custom_dumps: ".toList ++ Json.writeBool p.encoding.isCustom ++ [' ', '\x7d']

end Parameter

end PgJson
