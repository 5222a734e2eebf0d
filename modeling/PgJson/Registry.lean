import PgJson.Caster.Table
import PgJson.Json.Layout

/-!
# Registries

A registry holds what is shared by all connections: the global table of casters, and the default
encoder and decoder, each of which may be missing. A connection has a table of its own, which is
consulted first.

## Scope

An encoder is a function of the value that it is called with, just as a decoder is one of its text
(see `PgJson.Caster.Basic`). What an encoder or a decoder of an application might remember between
two calls is not part of the registry, and is outside of the model.

## Main definitions

* `PgJson.Encoder` — how a JSON value becomes text
* `PgJson.Registry` — global casters and defaults
* `PgJson.Registry.find?` — the caster for a column
* `PgJson.Registry.typecast` — cast a column by its oid
-/

namespace PgJson

/-- How a JSON value becomes text. The text or the error is a function of the value alone; an
encoder with a state of its own is not modelled. -/
abbrev Encoder := Json → Except Error String

/-- The encoder that writes the value in a style. -/
def Encoder.json (style : Json.Style) : Encoder := fun x => .ok (x.text style)

/-- Global casters and defaults. -/
structure Registry where
  casters : Caster.Table := .empty
  encoder? : Option Encoder := some (.json .compact)
  decoder? : Option Decoder := some .json

namespace Registry

/-- No casters, and JSON as the default for encoding and decoding. -/
def new : Registry := {}

/-- No casters and no defaults. -/
def withoutDefaults : Registry := { encoder? := none, decoder? := none }

/-- Replace the default encoder, or disable it. -/
def setEncoder (r : Registry) (encoder? : Option Encoder) : Registry :=
  { r with encoder? := encoder? }

/-- Replace the default decoder, or disable it. -/
def setDecoder (r : Registry) (decoder? : Option Decoder) : Registry :=
  { r with decoder? := decoder? }

/-- Let the default encoder write JSON in a style. -/
def setStyle (r : Registry) (style : Json.Style) : Registry := r.setEncoder (some (.json style))

/-- Disable both defaults. -/
def clearDefaults (r : Registry) : Registry := (r.setEncoder none).setDecoder none

/-- Install a caster for all connections. -/
def install (r : Registry) (c : Caster) : Registry := { r with casters := r.casters.insert c }

/-- Remove what is found globally under an oid. -/
def unregister (r : Registry) (oid : Oid) : Registry := { r with casters := r.casters.erase oid }

/-- The caster for an oid: the connection's own if it has one, else the global one. -/
def find? (r : Registry) (own? : Option Caster.Table) (oid : Oid) : Option Caster :=
  (own?.bind (·.get? oid)).or (r.casters.get? oid)

/-- Cast a column by its oid. Without a caster the text is a JSON string and NULL is null. -/
def typecast (r : Registry) (own? : Option Caster.Table) (oid : Oid) (raw : Option String) :
    Except Error Json :=
  match r.find? own? oid with
  | some c => c.cast raw
  | none => .ok ((raw.map Json.string).getD .null)

end Registry

end PgJson
