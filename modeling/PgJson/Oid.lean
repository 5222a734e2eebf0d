import PgJson.Text.Numeral

/-!
# Oids of the JSON types

Every PostgreSQL type has an oid, a number of 32 bits. The types `json` and `jsonb` and the types
of arrays of them have the same oids on every server that has these types built in; on older
servers, and for other types that hold JSON text, they are looked up in the catalog.

## Main definitions

* `PgJson.Oid` — oids
* `PgJson.TypeOids` — the oid of a type, and of the type of its arrays
* `PgJson.Builtin` — a type with fixed oids; `Builtin.json` and `Builtin.jsonb`
* `PgJson.Oid.typeName`, `Oid.isBuiltinArray` — what a fixed oid stands for
-/

namespace PgJson

/-- Oids are numbers of 32 bits. -/
abbrev Oid := UInt32

/-- The largest oid. -/
def greatestOid : Nat := Text.greatestUnsigned 32

/-- The oid of a type and, if that type exists, of the type of its arrays. -/
structure TypeOids where
  oid : Oid
  arrayOid : Option Oid
deriving DecidableEq, Repr

/-- A JSON type with fixed oids. -/
structure Builtin where
  typeName : String
  casterName : String
  oid : Oid
  arrayOid : Oid

/-- The type `json`, with fixed oids since PostgreSQL 9.2. -/
def Builtin.json : Builtin := ⟨"json", "JSON", 114, 199⟩

/-- The type `jsonb`, with fixed oids since PostgreSQL 9.4. -/
def Builtin.jsonb : Builtin := ⟨"jsonb", "JSONB", 3802, 3807⟩

/-- The types with fixed oids. -/
def Builtin.all : List Builtin := [.json, .jsonb]

/-- Both oids of a type. -/
def Builtin.oids (b : Builtin) : TypeOids := ⟨b.oid, some b.arrayOid⟩

/-- The name of the type with the given fixed oid. -/
def Oid.typeName (oid : Oid) : String :=
  match Builtin.all.find? fun b => oid == b.oid || oid == b.arrayOid with
  | some b => if oid == b.oid then b.typeName else b.typeName ++ "[]"
  | none => "unknown"

/-- Whether the oid is the fixed oid of a type of arrays. -/
def Oid.isBuiltinArray (oid : Oid) : Bool := Builtin.all.any fun b => oid == b.arrayOid

end PgJson
