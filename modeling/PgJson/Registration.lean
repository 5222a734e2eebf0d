import PgJson.Catalog
import PgJson.Registry
import PgJson.Text.Uppercase

/-!
# Registering the casters of a type

Registering a JSON type makes a caster for its columns and, if the oid of its array type is known,
one for columns of arrays of it, and installs both in one table: that of the connection, if there
is one and registration is not meant to be global, and the global table otherwise. Nothing is
installed when anything fails.

The oids are given, fixed because the type is built in, or looked up in the catalog. Only the last
way asks the connection anything.

## Main definitions

* `PgJson.TypeCasters` — the casters of a type
* `PgJson.TypeCasters.make` — make them with a given or the default decoder
* `PgJson.Registration` — what came of a registration
* `PgJson.Registration.ofOptions` — register with given or looked-up oids
* `PgJson.Registration.ofBuiltin` — register a built-in type
-/

namespace PgJson

/-- The casters of a type, which share a decoder. The array caster applies the scalar one. -/
structure TypeCasters where
  name : String
  oids : TypeOids
  decoder : Decoder

namespace TypeCasters

/-- The caster for columns of the type. -/
def scalar (cs : TypeCasters) : Caster := .scalar [cs.oids.oid] cs.name cs.decoder

/-- The caster for columns of arrays of the type, if their oid is known. -/
def array? (cs : TypeCasters) : Option Caster :=
  cs.oids.arrayOid.map fun oid => .array [oid] (cs.name ++ "ARRAY") cs.scalar

/-- The casters in the order in which they are installed. -/
def all (cs : TypeCasters) : List Caster := cs.scalar :: cs.array?.toList

/-- Make the casters of a type, with the default decoder if none is given. -/
def make (r : Registry) (oids : TypeOids) (decoder? : Option Decoder) (name : String) :
    Except Error TypeCasters :=
  match decoder?.or r.decoder? with
  | some decoder => .ok ⟨name, oids, decoder⟩
  | none => .error (.configuration .noDecoder)

end TypeCasters

namespace Registration

/-- What is to be registered. -/
structure Options where
  /-- Install for all connections, even if one is given. -/
  globally : Bool := false
  /-- The decoder; without it the default one is taken. -/
  decoder? : Option Decoder := none
  /-- The oid of the type; without it both oids are looked up. -/
  oid? : Option Oid := none
  /-- The oid of the array type, which counts only beside the oid of the type. -/
  arrayOid? : Option Oid := none
  /-- The name of the type in the catalog. -/
  typeName : String := "json"

/-- Where casters are installed. -/
def scope (connection? : Option Connection) (globally : Bool) : Scope :=
  if connection?.isSome && !globally then .connection else .global

end Registration

/-- What came of a registration: its result, the tables as it left them, what was asked of the
connection and what was logged. -/
structure Registration where
  result : Except Error TypeCasters
  registry : Registry
  connection? : Option Connection
  calls : List Call := []
  events : List Event := []

namespace Registration

/-- A registration that failed, and so installed nothing. -/
def failed (r : Registry) (connection? : Option Connection) (e : Error) : Registration :=
  { result := .error e, registry := r, connection? := connection? }

/-- Install the casters of a type, all of them in the same table. -/
def install (r : Registry) (connection? : Option Connection) (globally : Bool)
    (cs : TypeCasters) : Registration :=
  let events := cs.all.map (·.registration (scope connection? globally))
  match connection?, globally with
  | some c, false =>
    { result := .ok cs, registry := r, connection? := some (cs.all.foldl Connection.install c)
      events := events }
  | _, _ =>
    { result := .ok cs, registry := cs.all.foldl Registry.install r, connection? := connection?
      events := events }

/-- Make the casters of a type and install them. -/
def ofOids (r : Registry) (connection? : Option Connection) (globally : Bool)
    (decoder? : Option Decoder) (name : String) (oids : TypeOids) : Registration :=
  match TypeCasters.make r oids decoder? name with
  | .ok cs => install r connection? globally cs
  | .error e => failed r connection? e

/-- Register a built-in type. -/
def ofBuiltin (r : Registry) (connection? : Option Connection) (globally : Bool)
    (decoder? : Option Decoder) (b : Builtin) : Registration :=
  ofOids r connection? globally decoder? b.casterName b.oids

/-- Put what has happened before in front of a registration. -/
def after (x : Exchange) (reg : Registration) : Registration :=
  { reg with calls := x.calls ++ reg.calls, events := x.events ++ reg.events }

/-- Register a type, looking its oids up on the connection if they are not given. The casters
are named for the type, in upper case. -/
def ofOptions (r : Registry) (connection? : Option Connection) (o : Options) : Registration :=
  let name := Text.upper o.typeName
  match o.oid?, connection? with
  | some oid, _ => ofOids r connection? o.globally o.decoder? name ⟨oid, o.arrayOid?⟩
  | none, none => failed r none (.configuration (.connectionRequired o.typeName))
  | none, some c =>
    let lookup := Catalog.findOn c o.typeName
    let found := some lookup.exchange.connection
    after lookup.exchange <| match lookup.result with
      | .ok oids => ofOids r found o.globally o.decoder? name oids
      | .error e => failed r found e

end Registration

end PgJson
