import PgJson.Caster.Basic

/-!
# Log events

What happens around casters and parameters is told as a list of events. Each event has a level
and one wording.

## Main definitions

* `PgJson.Event` — what is logged
* `PgJson.Event.level`, `Event.message` — how it is logged
-/

namespace PgJson

/-- Where a caster is installed: for every connection, or for one. -/
inductive Scope where
  | global
  | connection
deriving DecidableEq, Repr

/-- How important an event is. -/
inductive Level where
  | debug
  | trace
deriving DecidableEq, Repr

/-- The name of a level. -/
def Level.name : Level → String
  | .debug => "DEBUG"
  | .trace => "TRACE"

/-- What is logged. -/
inductive Event where
  | registered (name : String) (oids : List Oid) (scope : Scope)
  | lookingUp (typeName : String)
  | rollingBack
  | found (typeName : String) (oids : TypeOids)
  /-- A parameter is encoded by the default encoder. -/
  | encodingByDefault
deriving DecidableEq, Repr

/-- The level of an event. -/
def Event.level : Event → Level
  | .encodingByDefault => .trace
  | _ => .debug

/-- The wording of an oid that may be missing. -/
def showArrayOid : Option Oid → String
  | some oid => "Some(" ++ toString oid.toNat ++ ")"
  | none => "None"

/-- The wording of an event. -/
def Event.message : Event → String
  | .registered name oids scope =>
    "Registered typecaster " ++ name ++ " for oids " ++ String.ofList (Caster.showOids oids) ++
      match scope with
      | .connection => " on connection"
      | .global => " globally"
  | .lookingUp typeName => "Looking up oids for type '" ++ typeName ++ "'"
  | .rollingBack => "Rolling back catalog lookup"
  | .found typeName oids =>
    "Found type '" ++ typeName ++ "': oid " ++ toString oids.oid.toNat ++ ", array oid " ++
      showArrayOid oids.arrayOid
  | .encodingByDefault => "Serializing with the registry default encoder"

/-- The event of installing a caster. -/
def Caster.registration (c : Caster) (scope : Scope) : Event := .registered c.name c.oids scope

end PgJson
