import PgJson.Parameter
import PgJson.Registration

/-!
# A registry and its connections

A hub is a registry together with the connections that use it, which are known by number. An
operation is anything that an application does with them; `Hub.step` performs one, and `Hub.run`
a list of them. An operation on a connection that does not exist is one without a connection.

## Main definitions

* `PgJson.Hub` — a registry and numbered connections
* `PgJson.Hub.Operation` — what an application does
* `PgJson.Hub.Answer` — what it gets
* `PgJson.Hub.step`, `Hub.run` — one operation, and a list of them
-/

namespace PgJson

/-- A registry and the connections that use it. -/
structure Hub where
  registry : Registry
  connections : List Connection

namespace Hub

/-- What an application does. A connection is given by its number, if at all. -/
inductive Operation where
  | register (connection? : Option Nat) (options : Registration.Options)
  | registerBuiltin (type : Builtin) (connection? : Option Nat) (globally : Bool)
      (decoder? : Option Decoder)
  | makeCasters (oids : TypeOids) (decoder? : Option Decoder) (name : String)
  | findOids (connection? : Option Nat) (typeName : String)
  | install (caster : Caster) (connection? : Option Nat)
  | unregister (oid : Oid)
  | removeOwn (connection : Nat) (oid : Oid)
  | findCaster (connection? : Option Nat) (oid : Oid)
  | typecast (connection? : Option Nat) (oid : Oid) (raw : Option String)
  | setStatus (connection : Nat) (status : TransactionStatus)
  | setDecoder (decoder? : Option Decoder)
  | setEncoder (encoder? : Option Encoder)
  | setStyle (style : Json.Style)
  | clearDefaults

/-- What an application gets. -/
inductive Answer where
  | done
  | casters (cs : TypeCasters)
  | oids (oids : TypeOids)
  | caster (c? : Option Caster)
  | removed (c? : Option Caster) (nowEmpty : Bool)
  | value (x : Json)

/-- What came of an operation. -/
structure Report where
  answer : Except Error Answer
  hub : Hub
  /-- What was asked of connections, with their numbers. -/
  calls : List (Nat × Call) := []
  events : List Event := []

/-- The connection with the given number. -/
def connection? (h : Hub) (n? : Option Nat) : Option Connection := n?.bind (h.connections[·]?)

/-- The casters of the connection with the given number. -/
def ownCasters? (h : Hub) (n? : Option Nat) : Option Caster.Table :=
  (h.connection? n?).map (·.casters)

/-- Replace the connection with the given number. -/
def setConnection (h : Hub) (n? : Option Nat) (c? : Option Connection) : Hub :=
  match n?, c? with
  | some n, some c => { h with connections := h.connections.set n c }
  | _, _ => h

/-- The calls on the connection with the given number. -/
def numbered (n? : Option Nat) (calls : List Call) : List (Nat × Call) :=
  match n? with
  | some n => calls.map (n, ·)
  | none => []

/-- The report of an operation that only answers. -/
def answering (h : Hub) (answer : Except Error Answer) : Report := { answer := answer, hub := h }

/-- The report of an operation that changes the registry. -/
def changing (h : Hub) (r : Registry) : Report :=
  { answer := .ok .done, hub := { h with registry := r } }

/-- The report of a registration for the connection with the given number. -/
def reporting (h : Hub) (n? : Option Nat) (reg : Registration) : Report :=
  { answer := reg.result.map .casters
    hub := { h with registry := reg.registry }.setConnection n? reg.connection?
    calls := numbered n? reg.calls
    events := reg.events }

/-- Look oids up on the connection with the given number. -/
def findOids (h : Hub) (n? : Option Nat) (typeName : String) : Report :=
  match h.connection? n? with
  | none => h.answering (.error (.configuration (.connectionRequired typeName)))
  | some c =>
    let lookup := Catalog.findOn c typeName
    { answer := lookup.result.map .oids
      hub := h.setConnection n? (some lookup.exchange.connection)
      calls := numbered n? lookup.exchange.calls
      events := lookup.exchange.events }

/-- Install a caster for the connection with the given number, or for all. -/
def install (h : Hub) (caster : Caster) (n? : Option Nat) : Report :=
  match h.connection? n? with
  | some c =>
    { answer := .ok .done
      hub := h.setConnection n? (some (c.install caster))
      events := [caster.registration .connection] }
  | none =>
    { h.changing (h.registry.install caster) with events := [caster.registration .global] }

/-- Remove what the connection with the given number finds under an oid in its own table. -/
def removeOwn (h : Hub) (n : Nat) (oid : Oid) : Report :=
  match h.connections[n]? with
  | some c =>
    { answer := .ok (.removed (c.casters.get? oid) (c.remove oid).casters.isEmpty)
      hub := h.setConnection (some n) (some (c.remove oid)) }
  | none => h.answering (.ok (.removed none true))

/-- Perform an operation. -/
def step (h : Hub) : Operation → Report
  | .register n? options =>
    h.reporting n? (.ofOptions h.registry (h.connection? n?) options)
  | .registerBuiltin type n? globally decoder? =>
    h.reporting n? (.ofBuiltin h.registry (h.connection? n?) globally decoder? type)
  | .makeCasters oids decoder? name =>
    h.answering ((TypeCasters.make h.registry oids decoder? name).map .casters)
  | .findOids n? typeName => h.findOids n? typeName
  | .install caster n? => h.install caster n?
  | .unregister oid =>
    { h.changing (h.registry.unregister oid) with
      answer := .ok (.caster (h.registry.casters.get? oid)) }
  | .removeOwn n oid => h.removeOwn n oid
  | .findCaster n? oid => h.answering (.ok (.caster (h.registry.find? (h.ownCasters? n?) oid)))
  | .typecast n? oid raw =>
    h.answering ((h.registry.typecast (h.ownCasters? n?) oid raw).map .value)
  | .setStatus n status =>
    { answer := .ok .done
      hub := h.setConnection (some n)
        ((h.connection? (some n)).map fun c => { c with status := status }) }
  | .setDecoder decoder? => h.changing (h.registry.setDecoder decoder?)
  | .setEncoder encoder? => h.changing (h.registry.setEncoder encoder?)
  | .setStyle style => h.changing (h.registry.setStyle style)
  | .clearDefaults => h.changing h.registry.clearDefaults

/-- Perform operations one after the other: their reports, and the hub in the end. -/
def run (h : Hub) : List Operation → List Report × Hub
  | [] => ([], h)
  | op :: ops =>
    let report := h.step op
    let (reports, last) := report.hub.run ops
    (report :: reports, last)

end Hub

end PgJson
