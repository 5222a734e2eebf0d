import PgJson.Connection
import PgJson.Event
import PgJson.Sql.Quote

/-!
# Looking up oids in the catalog

The oids of a type that is not built in are found by its name in the catalog table `pg_type`. The
lookup is a dialogue with a connection: run a query, fetch a row and, unless the lookup happened
inside a transaction of the caller, roll back the transaction that the query has opened. The row
is judged after that, so the connection is left as it was found also when the type is missing.

## Main definitions

* `PgJson.Call` — what is asked of a connection
* `PgJson.Dialogue` — steps that ask a connection, log, and may fail
* `PgJson.Catalog.query` — the query for a type name
* `PgJson.Catalog.readOid` — an oid column of the answer
* `PgJson.Catalog.find` — the lookup
* `PgJson.Catalog.findOn` — the lookup on a given connection, with all that came of it
-/

namespace PgJson

/-- What is asked of a connection. -/
inductive Call where
  | execute (sql : String)
  | fetch
  | rollback
deriving DecidableEq, Repr

/-- A connection, and what has been asked of it and logged so far. -/
structure Exchange where
  connection : Connection
  calls : List Call := []
  events : List Event := []

/-- Steps that ask a connection, log, and may fail; a failure keeps what has happened. -/
abbrev Dialogue (α : Type) := EStateM Error Exchange α

namespace Dialogue

/-- The connection as it is now. -/
def connection : Dialogue Connection := fun x => .ok x.connection x

/-- Log an event. -/
def log (event : Event) : Dialogue Unit := fun x =>
  .ok () { x with events := x.events ++ [event] }

/-- Ask the connection for something. -/
def ask {α : Type} (call : Call) (answer : Connection → Except Error α × Connection) :
    Dialogue α := fun x =>
  let (result, connection) := answer x.connection
  let x := { x with connection := connection, calls := x.calls ++ [call] }
  match result with
  | .ok a => .ok a x
  | .error e => .error e x

/-- Settle a question that needs no connection. -/
def settle {α : Type} (result : Except Error α) : Dialogue α := fun x =>
  match result with
  | .ok a => .ok a x
  | .error e => .error e x

end Dialogue

namespace Catalog

/-- The first server version whose catalog knows the array type of a type. -/
def arrayTypeVersion : Nat := 80300

/-- The column with the oid of the array type. -/
def arrayColumn (version : Nat) : String :=
  if arrayTypeVersion ≤ version then "t.typarray::text" else "NULL::text"

/-- The query for the oids of a type, given its name as a string constant. -/
def queryText (version : Nat) (literal : String) : String :=
  "SELECT t.oid::text, " ++ arrayColumn version ++ " FROM pg_type t WHERE t.typname = " ++
    literal ++ ";"

/-- The query for the oids of a type. -/
def query (version : Nat) (typeName : String) : Except Error String :=
  (Sql.quote typeName).map (queryText version)

/-- An oid column of the answer; a missing column is as good as NULL. -/
def readOid : Option (Option String) → Except Error (Option Oid)
  | some (some text) =>
    match Text.readNat greatestOid (Text.trim text.toList) with
    | .ok n => .ok (some (UInt32.ofNat n))
    | .error fault => .error (.driver (.invalidOid text fault))
  | _ => .ok none

/-- The answer to the query. Zero is no oid of an array type. -/
def readAnswer (typeName : String) : Option Row → Except Error TypeOids
  | none => .error (.notFound (.dataType typeName))
  | some row => do
    match ← readOid row[0]? with
    | none => .error (.driver (.missingOid typeName))
    | some oid => return ⟨oid, (← readOid row[1]?).filter (· != 0)⟩

/-- Look up the oids of a type. -/
def find (typeName : String) : Dialogue TypeOids := do
  let before ← Dialogue.connection
  let sql ← Dialogue.settle (query before.version typeName)
  Dialogue.log (.lookingUp typeName)
  Dialogue.ask (.execute sql) Connection.execute
  let row? ← Dialogue.ask .fetch Connection.fetch
  if before.status ≠ .inBlock && !before.autocommit then
    Dialogue.log .rollingBack
    Dialogue.ask .rollback Connection.rollback
  let oids ← Dialogue.settle (readAnswer typeName row?)
  Dialogue.log (.found typeName oids)
  return oids

/-- What came of a lookup. -/
structure Lookup where
  result : Except Error TypeOids
  exchange : Exchange

/-- Look up the oids of a type on a connection. -/
def findOn (c : Connection) (typeName : String) : Lookup :=
  match (find typeName).run { connection := c } with
  | .ok oids x => ⟨.ok oids, x⟩
  | .error e x => ⟨.error e, x⟩

end Catalog

end PgJson
