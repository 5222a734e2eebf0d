import PgJson.Caster.Table

/-!
# Connections

What a lookup needs to know about a connection to a server: its transaction status, whether it
commits every statement by itself, the version of the server, and what the server answers. The
answers are a script, one reply for each statement, so that a connection is a value and every
behaviour of a server is some script.

A connection that does not commit by itself opens a transaction with its first statement; a
rollback ends it. Nothing else changes the status.

## Main definitions

* `PgJson.TransactionStatus` — idle, inside a transaction, or inside a failed one
* `PgJson.Reply` — what comes of one statement
* `PgJson.Connection` — a connection with its script and its own casters
* `PgJson.Connection.execute`, `fetch`, `rollback` — what can be asked of it
-/

namespace PgJson

/-- The status of the transaction on a connection. -/
inductive TransactionStatus where
  | idle
  | inBlock
  | failed
deriving DecidableEq, Repr, Inhabited

/-- The columns of a row, as text; NULL is `none`. -/
abbrev Row := List (Option String)

/-- What comes of one statement. -/
inductive Reply where
  | refused (message : String)
  /-- Rows to be fetched, and failures for fetching from them and for rolling back. -/
  | answered (rows : List Row) (fetchFault? rollbackFault? : Option String)
deriving DecidableEq, Repr

/-- The reply of a server that has nothing more to say. -/
def Reply.silent : Reply := .answered [] none none

/-- A connection to a server. -/
structure Connection where
  status : TransactionStatus := .idle
  autocommit : Bool := false
  /-- The version of the server, as a number such as `160002`. -/
  version : Nat := 160002
  /-- The replies to the statements to come. -/
  script : List Reply := []
  /-- The rows of the last statement that have not been fetched. -/
  rows : List Row := []
  fetchFault? : Option String := none
  rollbackFault? : Option String := none
  /-- The casters of this connection alone. -/
  casters : Caster.Table := .empty
deriving Inhabited

namespace Connection

/-- A failure of the connection. -/
def failure (message : String) : Error := .driver (.other message)

/-- Run the next statement. A refused statement changes nothing but the script. -/
def execute (c : Connection) : Except Error Unit × Connection :=
  let c' := { c with script := c.script.tail }
  match c.script.headD .silent with
  | .refused message => (.error (failure message), c')
  | .answered rows fetchFault? rollbackFault? =>
    (.ok (), { c' with
      status := if !c.autocommit && c.status = .idle then .inBlock else c.status
      rows := rows
      fetchFault? := fetchFault?
      rollbackFault? := rollbackFault? })

/-- Take the next row, if there is one. A pending failure is reported once. -/
def fetch (c : Connection) : Except Error (Option Row) × Connection :=
  match c.fetchFault? with
  | some message => (.error (failure message), { c with fetchFault? := none })
  | none => (.ok c.rows.head?, { c with rows := c.rows.tail })

/-- End the transaction. A pending failure is reported once, and then nothing has ended. -/
def rollback (c : Connection) : Except Error Unit × Connection :=
  match c.rollbackFault? with
  | some message => (.error (failure message), { c with rollbackFault? := none })
  | none => (.ok (), { c with status := .idle })

/-- Install a caster for this connection alone. -/
def install (c : Connection) (caster : Caster) : Connection :=
  { c with casters := c.casters.insert caster }

/-- Remove what this connection alone finds under an oid. -/
def remove (c : Connection) (oid : Oid) : Connection := { c with casters := c.casters.erase oid }

end Connection

end PgJson
