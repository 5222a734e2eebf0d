import PgJson.Toml.Basic

/-!
# Building tables

A document says what is in its tables piece by piece: a header opens a table by its path, and an
assignment sets one key, whose dots open tables on the way. Each piece may add, and none may
change what is there. What may be added to a table depends on how it came about: a table that a
header has opened, or that was only implied by the header of a table inside it, is closed to
dotted keys from elsewhere, and a table of dotted keys is closed to headers.

## Main definitions

* `PgJson.Toml.Node` — a table under construction
* `PgJson.Toml.Node.assign` — set one key
* `PgJson.Toml.Node.addSection` — a header with the assignments below it
* `PgJson.Toml.Node.toValue` — the value when all is done
-/

namespace PgJson.Toml

/-- A key with the tables on the way to it. -/
structure Path where
  parents : List String
  last : String
deriving DecidableEq, Repr

/-- Set a key to a value. -/
structure Assignment where
  path : Path
  value : Value

/-- A header and the assignments below it. A header in double brackets adds a table to a list. -/
structure Section where
  path : Path
  listed : Bool
  assignments : List Assignment

/-- How a table came about. -/
inductive Origin where
  | header
  | implied
  | dotted
deriving DecidableEq, Repr

/-- A table under construction, or something in it. -/
inductive Node where
  | value (v : Value)
  | table (origin : Origin) (entries : List (String × Node))
  /-- The tables of a list, each opened by a header in double brackets. -/
  | tables (elements : List Node)
deriving Inhabited

namespace Node

/-- Set a key, whether it is there or not. -/
def put (key : String) (node : Node) : List (String × Node) → List (String × Node)
  | [] => [(key, node)]
  | (k, n) :: r => if k = key then (key, node) :: r else (k, n) :: put key node r

/-- The empty table with an origin. -/
def empty (origin : Origin) : Node := .table origin []

/-- Change the table at the end of a path, opening tables on the way. A list of tables is entered
at its last element. A dotted key may not enter a table that a header has opened. -/
def change (dotted : Bool) (f : Node → Option Node) : List String → Node → Option Node
  | [], node => f node
  | key :: keys, .table origin entries =>
    match (entries.lookup key).getD (empty (if dotted then .dotted else .implied)) with
    | .value _ => none
    | .tables elements => do
      let changed ← change dotted f keys (← elements.getLast?)
      return .table origin (put key (.tables (elements.dropLast ++ [changed])) entries)
    | .table inner es => do
      if dotted && inner = .header then none
      let changed ← change dotted f keys (.table inner es)
      return .table origin (put key changed entries)
  | _ :: _, _ => none

/-- Set a key of a table that must not have it. Keys with dots set keys of tables that were opened
by dotted keys, and of no others. -/
def assign (table : Node) (a : Assignment) : Option Node :=
  change true (fun
    | .table origin entries =>
      if (origin = .dotted) = (a.path.parents = []) then none
      else match entries.lookup a.path.last with
        | some _ => none
        | none => some (.table origin (entries ++ [(a.path.last, .value a.value)]))
    | _ => none) a.path.parents table

/-- Set keys one after the other. -/
def assignAll (table : Node) (assignments : List Assignment) : Option Node :=
  assignments.foldlM assign table

/-- The table that a header opens, given what is there: nothing, or a table that was implied. -/
def opened : Option Node → Option Node
  | none => some (empty .header)
  | some (.table .implied entries) => some (.table .header entries)
  | some _ => none

/-- The tables to which a header in double brackets adds, given what is there. -/
def listed : Option Node → Option (List Node)
  | none => some []
  | some (.tables elements) => some elements
  | some _ => none

/-- Add a header and what is below it. -/
def addSection (root : Node) (s : Section) : Option Node :=
  change false (fun
    | .table origin entries => do
      let found := entries.lookup s.path.last
      let node ←
        if s.listed then do
          let table ← assignAll (empty .header) s.assignments
          pure (.tables ((← listed found) ++ [table]))
        else do assignAll (← opened found) s.assignments
      return .table origin (put s.path.last node entries)
    | _ => none) s.path.parents root

mutual

/-- The value of a table when all is done. -/
def toValue : Node → Value
  | .value v => v
  | .table _ entries => .table (entryValues entries)
  | .tables elements => .array (elementValues elements)

/-- The values of the entries of a table. -/
def entryValues : List (String × Node) → List (String × Value)
  | [] => []
  | (key, node) :: r => (key, toValue node) :: entryValues r

/-- The values of the tables of a list. -/
def elementValues : List Node → List Value
  | [] => []
  | node :: r => toValue node :: elementValues r

end

end Node

end PgJson.Toml
