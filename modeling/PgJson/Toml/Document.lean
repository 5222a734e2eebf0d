import PgJson.Toml.Scalar
import PgJson.Toml.Table

/-!
# Reading TOML documents

A document is a list of lines, each with an assignment, a header, or nothing but a comment. Only
strings in tripled quotes and arrays may span lines. Arrays and tables inside values may be nested
up to a limit, and so may the tables that one key goes through.

## Main definitions

* `PgJson.Toml.readPath` — a key with its dots
* `PgJson.Toml.readValue` — any value
* `PgJson.Toml.ofText` — a whole document
-/

namespace PgJson.Toml

/-! ## Keys -/

/-- Whether `c` may stand in a key without quotes. -/
def isBareKey (c : Char) : Bool := c.isAlphanum || c == '_' || c == '-'

/-- Read one part of a key. -/
def readKey : Reader String
  | '"' :: s => readBasic s
  | '\'' :: s => readLiteral s
  | s =>
    let key := s.takeWhile isBareKey
    if key.isEmpty then none else some (String.ofList key, s.drop key.length)

/-- Read the parts of a key between dots, with blanks around them. -/
def readKeys : List Char → Reader (List String)
  | [], _ => none
  | _ :: steps, s => do
    let (key, r) ← readKey (skipSpacing s)
    match skipSpacing r with
    | '.' :: r => do
      let (keys, r) ← readKeys steps r
      return (key :: keys, r)
    | r => return ([key], r)

/-- The number of parts from which on a key is refused. -/
def pathLimit : Nat := 80

/-- Read a key with its dots, and the blanks after it. -/
def readPath : Reader Path := fun s => do
  let (keys, r) ← readKeys s s
  if pathLimit ≤ keys.length then none
  else return (⟨keys.dropLast, ← keys.getLast?⟩, r)

/-! ## Values -/

/-- Read a key, an equals sign and a value. -/
def readAssignment (value : Reader Value) : Reader Assignment := fun s => do
  let (path, r) ← readPath s
  let r ← readChar '=' r
  let (v, r) ← value (skipSpacing r)
  return (⟨path, v⟩, r)

/-- Read the rest of an array, where an item or the end may come. -/
def readItems (value : Reader Value) : List Char → Reader (List Value)
  | [], _ => none
  | _ :: steps, s => do
    match ← skipFiller false s with
    | ']' :: r => return ([], r)
    | r => do
      let (v, r) ← value r
      match ← skipFiller false r with
      | ']' :: r => return ([v], r)
      | ',' :: r => do
        let (vs, r) ← readItems value steps r
        return (v :: vs, r)
      | _ => none

/-- Read the rest of an inline table, where an assignment must come. -/
def readAssignments (value : Reader Value) : List Char → Reader (List Assignment)
  | [], _ => none
  | _ :: steps, s => do
    let (a, r) ← readAssignment value s
    match skipSpacing r with
    | '\x7d' :: r => return ([a], r)
    | ',' :: r => do
      let (as, r) ← readAssignments value steps r
      return (a :: as, r)
    | _ => none

/-- Read an array, after its bracket. -/
def readArray (value : Reader Value) : Reader Value := fun s => do
  let (items, r) ← readItems value s s
  return (.array items, r)

/-- Read an inline table, after its brace. -/
def readInlineTable (value : Reader Value) : Reader Value := fun s =>
  match skipSpacing s with
  | '\x7d' :: r => some (.table [], r)
  | r => do
    let (as, rest) ← readAssignments value r r
    let table ← (Node.empty .header).assignAll as
    return (table.toValue, rest)

/-- Read a value with at most `depth` arrays and inline tables open at once. -/
def readValue : Nat → Reader Value
  | 0, s => readScalar s
  | depth + 1, s => match s with
    | '[' :: r => readArray (readValue depth) r
    | '\x7b' :: r => readInlineTable (readValue depth) r
    | s => readScalar s

/-- How many arrays and inline tables may be open at once. -/
def depthLimit : Nat := 79

/-! ## Lines -/

/-- What a line says. -/
inductive Line where
  | blank
  | assignment (a : Assignment)
  | header (path : Path) (listed : Bool)

/-- Read a header, after its opening brackets; `listed` tells whether there are two of them. -/
def readHeader (listed : Bool) : Reader Line := fun s => do
  let (path, r) ← readPath s
  let r ← readChar ']' r
  let r ← if listed then readChar ']' r else pure r
  return (.header path listed, r)

/-- Read a line, but not its end. -/
def readLine (s : List Char) : Option (Line × List Char) :=
  match skipSpacing s with
  | [] => some (.blank, [])
  | '#' :: r => some (.blank, '#' :: r)
  | '\n' :: r => some (.blank, '\n' :: r)
  | '\r' :: r => some (.blank, '\r' :: r)
  | '[' :: '[' :: r => readHeader true r
  | '[' :: r => readHeader false r
  | r => do
    let (a, r) ← readAssignment (readValue depthLimit) r
    return (.assignment a, r)

/-- Read all lines. -/
def readLines : List Char → List Char → Option (List Line)
  | _, [] => some []
  | [], _ => none
  | _ :: steps, s => do
    let (line, r) ← readLine s
    return line :: (← readLines steps (← readLineEnd r))

/-- The assignments before the first header, and the sections. -/
def divide : List Line → List Assignment × List Section
  | [] => ([], [])
  | .blank :: r => divide r
  | .assignment a :: r => let (as, ss) := divide r; (a :: as, ss)
  | .header path listed :: r => let (as, ss) := divide r; ([], ⟨path, listed, as⟩ :: ss)

/-- The table that lines describe. -/
def ofLines (lines : List Line) : Option Value := do
  let (as, ss) := divide lines
  let root ← (Node.empty .header).assignAll as
  return (← ss.foldlM Node.addSection root).toValue

/-- `s` without a byte order mark in front. -/
def dropMark (s : List Char) : List Char :=
  match s with
  | '\uFEFF' :: r => r
  | _ => s

/-- Read a whole document. -/
def ofText (text : String) : Option Value := do
  let s := dropMark text.toList
  ofLines (← readLines s s)

end PgJson.Toml
