import PgJson.Text.Numeral

/-!
# JSON values

A JSON value keeps whole numbers exact, as far as 64 bits reach, and all other numbers as floats.
The members of an object are listed in the order in which their names first appeared; a name that
appears again replaces the value in its first place, so names are distinct in every object that
`insert` has built.

## Main definitions

* `PgJson.Json` — JSON values
* `PgJson.Json.Number` — whole numbers and floats
* `PgJson.Json.Members` — the members of an object, in order
* `PgJson.Json.Members.insert` — set one member
-/

namespace PgJson

namespace Json

/-- A number of a JSON value. -/
inductive Number where
  | whole (n : Int)
  | float (x : Float)
deriving Inhabited

/-- The whole numbers that a value can hold: those of 64 bits, signed or unsigned. -/
def isWhole (n : Int) : Bool :=
  -(Text.greatestSigned 64 : Int) - 1 ≤ n && n ≤ Text.greatestUnsigned 64

end Json

/-- JSON values. -/
inductive Json where
  | null
  | bool (b : Bool)
  | number (n : Json.Number)
  | string (s : String)
  | array (items : List Json)
  | object (members : List (String × Json))
deriving Inhabited

namespace Json

/-- The members of an object. -/
abbrev Members := List (String × Json)

/-- Set the member `name`: a new name goes to the end, a known one keeps its place. -/
def Members.insert (name : String) (value : Json) : Members → Members
  | [] => [(name, value)]
  | (n, v) :: r => if n = name then (n, value) :: r else (n, v) :: Members.insert name value r

/-- Set the listed members one after the other. -/
def Members.ofList (entries : List (String × Json)) : Members :=
  entries.foldl (fun m e => Members.insert e.1 e.2 m) []

end Json

end PgJson
