/-!
# Array literals

A PostgreSQL array is received as text: elements between braces, separated by commas, with arrays
again among the elements, and the bounds of the dimensions in front when they are not the usual
ones.

```
[1:2]={"x y",NULL,{1,2}}
```

## Main definitions

* `PgJson.ArrayLiteral.Element` — what an array literal lists
* `PgJson.ArrayLiteral.Cause` — why a text is no array literal
* `PgJson.ArrayLiteral.dimensionLimit` — how deep literals may be nested
-/

namespace PgJson.ArrayLiteral

/-- An element of an array literal. -/
inductive Element where
  | null
  | text (s : String)
  | nested (items : List Element)
deriving Inhabited, Repr

/-- How deep literals may be nested: the number of dimensions that PostgreSQL admits. -/
def dimensionLimit : Nat := 6

/-- Why a text is no array literal. -/
inductive Cause where
  /-- A brace is missing, or the quote that closes an element. -/
  | characterExpected
  /-- Something follows the literal. -/
  | endExpected
  /-- A brace opens more dimensions than there may be. -/
  | tooDeep
  | other (text : String)
deriving DecidableEq, Repr

/-- The wording of a cause. -/
def Cause.message : Cause → String
  | .characterExpected => "unexpected input (Char)"
  | .endExpected => "unexpected input (End of file)"
  | .tooDeep => "too many dimensions"
  | .other text => text

end PgJson.ArrayLiteral
