import PgJson.Error

/-!
# Quoting text for SQL

A string constant doubles the quotes in it. A text with backslashes is written as an escape
constant with doubled backslashes, which the server reads the same way whether or not
`standard_conforming_strings` is on. No constant can hold a NUL character.

## Main definitions

* `PgJson.Sql.quote` — a text as a string constant
-/

namespace PgJson.Sql

/-- A character as it stands in a constant: quotes and backslashes are doubled. -/
def quoteChar (c : Char) : List Char := if c = '\'' || c = '\\' then [c, c] else [c]

/-- A text between quotes, with an `E` in front when there are backslashes to protect. -/
def quoteChars (s : List Char) : List Char :=
  let body := '\'' :: s.flatMap quoteChar ++ ['\'']
  if s.contains '\\' then 'E' :: body else body

/-- A text as a string constant of SQL. -/
def quote (text : String) : Except Error String :=
  if text.toList.contains '\x00' then .error .nullByte
  else .ok (String.ofList (quoteChars text.toList))

end PgJson.Sql
