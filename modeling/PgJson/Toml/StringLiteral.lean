import PgJson.Text.Numeral
import PgJson.Toml.Basic

/-!
# String literals of TOML

There are four kinds. Basic strings stand in double quotes and have escapes; literal strings stand
in single quotes and have none. Either kind may span lines when its quotes are tripled; then a new
line right after the opening quotes is dropped, and up to two quotes may stand right before the
closing ones. In a basic string that spans lines, a backslash at the end of a line joins the lines
and drops the blanks between them.

## Main definitions

* `PgJson.Toml.readBasic`, `readLiteral` — strings on one line, after the opening quote
* `PgJson.Toml.readString` — any string
-/

namespace PgJson.Toml

/-- Whether `c` may stand in a literal string, apart from its quote: everything but controls, of
which the tab is allowed. -/
def isPlain (c : Char) : Bool := isCommentChar c

/-- Read a character of `n` hexadecimal digits. -/
def readCode : Nat → Nat → Reader Char
  | 0, code, s => if code.isValidChar then some (Char.ofNat code, s) else none
  | n + 1, code, c :: s => do readCode n (code * 16 + (← Text.hexValue c)) s
  | _ + 1, _, [] => none

/-- Read an escaped character, after its backslash. -/
def readEscape : Reader Char
  | 'b' :: s => some ('\x08', s)
  | 't' :: s => some ('\t', s)
  | 'n' :: s => some ('\n', s)
  | 'f' :: s => some ('\x0C', s)
  | 'r' :: s => some ('\r', s)
  | '"' :: s => some ('"', s)
  | '\\' :: s => some ('\\', s)
  | 'u' :: s => readCode 4 0 s
  | 'U' :: s => readCode 8 0 s
  | _ => none

/-- Put a character in front of what a reader has read. -/
def prepend (c : Char) : Option (List Char × List Char) → Option (List Char × List Char)
  | some (cs, s) => some (c :: cs, s)
  | none => none

/-- Read the rest of a basic string on one line. -/
def readBasicChars : List Char → Reader (List Char)
  | [], _ => none
  | _, [] => none
  | _ :: steps, c :: s =>
    if c = '"' then some ([], s)
    else if c = '\\' then do
      let (u, r) ← readEscape s
      prepend u (readBasicChars steps r)
    else if isPlain c then prepend c (readBasicChars steps s)
    else none

/-- Read a basic string on one line, after its quote. -/
def readBasic : Reader String := fun s => do
  let (cs, r) ← readBasicChars s s
  return (String.ofList cs, r)

/-- Read a literal string on one line, after its quote. -/
def readLiteral : Reader String := fun s =>
  let body := s.takeWhile fun c => isPlain c && c != '\''
  match s.drop body.length with
  | '\'' :: r => some (String.ofList body, r)
  | _ => none

/-- `s` without its leading blanks and new lines. -/
def skipLines : List Char → List Char
  | '\n' :: s => skipLines s
  | '\r' :: '\n' :: s => skipLines s
  | c :: s => if isSpacing c then skipLines s else c :: s
  | [] => []

/-- `s` without a new line in front. -/
def dropNewline (s : List Char) : List Char := (readNewline s).getD s

/-- Read the end of a string in tripled quotes, with up to two quotes before it. -/
def readTripled (quote : Char) (s : List Char) : Option (List Char × List Char) :=
  let quotes := (s.takeWhile (· == quote)).length
  if quotes < 3 then none
  else some (List.replicate (min quotes 5 - 3) quote, s.drop (min quotes 5))

/-- Read the rest of a string in tripled quotes. Only basic strings have escapes. -/
def readSpanning (quote : Char) (escapes : Bool) : List Char → Reader (List Char)
  | [], _ => none
  | _, [] => none
  | _ :: steps, c :: s =>
    match readTripled quote (c :: s), readNewline (c :: s) with
    | some ended, _ => some ended
    | none, some r => prepend '\n' (readSpanning quote escapes steps r)
    | none, none =>
      if c = '\\' && escapes then
        match readNewline (skipSpacing s) with
        | some r => readSpanning quote escapes steps (skipLines r)
        | none => do
          let (u, r) ← readEscape s
          prepend u (readSpanning quote escapes steps r)
      else if isPlain c then prepend c (readSpanning quote escapes steps s)
      else none

/-- Read a string in tripled quotes, after them. -/
def readTripleQuoted (quote : Char) (escapes : Bool) : Reader String := fun s => do
  let (cs, r) ← readSpanning quote escapes s (dropNewline s)
  return (String.ofList cs, r)

/-- Read a string of any kind. -/
def readString : Reader String
  | '"' :: '"' :: '"' :: s => readTripleQuoted '"' true s
  | '"' :: s => readBasic s
  | '\'' :: '\'' :: '\'' :: s => readTripleQuoted '\'' false s
  | '\'' :: s => readLiteral s
  | _ => none

end PgJson.Toml
