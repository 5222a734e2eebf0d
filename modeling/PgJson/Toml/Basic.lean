/-!
# TOML values

Settings are written in TOML. A document is a table of values; this module has the values, and
the small readers that all parts of the format share. A text that is no TOML is refused without a
reason, so readers return an option. Readers that loop use up a list of steps, for which the text
itself serves, since every round reads at least one character.

## Main definitions

* `PgJson.Toml.Value` — the values of the format
* `PgJson.Toml.Reader` — functions that read from the front of a text
* `PgJson.Toml.readNewline`, `readLineEnd`, `skipFiller` — line ends and comments
-/

namespace PgJson.Toml

/-- The values of the format. Dates and times are kept as they are written. -/
inductive Value where
  | string (s : String)
  | integer (n : Int)
  | float (x : Float)
  | boolean (b : Bool)
  | datetime (s : String)
  | array (items : List Value)
  | table (entries : List (String × Value))
deriving Inhabited

/-- Functions that read from the front of a text and return what is left. -/
abbrev Reader (α : Type) := List Char → Option (α × List Char)

/-- The blanks inside a line. -/
def isSpacing (c : Char) : Bool := c == ' ' || c == '\t'

/-- `s` without its leading blanks. -/
def skipSpacing (s : List Char) : List Char := s.dropWhile isSpacing

/-- Whether `c` may stand in a comment: everything but controls, of which the tab is allowed. -/
def isCommentChar (c : Char) : Bool := c == '\t' || (0x20 ≤ c.toNat && c.toNat != 0x7F)

/-- Read a line feed, or a carriage return with a line feed. -/
def readNewline : List Char → Option (List Char)
  | '\n' :: s => some s
  | '\r' :: '\n' :: s => some s
  | _ => none

/-- Read what may follow at the end of a line: blanks, a comment, and a new line or the end of
the text. -/
def readLineEnd (s : List Char) : Option (List Char) :=
  let rest := match skipSpacing s with
    | '#' :: r => r.dropWhile isCommentChar
    | r => r
  match rest with
  | [] => some []
  | rest => readNewline rest

/-- `s` without its leading blanks, new lines and comments; `inComment` tells whether a comment
has begun. Every comment must be ended by a new line. -/
def skipFiller : Bool → List Char → Option (List Char)
  | false, [] => some []
  | true, [] => none
  | _, '\n' :: s => skipFiller false s
  | _, '\r' :: '\n' :: s => skipFiller false s
  | true, c :: s => if isCommentChar c then skipFiller true s else none
  | false, c :: s =>
    if isSpacing c then skipFiller false s
    else if c = '#' then skipFiller true s
    else if c = '\r' then none
    else some (c :: s)

end PgJson.Toml
