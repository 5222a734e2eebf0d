import PgJson.Error
import PgJson.Text.Blank

/-!
# Reading array literals

An element is a nested array, a quoted text in which a backslash stands for the character after
it, or a bare run of characters up to the next comma, brace or quote. A bare run is trimmed of
blanks, and it is the null element when it spells NULL in any case. Spaces may surround every
token, but nothing may stand between the bounds of the dimensions and the first brace.

When the text does not fit, the reader may still find a shorter list: a comma that no element
follows is not a separator, so the list ends before it and a closing brace is missed there. Two
failures are final instead: a quote that is never closed, and a brace that opens too many
dimensions.

## Main definitions

* `PgJson.ArrayLiteral.Reading` — a value, a mismatch, or a final failure
* `PgJson.ArrayLiteral.readArray` — an array with its braces
* `PgJson.ArrayLiteral.readLiteral` — a whole literal, with any limit on the dimensions
* `PgJson.ArrayLiteral.ofText` — a whole literal, with the limit of PostgreSQL
-/

namespace PgJson.ArrayLiteral

open Text (byteSize skipSpaces)

/-- What comes of reading at the front of a text. -/
inductive Reading (α : Type) where
  | done (value : α) (rest : List Char)
  /-- The text does not fit where `rest` is left; another reading may be tried. -/
  | mismatch (rest : List Char)
  /-- The whole literal is refused. -/
  | abort (cause : Cause) (rest : List Char)

/-- Whether `c` may stand between the brackets of a dimension. -/
def isBound (c : Char) : Bool := c.isDigit || c == ':' || c == '-'

/-- What follows the bounds of the dimensions and their equals sign; `inside` tells whether a
bracket is open. -/
def afterBounds : Bool → List Char → Option (List Char)
  | _, [] => none
  | true, c :: s =>
    if isBound c then afterBounds true s
    else if c = ']' then afterBounds false s
    else none
  | false, c :: s =>
    if c = '[' then afterBounds true s
    else if c = '=' then some s
    else none

/-- `s` without the bounds in front. Bounds that are not well-formed are no bounds at all. -/
def dropBounds (s : List Char) : List Char :=
  match s with
  | '[' :: r => (afterBounds true r).getD s
  | _ => s

/-- The text of a quoted element up to its closing quote, and what follows the quote. -/
def readQuoted : List Char → Option (List Char × List Char)
  | [] => none
  | '"' :: s => some ([], s)
  | ['\\'] => none
  | '\\' :: c :: s => (readQuoted s).map fun (t, r) => (c :: t, r)
  | c :: s => (readQuoted s).map fun (t, r) => (c :: t, r)

/-- Whether `c` may stand in a bare element. -/
def isBare (c : Char) : Bool := c != ',' && c != '\x7b' && c != '\x7d' && c != '"'

/-- Whether a bare element spells NULL, in any case. -/
def spellsNull (s : List Char) : Bool := s.map Char.toUpper == ['N', 'U', 'L', 'L']

/-- The element that a bare run stands for. -/
def bareElement (run : List Char) : Element :=
  let t := Text.trim run
  if spellsNull t then .null else .text (String.ofList t)

/-- Read an element; `nested` reads an array with its braces. -/
def readElement (nested : List Char → Reading (List Element)) (s : List Char) :
    Reading Element :=
  match s with
  | [] => .mismatch []
  | c :: r =>
    if c = '\x7b' then match nested s with
      | .done items rest => .done (.nested items) rest
      | .mismatch _ => .mismatch s
      | .abort cause rest => .abort cause rest
    else if c = '"' then match readQuoted r with
      | some (t, rest) => .done (.text (String.ofList t)) rest
      | none => .abort .characterExpected r
    else if isBare c then .done (bareElement (s.takeWhile isBare)) (s.dropWhile isBare)
    else .mismatch s

/-- Read the elements that follow an element, each after a comma. A comma without an element
after it is left, with the spaces before it. Each round takes a character and a step, so the text
itself can count the steps. -/
def readMore (element : List Char → Reading Element) :
    List Char → List Char → Reading (List Element)
  | [], s => .done [] s
  | _ :: steps, s => match skipSpaces s with
    | ',' :: r => match element (skipSpaces r) with
      | .done e rest => match readMore element steps rest with
        | .done es rest => .done (e :: es) rest
        | .mismatch rest => .mismatch rest
        | .abort cause rest => .abort cause rest
      | .mismatch _ => .done [] s
      | .abort cause rest => .abort cause rest
    | _ => .done [] s

/-- Read the elements of an array, of which there may be none. -/
def readElements (element : List Char → Reading Element) (s : List Char) :
    Reading (List Element) :=
  match element s with
  | .done e rest => match readMore element rest rest with
    | .done es rest => .done (e :: es) rest
    | .mismatch rest => .mismatch rest
    | .abort cause rest => .abort cause rest
  | .mismatch _ => .done [] s
  | .abort cause rest => .abort cause rest

/-- Whether `depth` dimensions are more than the limit, if there is one. -/
def exceeds (limit : Option Nat) (depth : Nat) : Bool := limit.any (· < depth)

/-- Read an array with its braces, the first of which opens dimension number `depth`. Each
dimension takes a brace, so as many steps as there are characters suffice. -/
def readArray (limit : Option Nat) : Nat → Nat → List Char → Reading (List Element)
  | 0, _, s => .mismatch s
  | steps + 1, depth, s => match s with
    | '\x7b' :: r =>
      if exceeds limit depth then .abort .tooDeep s
      else match readElements (readElement (readArray limit steps (depth + 1))) (skipSpaces r) with
        | .done es rest => match skipSpaces rest with
          | '\x7d' :: rest => .done es rest
          | rest => .mismatch rest
        | .mismatch rest => .mismatch rest
        | .abort cause rest => .abort cause rest
    | _ => .mismatch s

/-- Read a whole literal, with at most `limit` dimensions if there is a limit. -/
def readLiteral (limit : Option Nat) (text : List Char) : Except Error (List Element) :=
  let fault (cause : Cause) (rest : List Char) : Except Error (List Element) :=
    .error (.arrayLiteral (byteSize text - byteSize rest) cause)
  let body := dropBounds (skipSpaces text)
  match readArray limit body.length 1 body with
  | .done items rest => match skipSpaces rest with
    | [] => .ok items
    | rest => fault .endExpected rest
  | .mismatch rest => fault .characterExpected rest
  | .abort cause rest => fault cause rest

/-- Read a whole literal. -/
def ofText (text : String) : Except Error (List Element) :=
  readLiteral (some dimensionLimit) text.toList

end PgJson.ArrayLiteral
