import PgJson.Json.NumberLiteral
import PgJson.Json.StringLiteral

/-!
# Reading JSON documents

A document is one value with spaces around it. Lists and objects may be nested up to a limit, and
the limit is what the recursion descends on; the items of a list are read by recursion on the
characters that are left.

An object whose first member has the name `embeddedName` is not an object but stands for the
document that its one member holds as a string. The embedded document is read on its own, with
the whole nesting limit and with places of its own, so the reader for values takes the reader for
embedded documents as a parameter.

## Main definitions

* `PgJson.Json.depthLimit` — how deep lists and objects may be nested
* `PgJson.Json.readValue` — the value at the front of a text
* `PgJson.Json.ofText` — a whole document
-/

namespace PgJson.Json

open Text (byteSize skipSpaces)

/-- How many lists and objects may be open at once. -/
def depthLimit : Nat := 127

/-- The member name that marks an embedded document. -/
def embeddedName : String := "$serde_json::private::RawValue"

/-- Read the given characters. -/
def readWord : List Char → List Char → Except Fault (List Char)
  | [], s => .ok s
  | _ :: _, [] => fail .valueUnfinished []
  | w :: ws, c :: s => if c = w then readWord ws s else failPast .wordExpected (c :: s)

/-- Read the rest of `null`, `true` or `false` and deliver `value`. -/
def readConstant (word : String) (value : Json) : Reader Json := fun s => do
  let r ← readWord word.toList s
  .ok (value, r)

/-- Read a number value. -/
def readNumberValue (negative : Bool) : Reader Json := fun s => do
  let (n, r) ← readNumber negative s
  .ok (.number n, r)

/-- Read a value that is no list or object, and leave those to `list` and `object`, which start
after the bracket. -/
def readWith (list object : Reader Json) (s : List Char) : Except Fault (Json × List Char) :=
  match skipSpaces s with
  | [] => fail .valueUnfinished []
  | c :: r =>
    if c = 'n' then readConstant "ull" .null r
    else if c = 't' then readConstant "rue" (.bool true) r
    else if c = 'f' then readConstant "alse" (.bool false) r
    else if c = '-' then readNumberValue true r
    else if c.isDigit then readNumberValue false (c :: r)
    else if c = '"' then do
      let (text, r) ← readString r
      .ok (.string text, r)
    else if c = '[' then list r
    else if c = '\x7b' then object r
    else failPast .valueExpected (c :: r)

/-- Read the items of a list after an item: a comma and another item, or the end. -/
def readMoreItems (item : Reader Json) : List Char → Reader (List Json)
  | [], _ => fail .listUnfinished []
  | _ :: steps, s => match skipSpaces s with
    | [] => fail .listUnfinished []
    | ']' :: r => .ok ([], r)
    | ',' :: r => match skipSpaces r with
      | [] => fail .valueUnfinished []
      | ']' :: r => failPast .trailingComma (']' :: r)
      | r => do
        let (x, r) ← item r
        let (xs, r) ← readMoreItems item steps r
        .ok (x :: xs, r)
    | r => failPast .listSeparatorExpected r

/-- Read the items of a list, after its bracket. -/
def readItems (item : Reader Json) : Reader (List Json) := fun s =>
  match skipSpaces s with
  | [] => fail .listUnfinished []
  | ']' :: r => .ok ([], r)
  | r => do
    let (x, r) ← item r
    let (xs, r) ← readMoreItems item r r
    .ok (x :: xs, r)

/-- Read the colon between a name and its value. -/
def readColon (s : List Char) : Except Fault (List Char) :=
  match skipSpaces s with
  | [] => fail .objectUnfinished []
  | ':' :: r => .ok r
  | r => failPast .colonExpected r

/-- Read a member, whose name starts with the next character, and prepend it to those that
`more` reads after it. -/
def readMember (item : Reader Json) (more : Reader (List (String × Json))) :
    Reader (List (String × Json)) := fun s =>
  match s with
  | '"' :: r => do
    let (name, r) ← readString r
    let r ← readColon r
    let (x, r) ← item r
    let (ms, r) ← more r
    .ok ((name, x) :: ms, r)
  | s => failPast .keyNotString s

/-- Read the members of an object after a member: a comma and another member, or the end. -/
def readMoreMembers (item : Reader Json) : List Char → Reader (List (String × Json))
  | [], _ => fail .objectUnfinished []
  | _ :: steps, s => match skipSpaces s with
    | [] => fail .objectUnfinished []
    | '\x7d' :: r => .ok ([], r)
    | ',' :: r => match skipSpaces r with
      | [] => fail .valueUnfinished []
      | '\x7d' :: r => failPast .trailingComma ('\x7d' :: r)
      | r => readMember item (readMoreMembers item steps) r
    | r => failPast .objectSeparatorExpected r

/-- How a value that is no string is named where a string is demanded. -/
def describe : Json → String
  | .null => "null"
  | .bool b => "boolean `" ++ (if b then "true" else "false") ++ "`"
  | .number (.whole n) => "integer `" ++ String.ofList (Number.write (.whole n)) ++ "`"
  | .number (.float x) => "floating point `" ++ String.ofList (Number.write (.float x)) ++ "`"
  | .string _ => "string"
  | .array _ => "sequence"
  | .object _ => "map"

/-- Read the string that holds an embedded document, and the end of its object. Any other value
is refused as soon as its kind is known: a list or an object at its bracket, all others after
them. The embedded document is read before the end of the object is looked at. -/
def readEmbedded (embedded : List Char → Except Error Json) : Reader Json := fun s => do
  let r ← readColon s
  match skipSpaces r with
  | '"' :: r => do
    let (text, r) ← readString r
    match embedded text.toList with
    | .error e => .error (.embedded e)
    | .ok x => match skipSpaces r with
      | [] => fail .objectUnfinished []
      | '\x7d' :: r => .ok (x, r)
      | ',' :: r => failPast .trailingComma (',' :: r)
      | r => failPast .trailingCharacters r
  | r => do
    let (x, r) ← readWith (fun _ => .ok (.array [], r)) (fun _ => .ok (.object [], r)) r
    fail (.notEmbedded (describe x)) r

/-- Read an object, after its bracket. -/
def readObject (embedded : List Char → Except Error Json) (item : Reader Json) : Reader Json :=
  fun s => match skipSpaces s with
    | [] => fail .objectUnfinished []
    | '\x7d' :: r => .ok (.object [], r)
    | '"' :: r => do
      let (name, r) ← readString r
      if name = embeddedName then readEmbedded embedded r
      else
        let r ← readColon r
        let (x, r) ← item r
        let (ms, r) ← readMoreMembers item r r
        .ok (.object (Members.ofList ((name, x) :: ms)), r)
    | r => failPast .keyNotString r

/-- Read a list, after its bracket. -/
def readList (item : Reader Json) : Reader Json := fun s => do
  let (xs, r) ← readItems item s
  .ok (.array xs, r)

/-- Read a value in which at most `depth` lists and objects are open at once. -/
def readValue (embedded : List Char → Except Error Json) : Nat → Reader Json
  | 0 => readWith (fun r => fail .tooDeep r) (fun r => fail .tooDeep r)
  | depth + 1 =>
    readWith (readList (readValue embedded depth))
      (readObject embedded (readValue embedded depth))

/-- Read a whole document with a reader for its value. -/
def readDocument (value : Reader Json) (s : List Char) : Except Fault Json := do
  let (x, r) ← value s
  match skipSpaces r with
  | [] => .ok x
  | r => failPast .trailingCharacters r

/-- Read a whole document with at most `layers` documents inside one another. -/
def ofChars : Nat → List Char → Except Error Json
  | 0, s => .error ((Fault.here .tooDeep (byteSize s)).error s)
  | layers + 1, s =>
    (readDocument (readValue (ofChars layers) depthLimit) s).mapError (Fault.error s)

/-- Read a whole document. An embedded document is shorter than the one that holds it, so there
are never more layers than characters. -/
def ofText (text : String) : Except Error Json :=
  ofChars (text.toList.length + 1) text.toList

end PgJson.Json
