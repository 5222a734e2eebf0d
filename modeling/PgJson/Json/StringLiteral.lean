import PgJson.Json.Fault

/-!
# String literals of JSON

Writing escapes as little as possible: the quote, the backslash and the controls below U+0020,
five of which have a letter of their own. Reading accepts every escape of the format. An escape
by number gives a UTF-16 unit, so a character beyond U+FFFF takes two of them, a leading and a
trailing surrogate; a surrogate that is not part of such a pair is refused.

## Main definitions

* `PgJson.Json.escape`, `writeString` — a string in quotes
* `PgJson.Json.readString` — the string up to its closing quote
-/

namespace PgJson.Json

open Text (byteSize hexValue)

/-- A character as it stands in a literal. -/
def escape (c : Char) : List Char :=
  match c with
  | '"' => ['\\', '"']
  | '\\' => ['\\', '\\']
  | '\x08' => ['\\', 'b']
  | '\x0C' => ['\\', 'f']
  | '\n' => ['\\', 'n']
  | '\r' => ['\\', 'r']
  | '\t' => ['\\', 't']
  | c =>
    if c.toNat < 0x20 then
      ['\\', 'u', '0', '0', Nat.digitChar (c.toNat / 16), Nat.digitChar (c.toNat % 16)]
    else [c]

/-- A string in quotes. -/
def writeString (s : String) : List Char := '"' :: s.toList.flatMap escape ++ ['"']

/-- The value of four hexadecimal digits. -/
def hexUnit (a b c d : Char) : Option Nat := do
  return (((← hexValue a) * 16 + (← hexValue b)) * 16 + (← hexValue c)) * 16 + (← hexValue d)

/-- Read one UTF-16 unit of four hexadecimal digits. Four bytes are looked at in any case, so
that is how far a failure reaches. -/
def readUnit : Reader Nat := fun s =>
  let refused : Except Fault (Nat × List Char) :=
    if byteSize s < 4 then fail .stringUnfinished []
    else .error (.here .invalidEscape (byteSize s - 4))
  match s with
  | a :: b :: c :: d :: r => match hexUnit a b c d with
    | some n => .ok (n, r)
    | none => refused
  | _ => refused

/-- Read the character `expected` between the two halves of a surrogate pair. -/
def readBetween (expected : Char) : List Char → Except Fault (List Char)
  | [] => fail .stringUnfinished []
  | c :: r => if c = expected then .ok r else failPast .escapeUnfinished (c :: r)

/-- Whether `n` is a UTF-16 unit that begins a pair. -/
def isLeading (n : Nat) : Bool := 0xD800 ≤ n && n ≤ 0xDBFF

/-- Whether `n` is a UTF-16 unit that ends a pair. -/
def isTrailing (n : Nat) : Bool := 0xDC00 ≤ n && n ≤ 0xDFFF

/-- Read a character given by number, after its backslash and `u`. -/
def readNumbered : Reader Char := fun s => do
  let (n, r) ← readUnit s
  if isTrailing n then fail .loneSurrogate r
  else if isLeading n then
    let r ← readBetween '\\' r
    let r ← readBetween 'u' r
    let (m, r) ← readUnit r
    if isTrailing m then .ok (Char.ofNat (0x10000 + (n - 0xD800) * 0x400 + (m - 0xDC00)), r)
    else fail .loneSurrogate r
  else .ok (Char.ofNat n, r)

/-- Read an escaped character, after its backslash. -/
def readEscape : Reader Char
  | [] => fail .stringUnfinished []
  | '"' :: r => .ok ('"', r)
  | '\\' :: r => .ok ('\\', r)
  | '/' :: r => .ok ('/', r)
  | 'b' :: r => .ok ('\x08', r)
  | 'f' :: r => .ok ('\x0C', r)
  | 'n' :: r => .ok ('\n', r)
  | 'r' :: r => .ok ('\r', r)
  | 't' :: r => .ok ('\t', r)
  | 'u' :: r => readNumbered r
  | c :: r => failPast .invalidEscape (c :: r)

/-- Read characters up to the closing quote. -/
def readCharacters : List Char → Reader (List Char)
  | _, [] => fail .stringUnfinished []
  | [], _ => fail .stringUnfinished []
  | _ :: steps, c :: s =>
    if c = '"' then .ok ([], s)
    else if c = '\\' then do
      let (u, r) ← readEscape s
      let (us, r) ← readCharacters steps r
      .ok (u :: us, r)
    else if c.toNat < 0x20 then fail .controlCharacter s
    else do
      let (us, r) ← readCharacters steps s
      .ok (c :: us, r)

/-- Read a string literal, after its opening quote. -/
def readString : Reader String := fun s => do
  let (cs, r) ← readCharacters s s
  .ok (String.ofList cs, r)

end PgJson.Json
