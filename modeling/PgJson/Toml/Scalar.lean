import PgJson.Text.Numeral
import PgJson.Toml.StringLiteral

/-!
# Numbers, dates and words of TOML

Digits may be grouped by underscores, each of them between two digits. Whole numbers are those of
64 bits, in decimal without leading zeros or, without a sign, in base 16, 8 or 2. Dates must exist
in the calendar, and a minute may have a leap second.

## Main definitions

* `PgJson.Toml.readNumber` — whole numbers and floats
* `PgJson.Toml.readDatetime` — dates, times, and both
* `PgJson.Toml.readScalar` — any value that is no array and no table
-/

namespace PgJson.Toml

/-! ## Numbers -/

/-- Read digits that may be grouped by underscores, and drop the underscores. -/
def readGrouped (isDigit : Char → Bool) : Reader (List Char) := fun s =>
  let run := s.takeWhile fun c => isDigit c || c == '_'
  let groups := run.splitOn '_'
  if groups.any (·.isEmpty) then none
  else some (groups.flatten, s.drop run.length)

/-- The value of digits in a base. -/
def valueIn (base : Nat) (digits : List Char) : Nat :=
  digits.foldl (fun n c => n * base + (Text.hexValue c).getD 0) 0

/-- Whether `c` is a digit of a base. -/
def isDigitOf (base : Nat) (c : Char) : Bool := (Text.hexValue c).any (· < base)

/-- Whether a whole number has 64 bits. -/
def fits (n : Int) : Bool :=
  -(Text.greatestSigned 64 : Int) - 1 ≤ n && n ≤ Text.greatestSigned 64

/-- A whole number, if it has 64 bits. -/
def integer? (n : Int) : Option Value := if fits n then some (.integer n) else none

/-- The float nearest to `significand * 10 ^ exponent`. Exponents far beyond the range of floats
are not worked out. -/
def nearestFloat (significand : Nat) (exponent : Int) : Float :=
  let size := exponent + (Nat.toDigits 10 significand).length
  if significand == 0 || size < -400 then 0.0
  else if 400 < size then 1.0 / 0.0
  else Float.ofScientific significand (exponent < 0) exponent.natAbs

/-- A float, unless it is too large. The bound is on the positive side only. -/
def float? (negative : Bool) (digits : List Char) (exponent : Int) : Option Value :=
  let x := nearestFloat (valueIn 10 digits) exponent
  if x.isInf && !negative then none else some (.float (if negative then -x else x))

/-- Read an exponent, if there is one. -/
def readExponent (s : List Char) : Option (Int × List Char) :=
  match s with
  | c :: r =>
    if c = 'e' || c = 'E' then do
      let (down, r) := Text.readSign r
      let (digits, r) ← readGrouped Char.isDigit r
      let e : Int := valueIn 10 digits
      return (if down then -e else e, r)
    else some (0, s)
  | [] => some (0, s)

/-- Read a fraction, if there is one, after the digits of the whole part. -/
def readFraction (s : List Char) : Option (List Char × List Char) :=
  match s with
  | '.' :: r => readGrouped Char.isDigit r
  | _ => some ([], s)

/-- Read a decimal number, after its sign. -/
def readDecimal (negative : Bool) : Reader Value := fun s => do
  let (whole, r) ← readGrouped Char.isDigit s
  if whole.head? = some '0' && whole ≠ ['0'] then none
  else
    let (fraction, afterFraction) ← readFraction r
    let (exponent, rest) ← readExponent afterFraction
    if rest.length = r.length then
      let n : Int := valueIn 10 whole
      return (← integer? (if negative then -n else n), rest)
    else
      return (← float? negative (whole ++ fraction) (exponent - fraction.length), rest)

/-- Read a whole number in a base that is no power of ten, after the letter of its base. -/
def readBased (base : Nat) : Reader Value := fun s => do
  let (digits, r) ← readGrouped (isDigitOf base) s
  return (← integer? (valueIn base digits), r)

/-- Read a number that is infinite or none, after its sign. -/
def readSpecial (negative : Bool) : Reader Value
  | 'i' :: 'n' :: 'f' :: s => some (.float (if negative then -1.0 / 0.0 else 1.0 / 0.0), s)
  | 'n' :: 'a' :: 'n' :: s => some (.float (0.0 / 0.0), s)
  | _ => none

/-- Read a number. -/
def readNumber : Reader Value
  | '0' :: 'x' :: s => readBased 16 s
  | '0' :: 'o' :: s => readBased 8 s
  | '0' :: 'b' :: s => readBased 2 s
  | s =>
    let (negative, r) := Text.readSign s
    (readSpecial negative r).or (readDecimal negative r)

/-! ## Dates and times -/

/-- Read a number of exactly `width` digits in a range. -/
def readField (width least greatest : Nat) : Reader Nat := fun s =>
  let digits := s.take width
  let n := valueIn 10 digits
  if digits.length = width && digits.all Char.isDigit && least ≤ n && n ≤ greatest then
    some (n, s.drop width)
  else none

/-- Read the given character. -/
def readChar (expected : Char) : List Char → Option (List Char)
  | c :: s => if c = expected then some s else none
  | [] => none

/-- The number of days of a month. -/
def daysIn (year month : Nat) : Nat :=
  if month = 2 then
    if year % 4 = 0 && (year % 100 ≠ 0 || year % 400 = 0) then 29 else 28
  else if month = 4 || month = 6 || month = 9 || month = 11 then 30
  else 31

/-- Read a date. -/
def readDate (s : List Char) : Option (List Char) := do
  let (year, s) ← readField 4 0 9999 s
  let s ← readChar '-' s
  let (month, s) ← readField 2 1 12 s
  let s ← readChar '-' s
  let (_, s) ← readField 2 1 (daysIn year month) s
  return s

/-- Read hours and minutes. -/
def readMinutes (s : List Char) : Option (List Char) := do
  let (_, s) ← readField 2 0 23 s
  let s ← readChar ':' s
  let (_, s) ← readField 2 0 59 s
  return s

/-- `s` without a fraction of a second in front. -/
def dropFraction (s : List Char) : List Char :=
  match s with
  | '.' :: c :: r => if c.isDigit then r.dropWhile Char.isDigit else s
  | _ => s

/-- Read a time of day. -/
def readTime (s : List Char) : Option (List Char) := do
  let s ← readMinutes s
  let s ← readChar ':' s
  let (_, s) ← readField 2 0 60 s
  return dropFraction s

/-- Read an offset from universal time, if there is one. -/
def readOffset (s : List Char) : Option (List Char) :=
  match s with
  | c :: r =>
    if c = 'Z' || c = 'z' then some r
    else if c = '+' || c = '-' then readMinutes r
    else some s
  | [] => some s

/-- Read a time of day after a date, if there is one. -/
def readTimeAfterDate (s : List Char) : Option (List Char) :=
  match s with
  | c :: r =>
    if c = 'T' || c = 't' || (c = ' ' && (r.headD ' ').isDigit) then do readOffset (← readTime r)
    else some s
  | [] => some s

/-- Whether a text starts with a number of `width` digits and then `mark`. -/
def startsField (width : Nat) (mark : Char) (s : List Char) : Bool :=
  (s.take width).all Char.isDigit && s[width]? == some mark

/-- Read a date, a time, or both. -/
def readDatetime : Reader Value := fun s => do
  let rest ← if startsField 4 '-' s then do readTimeAfterDate (← readDate s) else readTime s
  return (.datetime (String.ofList (s.take (s.length - rest.length))), rest)

/-! ## Values on their own -/

/-- Read the given characters. -/
def readWord (word : String) (value : Value) : Reader Value := fun s =>
  if word.toList.isPrefixOf s then some (value, s.drop word.length) else none

/-- Read a value that is no array and no table. -/
def readScalar : Reader Value := fun s =>
  match s with
  | [] => none
  | c :: _ =>
    if c = '"' || c = '\'' then do
      let (t, r) ← readString s
      return (.string t, r)
    else if c = 't' then readWord "true" (.boolean true) s
    else if c = 'f' then readWord "false" (.boolean false) s
    else if startsField 4 '-' s || startsField 2 ':' s then readDatetime s
    else readNumber s

end PgJson.Toml
