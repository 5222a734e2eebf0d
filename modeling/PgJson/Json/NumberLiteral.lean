import PgJson.Decimal.Layout
import PgJson.Decimal.Scaled
import PgJson.Json.Basic
import PgJson.Json.Fault

/-!
# Number literals of JSON

A numeral without fraction and exponent that fits 64 bits is read as that whole number. Every
other numeral is read as a float: its digits are gathered into a significand of 64 bits for as
long as they fit, the position of the point and the exponent say by which power of ten to scale
it, and the scaling is done in floating point. Further digits before the point then only count as
powers of ten, and further digits after it are dropped.

## Main definitions

* `PgJson.Json.readNumber` — the number at the front of a text, after its sign
* `PgJson.Json.Number.write` — the text of a number
-/

namespace PgJson.Json

open Text (byteSize)

/-- The greatest significand. -/
def greatestSignificand : Nat := Text.greatestUnsigned 64

/-- The greatest exponent; the least one is just below its negative. -/
def greatestExponent : Nat := Text.greatestSigned 32

/-- An exponent within its range. -/
def clampExponent (e : Int) : Int :=
  max (-(greatestExponent : Int) - 1) (min e greatestExponent)

/-- A significand, scaled by a power of ten; `s` is what is left when that has been read. -/
def scaled (negative : Bool) (significand : Nat) (exponent : Int) (s : List Char) :
    Except Fault (Number × List Char) :=
  match Decimal.scale? (Decimal.ofWhole significand) exponent with
  | some x => .ok (.float (if negative then -x else x), s)
  | none => fail .numberOutOfRange s

/-- Read the exponent of a number, after its letter. An exponent beyond its range makes every
number zero or too large, whatever its other digits are. -/
def readExponent (negative : Bool) (significand : Nat) (exponent : Int) : Reader Number :=
  fun s =>
    let (down, s) := Text.readSign s
    match s with
    | [] => fail .valueUnfinished []
    | c :: _ =>
      if !c.isDigit then failPast .invalidNumber s
      else
        let rest := s.dropWhile Char.isDigit
        match Text.absorb greatestExponent 0 (s.takeWhile Char.isDigit) with
        | (e, []) =>
          let shift : Int := if down then -e else e
          scaled negative significand (clampExponent (exponent + shift)) rest
        | (_, _ :: more) =>
          if significand != 0 && !down then fail .numberOutOfRange (more ++ rest)
          else .ok (.float (if negative then -0.0 else 0.0), rest)

/-- Read what follows the digits of a number: an exponent or nothing. -/
def readScale (negative : Bool) (significand : Nat) (exponent : Int) : Reader Number
  | 'e' :: s => readExponent negative significand exponent s
  | 'E' :: s => readExponent negative significand exponent s
  | s => scaled negative significand exponent s

/-- Read the fraction of a number, after its point. -/
def readFraction (negative : Bool) (significand : Nat) (exponent : Int) : Reader Number
  | [] => fail .valueUnfinished []
  | c :: s =>
    if !c.isDigit then failPast .invalidNumber (c :: s)
    else
      let digits := (c :: s).takeWhile Char.isDigit
      let (significand, dropped) := Text.absorb greatestSignificand significand digits
      readScale negative significand (exponent - (digits.length - dropped.length))
        ((c :: s).dropWhile Char.isDigit)

/-- A whole number, or the nearest float if it does not fit 64 bits. A negative zero is a float,
because only floats tell it from zero. -/
def wholeNumber (negative : Bool) (magnitude : Nat) : Number :=
  if !negative then .whole magnitude
  else if magnitude == 0 || Text.greatestSigned 64 + 1 < magnitude then
    .float (-(Decimal.ofWhole magnitude))
  else .whole (-(magnitude : Int))

/-- Read a number, after its minus sign if it has one. -/
def readNumber (negative : Bool) : Reader Number
  | [] => fail .valueUnfinished []
  | c :: s =>
    if !c.isDigit then failPast .invalidNumber (c :: s)
    else
      let digits := (c :: s).takeWhile Char.isDigit
      let rest := (c :: s).dropWhile Char.isDigit
      if c = '0' && 1 < digits.length then failPast .invalidNumber s
      else
        let (significand, dropped) := Text.absorb greatestSignificand 0 digits
        match rest, dropped with
        | '.' :: r, _ => readFraction negative significand dropped.length r
        | 'e' :: r, _ => readExponent negative significand dropped.length r
        | 'E' :: r, _ => readExponent negative significand dropped.length r
        | _, [] => .ok (wholeNumber negative significand, rest)
        | _, _ => scaled negative significand dropped.length rest

/-- The digits of a whole number, with its sign. -/
def writeWhole (n : Int) : List Char :=
  if n < 0 then '-' :: Nat.toDigits 10 n.natAbs else Nat.toDigits 10 n.natAbs

/-- The text of a finite number. -/
def Number.write : Number → List Char
  | .whole n => writeWhole n
  | .float x => Decimal.writeDouble x

end PgJson.Json
