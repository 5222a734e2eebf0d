/-!
# Decimal numerals with a bound

A numeral is a run of ASCII digits. Two readings are needed. A number column of the catalog, or
an option of the command line, must be a whole numeral inside a range, and says what is wrong
otherwise; `readNat` and `readInt` do that. A scanner that has found a run of digits wants as
many of them as fit in a machine word and the rest for scaling; that is `absorb`.

## Main definitions

* `PgJson.Text.greatestUnsigned`, `greatestSigned` — the bounds of machine words
* `PgJson.Text.digitValue`, `hexValue` — the values of digits
* `PgJson.Text.NumeralFault` — why a text is not a numeral in range
* `PgJson.Text.readNat`, `readInt` — whole texts as bounded numbers
* `PgJson.Text.absorb` — the longest run of digits whose value stays in bounds
-/

namespace PgJson.Text

/-- The greatest number of a machine word without a sign. -/
def greatestUnsigned (bits : Nat) : Nat := Nat.pow 2 bits - 1

/-- The greatest number of a machine word with a sign; the least is one below its negative. -/
def greatestSigned (bits : Nat) : Nat := Nat.pow 2 (bits - 1) - 1

/-- The value of an ASCII digit. -/
def digitValue (c : Char) : Nat := c.toNat - '0'.toNat

/-- The value of a hexadecimal digit. -/
def hexValue (c : Char) : Option Nat :=
  if c.isDigit then some (digitValue c)
  else if 'a' ≤ c && c ≤ 'f' then some (c.toNat - 'a'.toNat + 10)
  else if 'A' ≤ c && c ≤ 'F' then some (c.toNat - 'A'.toNat + 10)
  else none

/-- Read a sign, if there is one: whether it is a minus. -/
def readSign : List Char → Bool × List Char
  | '+' :: s => (false, s)
  | '-' :: s => (true, s)
  | s => (false, s)

/-- Why a text is not a numeral in range. -/
inductive NumeralFault where
  | empty
  | invalidDigit
  | tooLarge
deriving DecidableEq, Repr

/-- The wording of a fault. -/
def NumeralFault.message : NumeralFault → String
  | .empty => "cannot parse integer from empty string"
  | .invalidDigit => "invalid digit found in string"
  | .tooLarge => "number too large to fit in target type"

/-- Read on in a numeral whose digits so far have the value `value`. A character that is no
digit is noticed before the digit it stands for could overflow, so the first fault in reading
order is reported. -/
def readDigits (bound : Nat) : Nat → List Char → Except NumeralFault Nat
  | value, [] => .ok value
  | value, c :: s =>
    if !c.isDigit then .error .invalidDigit
    else if bound < value * 10 + digitValue c then .error .tooLarge
    else readDigits bound (value * 10 + digitValue c) s

/-- A whole text as a number of at most `bound`. A plus sign may stand in front of the digits;
a sign alone is an invalid digit. -/
def readNat (bound : Nat) : List Char → Except NumeralFault Nat
  | [] => .error .empty
  | '+' :: [] => .error .invalidDigit
  | '+' :: s => readDigits bound 0 s
  | s => readDigits bound 0 s

/-- A whole text as a number from `-bound - 1` to `bound`. -/
def readInt (bound : Nat) : List Char → Except NumeralFault Int
  | '-' :: [] => .error .invalidDigit
  | '-' :: s => (readDigits (bound + 1) 0 s).map fun n => -(n : Int)
  | s => (readNat bound s).map fun n => (n : Int)

/-- Take digits while the value stays at most `bound`: the value reached, and the digits left
over. -/
def absorb (bound : Nat) : Nat → List Char → Nat × List Char
  | value, [] => (value, [])
  | value, c :: s =>
    if bound < value * 10 + digitValue c then (value, c :: s)
    else absorb bound (value * 10 + digitValue c) s

end PgJson.Text
