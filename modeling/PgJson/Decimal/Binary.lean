/-!
# Binary floating point as exact numbers

A finite float is a whole number times a power of two. This module takes a bit pattern apart
into that form, for any IEEE layout, so that questions about the float become questions about
natural numbers.

## Main definitions

* `PgJson.Decimal.Format` — how a bit pattern is divided
* `PgJson.Decimal.Binary` — a significand, an exponent, and the room to the number below
* `PgJson.Decimal.Format.decode` — the number a bit pattern stands for
-/

namespace PgJson.Decimal

/-- The layout of an IEEE binary number: a sign bit, an exponent field, a fraction field. -/
structure Format where
  fractionBits : Nat
  exponentBits : Nat

/-- Numbers of 64 bits. -/
def Format.double : Format := ⟨52, 11⟩

/-- Numbers of 32 bits. -/
def Format.single : Format := ⟨23, 8⟩

/-- The number `significand * 2 ^ exponent`, leaving its sign aside. -/
structure Binary where
  significand : Nat
  exponent : Int
  /-- The number is the least with its exponent, so the next number below is only half as far
  away as the next one above. -/
  narrowBelow : Bool
deriving DecidableEq, Repr

/-- Whether the sign bit is set. -/
def Format.isNegative (f : Format) (bits : Nat) : Bool :=
  bits / Nat.pow 2 (f.fractionBits + f.exponentBits) % 2 == 1

/-- The exponent field, shifted so that it counts units of the last fraction bit. -/
def Format.leastExponent (f : Format) : Int :=
  2 - (Nat.pow 2 (f.exponentBits - 1) : Int) - f.fractionBits

/-- The number a finite bit pattern stands for. An exponent field of zero has no hidden bit. -/
def Format.decode (f : Format) (bits : Nat) : Binary :=
  let fraction := bits % Nat.pow 2 f.fractionBits
  let field := bits / Nat.pow 2 f.fractionBits % Nat.pow 2 f.exponentBits
  if field == 0 then ⟨fraction, f.leastExponent, false⟩
  else
    ⟨fraction + Nat.pow 2 f.fractionBits, f.leastExponent + (field - 1),
      fraction == 0 && field > 1⟩

end PgJson.Decimal
