/-!
# Scaling by powers of ten

A scanner delivers a number as a significand of at most one machine word and a decimal exponent.
`scale?` puts the two together with a single floating-point multiplication or division by a power
of ten, so the result may differ from the nearest float in its last bit. Exponents outside the
range of the powers of ten that are floats are first reduced by dividing by `10 ^ 308`.

## Main definitions

* `PgJson.Decimal.powerOfTen` — `10 ^ k`, correctly rounded
* `PgJson.Decimal.scale?` — a number times a power of ten, unless the result is not finite
-/

namespace PgJson.Decimal

/-- The greatest power of ten that is a finite float. -/
def greatestPower : Nat := 308

/-- `10 ^ k`, correctly rounded. -/
def powerOfTen (k : Nat) : Float := Float.ofScientific 1 false k

/-- `x * 10 ^ e`, rounded once for each power of ten used; `none` when it is out of range. -/
def scale? (x : Float) (e : Int) : Option Float :=
  if e.natAbs ≤ greatestPower then
    if 0 ≤ e then
      let y := x * powerOfTen e.toNat
      if y.isInf then none else some y
    else some (x / powerOfTen e.natAbs)
  else if x == 0.0 then some x
  else if 0 ≤ e then none
  else scale? (x / powerOfTen greatestPower) (e + greatestPower)
termination_by e.natAbs
decreasing_by simp only [greatestPower] at *; omega

/-- The float nearest to a whole number. -/
def ofWhole (n : Nat) : Float := Float.ofScientific n false 0

end PgJson.Decimal
