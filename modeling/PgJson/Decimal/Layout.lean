import PgJson.Decimal.Shortest

/-!
# Writing decimal numbers

A number is written in plain notation when the power of ten of its first digit lies in a given
range, and in scientific notation otherwise. Plain notation always has a point with a digit on
either side. Scientific notation has one digit before the point, no point when that is the only
digit, and always the sign of the exponent.

## Main definitions

* `PgJson.Decimal.Layout` — the range of plain notation
* `PgJson.Decimal.Layout.write` — the text of a number
* `PgJson.Decimal.writeDouble`, `writeSingle` — the texts of finite floats
-/

namespace PgJson.Decimal

/-- The powers of ten of the first digit for which plain notation is used. -/
structure Layout where
  least : Int
  greatest : Int

/-- Numbers of 64 bits are plain from `0.00001` to below `10 ^ 16`. -/
def Layout.double : Layout := ⟨-5, 15⟩

/-- Numbers of 32 bits are plain from `0.000001` to below `10 ^ 13`. -/
def Layout.single : Layout := ⟨-6, 12⟩

/-- The digits `ds`, of which the first stands for `10 ^ x`, in plain notation. -/
def plain (ds : List Char) (x : Int) : List Char :=
  if x < 0 then '0' :: '.' :: List.replicate (-x - 1).toNat '0' ++ ds
  else
    let whole := x.toNat + 1
    let fraction := ds.drop whole
    ds.take whole ++ List.replicate (whole - ds.length) '0' ++
      '.' :: (if fraction.isEmpty then ['0'] else fraction)

/-- The digits `ds`, of which the first stands for `10 ^ x`, in scientific notation. -/
def scientific (ds : List Char) (x : Int) : List Char :=
  let mantissa := match ds with
    | d :: e :: r => d :: '.' :: e :: r
    | _ => ds
  mantissa ++ 'e' :: (if x < 0 then '-' else '+') :: Nat.toDigits 10 x.natAbs

/-- The text of a positive number. -/
def Layout.write (l : Layout) (n : Number) : List Char :=
  let ds := Nat.toDigits 10 n.digits
  let x := n.exponent + (ds.length - 1)
  if l.least ≤ x && x ≤ l.greatest then plain ds x else scientific ds x

/-- The text of a finite bit pattern; zero keeps its sign. -/
def Layout.writeBits (l : Layout) (f : Format) (bits : Nat) : List Char :=
  let b := f.decode bits
  let magnitude := if b.significand == 0 then "0.0".toList else l.write b.shortest
  if f.isNegative bits then '-' :: magnitude else magnitude

/-- The shortest text that reads back as the finite number `x`. -/
def writeDouble (x : Float) : List Char := Layout.double.writeBits .double x.toBits.toNat

/-- The shortest text that reads back as the finite number `x`. -/
def writeSingle (x : Float32) : List Char := Layout.single.writeBits .single x.toBits.toNat

end PgJson.Decimal
