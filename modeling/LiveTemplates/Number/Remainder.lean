/-
# LiveTemplates.Number.Remainder -- the remainder of a truncated division

`remainder x y` is `x - y * n` for the integer `n` nearest to zero that leaves a
result smaller than `y`; it has the sign of `x`, also where it is zero.  The
result is computed exactly, on the integers that `x` and `y` are multiples of.
-/
import LiveTemplates.Number.Binary

namespace LiveTemplates.Number

/-- The double nearest to `n * 2 ^ e`. -/
def ofBinary (n : Nat) (e : Int) : Float :=
  if 0 ≤ e then Float.ofScientific (n * Nat.pow 2 e.toNat) false 0
  else Float.ofScientific (n * Nat.pow 5 (-e).toNat) true (-e).toNat

/-- The remainder of dividing `x` by `y` toward zero. -/
def remainder (x y : Float) : Float :=
  if x.isNaN || y.isNaN || x.isInf || y == 0.0 then 0.0 / 0.0
  else if y.isInf then x
  else
    let a := Binary.ofFloat x
    let b := Binary.ofFloat y
    let e := min a.exponent b.exponent
    let r := (a.mantissa * Nat.pow 2 (a.exponent - e).toNat) %
      (b.mantissa * Nat.pow 2 (b.exponent - e).toNat)
    let magnitude := ofBinary r e
    if isNegative x then -magnitude else magnitude

end LiveTemplates.Number
