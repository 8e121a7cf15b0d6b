/-
# LiveTemplates.Number.Binary -- a finite number as an integer and a power of two

The magnitude of a finite double is `mantissa * 2 ^ exponent`.  The reals that
round to it form an interval around it; `Binary.reads` decides for a decimal,
by integer arithmetic alone, whether it lies in that interval.
-/

namespace LiveTemplates.Number

/-- The magnitude `mantissa * 2 ^ exponent` of a finite double. -/
structure Binary where
  mantissa : Nat
  exponent : Int
  /-- The gap to the value below is half the gap to the value above. -/
  narrow : Bool
deriving Repr, DecidableEq

/-- The magnitude behind the bits of a finite double. -/
def Binary.ofBits (bits : UInt64) : Binary :=
  let e := ((bits >>> 52) &&& 0x7FF).toNat
  let f := (bits &&& 0xFFFFFFFFFFFFF).toNat
  if e == 0 then ⟨f, -1074, false⟩ else ⟨Nat.pow 2 52 + f, (e : Int) - 1075, f == 0 && e > 1⟩

/-- The magnitude of a finite double. -/
def Binary.ofFloat (x : Float) : Binary :=
  Binary.ofBits x.toBits

/-- Is the sign bit set? -/
def isNegative (x : Float) : Bool :=
  x.toBits >>> 63 != 0

/-- `digits * 10 ^ exponent`. -/
structure Decimal where
  digits : Nat
  exponent : Int
deriving Repr, DecidableEq

namespace Binary

/-- `x / 10 ^ e` is `numerator x e / denominator x e`. -/
def numerator (x : Binary) (e : Int) : Nat :=
  x.mantissa * Nat.pow 2 x.exponent.toNat * Nat.pow 10 (-e).toNat

/-- `x / 10 ^ e` is `numerator x e / denominator x e`. -/
def denominator (x : Binary) (e : Int) : Nat :=
  Nat.pow 2 (-x.exponent).toNat * Nat.pow 10 e.toNat

/-- Does `d` lie among the reals that round to `x`?  The ends belong to the
interval exactly when the mantissa is even. -/
def reads (x : Binary) (d : Decimal) : Bool :=
  let unit := Nat.pow 2 x.exponent.toNat * Nat.pow 10 (-d.exponent).toNat
  let low := (if x.narrow then 4 * x.mantissa - 1 else 4 * x.mantissa - 2) * unit
  let high := (4 * x.mantissa + 2) * unit
  let value := 4 * d.digits * x.denominator d.exponent
  if x.mantissa % 2 == 0 then low ≤ value && value ≤ high else low < value && value < high

/-- Is the value below `10 ^ k`? -/
def below (x : Binary) (k : Int) : Bool :=
  x.numerator k < x.denominator k

/-- The magnitude as an integer, where it is one. -/
def toNat? (x : Binary) : Option Nat :=
  if 0 ≤ x.exponent then some (x.mantissa * Nat.pow 2 x.exponent.toNat)
  else
    let d := Nat.pow 2 (-x.exponent).toNat
    if x.mantissa % d == 0 then some (x.mantissa / d) else none

end Binary

end LiveTemplates.Number
