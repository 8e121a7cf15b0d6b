/-
# LiveTemplates.Number.Shortest -- the fewest digits that read back

Among the decimals that round to a given double, `shortest` takes one with the
fewest digits, and of those the nearest.  Two decimals of that length can be
equally near; which of them is taken is a `Tie`, a choice of the text format.

The search goes through the grids of 1, 2, …, 17 digits.  On each grid only the
two neighbours of the value are of interest: if any point of the grid lies in
the interval, one of them does.
-/
import LiveTemplates.Number.Binary

namespace LiveTemplates.Number

/-- What is taken of two equally near decimals of the least length. -/
inductive Tie where
  /-- The greater. -/
  | up
  /-- The one whose last digit is even. -/
  | even
deriving Repr, DecidableEq

namespace Binary

/-- The least `k` with `x < 10 ^ k`, from an estimate by the binary logarithm. -/
def scale (x : Binary) : Int :=
  let estimate := ((x.mantissa.log2 : Int) + x.exponent) * 30103 / 100000
  match [estimate - 1, estimate, estimate + 1, estimate + 2].find? (x.below ·) with
  | some k => k
  | none => estimate + 3

/-- The better neighbour of `x` on the grid of `10 ^ e` that reads back, if any. -/
def onGrid (x : Binary) (tie : Tie) (e : Int) : Option Decimal :=
  let num := x.numerator e
  let den := x.denominator e
  let low : Decimal := ⟨num / den, e⟩
  let high : Decimal := ⟨num / den + 1, e⟩
  match x.reads low && low.digits != 0, x.reads high with
  | true, true =>
    match compare (2 * (num % den)) den with
    | .lt => some low
    | .gt => some high
    | .eq => if tie == .even && low.digits % 2 == 0 then some low else some high
  | true, false => some low
  | false, true => some high
  | false, false => none

/-- All digits of `x`. -/
def exact (x : Binary) : Decimal :=
  if 0 ≤ x.exponent then ⟨x.mantissa * Nat.pow 2 x.exponent.toNat, 0⟩
  else ⟨x.mantissa * Nat.pow 5 (-x.exponent).toNat, x.exponent⟩

end Binary

/-- The same value without zeros at the end of the digits. -/
def Decimal.stripFuel : Nat → Decimal → Decimal
  | 0, d => d
  | n + 1, d =>
    if d.digits != 0 && d.digits % 10 == 0 then stripFuel n ⟨d.digits / 10, d.exponent + 1⟩ else d

/-- The same value without zeros at the end of the digits. -/
def Decimal.strip (d : Decimal) : Decimal :=
  d.stripFuel (d.digits.log2 + 1)

/-- The decimal with the fewest digits that rounds to `x`, the nearest of them. -/
def Binary.shortest (x : Binary) (tie : Tie) : Decimal :=
  let k := x.scale
  match (List.range 17).findSome? fun n => x.onGrid tie (k - (n + 1 : Nat)) with
  | some d => d.strip
  | none => x.exact.strip

end LiveTemplates.Number
