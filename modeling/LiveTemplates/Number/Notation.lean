/-
# LiveTemplates.Number.Notation -- how a number is written

`text` is the text of a number as it appears in an attribute: positional from
10^-6 up to 10^21, with a signed exponent outside, an integer with all of its
digits, every other number with the fewest that read back.
-/
import LiveTemplates.Number.Shortest

namespace LiveTemplates.Number

/-- The decimal digits of a natural number. -/
def digitChars (n : Nat) : List Char :=
  Nat.toDigits 10 n

/-- `digits` with the point behind the first `point` of them, filled up with zeros
on the side where digits are missing. -/
def positional (digits : List Char) (point : Int) : List Char :=
  if point ≤ 0 then '0' :: '.' :: (List.replicate (-point).toNat '0' ++ digits)
  else if (digits.length : Int) ≤ point then
    digits ++ List.replicate (point.toNat - digits.length) '0'
  else digits.take point.toNat ++ '.' :: digits.drop point.toNat

/-- One digit, the point and the other digits if there are any, and the exponent
behind `e` with its sign. -/
def scientific (digits : List Char) (exponent : Int) : List Char :=
  let mantissa := match digits with
    | [] => []
    | [d] => [d]
    | d :: rest => d :: '.' :: rest
  let sign := if exponent < 0 then '-' else '+'
  mantissa ++ 'e' :: sign :: digitChars exponent.natAbs

/-- The text of a positive finite number.  An integer in the positional range is
written with its own digits, which can be more than identify it. -/
def magnitudeText (x : Binary) : List Char :=
  let d := x.shortest .up
  let ds := digitChars d.digits
  let point := (ds.length : Int) + d.exponent
  if -6 < point && point ≤ 21 then
    match x.toNat? with
    | some n => digitChars n
    | none => positional ds point
  else scientific ds (point - 1)

/-- The text of a number.  Both zeros are written `0`. -/
def text (x : Float) : String :=
  if x.isNaN then "NaN"
  else if x.isInf then (if isNegative x then "-Infinity" else "Infinity")
  else
    let b := Binary.ofFloat x
    if b.mantissa == 0 then "0"
    else String.ofList ((if isNegative x then ['-'] else []) ++ magnitudeText b)

end LiveTemplates.Number
