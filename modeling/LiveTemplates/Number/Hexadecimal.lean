/-
# LiveTemplates.Number.Hexadecimal -- hexadecimal digits
-/

namespace LiveTemplates.Number

/-- The value of a hexadecimal digit. -/
def hexDigit? (c : Char) : Option Nat :=
  if '0' ≤ c && c ≤ '9' then some (c.toNat - '0'.toNat)
  else if 'a' ≤ c && c ≤ 'f' then some (c.toNat - 'a'.toNat + 10)
  else if 'A' ≤ c && c ≤ 'F' then some (c.toNat - 'A'.toNat + 10)
  else none

/-- The number that hexadecimal digits stand for. -/
def ofHexDigits (ds : List Char) : Nat :=
  ds.foldl (fun n c => n * 16 + (hexDigit? c).getD 0) 0

/-- A number in at least `width` hexadecimal digits, in lower case. -/
def hexChars (width n : Nat) : List Char :=
  let ds := Nat.toDigits 16 n
  List.replicate (width - ds.length) '0' ++ ds

end LiveTemplates.Number
