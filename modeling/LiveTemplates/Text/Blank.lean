/-
# LiveTemplates.Text.Blank -- blanks, and text without blanks around it

A blank is a character with the property White_Space; there are twenty-five.
-/
import LiveTemplates.Text.CharSet

namespace LiveTemplates.Text

/-- Boundaries of the blanks. -/
def blankBounds : List Nat := [
  0x9, 0xE, 0x20, 0x21, 0x85, 0x86, 0xA0, 0xA1, 0x1680, 0x1681, 0x2000, 0x200B, 0x2028, 0x202A,
  0x202F, 0x2030, 0x205F, 0x2060, 0x3000, 0x3001]

/-- White space in the sense of the standard. -/
def isBlank (c : Char) : Bool :=
  CharSet.contains blankBounds c.toNat

/-- The characters without the blanks in front and behind. -/
def trimChars (cs : List Char) : List Char :=
  ((cs.dropWhile isBlank).reverse.dropWhile isBlank).reverse

/-- The text without the blanks in front and behind. -/
def trim (s : String) : String :=
  String.ofList (trimChars s.toList)

end LiveTemplates.Text
