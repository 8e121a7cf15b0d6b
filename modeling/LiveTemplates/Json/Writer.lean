/-
# LiveTemplates.Json.Writer -- data as text

Texts are written with the shortest escapes, numbers with the fewest digits that
read back: positionally, with a fraction, from 10^-5 up to 10^16, and with an
exponent outside.  Beyond ASCII a text is written raw (`writeText`) or by the code
units of its characters (`write`).
-/
import LiveTemplates.Json.Basic
import LiveTemplates.Number.Hexadecimal
import LiveTemplates.Number.Notation

namespace LiveTemplates.Json

/-- The written form of a character inside a text. -/
def escapeChar (c : Char) : List Char :=
  match c with
  | '"' => ['\\', '"']
  | '\\' => ['\\', '\\']
  | '\x08' => ['\\', 'b']
  | '\x0c' => ['\\', 'f']
  | '\n' => ['\\', 'n']
  | '\r' => ['\\', 'r']
  | '\t' => ['\\', 't']
  | c => if c.toNat < 32 then ['\\', 'u'] ++ Number.hexChars 4 c.toNat else [c]

/-- A text between quotation marks. -/
def writeText (s : String) : String :=
  String.ofList ('"' :: (s.toList.flatMap escapeChar ++ ['"']))

/-- The text of a positive finite number, always with a fraction or an exponent. -/
def magnitudeChars (x : Number.Binary) : List Char :=
  let d := x.shortest .even
  let ds := Number.digitChars d.digits
  let point := (ds.length : Int) + d.exponent
  if -5 < point && point ≤ 16 then
    if (ds.length : Int) ≤ point then Number.positional ds point ++ ['.', '0']
    else Number.positional ds point
  else Number.scientific ds (point - 1)

/-- A number; one that no text stands for is written as null. -/
def writeNumber (x : Float) : String :=
  if x.isNaN || x.isInf then "null"
  else
    let b := Number.Binary.ofFloat x
    String.ofList ((if Number.isNegative x then ['-'] else []) ++
      (if b.mantissa == 0 then ['0', '.', '0'] else magnitudeChars b))

/-! ## ASCII only -/

/-- An escape by code unit. -/
def escapeUnit (n : Nat) : List Char :=
  ['\\', 'u'] ++ Number.hexChars 4 n

/-- The written form of a character inside a text, in ASCII. -/
def escapeAscii (c : Char) : List Char :=
  if c.toNat < 128 then escapeChar c
  else if c.toNat < 0x10000 then escapeUnit c.toNat
  else
    let n := c.toNat - 0x10000
    escapeUnit (0xD800 + n / 0x400) ++ escapeUnit (0xDC00 + n % 0x400)

/-- A text between quotation marks, in ASCII. -/
def writeAsciiText (s : String) : String :=
  String.ofList ('"' :: (s.toList.flatMap escapeAscii ++ ['"']))

mutual

/-- A datum on one line, in ASCII. -/
def write : Json → String
  | .null => "null"
  | .bool b => if b then "true" else "false"
  | .integer n => toString n
  | .double x => writeNumber x
  | .text s => writeAsciiText s
  | .list items => "[" ++ ",".intercalate (writeItems items) ++ "]"
  | .record entries => "\x7b" ++ ",".intercalate (writeEntries entries) ++ "\x7d"

def writeItems : List Json → List String
  | [] => []
  | j :: js => write j :: writeItems js

def writeEntries : List (String × Json) → List String
  | [] => []
  | (name, j) :: rest => (writeAsciiText name ++ ":" ++ write j) :: writeEntries rest

end

end LiveTemplates.Json
