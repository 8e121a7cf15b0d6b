/-
# LiveTemplates.Json.Reader -- data from text

A reader takes characters and gives a value with the characters behind it, or a
fault.  The first fault in the text decides: the text ends inside a value
(`cutShort`) or a character does not fit (`malformed`).

Numbers are read with a significand of 64 bits; further digits of a longer
number only count as places.  A number too large for a double is malformed, and
so is a value nested more than 127 levels deep.  A value that is passed over
without being kept (`skim`) is spared these two rules and the pairing of
surrogate escapes.
-/
import LiveTemplates.Json.Basic
import LiveTemplates.Number.Hexadecimal
import LiveTemplates.Number.Reading

namespace LiveTemplates.Json

/-- What a reader gives: a value and the characters behind it. -/
abbrev Read (α : Type) := Except Fault (α × List Char)

/-- White space between the parts of a text. -/
def isSpace (c : Char) : Bool :=
  c == ' ' || c == '\n' || c == '\t' || c == '\r'

/-- The characters behind white space. -/
def skipSpace (cs : List Char) : List Char :=
  cs.dropWhile isSpace

/-- The rest of a literal whose first letter has been read. -/
def readWord : List Char → List Char → Except Fault (List Char)
  | [], cs => .ok cs
  | _ :: _, [] => .error .cutShort
  | w :: word, c :: cs => if c == w then readWord word cs else .error .malformed

/-! ## Numbers -/

/-- A number while it is read: its significand, below 2^64, and its power of ten. -/
structure Significand where
  digits : Nat
  exponent : Int

/-- The double nearest to the significand, times or divided by its power of ten;
`none` where that is too large.  Powers beyond 10^308 are taken in steps. -/
def Significand.scaleDown : Nat → Float → Nat → Float
  | 0, x, _ => x
  | n + 1, x, e =>
    if e ≤ 308 then x / Float.ofScientific 1 false e
    else if x == 0.0 then x
    else scaleDown n (x / Float.ofScientific 1 false 308) (e - 308)

/-- The double that a significand stands for, unless it is out of range. -/
def Significand.value? (s : Significand) : Option Float :=
  let x := Float.ofScientific s.digits false 0
  if 0 ≤ s.exponent then
    if s.exponent ≤ 308 then
      let y := x * Float.ofScientific 1 false s.exponent.toNat
      if y.isInf then none else some y
    else if x == 0.0 then some x else none
  else some (scaleDown 8 x s.exponent.natAbs)

/-- Takes digits into the significand while it stays below 2^64, counting those
behind the point; the result tells whether a digit had to be left. -/
def takeDigits (fraction : Bool) : Significand → List Char → Significand × List Char × Bool
  | s, [] => (s, [], false)
  | s, c :: cs =>
    if Number.isDigit c then
      let n := s.digits * 10 + (c.toNat - '0'.toNat)
      if n < Nat.pow 2 64 then
        takeDigits fraction ⟨n, if fraction then s.exponent - 1 else s.exponent⟩ cs
      else (s, c :: cs, true)
    else (s, c :: cs, false)

/-- Gives the number its sign, unless it is out of range. -/
def finishNumber (negative : Bool) (s : Significand) (cs : List Char) : Read Json :=
  match s.value? with
  | some x => .ok (.double (if negative then -x else x), cs)
  | none => .error .malformed

/-- The exponent behind `e`: an exponent beyond 32 bits makes the number zero or
too large. -/
def readExponent (skim negative : Bool) (s : Significand) (cs : List Char) : Read Json :=
  let (down, cs) := match cs with
    | '+' :: rest => (false, rest)
    | '-' :: rest => (true, rest)
    | _ => (false, cs)
  match cs with
  | [] => .error (if skim then .malformed else .cutShort)
  | c :: _ =>
    if !Number.isDigit c then .error .malformed
    else
      let e := Number.ofDigits (cs.takeWhile Number.isDigit)
      let rest := cs.dropWhile Number.isDigit
      if skim then .ok (.null, rest)
      else if e < Nat.pow 2 31 then
        finishNumber negative ⟨s.digits, if down then s.exponent - e else s.exponent + e⟩ rest
      else if s.digits != 0 && !down then .error .malformed
      else .ok (.double (if negative then -0.0 else 0.0), rest)

/-- What may follow the whole part and the fraction of a number. -/
def readScaled (skim negative : Bool) (s : Significand) (cs : List Char) : Read Json :=
  match cs with
  | c :: rest =>
    if c == 'e' || c == 'E' then readExponent skim negative s rest
    else if skim then .ok (.null, cs) else finishNumber negative s cs
  | [] => if skim then .ok (.null, []) else finishNumber negative s []

/-- The fraction behind the point. -/
def readFraction (skim negative : Bool) (s : Significand) (cs : List Char) : Read Json :=
  match cs with
  | [] => .error (if skim then .malformed else .cutShort)
  | c :: _ =>
    if !Number.isDigit c then .error .malformed
    else
      let (s, rest, _) := takeDigits true s cs
      readScaled skim negative s (rest.dropWhile Number.isDigit)

/-- A number behind its sign. -/
def readNumber (skim negative : Bool) (cs : List Char) : Read Json :=
  match cs with
  | [] => .error (if skim then .malformed else .cutShort)
  | c :: _ =>
    if !Number.isDigit c then .error .malformed
    else if c == '0' && ((cs.drop 1).head?.any Number.isDigit) then .error .malformed
    else
      let (s, rest, long) := takeDigits false ⟨0, 0⟩ cs
      let places := (rest.takeWhile Number.isDigit).length
      let rest := rest.dropWhile Number.isDigit
      let s : Significand := ⟨s.digits, places⟩
      match rest with
      | '.' :: after => readFraction skim negative s after
      | c :: _ =>
        if c == 'e' || c == 'E' || long then readScaled skim negative s rest
        else .ok (whole s.digits, rest)
      | [] => if long then readScaled skim negative s rest else .ok (whole s.digits, rest)
where
  whole (n : Nat) : Json :=
    if !negative then .integer n
    else if n == 0 || n > Nat.pow 2 63 then .double (-(Float.ofScientific n false 0))
    else .integer (-(n : Int))

/-! ## Texts -/

/-- Four hexadecimal digits. -/
def readUnit (cs : List Char) : Read Nat :=
  match cs with
  | a :: b :: c :: d :: rest =>
    match Number.hexDigit? a, Number.hexDigit? b, Number.hexDigit? c, Number.hexDigit? d with
    | some a, some b, some c, some d => .ok (((a * 16 + b) * 16 + c) * 16 + d, rest)
    | _, _, _, _ => .error .malformed
  | _ => if (String.ofList cs).utf8ByteSize < 4 then .error .cutShort else .error .malformed

/-- The character of an escape by code units, behind `\u`. -/
def readCodeUnits (skim : Bool) (cs : List Char) : Except Fault (Char × List Char) := do
  let (n, rest) ← readUnit cs
  if skim then return ('?', rest)
  if 0xDC00 ≤ n && n ≤ 0xDFFF then throw .malformed
  if n < 0xD800 || 0xDBFF < n then return (Char.ofNat n, rest)
  match rest with
  | [] => throw .cutShort
  | '\\' :: rest =>
    match rest with
    | [] => throw .cutShort
    | 'u' :: rest =>
      let (m, rest) ← readUnit rest
      if m < 0xDC00 || 0xDFFF < m then throw .malformed
      return (Char.ofNat (0x10000 + (n - 0xD800) * 0x400 + (m - 0xDC00)), rest)
    | _ => throw .malformed
  | _ => throw .malformed

/-- One character inside a text, from an escape behind the backslash. -/
def readEscape (skim : Bool) (cs : List Char) : Read Char :=
  match cs with
  | [] => .error .cutShort
  | '"' :: rest => .ok ('"', rest)
  | '\\' :: rest => .ok ('\\', rest)
  | '/' :: rest => .ok ('/', rest)
  | 'b' :: rest => .ok ('\x08', rest)
  | 'f' :: rest => .ok ('\x0c', rest)
  | 'n' :: rest => .ok ('\n', rest)
  | 'r' :: rest => .ok ('\r', rest)
  | 't' :: rest => .ok ('\t', rest)
  | 'u' :: rest => readCodeUnits skim rest
  | _ => .error .malformed

/-- The characters up to the closing quotation mark; `fuel` bounds their number. -/
def readText (skim : Bool) : Nat → List Char → List Char → Read String
  | 0, _, _ => .error .cutShort
  | _ + 1, _, [] => .error .cutShort
  | fuel + 1, done, c :: cs =>
    if c == '"' then .ok (String.ofList done.reverse, cs)
    else if c == '\\' then
      match readEscape skim cs with
      | .ok (c, rest) => readText skim fuel (c :: done) rest
      | .error e => .error e
    else if c.toNat < 32 then .error .malformed
    else readText skim fuel (c :: done) cs

/-! ## Lists and records -/

/-- The items of a list behind its bracket or behind an item; `item` reads one. -/
def readItems (item : List Char → Read Json) : Nat → List Json → List Char → Read (List Json)
  | 0, _, _ => .error .cutShort
  | fuel + 1, done, cs =>
    match skipSpace cs with
    | [] => .error .cutShort
    | ']' :: rest => .ok (done.reverse, rest)
    | c :: rest =>
      let next : Except Fault (List Char) :=
        if done.isEmpty then .ok (c :: rest)
        else if c == ',' then
          match skipSpace rest with
          | [] => .error .cutShort
          | ']' :: _ => .error .malformed
          | rest => .ok rest
        else .error .malformed
      match next with
      | .error e => .error e
      | .ok cs =>
        match item cs with
        | .error e => .error e
        | .ok (j, rest) => readItems item fuel (j :: done) rest

/-- The name of the next entry of a record, or `none` at its closing brace. -/
def readName (skim first : Bool) (cs : List Char) : Read (Option String) :=
  match skipSpace cs with
  | [] => .error .cutShort
  | '\x7d' :: rest => .ok (none, rest)
  | c :: rest =>
    let next : Except Fault (List Char) :=
      if first then .ok (c :: rest)
      else if c == ',' then
        match skipSpace rest with
        | [] => .error .cutShort
        | rest => .ok rest
      else .error .malformed
    match next with
    | .error e => .error e
    | .ok ('"' :: rest) => (readText skim (rest.length + 1) [] rest).map fun (s, cs) => (some s, cs)
    | .ok _ => .error .malformed

/-- The colon between a name and its value. -/
def readColon (cs : List Char) : Except Fault (List Char) :=
  match skipSpace cs with
  | [] => .error .cutShort
  | ':' :: rest => .ok rest
  | _ => .error .malformed

/-- The entries of a record behind its brace or behind an entry. -/
def readEntries (skim : Bool) (item : List Char → Read Json) :
    Nat → List (String × Json) → List Char → Read (List (String × Json))
  | 0, _, _ => .error .cutShort
  | fuel + 1, done, cs =>
    match readName skim done.isEmpty cs with
    | .error e => .error e
    | .ok (none, rest) => .ok (done.reverse, rest)
    | .ok (some name, rest) =>
      match readColon rest with
      | .error e => .error e
      | .ok rest =>
        match item rest with
        | .error e => .error e
        | .ok (j, rest) => readEntries skim item fuel ((name, j) :: done) rest

/-! ## Values -/

/-- A value that is no list and no record. -/
def readScalar (skim : Bool) (c : Char) (cs : List Char) : Read Json :=
  match c with
  | 'n' => (readWord "ull".toList cs).map fun cs => (.null, cs)
  | 't' => (readWord "rue".toList cs).map fun cs => (.bool true, cs)
  | 'f' => (readWord "alse".toList cs).map fun cs => (.bool false, cs)
  | '"' => (readText skim (cs.length + 1) [] cs).map fun (s, cs) => (.text s, cs)
  | '-' => readNumber skim true cs
  | _ => if Number.isDigit c then readNumber skim false (c :: cs) else .error .malformed

/-- A value; `depth` bounds the levels of lists and records. -/
def readValue (skim : Bool) : Nat → List Char → Read Json
  | depth, cs =>
    match skipSpace cs with
    | [] => .error .cutShort
    | c :: rest =>
      if c == '[' || c == '\x7b' then
        match depth with
        | 0 => .error .malformed
        | depth + 1 =>
          if c == '[' then
            (readItems (readValue skim depth) (rest.length + 1) [] rest).map
              fun (items, cs) => (.list items, cs)
          else
            (readEntries skim (readValue skim depth) (rest.length + 1) [] rest).map
              fun (entries, cs) => (.record entries, cs)
      else readScalar skim c rest

/-- The levels of lists and records that a value may have. -/
def maxDepth : Nat := 127

/-- A value that is passed over. -/
def skimValue (cs : List Char) : Except Fault (List Char) :=
  (readValue true cs.length cs).map (·.2)

/-- Nothing but white space may follow a value. -/
def expectEnd (cs : List Char) : Except Fault Unit :=
  if (skipSpace cs).isEmpty then .ok () else .error .malformed

/-- The datum that a text stands for. -/
def read (s : String) : Except Fault Json := do
  let (j, rest) ← readValue false maxDepth s.toList
  expectEnd rest
  return j

end LiveTemplates.Json
