/-
# LiveTemplates.Script.Token -- words, numbers, texts and marks of a script

`scan` reads the next token of a source and tells whether a line break stands in
front of it.  Two kinds of tokens depend on what surrounds them and are read on
demand: a pattern between slashes (`rescanPattern`) and the piece of a text with
expressions that follows a closing brace (`rescanTemplate`).

Escapes in a text give code points.  A surrogate without its partner cannot
stand in a text; it is written as the replacement character and four hexadecimal
digits, and in such a text the replacement character is written the same way.
-/
import LiveTemplates.Number.Binary
import LiveTemplates.Number.Hexadecimal
import LiveTemplates.Number.Reading
import LiveTemplates.Text.Identifier
import LiveTemplates.Script.Term

namespace LiveTemplates.Script

/-- What a token is. -/
inductive TokenKind where
  /-- An identifier or a keyword; `escaped` if some character of it is. -/
  | word (text : String) (escaped : Bool)
  /-- A name behind a hash sign. -/
  | privateName
  | number (x : Float)
  | bigInteger
  | text (s : String)
  /-- A piece of a text with expressions, up to the next expression or the end
  (`last`); `none` if an escape in it is wrong. -/
  | piece (s : Option String) (last : Bool)
  | pattern
  /-- A mark such as `+=`. -/
  | mark (m : String)
  | finish
deriving Repr, DecidableEq, Inhabited

/-- A place in a source: the characters from there on and their position. -/
structure Cursor where
  rest : List Char
  pos : Nat
deriving Repr, Inhabited

/-- A token with its place and whether a line break stands in front of it. -/
structure Token where
  kind : TokenKind
  span : Span
  afterBreak : Bool
deriving Repr, Inhabited

/-- The cursor behind the next `n` characters. -/
def Cursor.skip (c : Cursor) (n : Nat) : Cursor :=
  ⟨c.rest.drop n, c.pos + n⟩

/-! ## Blanks and comments -/

def isLineBreak (c : Char) : Bool :=
  c == '\n' || c == '\r' || c == '\u2028' || c == '\u2029'

/-- Blanks between tokens. -/
def isScriptBlank (c : Char) : Bool :=
  c == ' ' || c == '\t' || c == '\x0b' || c == '\x0c' || c == '\u00a0' || c == '\ufeff'
    || c == '\u0085' || c == '\u1680' || ('\u2000' ≤ c && c ≤ '\u200b') || c == '\u202f'
    || c == '\u205f' || c == '\u3000'

/-- Behind a comment that `*/` ends, and whether it held a line break. -/
def skipBlockComment : List Char → Nat → Bool → Option (Cursor × Bool)
  | [], _, _ => none
  | '*' :: '/' :: rest, pos, broke => some (⟨rest, pos + 2⟩, broke)
  | c :: rest, pos, broke => skipBlockComment rest (pos + 1) (broke || isLineBreak c)

/-- Behind blanks and comments, and whether a line break was among them; `none`
for a comment without end.  `fuel` bounds the number of blanks and comments. -/
def skipTrivia : Nat → Cursor → Bool → Option (Cursor × Bool)
  | 0, c, broke => some (c, broke)
  | fuel + 1, c, broke =>
    match c.rest with
    | '/' :: '/' :: rest =>
      let n := (rest.takeWhile fun x => !isLineBreak x).length
      skipTrivia fuel (c.skip (n + 2)) broke
    | '/' :: '*' :: rest =>
      match skipBlockComment rest (c.pos + 2) false with
      | none => none
      | some (c, b) => skipTrivia fuel c (broke || b)
    | x :: _ =>
      if isLineBreak x then skipTrivia fuel (c.skip 1) true
      else if isScriptBlank x then skipTrivia fuel (c.skip 1) broke
      else some (c, broke)
    | [] => some (c, broke)

/-! ## Escapes -/

/-- Exactly `n` hexadecimal digits. -/
def takeHex (n : Nat) (cs : List Char) : Option (Nat × List Char) :=
  let ds := cs.take n
  if ds.length == n && ds.all (fun c => (Number.hexDigit? c).isSome) then some (Number.ofHexDigits ds, cs.drop n)
  else none

/-- A code point between braces, behind the opening one. -/
def takeBraced (cs : List Char) : Option (Nat × List Char) :=
  let ds := cs.takeWhile fun c => (Number.hexDigit? c).isSome
  match cs.dropWhile fun c => (Number.hexDigit? c).isSome with
  | '\x7d' :: rest =>
    if ds.isEmpty || Number.ofHexDigits ds > 0x10FFFF then none else some (Number.ofHexDigits ds, rest)
  | _ => none

/-- A code point that stands for itself: no half of a surrogate pair. -/
def isScalar (n : Nat) : Bool :=
  n < 0xD800 || 0xDFFF < n

/-- The code point of an escape behind `\u`; two escapes that pair up give one. -/
def takeUnicode (cs : List Char) : Option (Nat × List Char) :=
  match cs with
  | '\x7b' :: rest => takeBraced rest
  | _ =>
    match takeHex 4 cs with
    | none => none
    | some (high, rest) =>
      if 0xD800 ≤ high && high ≤ 0xDBFF then
        match rest with
        | '\\' :: 'u' :: after =>
          match takeHex 4 after with
          | none => none
          | some (low, behind) =>
            if 0xDC00 ≤ low && low ≤ 0xDFFF then
              some (0x10000 + (high - 0xD800) * 0x400 + (low - 0xDC00), behind)
            else some (high, rest)
        | _ => some (high, rest)
      else some (high, rest)

/-- What an escape stands for. -/
inductive Escape where
  | points (ps : List Nat)
  | wrong

/-- At most `n` octal digits. -/
def takeOctal (n : Nat) (cs : List Char) : List Char :=
  (cs.take n).takeWhile fun c => '0' ≤ c && c ≤ '7'

/-- The escape behind a backslash, in a text between quotation marks or in a text
with expressions, where octal escapes are wrong. -/
def takeEscape (inTemplate : Bool) (cs : List Char) : Option (Escape × List Char) :=
  match cs with
  | [] => none
  | c :: rest =>
    match c with
    | '\r' => some (.points [], match rest with | '\n' :: r => r | _ => rest)
    | '\n' | '\u2028' | '\u2029' => some (.points [], rest)
    | 'b' => some (.points [8], rest)
    | 'f' => some (.points [12], rest)
    | 'n' => some (.points [10], rest)
    | 'r' => some (.points [13], rest)
    | 't' => some (.points [9], rest)
    | 'v' => some (.points [11], rest)
    | 'x' =>
      match takeHex 2 rest with
      | some (n, rest) => some (.points [n], rest)
      | none => some (.wrong, rest)
    | 'u' =>
      match takeUnicode rest with
      | some (n, rest) => some (.points [n], rest)
      | none => some (.wrong, rest)
    | c =>
      if c == '0' && !(rest.head?.any Number.isDigit) then some (.points [0], rest)
      else if inTemplate && Number.isDigit c then some (.wrong, rest)
      else if '0' ≤ c && c ≤ '7' then
        let ds := c :: takeOctal (if c ≤ '3' then 2 else 1) rest
        let n := ds.foldl (fun n d => n * 8 + (d.toNat - '0'.toNat)) 0
        some (.points [n], cs.drop ds.length)
      else some (.points [c.toNat], rest)

/-- The text of code points, in which a lone surrogate is written out. -/
def textOfPoints (ps : List Nat) : String :=
  if ps.all isScalar then String.ofList (ps.map Char.ofNat)
  else String.ofList <| ps.flatMap fun p =>
    if isScalar p && p != 0xFFFD then [Char.ofNat p] else '\ufffd' :: Number.hexChars 4 p

/-! ## Texts -/

/-- The code points up to the closing quotation mark, last first. -/
def takeText (mark : Char) : Nat → List Char → List Nat → Option (List Nat × List Char)
  | 0, _, _ => none
  | fuel + 1, cs, done =>
    match cs with
    | [] => none
    | c :: rest =>
      if c == mark then some (done, rest)
      else if c == '\\' then
        match takeEscape false rest with
        | some (.points ps, rest) => takeText mark fuel rest (ps.reverse ++ done)
        | _ => none
      else if c == '\n' || c == '\r' then none
      else takeText mark fuel rest (c.toNat :: done)

/-- A piece of a text with expressions, last code point first: up to an opening
`${` or the closing mark.  `good` is kept while no escape is wrong. -/
def takePiece : Nat → List Char → List Nat → Bool → Option (List Nat × Bool × Bool × List Char)
  | 0, _, _, _ => none
  | fuel + 1, cs, done, good =>
    match cs with
    | [] => none
    | '`' :: rest => some (done, good, true, rest)
    | '$' :: '\x7b' :: rest => some (done, good, false, rest)
    | '\r' :: '\n' :: rest => takePiece fuel rest (10 :: done) good
    | '\r' :: rest => takePiece fuel rest (10 :: done) good
    | '\\' :: rest =>
      match takeEscape true rest with
      | some (.points ps, rest) => takePiece fuel rest (ps.reverse ++ done) good
      | some (.wrong, rest) => takePiece fuel rest done false
      | none => none
    | c :: rest => takePiece fuel rest (c.toNat :: done) good

/-! ## Numbers -/

/-- The integer value of digits in a base that is a power of two.  Up to 64 bits
the result is the nearest double; longer numbers are rounded at every digit. -/
def radixValue (bits : Nat) (ds : List Char) : Float :=
  let ds := ds.dropWhile (· == '0')
  if ds.length * bits ≤ 64 then
    Float.ofScientific (ds.foldl (fun n d => n * Nat.pow 2 bits + (Number.hexDigit? d).getD 0) 0)
      false 0
  else
    ds.foldl (fun x d =>
      x * Float.ofScientific (Nat.pow 2 bits) false 0 +
        Float.ofScientific ((Number.hexDigit? d).getD 0) false 0)
      0.0

/-- A run of digits in which single separators may stand between two digits. -/
def takeDigitRun (ok : Char → Bool) : Nat → List Char → Option (List Char × List Char)
  | 0, cs => some ([], cs)
  | fuel + 1, cs =>
    match cs with
    | [] => some ([], [])
    | c :: rest =>
      if ok c then (takeDigitRun ok fuel rest).map fun (ds, r) => (c :: ds, r)
      else if c == '_' then
        match rest with
        | d :: rest => if ok d then (takeDigitRun ok fuel rest).map fun (ds, r) => (d :: ds, r)
                       else none
        | [] => none
      else some ([], cs)

/-- A run that starts with a digit. -/
def takeDigits (ok : Char → Bool) (cs : List Char) : Option (List Char × List Char) :=
  if cs.head?.any ok then takeDigitRun ok (cs.length + 1) cs else none

/-- No name and no digit may follow a number. -/
def endsNumber (cs : List Char) : Bool :=
  match cs with
  | [] => true
  | c :: _ => !(Text.isIdentifierStart c || c == '\\' || Number.isDigit c)

/-- The exponent of a number, if one follows; the result is empty without. -/
def takeExponent (cs : List Char) : Option (List Char × List Char) :=
  match cs with
  | e :: rest =>
    if e == 'e' || e == 'E' then
      let (sign, rest) : List Char × List Char := match rest with
        | '-' :: r => (['-'], r)
        | '+' :: r => ([], r)
        | r => ([], r)
      (takeDigits Number.isDigit rest).map fun (ds, r) => (sign ++ ds, r)
    else some ([], cs)
  | [] => some ([], cs)

/-- The value of decimal digits before and behind the point and an exponent. -/
def decimalValue (whole fraction exponent : List Char) : Float :=
  let e := (Number.exponent? exponent).getD 0
  Number.nearest (Number.ofDigits (whole ++ fraction)) (e - fraction.length)

/-- The value of a decimal integer.  Up to nineteen digits the result is the
nearest double; longer numbers are rounded at every digit. -/
def integerValue (ds : List Char) : Float :=
  if ds.length ≤ 19 then Number.nearest (Number.ofDigits ds) 0
  else ds.foldl (fun x d =>
    if x.isInf then x
    else Number.nearest (((Number.Binary.ofFloat x).toNat?.getD 0) * 10 + (Number.hexDigit? d).getD 0) 0)
    0.0

/-- What follows the whole part of a decimal number. -/
def takeFraction (whole : List Char) (cs : List Char) : Option (TokenKind × List Char) := do
  let pointed := cs.head? == some '.'
  let (fraction, rest) ← match cs with
    | '.' :: rest =>
      if rest.head?.any Number.isDigit then takeDigits Number.isDigit rest else some ([], rest)
    | _ => some ([], cs)
  let (exponent, rest) ← takeExponent rest
  let value :=
    if pointed || !exponent.isEmpty then decimalValue whole fraction exponent
    else integerValue whole
  if endsNumber rest then some (.number value, rest) else none

/-- Digits in another base behind their two-character mark. -/
def takeRadix (bits : Nat) (ok : Char → Bool) (cs : List Char) : Option (TokenKind × List Char) := do
  let (ds, rest) ← takeDigits ok cs
  match rest with
  | 'n' :: rest => if endsNumber rest then some (.bigInteger, rest) else none
  | _ => if endsNumber rest then some (.number (radixValue bits ds), rest) else none

def isOctal (c : Char) : Bool := '0' ≤ c && c ≤ '7'

/-- A number that starts with zero and a further digit: octal if all its digits
are, decimal otherwise. -/
def takeLeadingZero (cs : List Char) : Option (TokenKind × List Char) :=
  let ds := cs.takeWhile Number.isDigit
  let rest := cs.dropWhile Number.isDigit
  if ds.all isOctal then
    if endsNumber rest then some (.number (radixValue 3 ds), rest) else none
  else takeFraction ds rest

/-- A number. -/
def takeNumber (cs : List Char) : Option (TokenKind × List Char) :=
  match cs with
  | '.' :: rest => do
    let (fraction, rest) ← takeDigits Number.isDigit rest
    let (exponent, rest) ← takeExponent rest
    if endsNumber rest then some (.number (decimalValue [] fraction exponent), rest) else none
  | '0' :: c :: rest =>
    if c == 'b' || c == 'B' then takeRadix 1 (fun d => d == '0' || d == '1') rest
    else if c == 'o' || c == 'O' then takeRadix 3 isOctal rest
    else if c == 'x' || c == 'X' then takeRadix 4 (fun d => (Number.hexDigit? d).isSome) rest
    else if Number.isDigit c then takeLeadingZero cs
    else if c == '_' then none
    else decimal cs
  | _ => decimal cs
where
  decimal (cs : List Char) : Option (TokenKind × List Char) := do
    let (whole, rest) ← takeDigits Number.isDigit cs
    match rest with
    | 'n' :: rest => if endsNumber rest then some (.bigInteger, rest) else none
    | _ => takeFraction whole rest

/-! ## Words -/

/-- The characters of an identifier, last first, and whether one is escaped. -/
def takeWord : Nat → List Char → List Char → Bool → Option (List Char × Bool × List Char)
  | 0, _, _, _ => none
  | fuel + 1, cs, done, escaped =>
    let fits := if done.isEmpty then Text.isIdentifierStart else Text.isIdentifierPart
    match cs with
    | '\\' :: 'u' :: rest =>
      let point := match rest with
        | '\x7b' :: rest => takeBraced rest
        | _ => takeHex 4 rest
      match point with
      | some (n, rest) =>
        if isScalar n && fits (Char.ofNat n) then takeWord fuel rest (Char.ofNat n :: done) true
        else none
      | none => none
    | '\\' :: _ => none
    | c :: rest =>
      if fits c then takeWord fuel rest (c :: done) escaped
      else if done.isEmpty then none
      else some (done, escaped, cs)
    | [] => if done.isEmpty then none else some (done, escaped, [])

/-! ## Marks -/

/-- The marks, longest first. -/
def marks : List String :=
  [">>>=", "...", "===", "!==", "**=", "<<=", ">>=", ">>>", "&&=", "||=", "??=",
   "=>", "==", "!=", "<=", ">=", "&&", "||", "??", "?.", "++", "--", "+=", "-=", "*=", "/=", "%=",
   "&=", "|=", "^=", "<<", ">>", "**",
   "\x7b", "\x7d", "(", ")", "[", "]", ".", ";", ",", "<", ">", "+", "-", "*", "/", "%", "&", "|",
   "^", "!", "~", "?", ":", "=", "@"]

/-- The longest mark in front; `?.` in front of a digit is no mark. -/
def takeMark (cs : List Char) : Option (TokenKind × List Char) :=
  match marks.find? fun m =>
    m.toList.isPrefixOf cs && !(m == "?." && (cs.drop 2).head?.any Number.isDigit) with
  | some m => some (.mark m, cs.drop m.length)
  | none => none

/-! ## Tokens -/

/-- The token at a place without blanks in front, and the characters behind it. -/
def takeToken (cs : List Char) : Option (TokenKind × List Char) :=
  match cs with
  | [] => some (.finish, [])
  | c :: rest =>
    if c == '"' || c == '\'' then
      (takeText c (cs.length + 1) rest []).map fun (ps, r) => (.text (textOfPoints ps.reverse), r)
    else if c == '`' then
      (takePiece (cs.length + 1) rest [] true).map fun (ps, good, last, r) =>
        (.piece (if good then some (textOfPoints ps.reverse) else none) last, r)
    else if Number.isDigit c || (c == '.' && rest.head?.any Number.isDigit) then takeNumber cs
    else if Text.isIdentifierStart c || c == '\\' then
      (takeWord (cs.length + 1) cs [] false).map fun (w, escaped, r) =>
        (.word (String.ofList w.reverse) escaped, r)
    else if c == '#' then
      (takeWord (cs.length + 1) rest [] false).map fun (_, _, r) => (.privateName, r)
    else takeMark cs

/-- The next token and the place behind it. -/
def scan (c : Cursor) : Option (Token × Cursor) := do
  let (c, broke) ← skipTrivia (c.rest.length + 1) c false
  let (kind, rest) ← takeToken c.rest
  let stop := c.pos + (c.rest.length - rest.length)
  return (⟨kind, ⟨c.pos, stop⟩, broke⟩, ⟨rest, stop⟩)

/-! ## Tokens read on demand -/

/-- The body of a pattern behind its slash, up to the closing one. -/
def takePatternBody : List Char → Bool → Option (List Char)
  | [], _ => none
  | '\\' :: c :: rest, inClass => if isLineBreak c then none else takePatternBody rest inClass
  | c :: rest, inClass =>
    if isLineBreak c then none
    else if c == '/' && !inClass then some rest
    else takePatternBody rest (if c == '[' then true else if c == ']' then false else inClass)

/-- The flags of a pattern are different letters of `dgimsuvy`. -/
def takeFlags (cs : List Char) : Option (List Char) :=
  let isFlagChar (c : Char) := c.toNat < 128 && Text.isIdentifierPart c
  let fs := cs.takeWhile isFlagChar
  if fs.all ("dgimsuvy".toList.contains ·) && fs.eraseDups.length == fs.length then
    some (cs.dropWhile isFlagChar)
  else none

/-- The pattern that starts with the slash at a place. -/
def rescanPattern (c : Cursor) (broke : Bool) : Option (Token × Cursor) := do
  let rest ← takePatternBody (c.rest.drop 1) false
  let rest ← takeFlags rest
  let stop := c.pos + (c.rest.length - rest.length)
  return (⟨.pattern, ⟨c.pos, stop⟩, broke⟩, ⟨rest, stop⟩)

/-- The piece of a text with expressions that starts with the brace at a place. -/
def rescanTemplate (c : Cursor) : Option (Token × Cursor) := do
  let (ps, good, last, rest) ← takePiece (c.rest.length + 1) (c.rest.drop 1) [] true
  let stop := c.pos + (c.rest.length - rest.length)
  return (⟨.piece (if good then some (textOfPoints ps.reverse) else none) last, ⟨c.pos, stop⟩, false⟩,
    ⟨rest, stop⟩)

end LiveTemplates.Script
