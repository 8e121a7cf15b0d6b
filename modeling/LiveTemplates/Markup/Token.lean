/-
# LiveTemplates.Markup.Token -- the tokens of a markup text

`scan` reads one token, or a few that belong together, from the front of a text.
How a text is read depends on the element that it stands in: inside of some
elements there are no tags but the one that ends the element (`Mode`).

A text without end never fails; a tag that the end cuts off is dropped.
-/
import LiveTemplates.Markup.Entities
import LiveTemplates.Node

namespace LiveTemplates.Markup

/-- A start tag or an end tag. -/
structure Tag where
  isEnd : Bool := false
  name : String
  /-- Names and values, each name once. -/
  attrs : List (String × String) := []
  selfClosing : Bool := false
deriving Repr, Inhabited

/-- A document type. -/
structure Doctype where
  name : Option String := none
  publicId : Option String := none
  systemId : Option String := none
  /-- The declaration is broken. -/
  broken : Bool := false
deriving Repr, Inhabited

inductive Token where
  | doctype (d : Doctype)
  | tag (t : Tag)
  | comment (s : String)
  | char (c : Char)
  /-- The character NUL where it does not count. -/
  | null
  | finish
deriving Repr, Inhabited

/-- How a text is read. -/
inductive Mode where
  /-- With tags, comments and references. -/
  | markup
  /-- With references and one end tag. -/
  | titled (name : String)
  /-- With one end tag. -/
  | raw (name : String)
  /-- With one end tag, which may be hidden in a comment. -/
  | script
  /-- To the end. -/
  | plain
deriving Repr, DecidableEq, Inhabited

/-! ## Characters -/

/-- White space inside of tags. -/
def isSpace (c : Char) : Bool :=
  c == '\t' || c == '\n' || c == '\x0c' || c == ' ' || c == '\r'

/-- The replacement for what cannot stand. -/
def replacement : Char := '\ufffd'

/-- A character with NUL replaced. -/
def withoutNull (c : Char) : Char :=
  if c == '\x00' then replacement else c

/-- Line ends as single line feeds. -/
def unifyLines : List Char → List Char
  | [] => []
  | '\r' :: '\n' :: cs => '\n' :: unifyLines cs
  | '\r' :: cs => '\n' :: unifyLines cs
  | c :: cs => c :: unifyLines cs

/-- The characters of a markup text: without a byte order mark in front, line ends
unified. -/
def charsOf (s : String) : List Char :=
  match s.toList with
  | '\ufeff' :: cs => unifyLines cs
  | cs => unifyLines cs

/-- A text in small ASCII letters. -/
def lowercase (cs : List Char) : String :=
  String.ofList (cs.map Char.toLower)

/-! ## References -/

/-- The characters that the code points 128 to 159 stand for; 0 where there is none. -/
def windowsPoints : List Nat :=
  [0x20AC, 0, 0x201A, 0x0192, 0x201E, 0x2026, 0x2020, 0x2021, 0x02C6, 0x2030, 0x0160, 0x2039,
   0x0152, 0, 0x017D, 0, 0, 0x2018, 0x2019, 0x201C, 0x201D, 0x2022, 0x2013, 0x2014, 0x02DC,
   0x2122, 0x0161, 0x203A, 0x0153, 0, 0x017E, 0x0178]

/-- The character of a reference by number. -/
def numericChar (n : Nat) : Char :=
  if n = 0 ∨ 0x10FFFF < n ∨ (0xD800 ≤ n ∧ n ≤ 0xDFFF) then replacement
  else if 0x80 ≤ n ∧ n ≤ 0x9F then
    match windowsPoints[n - 0x80]? with
    | some (p + 1) => Char.ofNat (p + 1)
    | _ => Char.ofNat n
  else Char.ofNat n

/-- Behind digits, with or without the semicolon that ends a reference. -/
def dropSemicolon : List Char → List Char
  | ';' :: cs => cs
  | cs => cs

/-- A reference by number, behind `&#`. -/
def numericReference? (cs : List Char) : Option (Char × List Char) :=
  let isHex := match cs with
    | 'x' :: _ | 'X' :: _ => true
    | _ => false
  let ok (c : Char) := if isHex then (Number.hexDigit? c).isSome else c.isDigit
  let body := if isHex then cs.drop 1 else cs
  let ds := body.takeWhile ok
  if ds.isEmpty then none
  else
    let base := if isHex then 16 else 10
    let n := ds.foldl (fun n d => n * base + (Number.hexDigit? d).getD 0) 0
    some (numericChar n, dropSemicolon (body.dropWhile ok))

/-- May a name without semicolon not end here inside of a value? -/
def continuesValue : List Char → Bool
  | c :: _ => c == '=' || c.isAlphanum
  | [] => false

/-- The characters of a reference behind `&`; without one the sign stands for itself. -/
def reference (inValue : Bool) (cs : List Char) : List Char × List Char :=
  match cs with
  | '#' :: rest =>
    match numericReference? rest with
    | some (c, rest) => ([c], rest)
    | none => (['&'], cs)
  | _ =>
    match longestEntity? cs with
    | none => (['&'], cs)
    | some e =>
      let rest := cs.drop e.name.length
      if inValue && e.name.getLast? != some ';' && continuesValue rest then (['&'], cs)
      else (e.chars, rest)

/-! ## Tags -/

/-- A value between quotation marks, behind the opening one; `none` without the
closing one. -/
def quotedValue (mark : Char) : Nat → List Char → List Char → Option (List Char × List Char)
  | 0, _, _ => none
  | _ + 1, _, [] => none
  | fuel + 1, done, c :: cs =>
    if c == mark then some (done.reverse, cs)
    else if c == '&' then
      let (chars, rest) := reference true cs
      quotedValue mark fuel (chars.reverse ++ done) rest
    else quotedValue mark fuel (withoutNull c :: done) cs

/-- A value without quotation marks; `none` if the text ends in it. -/
def bareValue : Nat → List Char → List Char → Option (List Char × List Char)
  | 0, _, _ => none
  | _ + 1, _, [] => none
  | fuel + 1, done, c :: cs =>
    if isSpace c || c == '>' then some (done.reverse, c :: cs)
    else if c == '&' then
      let (chars, rest) := reference true cs
      bareValue fuel (chars.reverse ++ done) rest
    else bareValue fuel (withoutNull c :: done) cs

/-- A value behind `=`. -/
def attrValue (cs : List Char) : Option (List Char × List Char) :=
  match cs.dropWhile isSpace with
  | '"' :: rest => quotedValue '"' (rest.length + 1) [] rest
  | '\'' :: rest => quotedValue '\'' (rest.length + 1) [] rest
  | '>' :: rest => some ([], '>' :: rest)
  | rest => bareValue (rest.length + 1) [] rest

/-- Does the name of an attribute end in front of this character? -/
def endsAttrName (c : Char) : Bool :=
  isSpace c || c == '/' || c == '=' || c == '>'

/-- An attribute from its first character on, which belongs to its name whatever
it is. -/
def attribute? (first : Char) (cs : List Char) : Option ((String × String) × List Char) :=
  let more := cs.takeWhile fun c => !endsAttrName c
  let rest := cs.dropWhile fun c => !endsAttrName c
  let name := lowercase ((first :: more).map withoutNull)
  match rest.dropWhile isSpace with
  | [] => none
  | '=' :: rest => (attrValue rest).map fun (v, rest) => ((name, String.ofList v), rest)
  | rest => some ((name, ""), rest)

/-- A tag's attributes, up to its end; of several with one name the first counts. -/
def tagRest (t : Tag) : Nat → List Char → Option (Tag × List Char)
  | 0, _ => none
  | fuel + 1, cs =>
    match cs.dropWhile isSpace with
    | [] => none
    | '>' :: rest => some (t, rest)
    | '/' :: '>' :: rest => some ({ t with selfClosing := true }, rest)
    | '/' :: rest => tagRest t fuel rest
    | c :: rest =>
      match attribute? c rest with
      | none => none
      | some ((name, value), rest) =>
        if t.attrs.any (·.1 == name) then tagRest t fuel rest
        else tagRest { t with attrs := t.attrs ++ [(name, value)] } fuel rest

/-- Does the name of a tag end in front of this character? -/
def endsTagName (c : Char) : Bool :=
  isSpace c || c == '/' || c == '>'

/-- A tag from the first letter of its name on; a text that ends in it ends there. -/
def scanTag (isEnd : Bool) (cs : List Char) : List Token × List Char :=
  let name := lowercase ((cs.takeWhile fun c => !endsTagName c).map withoutNull)
  match tagRest { isEnd := isEnd, name := name } (cs.length + 1)
      (cs.dropWhile fun c => !endsTagName c) with
  | some (t, rest) => ([.tag t], rest)
  | none => ([], [])

/-! ## Comments -/

/-- Where in a comment a character stands: what of the end mark is in front of it. -/
inductive CommentPlace where
  | start | startDash | body | dash | ends | bang

/-- The text of a comment, last character first, and what is behind its end. -/
def commentBody : CommentPlace → List Char → List Char → List Char × List Char
  | _, done, [] => (done, [])
  | .start, done, c :: cs =>
    if c == '-' then commentBody .startDash done cs
    else if c == '>' then (done, cs)
    else commentBody .body (withoutNull c :: done) cs
  | .startDash, done, c :: cs =>
    if c == '-' then commentBody .ends done cs
    else if c == '>' then (done, cs)
    else commentBody .body (withoutNull c :: '-' :: done) cs
  | .body, done, c :: cs =>
    if c == '-' then commentBody .dash done cs
    else commentBody .body (withoutNull c :: done) cs
  | .dash, done, c :: cs =>
    if c == '-' then commentBody .ends done cs
    else commentBody .body (withoutNull c :: '-' :: done) cs
  | .ends, done, c :: cs =>
    if c == '>' then (done, cs)
    else if c == '!' then commentBody .bang done cs
    else if c == '-' then commentBody .ends ('-' :: done) cs
    else commentBody .body (withoutNull c :: '-' :: '-' :: done) cs
  | .bang, done, c :: cs =>
    if c == '>' then (done, cs)
    else if c == '-' then commentBody .dash ('!' :: '-' :: '-' :: done) cs
    else commentBody .body (withoutNull c :: '!' :: '-' :: '-' :: done) cs

/-- A comment behind its opening mark. -/
def scanComment (cs : List Char) : List Token × List Char :=
  let (done, rest) := commentBody .start [] cs
  ([.comment (String.ofList done.reverse)], rest)

/-- What looks like a declaration and is none: a comment up to the next `>`. -/
def scanBogusComment (cs : List Char) : List Token × List Char :=
  ([.comment (String.ofList ((cs.takeWhile (· != '>')).map withoutNull))],
    (cs.dropWhile (· != '>')).drop 1)

/-! ## Document types -/

/-- An identifier between quotation marks, behind the opening one; a `>` or the end of the
text cuts it off. -/
def doctypeId (mark : Char) (cs : List Char) : String × Bool × List Char :=
  let id := String.ofList ((cs.takeWhile fun c => c != mark && c != '>').map withoutNull)
  match cs.dropWhile fun c => c != mark && c != '>' with
  | c :: rest => if c == mark then (id, true, rest) else (id, false, c :: rest)
  | [] => (id, false, [])

/-- Up to the end of a declaration. -/
def doctypeEnd (d : Doctype) (cs : List Char) : List Token × List Char :=
  ([.doctype d], (cs.dropWhile (· != '>')).drop 1)

/-- The system identifier of a document type. -/
def doctypeSystem (needed : Bool) (d : Doctype) (cs : List Char) : List Token × List Char :=
  match cs.dropWhile isSpace with
  | '>' :: rest => ([.doctype { d with broken := d.broken || needed }], rest)
  | [] => ([.doctype { d with broken := true }], [])
  | c :: rest =>
    if c == '"' || c == '\'' then
      let (id, closed, rest) := doctypeId c rest
      let d := { d with systemId := some id }
      if !closed then doctypeEnd { d with broken := true } rest
      else match rest.dropWhile isSpace with
        | [] => ([.doctype { d with broken := true }], [])
        | rest => doctypeEnd d rest
    else doctypeEnd { d with broken := true } (c :: rest)

/-- The public identifier of a document type. -/
def doctypePublic (d : Doctype) (cs : List Char) : List Token × List Char :=
  match cs.dropWhile isSpace with
  | c :: rest =>
    if c == '"' || c == '\'' then
      let (id, closed, rest) := doctypeId c rest
      let d := { d with publicId := some id }
      if closed then doctypeSystem false d rest else doctypeEnd { d with broken := true } rest
    else doctypeEnd { d with broken := true } (c :: rest)
  | [] => ([.doctype { d with broken := true }], [])

/-- Is a word in front, in whatever letters? -/
def startsWith (word : String) (cs : List Char) : Bool :=
  (cs.take word.length).map Char.toLower == word.toList

/-- A document type behind its keyword. -/
def scanDoctype (cs : List Char) : List Token × List Char :=
  match cs.dropWhile isSpace with
  | [] => ([.doctype { broken := true }], [])
  | '>' :: rest => ([.doctype { broken := true }], rest)
  | cs =>
    let isNameEnd (c : Char) := isSpace c || c == '>'
    let name := lowercase ((cs.takeWhile fun c => !isNameEnd c).map withoutNull)
    let d : Doctype := { name := some name }
    match (cs.dropWhile fun c => !isNameEnd c).dropWhile isSpace with
    | [] => ([.doctype { d with broken := true }], [])
    | '>' :: rest => ([.doctype d], rest)
    | rest =>
      if startsWith "public" rest then doctypePublic d (rest.drop 6)
      else if startsWith "system" rest then doctypeSystem true d (rest.drop 6)
      else doctypeEnd { d with broken := true } rest

/-! ## Text without tags -/

/-- A character of markup as a token. -/
def charToken (c : Char) : Token :=
  if c == '\x00' then .null else .char c

/-- The characters up to `]]>`. -/
def sectionBody : List Char → List Char → List Char × List Char
  | done, [] => (done, [])
  | done, ']' :: ']' :: '>' :: cs => (done, cs)
  | done, c :: cs => sectionBody (c :: done) cs

/-- Is the end tag of an element in front? -/
def atEndTag (name : String) (cs : List Char) : Bool :=
  match cs with
  | '<' :: '/' :: rest =>
    startsWith name rest &&
      match rest.drop name.length with
      | c :: _ => endsTagName c
      | [] => false
  | _ => false

/-- The text of an element up to its end tag, which is left, last character first. -/
def rawBody (references : Bool) (name : String) :
    Nat → List Char → List Char → List Char × List Char
  | 0, done, cs => (done, cs)
  | _ + 1, done, [] => (done, [])
  | fuel + 1, done, c :: cs =>
    if atEndTag name (c :: cs) then (done, c :: cs)
    else if references && c == '&' then
      let (chars, rest) := reference false cs
      rawBody references name fuel (chars.reverse ++ done) rest
    else rawBody references name fuel (withoutNull c :: done) cs

/-- How deep the text of a script is in comments: inside of one, an inner script
hides the end tag. -/
inductive ScriptPlace where
  | outside | comment | inner

/-- Is the word `script` in front, and its end? -/
def atScriptWord (cs : List Char) : Bool :=
  startsWith "script" cs &&
    match cs.drop 6 with
    | c :: _ => endsTagName c
    | [] => false

/-- The text of a script up to its end tag, which is left, last character first. -/
def scriptBody : ScriptPlace → List Char → List Char → List Char × List Char
  | _, done, [] => (done, [])
  | .outside, done, c :: cs =>
    if atEndTag "script" (c :: cs) then (done, c :: cs)
    else if c == '<' && cs.take 3 == ['!', '-', '-'] then scriptBody .comment (c :: done) cs
    else scriptBody .outside (withoutNull c :: done) cs
  | .comment, done, c :: cs =>
    if atEndTag "script" (c :: cs) then (done, c :: cs)
    else if c == '>' && done.take 2 == ['-', '-'] then scriptBody .outside (c :: done) cs
    else if c == '<' && atScriptWord cs then scriptBody .inner (c :: done) cs
    else scriptBody .comment (withoutNull c :: done) cs
  | .inner, done, c :: cs =>
    if c == '>' && done.take 2 == ['-', '-'] then scriptBody .outside (c :: done) cs
    else if c == '<' && cs.head? == some '/' && atScriptWord (cs.drop 1) then
      scriptBody .comment (c :: done) cs
    else scriptBody .inner (withoutNull c :: done) cs

/-! ## Tokens -/

/-- What `<` opens, behind it. -/
def scanOpened (sections : Bool) (cs : List Char) : List Token × List Char :=
  match cs with
  | '!' :: rest =>
    if rest.take 2 == ['-', '-'] then scanComment (rest.drop 2)
    else if startsWith "doctype" rest then scanDoctype (rest.drop 7)
    else if sections && rest.take 7 == "[CDATA[".toList then
      let (done, rest) := sectionBody [] (rest.drop 7)
      (done.reverse.map charToken, rest)
    else scanBogusComment rest
  | '/' :: rest =>
    match rest with
    | [] => ([.char '<', .char '/'], [])
    | '>' :: rest => ([], rest)
    | c :: _ => if c.isAlpha then scanTag true rest else scanBogusComment rest
  | '?' :: _ => scanBogusComment cs
  | c :: _ => if c.isAlpha then scanTag false cs else ([.char '<'], cs)
  | [] => ([.char '<'], [])

/-- Tokens from the front of a text that is not empty, and what is behind them.
`sections` tells whether character sections are allowed. -/
def scan (mode : Mode) (sections : Bool) (cs : List Char) : List Token × List Char :=
  match cs with
  | [] => ([.finish], [])
  | c :: rest =>
    match mode with
    | .markup =>
      if c == '<' then scanOpened sections rest
      else if c == '&' then
        let (chars, rest) := reference false rest
        (chars.map .char, rest)
      else ([charToken c], rest)
    | .plain => (cs.map fun c => .char (withoutNull c), [])
    | _ =>
      let (done, behind) := match mode with
        | .titled name => rawBody true name (cs.length + 1) [] cs
        | .raw name => rawBody false name (cs.length + 1) [] cs
        | _ => scriptBody .outside [] cs
      let text := done.reverse.map Token.char
      match behind with
      | '<' :: '/' :: name =>
        let (tokens, rest) := scanTag true name
        (text ++ tokens, rest)
      | _ => (text, [])

end LiveTemplates.Markup
