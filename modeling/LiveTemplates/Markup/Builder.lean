/-
# LiveTemplates.Markup.Builder -- a document while it is read

The tokens of a markup text are put together into a document by rules that depend
on where the text stands (`Phase`).  A `Builder` is the document so far with what the
rules remember: the open elements, the formatting elements that are opened again
where a block ended them, the head and the form.

Nodes that belong into a table and must not stand there directly are put in front
of it.  The contents of a template element are a tree of their own, outside of the
document.
-/
import LiveTemplates.Forest
import LiveTemplates.Markup.Names
import LiveTemplates.Markup.Token

namespace LiveTemplates.Markup

/-- Where in a document a token stands. -/
inductive Phase where
  | initial | beforeHtml | beforeHead | inHead | afterHead | inBody | text
  | inTable | inTableText | inCaption | inColumnGroup | inTableBody | inRow | inCell
  | inSelect | inSelectInTable | inTemplate
  | afterBody | inFrameset | afterFrameset | afterAfterBody | afterAfterFrameset
deriving Repr, DecidableEq, Inhabited

/-- A formatting element with its tag, or the border of a region where none from
outside is opened again. -/
inductive Formatting where
  | marker
  | element (n : NodeId) (t : Tag)
deriving Repr, Inhabited

/-- A document while it is read. -/
structure Builder where
  forest : Forest
  document : NodeId
  /-- The open elements, the outermost first. -/
  opened : List NodeId := []
  /-- The formatting elements, the oldest first. -/
  formatting : List Formatting := []
  head : Option NodeId := none
  form : Option NodeId := none
  phase : Phase := .initial
  /-- The phase behind a text. -/
  resume : Phase := .initial
  /-- The phases inside of open templates, the innermost first. -/
  templatePhases : List Phase := []
  framesetOk : Bool := true
  /-- Nodes for a table are put in front of it. -/
  fostering : Bool := false
  /-- The document is in the manner of old. -/
  oldStyle : Bool := false
  /-- A line feed in front of the next text is left out. -/
  dropLineFeed : Bool := false
  /-- Text in a table that waits for what follows, last first. -/
  tableText : List Char := []
  /-- The contents of template elements. -/
  contents : List (NodeId × NodeId) := []
  /-- How the text that follows is read. -/
  mode : Mode := .markup
deriving Inhabited

abbrev Build := StateM Builder

/-- What is left to do with a token. -/
inductive Outcome where
  | done
  /-- Go on with a token in another phase. -/
  | again (p : Phase) (t : Token)
  /-- Go on with a token by the rules of another phase, without going there. -/
  | by (p : Phase) (t : Token)
  /-- Go on with a token by the rules of the body, in front of the table. -/
  | fostered (t : Token)
  /-- Go on with a token by the rules of the head, which has been closed. -/
  | behindHead (t : Token)
  /-- Put the waiting text of a table in its place and go on with a token. -/
  | behindTableText (t : Token)

/-! ## Looking -/

/-- The name of an element. -/
def Builder.nameOf (b : Builder) (n : NodeId) : Name :=
  match b.forest.data n with
  | .element space name _ => (space, name)
  | _ => (.none, "")

/-- The name of an element. -/
def nameOf (n : NodeId) : Build Name := do
  return (← get).nameOf n

/-- The innermost open element. -/
def current : Build NodeId := do
  let b ← get
  return b.opened.getLast?.getD b.document

/-- Is the innermost open element of this kind? -/
def currentIs (kind : Name → Bool) : Build Bool := do
  return kind (← nameOf (← current))

/-- Is the innermost open element an HTML element of one of these names? -/
def currentNamed (names : List String) : Build Bool :=
  currentIs (isHtml names)

/-- Is an HTML element of the name open? -/
def anyOpenNamed (name : String) : Build Bool := do
  let b ← get
  return b.opened.any fun n => isHtml [name] (b.nameOf n)

/-- Is an element open, inside of all that limit the search? -/
def inScope (limits : Name → Bool) (wanted : NodeId → Name → Bool) : Build Bool := do
  let b ← get
  let rec search : List NodeId → Bool
    | [] => false
    | n :: rest =>
      if wanted n (b.nameOf n) then true
      else if limits (b.nameOf n) then false
      else search rest
  return search b.opened.reverse

/-- Is an HTML element of one of these names open, inside of all that limit the search? -/
def inScopeNamed (limits : Name → Bool) (names : List String) : Build Bool :=
  inScope limits fun _ name => isHtml names name

/-- The body, if it is open. -/
def body? : Build (Option NodeId) := do
  let b ← get
  match b.opened with
  | _ :: n :: _ => return if isHtml ["body"] (b.nameOf n) then some n else none
  | _ => return none

/-! ## The open elements -/

/-- Opens an element. -/
def push (n : NodeId) : Build Unit :=
  modify fun b => { b with opened := b.opened ++ [n] }

/-- Closes the innermost element. -/
def pop : Build Unit :=
  modify fun b => { b with opened := b.opened.dropLast }

/-- Takes an element out of the open ones, wherever it is. -/
def unstack (n : NodeId) : Build Unit :=
  modify fun b => { b with opened := (b.opened.reverse.erase n).reverse }

/-- The open elements without the innermost ones up to one of a kind, which goes too. -/
def closedThrough (b : Builder) (kind : Name → Bool) : List NodeId → List NodeId
  | [] => []
  | n :: rest => if kind (b.nameOf n) then rest else closedThrough b kind rest

/-- Closes elements up to the innermost one of a kind, which is closed too. -/
def popThrough (kind : Name → Bool) : Build Unit :=
  modify fun b => { b with opened := (closedThrough b kind b.opened.reverse).reverse }

/-- Closes elements up to the innermost HTML element of a name, which is closed too. -/
def popThroughNamed (name : String) : Build Unit :=
  popThrough (isHtml [name])

/-- Closes elements up to the innermost one of a kind, which stays open. -/
def popTo (kind : Name → Bool) : Build Unit :=
  modify fun b => { b with
    opened := (b.opened.reverse.dropWhile fun n => !kind (b.nameOf n)).reverse }

/-- Closes the innermost elements as long as they are of a kind. -/
def popWhile (kind : Name → Bool) : Build Unit :=
  modify fun b => { b with
    opened := (b.opened.reverse.dropWhile fun n => kind (b.nameOf n)).reverse }

/-- Closes what ends by itself. -/
def closeImplied : Build Unit :=
  popWhile endsByItself

/-- Closes what ends by itself, but not elements of a name. -/
def closeImpliedExcept (name : String) : Build Unit :=
  popWhile fun n => endsByItself n && !isHtml [name] n

/-- Closes a paragraph. -/
def closeParagraph : Build Unit := do
  closeImpliedExcept "p"
  popThroughNamed "p"

/-- Closes a paragraph if one is open. -/
def closeOpenParagraph : Build Unit := do
  if ← inScopeNamed limitsButtonScope ["p"] then closeParagraph

/-! ## Inserting nodes -/

/-- Where a node is put. -/
inductive Place where
  | lastIn (parent : NodeId)
  /-- In front of a table that has a parent, else into the element around it. -/
  | beforeTable (table around : NodeId)

/-- Where the contents of an element go: into the element, except for templates. -/
def Builder.insideOf (b : Builder) (n : NodeId) : NodeId :=
  if isHtml ["template"] (b.nameOf n) then (b.contents.lookup n).getD n else n

/-- In front of the innermost table, unless a template is inside of it. -/
def fosterPlace (b : Builder) : List NodeId → Place
  | [] => .lastIn (b.opened.head?.getD b.document)
  | n :: rest =>
    if isHtml ["template"] (b.nameOf n) then .lastIn (b.insideOf n)
    else if isHtml ["table"] (b.nameOf n) then .beforeTable n (rest.head?.getD b.document)
    else fosterPlace b rest

/-- Where the next node for an element is put. -/
def placeFor (target : NodeId) : Build Place := do
  let b ← get
  if b.fostering && isTablePart (b.nameOf target) then return fosterPlace b b.opened.reverse
  return .lastIn (b.insideOf target)

/-- Adds a node without a place. -/
def addNode (d : NodeData) : Build NodeId := do
  let b ← get
  let (n, f) := b.forest.add d
  set { b with forest := f }
  return n

/-- Puts a node into a list of nodes, in front of another. -/
def insertBefore (n before : NodeId) : List NodeId → List NodeId
  | [] => [n]
  | m :: rest => if m = before then n :: m :: rest else m :: insertBefore n before rest

/-- The node in front of another. -/
def nodeBefore? (before : NodeId) : List NodeId → Option NodeId
  | m :: n :: rest => if n = before then some m else nodeBefore? before (n :: rest)
  | _ => none

/-- Puts a node in its place. -/
def putNode (n : NodeId) (p : Place) : Build Unit :=
  modify fun b =>
    let intoParent (parent : NodeId) := { b with forest := b.forest.append parent n }
    match p with
    | .lastIn parent => intoParent parent
    | .beforeTable table around =>
      match b.forest.parent? table with
      | none => intoParent around
      | some parent =>
        let f := (b.forest.detach n).setParent n (some parent)
        { b with forest := f.modify parent fun node =>
          { node with children := insertBefore n table node.children } }

/-- Adds text to a text node; tells whether it is one. -/
def extendText (n : Option NodeId) (s : String) : Build Bool := do
  let b ← get
  match n with
  | none => return false
  | some n =>
    match b.forest.data n with
    | .text t =>
      set { b with forest := b.forest.setData n (.text (t ++ s)) }
      return true
    | _ => return false

/-- Puts text in its place, joined to a text in front. -/
def putText (s : String) : Build Unit := do
  let p ← placeFor (← current)
  let b ← get
  let inFront := match p with
    | .lastIn parent => (b.forest.children parent).getLast?
    | .beforeTable table around =>
      match b.forest.parent? table with
      | none => (b.forest.children around).getLast?
      | some parent => nodeBefore? table (b.forest.children parent)
  if !(← extendText inFront s) then putNode (← addNode (.text s)) p

def putChar (c : Char) : Build Unit :=
  putText (String.singleton c)

/-- Puts a comment at the end of a node. -/
def putCommentIn (parent : NodeId) (s : String) : Build Unit := do
  putNode (← addNode (.comment s)) (.lastIn parent)

/-- Puts a comment in its place. -/
def putComment (s : String) : Build Unit := do
  let p ← placeFor (← current)
  putNode (← addNode (.comment s)) p

/-- Adds an element without a place. -/
def addElement (space : Space) (t : Tag) : Build NodeId := do
  let n ← addNode (.element space t.name (t.attrs.map fun (name, value) => attrOf space name value))
  if space = .html && t.name = "template" then
    let inside ← addNode .document
    modify fun b => { b with contents := (n, inside) :: b.contents }
  return n

/-- Puts an element in its place without opening it. -/
def putElement (space : Space) (t : Tag) : Build NodeId := do
  let p ← placeFor (← current)
  let n ← addElement space t
  putNode n p
  return n

/-- Puts an HTML element in its place and opens it. -/
def openElement (t : Tag) : Build NodeId := do
  let n ← putElement .html t
  push n
  return n

/-- Opens an element of a name that no tag asked for. -/
def openNamed (name : String) : Build NodeId :=
  openElement { name := name }

/-- Opens an element; its tag has been dealt with. -/
def opens (t : Tag) : Build Outcome := do
  let _ ← openElement t
  return .done

/-- Puts an element without contents in its place; its tag has been dealt with. -/
def puts (t : Tag) : Build Outcome := do
  let _ ← putElement .html t
  return .done

/-- Goes to a phase; the token has been dealt with. -/
def goesTo (p : Phase) : Build Outcome := do
  modify fun b => { b with phase := p }
  return .done

/-- Opens an element whose contents are text only. -/
def opensText (t : Tag) (mode : Mode) : Build Outcome := do
  let _ ← openElement t
  modify fun b => { b with resume := b.phase, phase := .text, mode := mode }
  return .done

/-- Adds attributes that an element does not have yet. -/
def addMissingAttrs (n : NodeId) (t : Tag) : Build Unit :=
  modify fun b =>
    let more := t.attrs.map fun (name, value) => attrOf .html name value
    { b with forest := b.forest.modify n fun node =>
      match node.data with
      | .element space name attrs =>
        let missing := more.filter fun a => !attrs.any fun o => o.space == a.space && o.name == a.name
        { node with data := .element space name (attrs ++ missing) }
      | _ => node }

/-- Marks that the document is no set of frames. -/
def noFrameset : Build Unit :=
  modify fun b => { b with framesetOk := false }

/-! ## Formatting elements -/

/-- Is the entry this element? -/
def Formatting.isNode (n : NodeId) : Formatting → Bool
  | .marker => false
  | .element m _ => m == n

/-- Is the entry a marker, or an element that is open? -/
def Formatting.isSettled (b : Builder) : Formatting → Bool
  | .marker => true
  | .element n _ => b.opened.contains n

/-- The entries behind the last marker, the newest first. -/
def Builder.regionFormatting (b : Builder) : List (NodeId × Tag) :=
  let rec region : List Formatting → List (NodeId × Tag)
    | .element n t :: rest => (n, t) :: region rest
    | _ => []
  region b.formatting.reverse

/-- Opens the entries again from the given number on. -/
def reopenFrom : Nat → List Formatting → Build Unit
  | _, [] => pure ()
  | i, .marker :: rest => reopenFrom (i + 1) rest
  | i, .element _ t :: rest => do
    let n ← openElement t
    modify fun b => { b with formatting := b.formatting.set i (.element n t) }
    reopenFrom (i + 1) rest

/-- Opens the formatting elements again that are not open any more. -/
def reopenFormatting : Build Unit := do
  let b ← get
  let closed := (b.formatting.reverse.takeWhile fun e => !e.isSettled b).reverse
  reopenFrom (b.formatting.length - closed.length) closed

/-- Takes an element out of the formatting ones. -/
def dropFormatting (n : NodeId) : Build Unit :=
  modify fun b => { b with formatting := b.formatting.filter fun e => !e.isNode n }

/-- Puts a border behind the formatting elements. -/
def markFormatting : Build Unit :=
  modify fun b => { b with formatting := b.formatting ++ [.marker] }

/-- The formatting elements without those behind the last border, nor that. -/
def outsideRegion : List Formatting → List Formatting
  | [] => []
  | .marker :: rest => rest
  | .element _ _ :: rest => outsideRegion rest

/-- Takes out the formatting elements behind the last border, and that. -/
def clearFormatting : Build Unit :=
  modify fun b => { b with formatting := (outsideRegion b.formatting.reverse).reverse }

/-- Are the tags the same but for the order of their attributes? -/
def Tag.alike (s t : Tag) : Bool :=
  s.name == t.name && s.attrs.length == t.attrs.length && s.attrs.all t.attrs.contains

/-- Opens a formatting element.  Of elements that are alike only three are kept. -/
def opensFormatting (t : Tag) : Build Outcome := do
  let alike := (← get).regionFormatting.filter fun (_, s) => t.alike s
  if alike.length ≥ 3 then
    if let some (oldest, _) := alike.getLast? then dropFormatting oldest
  let n ← openElement t
  modify fun b => { b with formatting := b.formatting ++ [.element n t] }
  return .done

/-- Closes an element by its end tag, if it is not hidden by a special one. -/
def closeAny (name : String) : Build Unit := do
  let b ← get
  let rec found : List NodeId → Option NodeId
    | [] => none
    | n :: rest =>
      if isHtml [name] (b.nameOf n) then some n
      else if isSpecial (b.nameOf n) then none
      else found rest
  match found b.opened.reverse with
  | none => pure ()
  | some n => modify fun b => { b with opened := b.opened.takeWhile (· != n) }

/-! ## Misnested formatting elements -/

/-- Where the new formatting element goes: in place of the old one, or behind another. -/
inductive Bookmark where
  | inPlace
  | behind (n : NodeId)

/-- Carries the elements between the formatting element and the block inside of it over
to the block: those that format are made anew around it, others are closed.  The
open elements are given from the block outward. -/
def carryOver (fmt block : NodeId) :
    Nat → List NodeId → NodeId → Bookmark → Build (NodeId × Bookmark)
  | _, [], last, mark => pure (last, mark)
  | count, n :: rest, last, mark => do
    if n = fmt then return (last, mark)
    let b ← get
    let tag? := match b.formatting.find? (·.isNode n) with
      | some (.element _ t) => if count < 3 then some t else none
      | _ => none
    match tag? with
    | some t =>
      let m ← addElement .html t
      modify fun b => { b with
        opened := b.opened.map fun k => if k = n then m else k
        formatting := b.formatting.map fun e => if e.isNode n then .element m t else e }
      let mark := if last = block then .behind m else mark
      putNode last (.lastIn m)
      carryOver fmt block (count + 1) rest m mark
    | none =>
      modify fun b => { b with
        opened := b.opened.filter (· ≠ n)
        formatting := b.formatting.filter fun e => !e.isNode n }
      carryOver fmt block (count + 1) rest last mark

/-- Puts an entry behind another. -/
def insertBehind (n : NodeId) (new : Formatting) : List Formatting → List Formatting
  | [] => []
  | e :: rest => if e.isNode n then e :: new :: rest else e :: insertBehind n new rest

/-- One round of ending a formatting element: gives whether another may follow. -/
def endFormattingOnce (name : String) : Build Bool := do
  let b ← get
  match b.regionFormatting.find? fun (_, t) => t.name == name with
  | none => closeAny name; return false
  | some (fmt, t) =>
    if !b.opened.contains fmt then dropFormatting fmt; return false
    if !(← inScope limitsScope fun n _ => n == fmt) then return false
    let outside := b.opened.takeWhile (· != fmt)
    let inside := b.opened.drop (outside.length + 1)
    match inside.find? fun n => isSpecial (b.nameOf n) with
    | none =>
      modify fun b => { b with opened := outside }
      dropFormatting fmt
      return false
    | some block =>
      let ancestor := outside.getLast?.getD b.document
      let between := (inside.takeWhile (· != block)).reverse
      let (last, mark) ← carryOver fmt block 0 between block .inPlace
      modify fun b => { b with forest := b.forest.detach last }
      putNode last (← placeFor ancestor)
      let new ← addElement .html t
      modify fun b => { b with forest := (b.forest.moveChildren block new).2 }
      putNode new (.lastIn block)
      modify fun b => { b with
        formatting := match mark with
          | .inPlace => b.formatting.map fun e => if e.isNode fmt then .element new t else e
          | .behind n =>
            (insertBehind n (.element new t) b.formatting).filter fun e => !e.isNode fmt
        opened := (b.opened.filter (· ≠ fmt)).flatMap fun n =>
          if n = block then [n, new] else [n] }
      return true

/-- Rounds of ending a formatting element, at most the given number. -/
def endFormattingRounds (name : String) : Nat → Build Unit
  | 0 => pure ()
  | n + 1 => do
    if ← endFormattingOnce name then endFormattingRounds name n

/-- Ends a formatting element; what it was misnested with is put right. -/
def endFormatting (name : String) : Build Unit := do
  let n ← current
  let b ← get
  if isHtml [name] (b.nameOf n) && !b.formatting.any (·.isNode n) then pop
  else endFormattingRounds name 8

/-! ## Phases -/

/-- The phase that fits an open element, given those outside of it. -/
def phaseOf? (b : Builder) (outside : List NodeId) (name : String) : Option Phase :=
  match name with
  | "select" =>
    let nearest := outside.reverse.find? fun n => isHtml ["template", "table"] (b.nameOf n)
    match nearest with
    | some n => some (if isHtml ["table"] (b.nameOf n) then .inSelectInTable else .inSelect)
    | none => some .inSelect
  | "td" | "th" => if outside.isEmpty then none else some .inCell
  | "tr" => some .inRow
  | "tbody" | "thead" | "tfoot" => some .inTableBody
  | "caption" => some .inCaption
  | "colgroup" => some .inColumnGroup
  | "table" => some .inTable
  | "template" => some (b.templatePhases.head?.getD .inBody)
  | "head" => if outside.isEmpty then none else some .inHead
  | "body" => some .inBody
  | "frameset" => some .inFrameset
  | "html" => some (if b.head.isSome then .afterHead else .beforeHead)
  | _ => none

/-- The phase that fits the open elements, the innermost first. -/
def fittingPhase (b : Builder) : List NodeId → Phase
  | [] => .inBody
  | n :: rest =>
    match b.nameOf n with
    | (.html, name) => (phaseOf? b rest.reverse name).getD (fittingPhase b rest)
    | _ => fittingPhase b rest

/-- The phase that fits the open elements. -/
def phaseThatFits : Build Phase := do
  let b ← get
  return fittingPhase b b.opened.reverse

end LiveTemplates.Markup
