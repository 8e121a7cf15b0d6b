/-
# LiveTemplates.Markup.Document -- documents from markup texts

`parse` reads a markup text into a forest and gives the node of the document.  Every
text is a document: what is broken is put right in the way of the HTML standard.
-/
import LiveTemplates.Markup.Rules.Foreign
import LiveTemplates.Markup.Rules.Outer

namespace LiveTemplates.Markup

/-- The rules of a phase. -/
def ruleOf : Phase → Token → Build Outcome
  | .initial => initialRule
  | .beforeHtml => beforeHtmlRule
  | .beforeHead => beforeHeadRule
  | .inHead => inHeadRule
  | .afterHead => afterHeadRule
  | .inBody => inBodyRule
  | .text => textRule
  | .inTable => inTableRule
  | .inTableText => inTableTextRule
  | .inCaption => inCaptionRule
  | .inColumnGroup => inColumnGroupRule
  | .inTableBody => inTableBodyRule
  | .inRow => inRowRule
  | .inCell => inCellRule
  | .inSelect => inSelectRule
  | .inSelectInTable => inSelectInTableRule
  | .inTemplate => inTemplateRule
  | .afterBody => afterBodyRule
  | .inFrameset => inFramesetRule
  | .afterFrameset => afterFramesetRule
  | .afterAfterBody => afterAfterBodyRule
  | .afterAfterFrameset => afterAfterFramesetRule

mutual

/-- Follows the rules until a token is dealt with or has to go on in another phase;
`fuel` bounds the references between rules. -/
def follow (fuel : Nat) (o : Outcome) : Build Outcome :=
  match fuel, o with
  | 0, _ => pure .done
  | fuel + 1, .by p t => do follow fuel (← ruleOf p t)
  | fuel + 1, .fostered t => fosters fuel t
  | fuel + 1, .behindHead t => do
    let head := (← get).head
    if let some n := head then push n
    let o ← follow fuel (.by .inHead t)
    if let some n := head then unstack n
    return o
  | fuel + 1, .behindTableText t => do
    let b ← get
    let cs := b.tableText.reverse
    set { b with tableText := [] }
    if cs.all isSpace then cs.forM putChar
    else putFostered fuel cs
    return .again b.resume t
  | _ + 1, .again p t => pure (.again p t)
  | _ + 1, .done => pure .done

/-- Deals with a token by the rules of the body, in front of the table. -/
def fosters (fuel : Nat) (t : Token) : Build Outcome := do
  modify fun b => { b with fostering := true }
  let o ← match fuel with
    | 0 => pure .done
    | fuel + 1 => follow fuel (.by .inBody t)
  modify fun b => { b with fostering := false }
  return o

/-- Puts text in front of the table. -/
def putFostered (fuel : Nat) : List Char → Build Unit
  | [] => pure ()
  | c :: cs => do
    let _ ← match fuel with
      | 0 => pure .done
      | fuel + 1 => fosters fuel (.char c)
    putFostered fuel cs
end

/-- A bound on the references between rules for one token in one phase. -/
def referenceBound : Nat := 32

/-- Deals with a token, in as many phases as it takes; `fuel` bounds their number. -/
def deal : Nat → Token → Build Unit
  | 0, _ => pure ()
  | fuel + 1, t => do
    let b ← get
    let o ← if isForeign b t then foreignRule t else pure (.by b.phase t)
    match ← follow referenceBound o with
    | .again p t =>
      modify fun b => { b with phase := p }
      deal fuel t
    | _ => pure ()

/-- Is a document with this type in the manner of old? -/
def isOld (d : Doctype) : Bool :=
  let publicId := smallLetters (d.publicId.getD "")
  let systemId := smallLetters (d.systemId.getD "")
  d.broken || d.name != some "html"
    || oldWholePublicIds.contains publicId
    || oldPublicIds.any (publicId.startsWith ·)
    || systemId == oldSystemId
    || (d.systemId.isNone && halfOldPublicIds.any (publicId.startsWith ·))

/-- Takes in a token. -/
def take (t : Token) : Build Unit := do
  let b ← get
  set { b with dropLineFeed := false }
  match t with
  | .doctype d =>
    if b.phase = .initial then
      putNode (← addNode (.doctype (d.name.getD "") (d.publicId.getD "") (d.systemId.getD "")))
        (.lastIn b.document)
      modify fun b => { b with oldStyle := isOld d, phase := .beforeHtml }
  | .char '\n' => if !b.dropLineFeed then deal (4 * b.opened.length + 32) t
  | t => deal (4 * b.opened.length + 32) t

/-- Takes in all tokens of a text; `fuel` bounds their number. -/
def takeAll : Nat → List Char → Build Unit
  | 0, _ => pure ()
  | fuel + 1, cs => do
    let b ← get
    let sections := match b.opened.getLast? with
      | some n => (b.nameOf n).1 != .html
      | none => false
    -- only a start tag can change how the text behind it is read
    let (tokens, rest) := scan b.mode sections cs
    set { b with mode := .markup }
    tokens.forM take
    if cs.isEmpty then return
    takeAll fuel rest

/-- The document of a markup text, and its node, in a forest of its own. -/
def parse (text : String) : Forest × NodeId :=
  let (document, forest) := ({} : Forest).add .document
  let cs := charsOf text
  let (_, b) := (takeAll (cs.length + 2) cs).run { forest := forest, document := document }
  (b.forest, document)

end LiveTemplates.Markup
