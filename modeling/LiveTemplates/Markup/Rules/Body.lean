/-
# LiveTemplates.Markup.Rules.Body -- in the body

Most elements stand where their tags are.  Blocks end paragraphs, items end the
items in front of them, and formatting elements that a block ended are opened again
in front of the text that follows.
-/
import LiveTemplates.Markup.Rules.Head

namespace LiveTemplates.Markup

/-! ## Start tags -/

/-- The root's tag again: its attributes are added to the root. -/
def htmlAgain (g : Tag) : Build Outcome := do
  if !(← anyOpenNamed "template") then
    if let some root := (← get).opened.head? then addMissingAttrs root g
  return .done

/-- The body's tag again: its attributes are added to the body. -/
def bodyAgain (g : Tag) : Build Outcome := do
  if let some n ← body? then
    if !(← anyOpenNamed "template") then
      noFrameset
      addMissingAttrs n g
  return .done

/-- Frames take the place of a body that holds nothing yet. -/
def framesInstead (g : Tag) : Build Outcome := do
  if !(← get).framesetOk then return .done
  match ← body? with
  | none => return .done
  | some n =>
    modify fun b => { b with forest := b.forest.detach n, opened := b.opened.take 1 }
    let _ ← openElement g
    goesTo .inFrameset

/-- A block ends a paragraph. -/
def opensBlock (g : Tag) : Build Outcome := do
  closeOpenParagraph
  opens g

/-- A heading ends a heading. -/
def opensHeading (g : Tag) : Build Outcome := do
  closeOpenParagraph
  if ← currentIs isHeading then pop
  opens g

def opensForm (g : Tag) : Build Outcome := do
  let inTemplate ← anyOpenNamed "template"
  if (← get).form.isSome && !inTemplate then ignored
  else
    closeOpenParagraph
    let n ← openElement g
    if !inTemplate then modify fun b => { b with form := some n }
    return .done

/-- The item that a new item ends: the innermost open one of its kind, unless a
special element is inside of it. -/
def itemToEnd (b : Builder) (names : List String) : List NodeId → Option String
  | [] => none
  | n :: rest =>
    if isHtml names (b.nameOf n) then some (b.nameOf n).2
    else if isItemLimit (b.nameOf n) then none
    else itemToEnd b names rest

def opensItem (g : Tag) : Build Outcome := do
  noFrameset
  let b ← get
  let names := if g.name == "li" then ["li"] else ["dd", "dt"]
  if let some name := itemToEnd b names b.opened.reverse then
    closeImpliedExcept name
    popThroughNamed name
  closeOpenParagraph
  opens g

def opensButton (g : Tag) : Build Outcome := do
  if ← inScopeNamed limitsScope ["button"] then
    closeImplied
    popThroughNamed "button"
  reopenFormatting
  noFrameset
  opens g

/-- A link ends a link. -/
def opensLink (g : Tag) : Build Outcome := do
  let b ← get
  if let some (n, _) := b.regionFormatting.find? fun (n, _) => isHtml ["a"] (b.nameOf n) then
    endFormatting "a"
    dropFormatting n
    unstack n
  reopenFormatting
  opensFormatting g

def opensUnbroken (g : Tag) : Build Outcome := do
  reopenFormatting
  if ← inScopeNamed limitsScope ["nobr"] then
    endFormatting "nobr"
    reopenFormatting
  opensFormatting g

/-- An element with formatting of its own. -/
def opensRegion (g : Tag) : Build Outcome := do
  reopenFormatting
  let _ ← openElement g
  markFormatting
  noFrameset
  return .done

def opensTable (g : Tag) : Build Outcome := do
  if !(← get).oldStyle then closeOpenParagraph
  let _ ← openElement g
  noFrameset
  goesTo .inTable

/-- Is it an input that is not shown? -/
def isHidden (g : Tag) : Bool :=
  g.attrs.any fun (name, value) => name == "type" && smallLetters value == "hidden"

/-- An element that never has contents and stands in a line. -/
def putsInLine (g : Tag) : Build Outcome := do
  reopenFormatting
  if !(g.name == "input" && isHidden g) then noFrameset
  puts g

def putsRule (g : Tag) : Build Outcome := do
  closeOpenParagraph
  noFrameset
  puts g

def opensSelect (g : Tag) : Build Outcome := do
  reopenFormatting
  let _ ← openElement g
  noFrameset
  let p := (← get).phase
  goesTo (if [Phase.inTable, .inCaption, .inTableBody, .inRow, .inCell].contains p
    then .inSelectInTable else .inSelect)

def opensOption (g : Tag) : Build Outcome := do
  if ← currentNamed ["option"] then pop
  reopenFormatting
  opens g

/-- Annotations of characters. -/
def opensRuby (g : Tag) : Build Outcome := do
  if ← inScopeNamed limitsScope ["ruby"] then
    if ["rb", "rtc"].contains g.name then closeImplied else closeImpliedExcept "rtc"
  opens g

/-- An element of another vocabulary. -/
def opensForeign (space : Space) (g : Tag) : Build Outcome := do
  let n ← putElement space g
  if !g.selfClosing then push n
  return .done

/-- Text in which line ends count, but not one in front. -/
def opensPreformatted (g : Tag) : Build Outcome := do
  closeOpenParagraph
  modify fun b => { b with dropLineFeed := true }
  noFrameset
  opens g

def opensTextArea (g : Tag) : Build Outcome := do
  modify fun b => { b with dropLineFeed := true }
  noFrameset
  opensText g (.titled "textarea")

def opensExample (g : Tag) : Build Outcome := do
  closeOpenParagraph
  reopenFormatting
  noFrameset
  opensText g (.raw "xmp")

def opensPlain (g : Tag) : Build Outcome := do
  closeOpenParagraph
  modify fun b => { b with mode := .plain }
  opens g

/-- Start tags that are ignored in the body. -/
def strayNames : List String :=
  ["caption", "col", "colgroup", "frame", "head", "tbody", "td", "tfoot", "th", "thead", "tr"]

/-- What a start tag does that is not named on its own. -/
def opensOther (g : Tag) : Build Outcome := do
  reopenFormatting
  opens g

def bodyStart (g : Tag) : Build Outcome :=
  if headNames.contains g.name then pure (.by .inHead (.tag g))
  else if blockNames.contains g.name then opensBlock g
  else if formattingNames.contains g.name then do reopenFormatting; opensFormatting g
  else if strayNames.contains g.name then ignored
  else match g.name with
    | "html" => htmlAgain g
    | "body" => bodyAgain g
    | "frameset" => framesInstead g
    | "h1" | "h2" | "h3" | "h4" | "h5" | "h6" => opensHeading g
    | "pre" | "listing" => opensPreformatted g
    | "form" => opensForm g
    | "li" | "dd" | "dt" => opensItem g
    | "plaintext" => opensPlain g
    | "button" => opensButton g
    | "a" => opensLink g
    | "nobr" => opensUnbroken g
    | "applet" | "marquee" | "object" => opensRegion g
    | "table" => opensTable g
    | "area" | "br" | "embed" | "img" | "keygen" | "wbr" | "input" => putsInLine g
    | "param" | "source" | "track" => puts g
    | "hr" => putsRule g
    | "image" => putsInLine { g with name := "img" }
    | "textarea" => opensTextArea g
    | "xmp" => opensExample g
    | "iframe" => do noFrameset; opensText g (.raw "iframe")
    | "noembed" | "noscript" => opensText g (.raw g.name)
    | "select" => opensSelect g
    | "optgroup" | "option" => opensOption g
    | "rb" | "rtc" | "rp" | "rt" => opensRuby g
    | "math" => opensForeign .mathml g
    | "svg" => opensForeign .svg g
    | _ => opensOther g

/-! ## End tags -/

/-- Closes an element if it is open in its scope. -/
def closesScoped (limits : Name → Bool) (close : Build Unit) (name : String) : Build Outcome := do
  if ← inScopeNamed limits [name] then
    close
    popThroughNamed name
  return .done

def closesForm : Build Outcome := do
  if ← anyOpenNamed "template" then closesScoped limitsScope closeImplied "form"
  else
    let form := (← get).form
    modify fun b => { b with form := none }
    match form with
    | none => ignored
    | some n =>
      if ← inScope limitsScope fun m _ => m == n then
        closeImplied
        unstack n
      return .done

/-- A paragraph's end tag makes the paragraph that it ends, if none is open. -/
def closesParagraph : Build Outcome := do
  if !(← inScopeNamed limitsButtonScope ["p"]) then
    let _ ← openNamed "p"
  closeParagraph
  return .done

def closesHeading : Build Outcome := do
  if ← inScope limitsScope fun _ n => isHeading n then
    closeImplied
    popThrough isHeading
  return .done

def closesRegion (name : String) : Build Outcome := do
  if ← inScopeNamed limitsScope [name] then
    closeImplied
    popThroughNamed name
    clearFormatting
  return .done

def bodyEnd (g : Tag) : Build Outcome :=
  if blockEndNames.contains g.name then closesScoped limitsScope closeImplied g.name
  else if formattingNames.contains g.name then do endFormatting g.name; return .done
  else match g.name with
    | "template" => pure (.by .inHead (.tag g))
    | "body" => do
      if ← inScopeNamed limitsScope ["body"] then goesTo .afterBody else ignored
    | "html" => do
      if ← inScopeNamed limitsScope ["body"] then return .again .afterBody (.tag g) else ignored
    | "form" => closesForm
    | "p" => closesParagraph
    | "li" => closesScoped limitsItemScope (closeImpliedExcept "li") "li"
    | "dd" | "dt" => closesScoped limitsScope (closeImpliedExcept g.name) g.name
    | "h1" | "h2" | "h3" | "h4" | "h5" | "h6" => closesHeading
    | "a" | "nobr" => do endFormatting g.name; return .done
    | "applet" | "marquee" | "object" => closesRegion g.name
    | "br" => putsInLine { name := "br" }
    | _ => do closeAny g.name; return .done

/-! ## All tokens -/

def inBodyRule (t : Token) : Build Outcome := do
  match t with
  | .char c =>
    reopenFormatting
    if !isSpace c then noFrameset
    putChar c
    return .done
  | .comment s =>
    putComment s
    return .done
  | .tag g => if g.isEnd then bodyEnd g else bodyStart g
  | .finish => return if (← get).templatePhases.isEmpty then .done else .by .inTemplate t
  | .null | .doctype _ => ignored

end LiveTemplates.Markup
