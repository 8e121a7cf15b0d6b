/-
# LiveTemplates.Markup.Rules.Head -- up to the body

Until the body begins, missing elements are put in as the tokens need them.
-/
import LiveTemplates.Markup.Builder

namespace LiveTemplates.Markup

/-- Ignores a token. -/
def ignored : Build Outcome :=
  pure .done

/-- Is it an end tag that opens what is missing, unlike others, which are ignored? -/
def opensMissing (t : Tag) : Bool :=
  ["head", "body", "html", "br"].contains t.name

/-- Is it an end tag that ends the head, unlike others, which are ignored? -/
def endsHead (t : Tag) : Bool :=
  ["body", "html", "br"].contains t.name

/-- In front of everything: without a document type a document is in the manner of
old. -/
def initialRule (t : Token) : Build Outcome := do
  match t with
  | .comment s =>
    putCommentIn (← get).document s
    return .done
  | .char c =>
    if isSpace c then return .done
    modify fun b => { b with oldStyle := true }
    return .again .beforeHtml t
  | _ =>
    modify fun b => { b with oldStyle := true }
    return .again .beforeHtml t

/-- Opens the root element. -/
def openRoot (t : Tag) : Build Unit := do
  let n ← addElement .html { t with name := "html" }
  putNode n (.lastIn (← get).document)
  push n

def beforeHtmlRule (t : Token) : Build Outcome := do
  let opened : Build Outcome := do
    openRoot { name := "html" }
    return .again .beforeHead t
  match t with
  | .comment s =>
    putCommentIn (← get).document s
    return .done
  | .char c => if isSpace c then ignored else opened
  | .tag g =>
    if !g.isEnd && g.name == "html" then
      openRoot g
      goesTo .beforeHead
    else if g.isEnd && !opensMissing g then ignored
    else opened
  | _ => opened

/-- Opens the head. -/
def openHead (t : Tag) : Build Unit := do
  let n ← openElement { t with name := "head" }
  modify fun b => { b with head := some n }

def beforeHeadRule (t : Token) : Build Outcome := do
  let opened : Build Outcome := do
    openHead { name := "head" }
    return .again .inHead t
  match t with
  | .comment s =>
    putComment s
    return .done
  | .char c => if isSpace c then ignored else opened
  | .tag g =>
    if !g.isEnd && g.name == "html" then return .by .inBody t
    else if !g.isEnd && g.name == "head" then
      openHead g
      goesTo .inHead
    else if g.isEnd && !opensMissing g then ignored
    else opened
  | _ => opened

/-- Opens a template. -/
def openTemplate (t : Tag) : Build Outcome := do
  let _ ← openElement t
  markFormatting
  modify fun b => { b with
    framesetOk := false
    phase := .inTemplate
    templatePhases := .inTemplate :: b.templatePhases }
  return .done

/-- Closes a template, if one is open. -/
def closeTemplate : Build Outcome := do
  if ← anyOpenNamed "template" then
    popWhile endsWithTemplate
    popThroughNamed "template"
    clearFormatting
    modify fun b => { b with templatePhases := b.templatePhases.drop 1 }
    goesTo (← phaseThatFits)
  else ignored

/-- Start tags in the head; `none` for those that end it. -/
def headStart? (g : Tag) : Option (Build Outcome) :=
  if g.name == "html" then some (pure (.by .inBody (.tag g)))
  else if ["base", "basefont", "bgsound", "link", "meta"].contains g.name then some (puts g)
  else if g.name == "title" then some (opensText g (.titled "title"))
  else if ["noframes", "style", "noscript"].contains g.name then some (opensText g (.raw g.name))
  else if g.name == "script" then some (opensText g .script)
  else if g.name == "template" then some (openTemplate g)
  else if g.name == "head" then some ignored
  else none

def inHeadRule (t : Token) : Build Outcome := do
  let closed : Build Outcome := do
    pop
    return .again .afterHead t
  match t with
  | .comment s =>
    putComment s
    return .done
  | .char c =>
    if isSpace c then
      putChar c
      return .done
    closed
  | .tag g =>
    if !g.isEnd then (headStart? g).getD closed
    else if g.name == "head" then
      pop
      goesTo .afterHead
    else if g.name == "template" then closeTemplate
    else if endsHead g then closed
    else ignored
  | _ => closed

def afterHeadRule (t : Token) : Build Outcome := do
  let opened : Build Outcome := do
    let _ ← openNamed "body"
    return .again .inBody t
  match t with
  | .comment s =>
    putComment s
    return .done
  | .char c =>
    if isSpace c then
      putChar c
      return .done
    opened
  | .tag g =>
    if !g.isEnd then
      if g.name == "html" then return .by .inBody t
      else if g.name == "body" then
        let _ ← openElement g
        noFrameset
        goesTo .inBody
      else if g.name == "frameset" then
        let _ ← openElement g
        goesTo .inFrameset
      else if headNames.contains g.name then return .behindHead t
      else if g.name == "head" then ignored
      else opened
    else if g.name == "template" then return .by .inHead t
    else if endsHead g then opened
    else ignored
  | _ => opened

/-- Inside of an element whose contents are text only. -/
def textRule (t : Token) : Build Outcome := do
  match t with
  | .char c =>
    putChar c
    return .done
  | .tag _ =>
    pop
    goesTo (← get).resume
  | .finish =>
    pop
    return .again (← get).resume t
  | _ => ignored

end LiveTemplates.Markup
