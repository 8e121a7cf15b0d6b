/-
# LiveTemplates.Markup.Rules.Outer -- templates, frames and behind the body
-/
import LiveTemplates.Markup.Rules.Table

namespace LiveTemplates.Markup

/-! ## Templates -/

/-- Goes on inside of a template in a phase that fits what it holds. -/
def templateTurns (p : Phase) (t : Token) : Build Outcome := do
  modify fun b => { b with templatePhases := p :: b.templatePhases.drop 1 }
  return .again p t

def inTemplateRule (t : Token) : Build Outcome := do
  match t with
  | .char _ | .comment _ => return .by .inBody t
  | .tag g =>
    if g.isEnd then
      if g.name == "template" then return .by .inHead t else ignored
    else if headNames.contains g.name then return .by .inHead t
    else match g.name with
      | "caption" | "colgroup" | "tbody" | "tfoot" | "thead" => templateTurns .inTable t
      | "col" => templateTurns .inColumnGroup t
      | "tr" => templateTurns .inTableBody t
      | "td" | "th" => templateTurns .inRow t
      | _ => templateTurns .inBody t
  | .finish =>
    if ← anyOpenNamed "template" then
      popThroughNamed "template"
      clearFormatting
      modify fun b => { b with templatePhases := b.templatePhases.drop 1 }
      let p ← phaseThatFits
      return .again p t
    return .done
  | _ => ignored

/-! ## Behind the body -/

def afterBodyRule (t : Token) : Build Outcome := do
  match t with
  | .char c => return if isSpace c then .by .inBody t else .again .inBody t
  | .comment s =>
    let b ← get
    putCommentIn (b.opened.head?.getD b.document) s
    return .done
  | .tag g =>
    if g.name == "html" then
      if g.isEnd then goesTo .afterAfterBody else return .by .inBody t
    else return .again .inBody t
  | .finish => return .done
  | _ => return .again .inBody t

def afterAfterBodyRule (t : Token) : Build Outcome := do
  match t with
  | .char c => return if isSpace c then .by .inBody t else .again .inBody t
  | .comment s =>
    putCommentIn (← get).document s
    return .done
  | .tag g => return if !g.isEnd && g.name == "html" then .by .inBody t else .again .inBody t
  | .finish => return .done
  | _ => return .again .inBody t

/-! ## Frames -/

def inFramesetRule (t : Token) : Build Outcome := do
  match t with
  | .char c =>
    if isSpace c then putChar c
    return .done
  | .comment s =>
    putComment s
    return .done
  | .tag g =>
    if g.isEnd then
      if g.name == "frameset" && (← get).opened.length > 1 then
        pop
        if !(← currentNamed ["frameset"]) then modify fun b => { b with phase := .afterFrameset }
      return .done
    else match g.name with
      | "html" => return .by .inBody t
      | "frameset" => opens g
      | "frame" => puts g
      | "noframes" => return .by .inHead t
      | _ => ignored
  | _ => ignored

def afterFramesetRule (t : Token) : Build Outcome := do
  match t with
  | .char c =>
    if isSpace c then putChar c
    return .done
  | .comment s =>
    putComment s
    return .done
  | .tag g =>
    if g.isEnd then
      if g.name == "html" then goesTo .afterAfterFrameset else ignored
    else match g.name with
      | "html" => return .by .inBody t
      | "noframes" => return .by .inHead t
      | _ => ignored
  | _ => ignored

def afterAfterFramesetRule (t : Token) : Build Outcome := do
  match t with
  | .char c => return if isSpace c then .by .inBody t else .done
  | .comment s =>
    putCommentIn (← get).document s
    return .done
  | .tag g =>
    if g.isEnd then ignored
    else match g.name with
      | "html" => return .by .inBody t
      | "noframes" => return .by .inHead t
      | _ => ignored
  | _ => ignored

end LiveTemplates.Markup
