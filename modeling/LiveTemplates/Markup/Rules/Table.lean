/-
# LiveTemplates.Markup.Rules.Table -- in tables and lists of choices

A table holds nothing but its parts; missing parts are put in, and what else stands
between them is put in front of the table.  A list of choices holds choices only.
-/
import LiveTemplates.Markup.Rules.Body

namespace LiveTemplates.Markup

/-! ## Tables -/

/-- The names of the parts of a table. -/
def tablePartNames : List String :=
  ["caption", "col", "colgroup", "tbody", "td", "tfoot", "th", "thead", "tr"]

def sectionNames : List String := ["tbody", "tfoot", "thead"]

def cellNames : List String := ["td", "th"]

/-- Text in a table waits for what follows if it stands between the parts. -/
def tableCharRule (t : Token) : Build Outcome := do
  if ← currentIs isTablePart then
    modify fun b => { b with resume := b.phase }
    return .again .inTableText t
  return .fostered t

/-- Goes on behind the table, which is closed. -/
def closesTable : Build Bool := do
  if ← inScopeNamed limitsTableScope ["table"] then
    popThroughNamed "table"
    return true
  return false

def tableStart (g : Tag) : Build Outcome := do
  let t := Token.tag g
  if tablePartNames.contains g.name then
    popTo limitsTableScope
    if g.name == "caption" then
      markFormatting
      let _ ← openElement g
      goesTo .inCaption
    else if g.name == "colgroup" then
      let _ ← openElement g
      goesTo .inColumnGroup
    else if g.name == "col" then
      let _ ← openNamed "colgroup"
      return .again .inColumnGroup t
    else if sectionNames.contains g.name then
      let _ ← openElement g
      goesTo .inTableBody
    else
      let _ ← openNamed "tbody"
      return .again .inTableBody t
  else match g.name with
    | "table" => if ← closesTable then return .again (← phaseThatFits) t else ignored
    | "style" | "script" | "template" => return .by .inHead t
    | "input" => if isHidden g then puts g else return .fostered t
    | "form" =>
      if !(← anyOpenNamed "template") && (← get).form.isNone then
        let n ← putElement .html g
        modify fun b => { b with form := some n }
      return .done
    | _ => return .fostered t

def tableEnd (g : Tag) : Build Outcome := do
  if g.name == "table" then
    if ← closesTable then goesTo (← phaseThatFits) else ignored
  else if tablePartNames.contains g.name || ["body", "html"].contains g.name then ignored
  else if g.name == "template" then return .by .inHead (.tag g)
  else return .fostered (.tag g)

def inTableRule (t : Token) : Build Outcome := do
  match t with
  | .char _ | .null => tableCharRule t
  | .comment s =>
    putComment s
    return .done
  | .tag g => if g.isEnd then tableEnd g else tableStart g
  | .finish => return .by .inBody t
  | .doctype _ => ignored

def inTableTextRule (t : Token) : Build Outcome := do
  match t with
  | .null => ignored
  | .char c =>
    modify fun b => { b with tableText := c :: b.tableText }
    return .done
  | _ => return .behindTableText t

/-! ## Parts of tables -/

/-- Closes the caption, if one is open. -/
def closesCaption : Build Bool := do
  if ← inScopeNamed limitsTableScope ["caption"] then
    closeImplied
    popThroughNamed "caption"
    clearFormatting
    return true
  return false

def inCaptionRule (t : Token) : Build Outcome := do
  match t with
  | .tag g =>
    if g.isEnd && g.name == "caption" then
      if ← closesCaption then goesTo .inTable else ignored
    else if (!g.isEnd && tablePartNames.contains g.name) || (g.isEnd && g.name == "table") then
      if ← closesCaption then return .again .inTable t else ignored
    else if g.isEnd && (tablePartNames.contains g.name || ["body", "html"].contains g.name) then
      ignored
    else return .by .inBody t
  | _ => return .by .inBody t

def inColumnGroupRule (t : Token) : Build Outcome := do
  let closed : Build Outcome := do
    if ← currentNamed ["colgroup"] then
      pop
      return .again .inTable t
    ignored
  match t with
  | .char c =>
    if isSpace c then
      putChar c
      return .done
    closed
  | .comment s =>
    putComment s
    return .done
  | .tag g =>
    if g.name == "template" then return .by .inHead t
    else if g.isEnd then
      if g.name == "colgroup" then
        if ← currentNamed ["colgroup"] then
          pop
          goesTo .inTable
        else ignored
      else if g.name == "col" then ignored
      else closed
    else if g.name == "html" then return .by .inBody t
    else if g.name == "col" then puts g
    else closed
  | .finish => return .by .inBody t
  | _ => closed

def isSectionBorder : Name → Bool := isHtml ["tbody", "tfoot", "thead", "template", "html"]

def inTableBodyRule (t : Token) : Build Outcome := do
  match t with
  | .tag g =>
    if !g.isEnd && g.name == "tr" then
      popTo isSectionBorder
      let _ ← openElement g
      goesTo .inRow
    else if !g.isEnd && cellNames.contains g.name then
      popTo isSectionBorder
      let _ ← openNamed "tr"
      return .again .inRow t
    else if g.isEnd && sectionNames.contains g.name then
      if ← inScopeNamed limitsTableScope [g.name] then
        popTo isSectionBorder
        pop
        goesTo .inTable
      else ignored
    else if (!g.isEnd && ["caption", "col", "colgroup", "tbody", "tfoot", "thead"].contains g.name)
        || (g.isEnd && g.name == "table") then
      if ← inScopeNamed limitsTableScope ["table", "tbody", "tfoot"] then
        popTo isSectionBorder
        pop
        return .again .inTable t
      ignored
    else if g.isEnd && (tablePartNames.contains g.name || ["body", "html"].contains g.name) then
      ignored
    else return .by .inTable t
  | _ => return .by .inTable t

/-- Closes the row, if one is open. -/
def closesRow : Build Bool := do
  if ← inScopeNamed limitsTableScope ["tr"] then
    popTo (isHtml ["tr", "template", "html"])
    pop
    return true
  return false

def inRowRule (t : Token) : Build Outcome := do
  match t with
  | .tag g =>
    if !g.isEnd && cellNames.contains g.name then
      popTo (isHtml ["tr", "template", "html"])
      let _ ← openElement g
      markFormatting
      goesTo .inCell
    else if g.isEnd && g.name == "tr" then
      if ← closesRow then goesTo .inTableBody else ignored
    else if (!g.isEnd && tablePartNames.contains g.name) || (g.isEnd && g.name == "table") then
      if ← closesRow then return .again .inTableBody t else ignored
    else if g.isEnd && sectionNames.contains g.name then
      if ← inScopeNamed limitsTableScope [g.name] then
        if ← closesRow then return .again .inTableBody t
      ignored
    else if g.isEnd && (tablePartNames.contains g.name || ["body", "html"].contains g.name) then
      ignored
    else return .by .inTable t
  | _ => return .by .inTable t

/-- Closes the cell. -/
def closeCell : Build Unit := do
  closeImplied
  popThrough (isHtml cellNames)
  clearFormatting

def inCellRule (t : Token) : Build Outcome := do
  match t with
  | .tag g =>
    if g.isEnd && cellNames.contains g.name then
      if ← inScopeNamed limitsTableScope [g.name] then
        closeImplied
        popThroughNamed g.name
        clearFormatting
        goesTo .inRow
      else ignored
    else if !g.isEnd && tablePartNames.contains g.name then
      if ← inScopeNamed limitsTableScope cellNames then
        closeCell
        return .again .inRow t
      ignored
    else if g.isEnd && ["body", "caption", "col", "colgroup", "html"].contains g.name then ignored
    else if g.isEnd && ["table", "tbody", "tfoot", "thead", "tr"].contains g.name then
      if ← inScopeNamed limitsTableScope [g.name] then
        closeCell
        return .again .inRow t
      ignored
    else return .by .inBody t
  | _ => return .by .inBody t

/-! ## Lists of choices -/

/-- Closes the list of choices, if one is open. -/
def closesSelect : Build Bool := do
  if ← inScopeNamed limitsSelectScope ["select"] then
    popThroughNamed "select"
    return true
  return false

/-- The end of a group of choices, which ends a choice in it. -/
def closesGroup : Build Outcome := do
  let b ← get
  match b.opened.reverse with
  | n :: m :: _ =>
    if isHtml ["option"] (b.nameOf n) && isHtml ["optgroup"] (b.nameOf m) then pop
  | _ => pure ()
  if ← currentNamed ["optgroup"] then pop
  return .done

def selectStart (g : Tag) : Build Outcome := do
  let t := Token.tag g
  match g.name with
  | "html" => return .by .inBody t
  | "option" =>
    if ← currentNamed ["option"] then pop
    opens g
  | "optgroup" =>
    if ← currentNamed ["option"] then pop
    if ← currentNamed ["optgroup"] then pop
    opens g
  | "select" => if ← closesSelect then goesTo (← phaseThatFits) else ignored
  | "input" | "keygen" | "textarea" =>
    if ← closesSelect then return .again (← phaseThatFits) t else ignored
  | "script" | "template" => return .by .inHead t
  | _ => ignored

def selectEnd (g : Tag) : Build Outcome := do
  match g.name with
  | "optgroup" => closesGroup
  | "option" =>
    if ← currentNamed ["option"] then pop
    return .done
  | "select" => if ← closesSelect then goesTo (← phaseThatFits) else ignored
  | "template" => return .by .inHead (.tag g)
  | _ => ignored

def inSelectRule (t : Token) : Build Outcome := do
  match t with
  | .char c =>
    putChar c
    return .done
  | .comment s =>
    putComment s
    return .done
  | .tag g => if g.isEnd then selectEnd g else selectStart g
  | .finish => return .by .inBody t
  | _ => ignored

/-- Parts of a table end a list of choices in it. -/
def inSelectInTableRule (t : Token) : Build Outcome := do
  match t with
  | .tag g =>
    if ["caption", "table", "tbody", "tfoot", "thead", "tr", "td", "th"].contains g.name then
      if !g.isEnd || (← inScopeNamed limitsTableScope [g.name]) then
        popThroughNamed "select"
        return .again (← phaseThatFits) t
      ignored
    else return .by .inSelect t
  | _ => return .by .inSelect t

end LiveTemplates.Markup
