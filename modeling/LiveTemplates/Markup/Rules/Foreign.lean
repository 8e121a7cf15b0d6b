/-
# LiveTemplates.Markup.Rules.Foreign -- in formulas and drawings

Inside of elements of another vocabulary tags open elements of that vocabulary.
Some HTML tags end the formula or drawing; some places in it hold HTML.
-/
import LiveTemplates.Markup.Builder

namespace LiveTemplates.Markup

/-- Does an annotation of a formula hold HTML? -/
def holdsHtml (b : Builder) (n : NodeId) : Bool :=
  match b.forest.data n with
  | .element .mathml "annotation-xml" attrs =>
    attrs.any fun a => a.space == .none && a.name == "encoding" &&
      ["text/html", "application/xhtml+xml"].contains (smallLetters a.value)
  | _ => false

/-- Is a token dealt with by the rules of the other vocabulary? -/
def isForeign (b : Builder) (t : Token) : Bool :=
  match b.opened.getLast? with
  | none => false
  | some n =>
    let name := b.nameOf n
    let startTag? := match t with
      | .tag g => if g.isEnd then none else some g.name
      | _ => none
    let isChar := match t with
      | .char _ | .null => true
      | _ => false
    match t with
    | .finish => false
    | _ =>
      if name.1 == .html then false
      else if isFormulaText name && (isChar || startTag?.any fun s => s != "mglyph" && s != "malignmark")
        then false
      else if isDrawingText name && (isChar || startTag?.isSome) then false
      else if name == (.mathml, "annotation-xml") && startTag? == some "svg" then false
      else if name == (.mathml, "annotation-xml") && (isChar || startTag?.isSome) then
        !holdsHtml b n
      else true

/-- Closes elements up to a place that holds HTML. -/
def leaveForeign : Build Unit :=
  modify fun b => { b with
    opened := (b.opened.reverse.dropWhile fun n =>
      let name := b.nameOf n
      !(name.1 == .html || isFormulaText name || isDrawingText name)).reverse }

/-- Does a start tag end the formula or drawing? -/
def breaksOut (g : Tag) : Bool :=
  breakoutNames.contains g.name
    || (g.name == "font" && g.attrs.any fun (name, _) => ["color", "face", "size"].contains name)

/-- Opens an element of the vocabulary that the innermost element is of. -/
def opensWithin (g : Tag) : Build Outcome := do
  let (space, _) ← nameOf (← current)
  let g := if space == .svg then { g with name := respell drawingNames g.name } else g
  let n ← putElement space g
  if !g.selfClosing then push n
  return .done

/-- The number of open elements that an end tag leaves, or `none` if the rules of HTML
decide.  The open elements are given from the innermost out. -/
def leftOpen (b : Builder) (name : String) : Bool → List NodeId → Option Nat
  | _, [] | _, [_] => some b.opened.length
  | first, n :: rest =>
    if !first && (b.nameOf n).1 == .html then none
    else if smallLetters (b.nameOf n).2 == name then some rest.length
    else leftOpen b name false rest

def foreignRule (t : Token) : Build Outcome := do
  match t with
  | .null =>
    putChar replacement
    return .done
  | .char c =>
    if !isSpace c then noFrameset
    putChar c
    return .done
  | .comment s =>
    putComment s
    return .done
  | .tag g =>
    if !g.isEnd then
      if breaksOut g then
        leaveForeign
        return .by (← get).phase t
      opensWithin g
    else if ["br", "p"].contains g.name then
      leaveForeign
      return .by (← get).phase t
    else
      let b ← get
      match leftOpen b g.name true b.opened.reverse with
      | some n =>
        set { b with opened := b.opened.take n }
        return .done
      | none => return .by b.phase t
  | .finish | .doctype _ => return .done

end LiveTemplates.Markup
