/-
# LiveTemplates.Template -- the markup of a component

A template is written as markup and read as a document.  What the markup starts with can end
up in the head of that document (styles, links, titles); it belongs to the
template like everything else.  So the head is emptied in front of the body, and the
body is the root of the template.
-/
import LiveTemplates.Markup.Document

namespace LiveTemplates

/-- A template: the document it was read as, and the tree at its body. -/
structure Template where
  document : Tree
  root : Tree
deriving Inhabited

namespace Template

/-- The reason given for markup that is read as a document without a body. -/
def noBodyReason : String := "parsed template has no body"

/-- Moves what is in the head of a document in front of what is in its body; gives the
body. -/
def hoist (f : Forest) (document : NodeId) : Option (Forest × NodeId) := do
  let body ← (f.elementsByTag document "BODY").head?
  match (f.elementsByTag document "HEAD").head? with
  | none => return (f, body)
  | some head =>
    let content := f.children head ++ f.children body
    return (((f.clear head).clear body).appendAll body content, body)

/-- The forest of a template, its document and its root. -/
def grow (markup : String) : Option (Forest × NodeId × NodeId) := do
  let (forest, document) := Markup.parse markup
  let (forest, root) ← hoist forest document
  return (forest, document, root)

/-- The template that a markup text stands for, if it has a body. -/
def parse? (markup : String) : Option Template := do
  let (forest, document, root) ← grow markup
  return ⟨forest.tree document, forest.tree root⟩

end Template

end LiveTemplates
