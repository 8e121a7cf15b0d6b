/-
# LiveTemplates.Markup.Written -- trees as markup

Markup is what is written between the tags of an element: its children in order.
Inside of elements whose contents are raw text, texts are written as they are; the
element that the markup belongs to does not count.  Elements that never have
contents have no end tag, and elements below them are left out.
-/
import LiveTemplates.Node

namespace LiveTemplates.Markup

/-- The written form of a character in a text or in a value. -/
def escape (inValue : Bool) (c : Char) : List Char :=
  match c with
  | '&' => "&amp;".toList
  | '\u00a0' => "&nbsp;".toList
  | '"' => if inValue then "&quot;".toList else [c]
  | '<' => if inValue then [c] else "&lt;".toList
  | '>' => if inValue then [c] else "&gt;".toList
  | c => [c]

/-- The written form of a text or a value. -/
def escaped (inValue : Bool) (s : String) : String :=
  String.ofList (s.toList.flatMap (escape inValue))

/-- What stands in front of the names of attributes of a vocabulary. -/
def attrLead (a : Attr) : String :=
  match a.space with
  | .xml => "xml:"
  | .xmlns => if a.name = "xmlns" then "" else "xmlns:"
  | .xlink => "xlink:"
  | _ => ""

/-- An attribute in a start tag. -/
def writtenAttr (a : Attr) : String :=
  s!" {attrLead a}{a.name}=\"{escaped true a.value}\""

/-- Elements whose contents are raw text. -/
def rawElements : List String :=
  ["style", "script", "xmp", "iframe", "noembed", "noframes", "plaintext", "noscript"]

/-- Elements that never have contents. -/
def voidElements : List String :=
  ["area", "base", "basefont", "bgsound", "br", "col", "embed", "frame", "hr", "img", "input",
   "keygen", "link", "meta", "param", "source", "track", "wbr"]

/-- What a node is written in. -/
structure Surrounding where
  /-- Texts are written as they are. -/
  raw : Bool := false
  /-- Elements are left out. -/
  closed : Bool := false

/-- What the contents of an element are written in. -/
def Surrounding.inside (p : Surrounding) (space : Space) (name : String) : Surrounding :=
  { raw := space = .html ∧ name ∈ rawElements
    closed := p.closed ∨ (space = .html ∧ name ∈ voidElements) }

mutual

/-- A tree in its surrounding. -/
def written (p : Surrounding) : Tree → String
  | .node data children =>
    match data with
    | .document => ""
    | .doctype name _ _ => s!"<!DOCTYPE {name}>"
    | .text s => if p.raw then s else escaped false s
    | .comment s => s!"<!--{s}-->"
    | .instruction target contents => s!"<?{target} {contents}>"
    | .element space name attrs =>
      let inside := p.inside space name
      let contents := writtenAll inside children
      if p.closed then contents
      else
        let opening := s!"<{name}{String.join (attrs.map writtenAttr)}>"
        if inside.closed then opening ++ contents else s!"{opening}{contents}</{name}>"

/-- Several trees in their surrounding. -/
def writtenAll (p : Surrounding) : List Tree → String
  | [] => ""
  | t :: ts => written p t ++ writtenAll p ts

end

/-- The markup of what is below the root of a tree. -/
def inner (t : Tree) : String :=
  writtenAll {} t.children

end LiveTemplates.Markup
