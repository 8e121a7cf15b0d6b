/-
# LiveTemplates.Node -- what the nodes of a document hold

A node is a document, a document type, a text, a comment, an instruction to a
processor or an element.  A `Tree` is a node with all that is below it.  The address of
a node in a tree lists the indexes of the children on the way from the root.
-/
import LiveTemplates.Text.Uppercase

namespace LiveTemplates

/-- The vocabularies that names of elements and attributes belong to. -/
inductive Space where
  | none | html | svg | mathml | xlink | xml | xmlns
deriving Repr, DecidableEq, Inhabited

/-- An attribute of an element. -/
structure Attr where
  space : Space := .none
  name : String
  value : String
deriving Repr, DecidableEq, Inhabited

/-- What a node holds, without its children. -/
inductive NodeData where
  | document
  | doctype (name publicId systemId : String)
  | text (s : String)
  | comment (s : String)
  | instruction (target contents : String)
  | element (space : Space) (name : String) (attrs : List Attr)
deriving Repr, DecidableEq, Inhabited

namespace NodeData

/-- Is the node an element? -/
def isElement : NodeData → Bool
  | .element .. => true
  | _ => false

/-- The tag of an element: its name in capitals. -/
def tag? : NodeData → Option String
  | .element _ name _ => some (Text.uppercase name)
  | _ => none

/-- The attributes of an element. -/
def attrs : NodeData → List Attr
  | .element _ _ attrs => attrs
  | _ => []

/-- The text of a text. -/
def text? : NodeData → Option String
  | .text s => some s
  | _ => none

/-- The tag of an element, or the kind of another node. -/
def describe : NodeData → String
  | .document => "#document"
  | .doctype .. => "#doctype"
  | .text _ => "#text"
  | .comment _ => "#comment"
  | .instruction .. => "#pi"
  | .element _ name _ => Text.uppercase name

/-- The value of the first attribute of a name. -/
def attr? (d : NodeData) (name : String) : Option String :=
  (d.attrs.find? (·.name = name)).map (·.value)

/-- Gives the first attribute of a name a value, or adds one at the end. -/
def setAttrs (name value : String) : List Attr → List Attr
  | [] => [{ name := name, value := value }]
  | a :: rest =>
    if a.name = name then { a with value := value } :: rest else a :: setAttrs name value rest

/-- An element with an attribute set; other nodes have none. -/
def setAttr (d : NodeData) (name value : String) : NodeData :=
  match d with
  | .element space n attrs => .element space n (setAttrs name value attrs)
  | d => d

end NodeData

/-- A node with all that is below it. -/
inductive Tree where
  | node (data : NodeData) (children : List Tree)
deriving Inhabited

namespace Tree

/-- What the root holds. -/
def data : Tree → NodeData
  | node d _ => d

/-- The trees below the root. -/
def children : Tree → List Tree
  | node _ ts => ts

mutual

/-- The nodes of a tree from the root on, each in front of what is below it. -/
def preorder : Tree → List NodeData
  | node d ts => d :: preorderAll ts

/-- The nodes of several trees. -/
def preorderAll : List Tree → List NodeData
  | [] => []
  | t :: ts => t.preorder ++ preorderAll ts

end

/-! ## Addresses -/

/-- The node at an address below the root. -/
def at? : Tree → List Nat → Option Tree
  | t, [] => some t
  | node _ ts, i :: address =>
    match ts[i]? with
    | some t => t.at? address
    | none => none

/-- The elements at the roots of trees and below, in document order.  The first of the
trees has the given index. -/
def elementsAmong : Nat → List Tree → List (List Nat × NodeData)
  | _, [] => []
  | i, node d ts :: rest =>
    (if d.isElement then [([i], d)] else [])
      ++ (elementsAmong 0 ts).map (fun (address, d) => (i :: address, d))
      ++ elementsAmong (i + 1) rest

/-- The elements below the root with their addresses, in document order. -/
def elementsBelow (t : Tree) : List (List Nat × NodeData) :=
  elementsAmong 0 t.children

end Tree

end LiveTemplates
