/-
# LiveTemplates.Forest -- nodes that can be moved

A forest holds nodes under numbers that never change.  Each lists its children
and knows its parent.  Nodes are added and moved, never taken away: a node that is
removed from its parent is the root of a tree of its own.

In a well-formed forest each node is listed at most once, by its parent, and none is
above itself.  Walks and snapshots are bounded by the number of nodes, so
they end in any forest; in a well-formed one the bound is never met.
-/
import LiveTemplates.Node

namespace LiveTemplates

/-- The number of a node. -/
abbrev NodeId := Nat

/-- A node with its links. -/
structure Node where
  data : NodeData
  parent : Option NodeId := none
  children : List NodeId := []
deriving Repr, Inhabited

/-- Nodes under numbers. -/
structure Forest where
  nodes : Array Node := #[]
deriving Repr, Inhabited

namespace Forest

/-! ## Looking -/

/-- How many nodes there are. -/
def size (f : Forest) : Nat :=
  f.nodes.size

/-- What a node holds; numbers without a node count as documents. -/
def data (f : Forest) (n : NodeId) : NodeData :=
  ((f.nodes[n]?).map (·.data)).getD .document

/-- The children of a node. -/
def children (f : Forest) (n : NodeId) : List NodeId :=
  ((f.nodes[n]?).map (·.children)).getD []

/-- The node that lists a node. -/
def parent? (f : Forest) (n : NodeId) : Option NodeId :=
  (f.nodes[n]?).bind (·.parent)

/-! ## Changing -/

/-- Changes a node. -/
def modify (f : Forest) (n : NodeId) (change : Node → Node) : Forest :=
  ⟨f.nodes.modify n change⟩

/-- Adds a node without links. -/
def add (f : Forest) (d : NodeData) : NodeId × Forest :=
  (f.nodes.size, ⟨f.nodes.push { data := d }⟩)

/-- Changes what a node holds. -/
def setData (f : Forest) (n : NodeId) (d : NodeData) : Forest :=
  f.modify n fun node => { node with data := d }

/-- Gives an attribute of an element a value; tells whether it is an element. -/
def setAttr (f : Forest) (n : NodeId) (name value : String) : Bool × Forest :=
  ((f.data n).isElement,
    f.modify n fun node => { node with data := node.data.setAttr name value })

/-- Clears a node's list of children. -/
def clear (f : Forest) (n : NodeId) : Forest :=
  f.modify n fun node => { node with children := [] }

/-- Takes a child out of a node's list. -/
def unlist (f : Forest) (parent child : NodeId) : Forest :=
  f.modify parent fun node => { node with children := node.children.filter (· ≠ child) }

/-- Sets or clears the link to a parent. -/
def setParent (f : Forest) (n : NodeId) (parent : Option NodeId) : Forest :=
  f.modify n fun node => { node with parent := parent }

/-- Takes a node out of its parent's list. -/
def detach (f : Forest) (n : NodeId) : Forest :=
  match f.parent? n with
  | none => f
  | some p => (f.unlist p n).setParent n none

/-- Moves a node to the end of another's children. -/
def append (f : Forest) (parent child : NodeId) : Forest :=
  ((f.detach child).setParent child (some parent)).modify parent fun node =>
    { node with children := node.children ++ [child] }

/-- Takes a child out of a node's list; tells whether it was there. -/
def remove (f : Forest) (parent child : NodeId) : Bool × Forest :=
  if child ∈ f.children parent then (true, (f.unlist parent child).setParent child none)
  else (false, f)

/-- Moves nodes, one by one, to the end of another's children. -/
def appendAll (f : Forest) (parent : NodeId) (children : List NodeId) : Forest :=
  children.foldl (fun f child => (f.setParent child none).append parent child) f

/-- Moves all children of a node to the end of another's; gives the moved nodes. -/
def moveChildren (f : Forest) (source target : NodeId) : List NodeId × Forest :=
  let moved := f.children source
  (moved, (f.clear source).appendAll target moved)

/-- Takes in the nodes of another forest.  Their numbers grow by the size of this one. -/
def adopt (f g : Forest) : Forest :=
  let shifted (node : Node) : Node :=
    { node with parent := node.parent.map (· + f.size), children := node.children.map (· + f.size) }
  ⟨f.nodes ++ g.nodes.map shifted⟩

/-! ## Walking -/

/-- The nodes that are met from a stack of nodes on, each in front of its children. -/
def walkFrom (f : Forest) : Nat → List NodeId → List NodeId
  | 0, _ => []
  | _ + 1, [] => []
  | fuel + 1, n :: stack => n :: f.walkFrom fuel (f.children n ++ stack)

/-- A node and all below it, in document order. -/
def nodesFrom (f : Forest) (root : NodeId) : List NodeId :=
  f.walkFrom (f.size + 1) [root]

/-- The elements below a node, in document order. -/
def elementsBelow (f : Forest) (root : NodeId) : List NodeId :=
  (f.walkFrom f.size (f.children root)).filter fun n => (f.data n).isElement

/-- The elements below a node with a tag, in document order. -/
def elementsByTag (f : Forest) (root : NodeId) (tag : String) : List NodeId :=
  (f.elementsBelow root).filter fun n => (f.data n).tag? = some (Text.uppercase tag)

/-- The texts of a node and all below it, joined. -/
def textContent (f : Forest) (root : NodeId) : String :=
  String.join ((f.nodesFrom root).filterMap fun n => (f.data n).text?)

/-! ## Snapshots -/

/-- The tree at a node, down to a depth. -/
def treeTo (f : Forest) : Nat → NodeId → Tree
  | 0, n => .node (f.data n) []
  | depth + 1, n => .node (f.data n) ((f.children n).map (f.treeTo depth))

/-- The tree at a node. -/
def tree (f : Forest) (n : NodeId) : Tree :=
  f.treeTo f.size n

end Forest

end LiveTemplates
