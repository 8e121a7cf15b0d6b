/-
# LiveTemplates.Session.Perform.Basic -- how a step finds what it is about

A step that refers to something that is not there has no answer, and does nothing.
-/
import LiveTemplates.Session.Describe
import LiveTemplates.Session.Step

namespace LiveTemplates.Session

/-- An activity of a session. -/
abbrev Act := Run State

/-- An activity with an answer, or none where a reference leads nowhere. -/
abbrev Answering := OptionT Act

namespace Answering

/-- Something that may be missing. -/
def found (a : Option α) : Answering α :=
  OptionT.mk (pure a)

/-- Something that the world may lack. -/
def look (f : World State → Option α) : Answering α := do
  found (f (← get))

/-- Something that the session may lack. -/
def lookUp (f : State → Option α) : Answering α :=
  look fun w => f w.user

/-- The node that a path refers to. -/
def nodeOf (p : NodePath) : Answering NodeId :=
  look p.node?

/-- The object that a path refers to. -/
def objectOf (o : ObjectPath) : Answering ObjectId :=
  lookUp (·.object? o.name o.child)

/-- A change of the forest. -/
def onForest (f : Forest → α × Forest) : Answering α :=
  OptionT.lift (Run.onForest f)

/-- A change of what the session remembers. -/
def remember (f : State → State) : Answering Unit :=
  modify fun w => { w with user := f w.user }

/-- A change of what the session remembers under a name, if there is a name. -/
def keep (register : Option String) (f : State → String → State) : Answering Unit :=
  match register with
  | none => pure ()
  | some name => remember fun s => f s name

/-- Keeps a node under a name. -/
def keepNode (register : Option String) (n : NodeId) : Answering Unit :=
  keep register fun s name => { s with nodes := s.nodes.put name n }

/-- What a node holds. -/
def dataOf (n : NodeId) : Answering NodeData :=
  return (← get).forest.data n

end Answering

end LiveTemplates.Session
