/-
# LiveTemplates.Session.State -- what a session remembers

A session has a host document, classes, and handlers and refreshes that take further
steps.  It keeps what its steps make in registers, one set of registers for each
kind of thing, and a log of what happens.  What a register holds stays held: a zone is
alive as long as a register holds it, or an application or an instance with it.
-/
import LiveTemplates.Application
import LiveTemplates.Session.Object

namespace LiveTemplates.Session

/-- Things under names. -/
abbrev Registers (α : Type) := List (String × α)

/-- Puts a thing under a name, in place of what was there. -/
def Registers.put (r : Registers α) (name : String) (a : α) : Registers α :=
  (name, a) :: r.filter (·.1 != name)

/-- A refresh of the session: steps, and the failure at the end if there is one. -/
structure ScriptedRefresh where
  steps : List Json := []
  failure : Option String := none

/-- What stays the same during a session. -/
structure Setting where
  catalog : Catalog := []
  /-- What the objects of the classes are like. -/
  scopes : List (String × Json) := []
  handlers : List (String × List Json) := []
  refreshes : List (String × ScriptedRefresh) := []

/-- What a session remembers. -/
structure State where
  setting : Setting := {}
  /-- How many objects of classes were made. -/
  constructed : Nat := 0
  objects : List (ObjectId × Object) := []
  /-- What has happened, latest first. -/
  log : List Json := []
  nodes : Registers NodeId := []
  templates : Registers NodeId := []
  zones : Registers Zone := []
  dispatchers : Registers Nat := []
  compilers : Registers Compiler := []
  blueprints : Registers Blueprint := []
  objectNames : Registers ObjectId := []
  ticks : Registers Nat := []
  applications : Registers Application := []
  instances : Registers Instance := []

namespace State

/-- Adds an entry to the log. -/
def say (s : State) (entry : Json) : State :=
  { s with log := entry :: s.log }

/-- The object of a number. -/
def object (s : State) (o : ObjectId) : Object :=
  (s.objects.lookup o).getD { label := "" }

/-- Sets the object of a number. -/
def setObject (s : State) (o : ObjectId) (object : Object) : State :=
  { s with objects := (o, object) :: s.objects.filter (·.1 != o) }

/-- Is a zone held by a register? -/
def holds (s : State) (z : Nat) : Bool :=
  s.zones.any (·.2.covers z) || s.applications.any (·.2.zone.covers z)
    || s.instances.any (·.2.zone.covers z)

/-- The object of a new instance of a class. -/
def construct (c : ClassRef) (o : ObjectId) (s : State) : State :=
  let label := s!"{c.id}#{s.constructed}"
  let scope := (s.setting.scopes.lookup c.id).getD (.record [])
  let s := s.say (.list [.text "new", .text label])
  { s.setObject o (.ofJson label scope) with constructed := s.constructed + 1 }

/-- Reads a member. -/
def getMember (o : ObjectId) (member : String) (s : State) : Option Value × State :=
  let object := s.object o
  (object.get? member, s.say (.list [.text "get", .text object.label, .text member]))

/-- Writes a member. -/
def setMember (o : ObjectId) (member : String) (v : Value) (s : State) :
    Except ExpressionError Unit × State :=
  let object := s.object o
  let s := s.say (.list [.text "set", .text object.label, .text member, ofValue v])
  match object.write member v with
  | .ok object => (.ok (), s.setObject o object)
  | .error e => (.error e, s)

end State

end LiveTemplates.Session
