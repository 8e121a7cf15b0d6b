/-
# LiveTemplates.World.Basic -- everything that changes while applications run

A world holds the nodes of the host document and all others, the listeners of each
dispatcher, the registries of each zone, and what each attached instance has
registered.  Objects of components live outside: the user's own state holds them,
and the user's own code reads and writes them.

* Listeners are registered with a target: a dispatcher, or a zone that stands in front
  of a further target and wraps each handler.
* A zone is alive while something holds it: a running activity, the document's target,
  or the user's own state.  Handlers that it has wrapped do not.
* An object is busy while an expression is evaluated against it.
-/
import LiveTemplates.Blueprint.Basic
import LiveTemplates.Notice
import LiveTemplates.Program.Scope

namespace LiveTemplates

/-! ## What is registered -/

/-- The number of an object of a component. -/
abbrev ObjectId := Nat

mutual

/-- Where listeners are registered. -/
inductive Target where
  | dispatcher (n : Nat)
  | zone (z : Zone)

/-- A zone: its number, and the target that it stands in front of. -/
inductive Zone where
  | mk (id : Nat) (behind : Target)

end

namespace Zone

/-- The number of a zone. -/
def id : Zone → Nat
  | mk n _ => n

/-- The target that a zone stands in front of. -/
def behind : Zone → Target
  | mk _ t => t

mutual

/-- Is this the zone of a number, or in front of it? -/
def covers (n : Nat) : Zone → Bool
  | mk id behind => id == n || targetCovers n behind

/-- Is the zone of a number among the zones of a target? -/
def targetCovers (n : Nat) : Target → Bool
  | .dispatcher _ => false
  | .zone z => z.covers n

end

end Zone

/-- What is done when an event happens. -/
inductive Handler where
  /-- The user's own handler of a name. -/
  | named (name : String)
  /-- The action of an output. -/
  | bound (serial : Nat) (event : String) (action : Expression) (object : ObjectId)
  /-- A handler with a tick of a zone behind it. -/
  | wrapped (serial : Nat) (zone : Zone) (inner : Handler)

/-- Is it the same handler? -/
def Handler.same : Handler → Handler → Bool
  | .named a, .named b => a == b
  | .bound m .., .bound n .. => m == n
  | .wrapped m .., .wrapped n .. => m == n
  | _, _ => false

/-- What is done in a tick. -/
inductive Refresh where
  /-- The user's own refresh of a name. -/
  | named (name : String)
  /-- Shows the value of an input in an attribute. -/
  | bound (node : NodeId) (attr : String) (value : Expression) (object : ObjectId)

/-- A handler for an event on a node. -/
structure Listener where
  node : NodeId
  event : String
  handler : Handler

/-- Is it a listener for this event on this node? -/
def Listener.isFor (l : Listener) (node : NodeId) (event : String) : Bool :=
  l.node == node && l.event == event

/-- Is it the same handler for the same event on the same node? -/
def Listener.same (a b : Listener) : Bool :=
  a.isFor b.node b.event && a.handler.same b.handler

/-- What a zone keeps of a listener that was registered with it. -/
structure Wrapper where
  /-- The listener as it was registered. -/
  inner : Listener
  /-- The handler that was registered in its place. -/
  handler : Handler

/-- The registries of a zone. -/
structure ZoneState where
  /-- The refreshes under their numbers, in order of registration. -/
  refreshes : List (Nat × Refresh) := []
  nextTick : Nat := 0
  wrappers : List Wrapper := []
  /-- How often the zone has ticked. -/
  ticks : Nat := 0

/-- What an attached instance has registered and mounted. -/
structure Registrations where
  ticks : List Nat := []
  listeners : List Listener := []
  mounted : List NodeId := []

/-! ## The world -/

/-- Everything that changes, with the user's own state. -/
structure World (σ : Type) where
  forest : Forest
  /-- The node of the host document. -/
  document : NodeId
  /-- The listeners of each dispatcher; the first is the document's. -/
  dispatchers : Array (List Listener) := #[[]]
  zones : Array ZoneState := #[]
  /-- Where listeners of the document are registered. -/
  target : Target := .dispatcher 0
  /-- The registrations of the attached instances under their numbers. -/
  attached : List (Nat × Registrations) := []
  /-- The objects that expressions are evaluated against, latest first. -/
  busy : List ObjectId := []
  /-- The zones that running activities hold, latest first. -/
  pins : List Zone := []
  /-- The next number for what has to be told apart. -/
  serial : Nat := 0
  user : σ

/-- An activity in a world.  It gives nothing if activities go on inside of each other
without an end. -/
abbrev Run (σ : Type) := StateT (World σ) Option

/-- The user's own code.  Reading, writing and constructing objects only changes the
user's own state; methods, handlers and refreshes can do everything. -/
structure UserCode (σ : Type) where
  get : ObjectId → String → σ → Option Value × σ
  set : ObjectId → String → Value → σ → Except ExpressionError Unit × σ
  call : ObjectId → String → List Value → Run σ (Except ExpressionError Value)
  handler : String → Run σ Unit
  refresh : String → Run σ (Except ExpressionError Unit)
  /-- Makes an object of a class under a number. -/
  construct : ClassRef → ObjectId → σ → σ
  notice : Notice → σ → σ
  /-- Does the user hold the zone of a number? -/
  holds : σ → Nat → Bool

namespace Run

variable {σ : Type}

/-- A change of the user's own state. -/
def onUser (f : σ → α × σ) : Run σ α := do
  let w ← get
  let (a, user) := f w.user
  set { w with user := user }
  return a

/-- Reports something. -/
def notice (u : UserCode σ) (n : Notice) : Run σ Unit :=
  modify fun w => { w with user := u.notice n w.user }

/-- A number that was never given out before. -/
def fresh : Run σ Nat :=
  modifyGet fun w => (w.serial, { w with serial := w.serial + 1 })

/-- A change of the forest. -/
def onForest (f : Forest → α × Forest) : Run σ α :=
  modifyGet fun w =>
    let (a, forest) := f w.forest
    (a, { w with forest := forest })

/-- Holds a zone during an activity. -/
def holding (z : Zone) (activity : Run σ α) : Run σ α := do
  modify fun w => { w with pins := z :: w.pins }
  let a ← activity
  modify fun w => { w with pins := w.pins.tail }
  return a

/-- A new object of a class. -/
def construct (u : UserCode σ) (c : ClassRef) : Run σ ObjectId := do
  let o ← fresh
  modify fun w => { w with user := u.construct c o w.user }
  return o

end Run

/-- An object as a scope. -/
def UserCode.scope (u : UserCode σ) (o : ObjectId) : Scope (Run σ) where
  get member := Run.onUser (u.get o member)
  set member v := Run.onUser (u.set o member v)
  call := u.call o

/-- Is a zone held by anything? -/
def World.alive (u : UserCode σ) (w : World σ) (z : Nat) : Bool :=
  w.pins.any (·.covers z) || Zone.targetCovers z w.target || u.holds w.user z

end LiveTemplates
