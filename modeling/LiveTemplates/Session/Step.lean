/-
# LiveTemplates.Session.Step -- the steps of a session

A step looks at the host tree or changes it, compiles classes, starts and stops
instances, or works with events and zones.  Most name the register for
what they make; without a name it is not kept.  A record that lacks something it
needs is no step.
-/
import LiveTemplates.Session.Reference

namespace LiveTemplates.Session

/-- Steps on the nodes of the host tree. -/
inductive TreeStep where
  | template (markup : String)
  | node (n : NodePath)
  | query (tag : String)
  | find (n : NodePath) (tag : String)
  | walk (n : NodePath)
  | tree (n : NodePath)
  | info (n : NodePath)
  | getAttr (n : NodePath) (name : String)
  | setAttr (n : NodePath) (name value : String)
  | text (n : NodePath)
  | html (n : NodePath)
  | clone (n : NodePath)
  | append (parent child : NodePath)
  | remove (parent child : NodePath)
  | fragment
  | instruction (target contents : String)
  | move (source target : NodePath)
  | same (a b : NodePath)

/-- Steps on compilers and blueprints. -/
inductive CompilerStep where
  | compiler (options : Option Json)
  | compile (compiler : String) (c : ClassRef)
  | registry (compiler : String)
  | parseTemplate (template : String) (owner : ClassRef) (components : List ClassRef)
      (compiler : String)
  | blueprint (name : String)
  | sameBlueprint (a b : String)
  | construct (name : String) (around : Option String)

/-- The object of a register or an instance, or of one of an instance's children. -/
structure ObjectPath where
  name : String
  child : Option Nat := none

/-- Steps on applications, instances and objects. -/
inductive InstanceStep where
  | bootstrap (c : ClassRef) (options : Option Json)
  | attach (blueprint : String) (n : NodePath) (zone : String)
  | inspect (i : InstancePath)
  | host (application : String)
  | detach (i : InstancePath)
  | object (scope : Json)
  | read (o : ObjectPath) (member : String)
  | write (o : ObjectPath) (member : String) (v : Value)
  | call (o : ObjectPath) (method : String) (args : List Value)
  | eval (o : ObjectPath) (kind : BindingKind) (source : String)
  | bind (b : BindingKind × String × String) (n : NodePath) (o : ObjectPath) (zone : String)
      (described : Bool)

/-- Steps on events and zones. -/
inductive EventStep where
  | dispatcher
  | zone (behind : String)
  | listen (target : String) (n : NodePath) (event handler : String)
  | unlisten (target : String) (n : NodePath) (event handler : String)
  | dispatch (n : NodePath) (event : String) (dispatcher : Option String)
  | listeners (n : NodePath) (event : String) (dispatcher : Option String)
  | fire (n : NodePath) (event : String) (k : Nat)
  | setTarget (target : String)
  | dropZone (zone : String)
  | tick (zone : String)
  | onTick (zone refresh : String)
  | removeTick (zone tick : String)
  | zoneInfo (zone : String)
  | debug (name : String)
  | log (v : Json)

/-- What is to be done. -/
inductive Task where
  | tree (s : TreeStep)
  | compiler (s : CompilerStep)
  | instances (s : InstanceStep)
  | event (s : EventStep)

/-- A step: what is to be done, and the register for what that makes. -/
structure Step where
  task : Task
  register : Option String

/-! ## Reading -/

/-- The text of an entry. -/
def text? (j : Json) (key : String) : Option String :=
  (j.field? key).bind Json.text?

/-- The node of an entry. -/
def nodeAt? (j : Json) (key : String) : Option NodePath :=
  (text? j key).bind NodePath.read?

/-- The class of an entry. -/
def classAt? (j : Json) (key : String) : Option ClassRef :=
  (j.field? key).bind toClassRef?

/-- The object of a record. -/
def objectAt? (j : Json) : Option ObjectPath :=
  (text? j "of").map fun name => ⟨name, (j.field? "pre").bind Json.nat?⟩

/-- The instance of a record. -/
def instanceAt? (j : Json) : Option InstancePath :=
  (text? j "of").bind fun name => InstancePath.read? name.toList

/-- The value of an entry. -/
def valueAt (j : Json) (key : String) : Value :=
  ((j.field? key).map toValue).getD .null

/-- The kind of binding of a record. -/
def kindAt (j : Json) : BindingKind :=
  if text? j "kind" = some "output" then .output else .input

/-- The step on nodes that a record describes. -/
def TreeStep.read? (j : Json) : String → Option TreeStep
  | "template" => return .template (← text? j "html")
  | "node" => return .node (← nodeAt? j "node")
  | "query" => return .query (← text? j "tag")
  | "find" => return .find (← nodeAt? j "node") (← text? j "tag")
  | "walk" => return .walk (← nodeAt? j "node")
  | "tree" => return .tree (← nodeAt? j "node")
  | "info" => return .info (← nodeAt? j "node")
  | "get_attr" => return .getAttr (← nodeAt? j "node") (← text? j "name")
  | "set_attr" => return .setAttr (← nodeAt? j "node") (← text? j "name") (← text? j "value")
  | "text" => return .text (← nodeAt? j "node")
  | "html" => return .html (← nodeAt? j "node")
  | "clone" => return .clone (← nodeAt? j "node")
  | "append" => return .append (← nodeAt? j "parent") (← nodeAt? j "child")
  | "remove" => return .remove (← nodeAt? j "parent") (← nodeAt? j "child")
  | "fragment" => return .fragment
  | "pi" => return .instruction (← text? j "target") (← text? j "contents")
  | "move" => return .move (← nodeAt? j "from") (← nodeAt? j "to")
  | "same" => return .same (← nodeAt? j "a") (← nodeAt? j "b")
  | _ => none

/-- The step on compilers that a record describes. -/
def CompilerStep.read? (j : Json) : String → Option CompilerStep
  | "compiler" => return .compiler (j.field? "options")
  | "compile" => return .compile (← text? j "compiler") (← classAt? j "class")
  | "registry" => return .registry (← text? j "compiler")
  | "parse_template" => do
    let components ← (itemsAt j "components").mapM toClassRef?
    return .parseTemplate (← text? j "template") (← classAt? j "owner") components
      (← text? j "compiler")
  | "blueprint" => return .blueprint (← text? j "of")
  | "same_blueprint" => return .sameBlueprint (← text? j "a") (← text? j "b")
  | "construct" => return .construct (← text? j "of") (text? j "with")
  | _ => none

/-- The step on instances that a record describes. -/
def InstanceStep.read? (j : Json) : String → Option InstanceStep
  | "bootstrap" => return .bootstrap (← classAt? j "class") (j.field? "options")
  | "attach" => return .attach (← text? j "of") (← nodeAt? j "node") (← text? j "zone")
  | "instance" => return .inspect (← instanceAt? j)
  | "host" => return .host (← text? j "of")
  | "detach" => return .detach (← instanceAt? j)
  | "object" => return .object ((j.field? "scope").getD (.record []))
  | "get" => return .read (← objectAt? j) (← text? j "member")
  | "set" => return .write (← objectAt? j) (← text? j "member") (valueAt j "value")
  | "call" => return .call (← objectAt? j) (← text? j "method") ((itemsAt j "args").map toValue)
  | "eval" => return .eval (← objectAt? j) (kindAt j) (← text? j "source")
  | "bind" => do
    let b := (kindAt j, ← text? j "name", ← text? j "expression")
    let described := ((j.field? "debug").bind Json.bool?).getD false
    return .bind b (← nodeAt? j "node") (← objectAt? j) (← text? j "zone") described
  | _ => none

/-- The step on events and zones that a record describes. -/
def EventStep.read? (j : Json) : String → Option EventStep
  | "dispatcher" => return .dispatcher
  | "zone" => return .zone (← text? j "over")
  | "listen" =>
    return .listen (← text? j "on") (← nodeAt? j "node") (← text? j "event") (← text? j "handler")
  | "unlisten" =>
    return .unlisten (← text? j "on") (← nodeAt? j "node") (← text? j "event") (← text? j "handler")
  | "dispatch" => return .dispatch (← nodeAt? j "node") (← text? j "event") (text? j "on")
  | "listeners" => return .listeners (← nodeAt? j "node") (← text? j "event") (text? j "on")
  | "fire" =>
    return .fire (← nodeAt? j "node") (← text? j "event") (← (j.field? "k").bind Json.nat?)
  | "set_target" => return .setTarget (← text? j "to")
  | "drop_zone" => return .dropZone (← text? j "zone")
  | "tick" => return .tick (← text? j "zone")
  | "on_tick" => return .onTick (← text? j "zone") (← text? j "refresh")
  | "remove_tick" => return .removeTick (← text? j "zone") (← text? j "tick")
  | "zone_info" => return .zoneInfo (← text? j "zone")
  | "debug" => return .debug (← text? j "of")
  | "log" => return .log ((j.field? "v").getD .null)
  | _ => none

/-- What a record describes that is to be done. -/
def Task.read? (j : Json) (kind : String) : Option Task :=
  (TreeStep.read? j kind).map .tree
    <|> (CompilerStep.read? j kind).map .compiler
    <|> (InstanceStep.read? j kind).map .instances
    <|> (EventStep.read? j kind).map .event

/-- The kind of step of a record. -/
def kindOfStep (j : Json) : String :=
  textAt j "do"

/-- The step that a record describes. -/
def Step.read? (j : Json) : Option Step :=
  (Task.read? j (kindOfStep j)).map fun task => ⟨task, text? j "as"⟩

end LiveTemplates.Session
