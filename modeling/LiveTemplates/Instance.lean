/-
# LiveTemplates.Instance -- components in the host tree

An instance is a blueprint at work: an object, live copies of the nodes of the
template at the end of a host's children, and the registrations of the bindings with a
zone.

The template is copied node by node.  When a copy is complete with all that is below it,
the bindings on the node are attached to it, and behind them the component that takes
its place gets an instance of its own with the copy as host.

What an instance has registered and mounted is kept in the world, under its number, as
long as it is attached.  All else about it never changes.
-/
import LiveTemplates.Binding.Attached

namespace LiveTemplates

variable {σ : Type}

/-- An instance of a blueprint. -/
inductive Instance where
  | mk (serial : Nat) (blueprint : Blueprint) (object : ObjectId) (childObjects : List ObjectId)
      (host : NodeId) (zone : Zone) (children : List Instance)

namespace Instance

/-- The number of an instance. -/
def serial : Instance → Nat
  | mk n _ _ _ _ _ _ => n

def blueprint : Instance → Blueprint
  | mk _ b _ _ _ _ _ => b

def object : Instance → ObjectId
  | mk _ _ o _ _ _ _ => o

/-- The objects that were made for the children of the blueprint, in their order. -/
def childObjects : Instance → List ObjectId
  | mk _ _ _ os _ _ _ => os

/-- The node at whose end the template was mounted. -/
def host : Instance → NodeId
  | mk _ _ _ _ n _ _ => n

def zone : Instance → Zone
  | mk _ _ _ _ _ z _ => z

/-- The instances inside, in the order in which they were attached. -/
def children : Instance → List Instance
  | mk _ _ _ _ _ _ is => is

end Instance

/-! ## Attaching -/

/-- What has been wired up while a template is copied. -/
structure Wiring where
  ticks : List Nat := []
  listeners : List Listener := []
  children : List Instance := []

/-- Adds what a binding has registered. -/
def Wiring.add (w : Wiring) : Option Attachment → Wiring
  | none => w
  | some (.refresh tick) => { w with ticks := w.ticks ++ [tick] }
  | some (.listener l) => { w with listeners := w.listeners ++ [l] }

/-- How a component is mounted on a node, as an activity that waits for the node. -/
abbrev Mounting (σ : Type) := NodeId → Run σ Instance

namespace Wiring

/-- Attaches the bindings of one element of the template to its copy. -/
def wireBindings (u : UserCode σ) (z : Zone) (o : ObjectId) (bindings : List (Spot × Binding))
    (address : List Nat) (live : NodeId) (w : Wiring) : Run σ Wiring :=
  (bindings.filter (·.1.address = address)).foldlM (fun w (_, b) => do
    return w.add (← b.attach u live o z)) w

/-- Mounts the component of one element of the template on its copy. -/
def wireChildren (parts : List (Spot × Mounting σ)) (address : List Nat) (live : NodeId)
    (w : Wiring) : Run σ Wiring :=
  (parts.filter (·.1.address = address)).foldlM (fun w (_, mount) => do
    return { w with children := w.children ++ [← mount live] }) w

variable {ω : Type}

mutual

/-- Copies a tree and wires each copy when it is complete. -/
def copy (wire : List Nat → NodeId → ω → Run σ ω) (address : List Nat) :
    Tree → ω → Run σ (NodeId × ω)
  | .node d ts, w => do
    let live ← Run.onForest (·.add d)
    let w ← copyAll wire live address 0 ts w
    return (live, ← wire address live w)

/-- Copies the children of a node, from an index on, to the end of a copy of it. -/
def copyAll (wire : List Nat → NodeId → ω → Run σ ω) (parent : NodeId)
    (address : List Nat) : Nat → List Tree → ω → Run σ ω
  | _, [], w => return w
  | i, t :: ts, w => do
    let (live, w) ← copy wire (address ++ [i]) t w
    modify fun world => { world with forest := world.forest.append parent live }
    copyAll wire parent address (i + 1) ts w

end

end Wiring

namespace Blueprint

/-- Makes the objects of the children of a blueprint. -/
def constructChildren (u : UserCode σ) (b : Blueprint) : Run σ (List ObjectId) :=
  b.constructedClasses.mapM (Run.construct u)

mutual

/-- Mounts a blueprint for an object on a host. -/
def mount (u : UserCode σ) (z : Zone) : Blueprint → ObjectId → Mounting σ
  | mk compiler cls template bindings children warnings, object, host => do
    let b := mk compiler cls template bindings children warnings
    let childObjects ← b.constructChildren u
    let serial ← Run.fresh
    let parts := mountings u z children childObjects
    let fragment ← Run.onForest (·.add .document)
    let wire address live w := do
      let w ← Wiring.wireBindings u z object bindings address live w
      Wiring.wireChildren parts address live w
    let w ← Wiring.copyAll wire fragment [] 0 template.root.children {}
    let mounted ← Run.onForest (·.moveChildren fragment host)
    modify fun world =>
      { world with attached := (serial, ⟨w.ticks, w.listeners, mounted⟩) :: world.attached }
    return .mk serial b object childObjects host z w.children

/-- The ways in which the children of a blueprint are mounted, for their objects.  A child
without an object gets a new one when it is mounted. -/
def mountings (u : UserCode σ) (z : Zone) :
    List (Spot × Blueprint) → List ObjectId → List (Spot × Mounting σ)
  | [], _ => []
  | (spot, b) :: rest, o :: os => (spot, mount u z b o) :: mountings u z rest os
  | (spot, b) :: rest, [] =>
    (spot, fun live => do mount u z b (← Run.construct u b.cls) live) :: mountings u z rest []

end

/-- Makes an instance of a blueprint, with a new object, at the end of a host. -/
def attach (u : UserCode σ) (b : Blueprint) (host : NodeId) (z : Zone) : Run σ Instance :=
  Run.holding z do
    let object ← Run.construct u b.cls
    b.mount u z object host

end Blueprint

/-! ## Detaching -/

namespace World

/-- The registrations of an instance, while it is attached. -/
def registrations? (w : World σ) (serial : Nat) : Option Registrations :=
  w.attached.lookup serial

/-- Forgets what an instance has registered. -/
def forget (w : World σ) (serial : Nat) : World σ :=
  { w with attached := w.attached.filter (·.1 != serial) }

/-- Takes back all that an instance has registered, and takes its nodes off the host. -/
def takeBack (w : World σ) (z : Zone) (host : NodeId) (r : Registrations) : World σ :=
  let w := r.ticks.foldl (fun w tick => (w.removeRefresh z tick).2) w
  let w := r.listeners.foldl (fun w l => (w.removeWrapped z l).2) w
  r.mounted.foldl (fun w n => { w with forest := (w.forest.remove host n).2 }) w

end World

namespace Instance

mutual

/-- Detaches an instance with all instances inside of it, these first.  An instance that
is not attached stays as it is. -/
def detach : Instance → World σ → World σ
  | mk serial _ _ _ host z children, w =>
    match w.registrations? serial with
    | none => w
    | some r => (detachAll children (w.forget serial)).takeBack z host r

/-- Detaches several instances. -/
def detachAll : List Instance → World σ → World σ
  | [], w => w
  | i :: rest, w => detachAll rest (i.detach w)

end

end Instance

end LiveTemplates
