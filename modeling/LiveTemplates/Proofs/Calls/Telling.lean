/-
# LiveTemplates.Proofs.Calls.Telling -- activities that tell what they call

A refresh, a handler or a method of the user's can do everything that can be done to a world:
change the registries that it was found in, tick the zone that ticks it, dispatch the event that
it handles.  So what a tick or a dispatch has called cannot be read off the world behind it.

The activities that run code of the user's are written down here once more, with each call that
has returned.  A call holds the worlds before and behind it and the calls that were made in it,
so what an activity tells is a list of trees.

* `Episode`: a call from its beginning to its return;
* `Told`: activities that tell their calls;
* `Told.tick`, `Told.handle`, `Told.dispatch`, `Told.attach`, and what these consist of;
* `Routine.tell`, `Code.teller`: the user's code, as it tells what it calls.
-/
import LiveTemplates.Proofs.Reentrancy.Borrowing

namespace LiveTemplates

set_option autoImplicit false

variable {σ : Type}

/-! ## Calls -/

/-- What was called, and what it came to. -/
inductive Called where
  /-- A refresh that a zone has under a number: in a tick, or when it was registered. -/
  | refresh (zone tick : Nat) (r : Refresh) (outcome : Except ExpressionError Unit)
  /-- A tick: one that was asked for, or one behind a handler that the zone has wrapped. -/
  | tick (z : Zone) (behind : Bool) (report : TickReport)
  | handler (h : Handler)
  | dispatch (dispatcher : Nat) (node : NodeId) (event : String) (count : Nat)
  /-- A binding was attached to a live node, for an object. -/
  | binding (b : Binding) (live : NodeId) (o : ObjectId) (z : Zone)
    (registered : Option Attachment)
  /-- An instance was mounted. -/
  | mount (i : Instance)

/-- A call that has returned, with the worlds before and behind it, and the calls that were
made in it, one after the other. -/
inductive Episode (σ : Type) where
  | mk (what : Called) (before after : World σ) (inside : List (Episode σ))

namespace Episode

def what : Episode σ → Called
  | mk c _ _ _ => c

def before : Episode σ → World σ
  | mk _ w _ _ => w

def after : Episode σ → World σ
  | mk _ _ w _ => w

/-- The calls that were made in a call, without those that were made in these. -/
def inside : Episode σ → List (Episode σ)
  | mk _ _ _ es => es

mutual

/-- A call with all calls that were made in it, however deep. -/
def all : Episode σ → List (Episode σ)
  | mk c w v es => mk c w v es :: allOf es

/-- Several calls with all calls that were made in them. -/
def allOf : List (Episode σ) → List (Episode σ)
  | [] => []
  | e :: es => e.all ++ allOf es

end

end Episode

/-- An activity that tells what it calls. -/
abbrev Told (σ : Type) := StateT (List (Episode σ)) (Run σ)

/-- The user's methods, handlers and refreshes, as they tell what they call. -/
structure Teller (σ : Type) where
  call : ObjectId → String → List Value → Told σ (Except ExpressionError Value)
  handler : String → Told σ Unit
  refresh : String → Told σ (Except ExpressionError Unit)

namespace Told

variable {α : Type}

/-- An activity that calls nothing. -/
def plain (x : Run σ α) : Told σ α :=
  liftM x

/-- A call, with what it tells itself inside of it. -/
def calling (what : α → Called) (x : Told σ α) : Told σ α := fun told w => do
  let ((a, inside), v) ← (x.run []).run w
  return ((a, told ++ [.mk (what a) w v inside]), v)

/-- Holds a zone during an activity. -/
def holding (z : Zone) (x : Told σ α) : Told σ α := do
  plain (modify fun w => { w with pins := z :: w.pins })
  let a ← x
  plain (modify fun w => { w with pins := w.pins.tail })
  return a

/-- An activity during which an object is busy. -/
def borrowing (o : ObjectId) (x : Told σ α) : Told σ α := do
  plain (modify fun w => { w with busy := o :: w.busy })
  let a ← x
  plain (modify fun w => { w with busy := w.busy.erase o })
  return a

variable (u : UserCode σ) (t : Teller σ)

/-! ## Running -/

/-- An object as a scope. -/
def scope (o : ObjectId) : Scope (Told σ) where
  get member := plain (Run.onUser (u.get o member))
  set member x := plain (Run.onUser (u.set o member x))
  call := t.call o

/-- Evaluates an expression against an object, which must not be busy. -/
def evaluate (e : Expression) (o : ObjectId) : Told σ (Except ExpressionError Value) := do
  if (← plain get).busy.contains o then return .error (.reentrant e.source)
  borrowing o (e.program.eval (scope u t o)).run

/-- Runs a refresh. -/
def refresh : Refresh → Told σ (Except ExpressionError Unit)
  | .named name => t.refresh name
  | .bound node attr value object => do
    match ← evaluate u t value object with
    | .error e => return .error e
    | .ok x =>
      let _ ← plain (Run.onForest (·.setAttr node attr x.display))
      return .ok ()

/-- Runs one of the refreshes of a tick. -/
def addReport (z : Zone) (report : TickReport) (entry : Nat × Refresh) : Told σ TickReport := do
  match ← calling (.refresh z.id entry.1 entry.2) (refresh u t entry.2) with
  | .ok () => return { report with refreshed := report.refreshed + 1 }
  | .error e =>
    plain (Run.notice u (.stale entry.1 e))
    return { report with failed := report.failed + 1 }

/-- Runs the refreshes of a zone, as they are registered at the start. -/
def tick (behind : Bool) (z : Zone) : Told σ TickReport :=
  calling (.tick z behind) <| holding z do
    let snapshot := ((← plain get).zone z).refreshes
    plain (modify (·.onZone z fun s => { s with ticks := s.ticks + 1 }))
    snapshot.foldlM (addReport u t z) {}

/-- Runs a handler. -/
def handle : Handler → Told σ Unit
  | .named name => calling (fun _ => .handler (.named name)) (t.handler name)
  | .bound serial event action object =>
    calling (fun _ => .handler (.bound serial event action object)) do
      match ← evaluate u t action object with
      | .ok _ => return
      | .error e => plain (Run.notice u (.unhandled event e))
  | .wrapped serial zone inner => calling (fun _ => .handler (.wrapped serial zone inner)) do
    handle inner
    if (← plain get).alive u zone.id then let _ ← tick u t true zone

/-- Runs the handlers of a dispatcher, as they are registered at the start. -/
def dispatch (d : Nat) (node : NodeId) (event : String) : Told σ Nat :=
  calling (.dispatch d node event) do
    let snapshot := ((← plain get).listenersFor d node event).map (·.handler)
    snapshot.forM (handle u t)
    return snapshot.length

/-! ## Attaching -/

/-- Registers an input, and shows its value. -/
def attachInput (b : Binding) (e : Expression) (live : NodeId) (o : ObjectId) (z : Zone) :
    Told σ Nat := do
  let r := Refresh.bound live b.name e o
  let tick ← plain (modifyGet (·.addRefresh z r))
  if let .error e := ← calling (.refresh z.id tick r) (refresh u t r) then
    plain (Run.notice u (.unshown b.written e))
  return tick

/-- Attaches a binding to a live node, for an object. -/
def attachBinding (b : Binding) (live : NodeId) (o : ObjectId) (z : Zone) :
    Told σ (Option Attachment) :=
  calling (.binding b live o z) do
    match b.expression with
    | .error e =>
      plain (Run.notice u (.skipped b.written e))
      return none
    | .ok e =>
      match b.kind with
      | .input => return some (.refresh (← attachInput u t b e live o z))
      | .output => return some (.listener (← plain (b.attachOutput e live o z)))

/-- Attaches the bindings of one element of the template to its copy. -/
def wireBindings (z : Zone) (o : ObjectId) (bindings : List (Spot × Binding))
    (address : List Nat) (live : NodeId) (w : Wiring) : Told σ Wiring :=
  (bindings.filter (·.1.address = address)).foldlM (fun w (_, b) => do
    return w.add (← attachBinding u t b live o z)) w

/-- Mounts the component of one element of the template on its copy. -/
def wireChildren (parts : List (Spot × (NodeId → Told σ Instance))) (address : List Nat)
    (live : NodeId) (w : Wiring) : Told σ Wiring :=
  (parts.filter (·.1.address = address)).foldlM (fun w (_, mount) => do
    return { w with children := w.children ++ [← mount live] }) w

section Copying

variable {ω : Type}

/-- What is told is carried through the copying of a tree, with what is wired. -/
def carrying (wire : List Nat → NodeId → ω → Told σ ω) (address : List Nat) (live : NodeId)
    (s : ω × List (Episode σ)) : Run σ (ω × List (Episode σ)) :=
  (wire address live s.1).run s.2

/-- Copies a tree, and wires each copy when it is complete. -/
def copy (wire : List Nat → NodeId → ω → Told σ ω) (address : List Nat) (tree : Tree) (s : ω) :
    Told σ (NodeId × ω) := fun told => do
  let (live, s, told) ← Wiring.copy (carrying wire) address tree (s, told)
  return ((live, s), told)

/-- Copies the children of a node, from an index on, to the end of a copy of it. -/
def copyAll (wire : List Nat → NodeId → ω → Told σ ω) (parent : NodeId) (address : List Nat)
    (i : Nat) (ts : List Tree) (s : ω) : Told σ ω := fun told =>
  Wiring.copyAll (carrying wire) parent address i ts (s, told)

end Copying

mutual

/-- Mounts a blueprint for an object on a host. -/
def mount (z : Zone) : Blueprint → ObjectId → NodeId → Told σ Instance
  | .mk compiler cls template bindings children warnings, object, host => calling .mount do
    let b := Blueprint.mk compiler cls template bindings children warnings
    let childObjects ← plain (b.constructChildren u)
    let serial ← plain Run.fresh
    let parts := mountings z children childObjects
    let fragment ← plain (Run.onForest (·.add .document))
    let wire address live w := do
      let w ← wireBindings u t z object bindings address live w
      wireChildren parts address live w
    let w ← copyAll wire fragment [] 0 template.root.children {}
    let mounted ← plain (Run.onForest (·.moveChildren fragment host))
    plain (modify fun world =>
      { world with attached := (serial, ⟨w.ticks, w.listeners, mounted⟩) :: world.attached })
    return .mk serial b object childObjects host z w.children

/-- The ways in which the children of a blueprint are mounted, for their objects. -/
def mountings (z : Zone) :
    List (Spot × Blueprint) → List ObjectId → List (Spot × (NodeId → Told σ Instance))
  | [], _ => []
  | (spot, b) :: rest, o :: os => (spot, mount z b o) :: mountings z rest os
  | (spot, b) :: rest, [] =>
    (spot, fun live => do mount z b (← plain (Run.construct u b.cls)) live) :: mountings z rest []

end

/-- Makes an instance of a blueprint, with a new object, at the end of a host. -/
def attach (b : Blueprint) (host : NodeId) (z : Zone) : Told σ Instance :=
  holding z do
    let object ← plain (Run.construct u b.cls)
    mount u t z b object host

end Told

/-! ## The user's code -/

/-- What a routine does, as it tells what it calls. -/
def Routine.tell (u : UserCode σ) (t : Teller σ) {α : Type} : Routine σ α → Told σ α
  | .bind x f => x.tell u t >>= fun a => (f a).tell u t
  | .evaluate e o => Told.evaluate u t e o
  | .handle h => Told.handle u t h
  | .tick z => Told.tick u t false z
  | .dispatch d node event => Told.dispatch u t d node event
  | .attachBinding b live o z => Told.attachBinding u t b live o z
  | .attach b host z => Told.attach u t b host z
  | x => Told.plain (x.run u)

/-- A user's code that runs to a depth, as it tells what it calls. -/
def Code.teller (c : Code σ) : Nat → Teller σ
  | 0 =>
    { call := fun _ _ _ => failure
      handler := fun _ => failure
      refresh := fun _ => failure }
  | n + 1 =>
    { call := fun o method args => (c.call o method args).tell (c.user n) (c.teller n)
      handler := fun name => (c.handler name).tell (c.user n) (c.teller n)
      refresh := fun name => (c.refresh name).tell (c.user n) (c.teller n) }

end LiveTemplates
