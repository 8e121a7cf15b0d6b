/-
# LiveTemplates.Proofs.Numbering.Minuting -- activities that take minutes

Whoever registers a refresh or takes one back does so in the middle of something: while a tick runs
refreshes, while an instance is attached or detached, inside of a method that an evaluation calls.
What is registered in the end does not tell which numbers were given out on the way, and to whom.

The activities of a world are written down here once more, with a minute for each time that a
refresh is registered or taken back.  Where one comes to no end, the minutes until then are left.

* `Desk`: a world with the minutes of what was done in it; `Minuted`: activities that take minutes;
* `Minuted.addRefresh`, `Minuted.removeRefresh`: what is minuted;
* `Minuted.tick`, `Minuted.dispatch`, `Minuted.attach`, `Minuted.detach`, and what these consist of;
* `Routine.minute`, `Code.scribe`: the user's code, as it takes minutes.
-/
import LiveTemplates.Proofs.Numbering.Minutes
import LiveTemplates.Proofs.Reentrancy.Borrowing

namespace LiveTemplates

set_option autoImplicit false

variable {σ : Type}

/-! ## Taking minutes -/

/-- A world, and the minutes of what was done in it with refreshes of zones, latest first. -/
structure Desk (σ : Type) where
  world : World σ
  minutes : List Minute := []

/-- An activity that takes minutes.  It can come to no end. -/
abbrev Minuted (σ : Type) := OptionT (StateM (Desk σ))

/-- The user's methods, handlers and refreshes, as they take minutes. -/
structure Scribe (σ : Type) where
  call : ObjectId → String → List Value → Minuted σ (Except ExpressionError Value)
  handler : String → Minuted σ Unit
  refresh : String → Minuted σ (Except ExpressionError Unit)

namespace Minuted

variable {α : Type}

/-- What an activity comes to from a desk on, and the desk behind it. -/
def exec (x : Minuted σ α) (s : Desk σ) : Option α × Desk σ :=
  (OptionT.run x).run s

/-- An activity of which nothing is minuted. -/
def plain (x : Run σ α) : Minuted σ α :=
  .mk fun s =>
    match x.run s.world with
    | none => (none, s)
    | some (a, w) => (some a, { s with world := w })

/-- Does something with the refreshes of a zone, and takes the minutes. -/
def noting (z : Zone) (booking : α → Booking) (f : World σ → α × World σ) : Minuted σ α :=
  .mk fun s =>
    let (a, w) := f s.world
    (some a, ⟨w, ⟨z.id, booking a, s.world.zone z, w.zone z⟩ :: s.minutes⟩)

/-- Registers a refresh with a zone. -/
def addRefresh (z : Zone) (r : Refresh) : Minuted σ Nat :=
  noting z (.given r) (·.addRefresh z r)

/-- Takes back the refresh of a number. -/
def removeRefresh (z : Zone) (n : Nat) : Minuted σ Bool :=
  noting z (.taken n) (·.removeRefresh z n)

/-- Holds a zone during an activity. -/
def holding (z : Zone) (x : Minuted σ α) : Minuted σ α := do
  plain (modify fun w => { w with pins := z :: w.pins })
  let a ← x
  plain (modify fun w => { w with pins := w.pins.tail })
  return a

/-- An activity during which an object is busy. -/
def borrowing (o : ObjectId) (x : Minuted σ α) : Minuted σ α := do
  plain (modify fun w => { w with busy := o :: w.busy })
  let a ← x
  plain (modify fun w => { w with busy := w.busy.erase o })
  return a

variable (u : UserCode σ) (t : Scribe σ)

/-! ### Running -/

/-- An object as a scope. -/
def scope (o : ObjectId) : Scope (Minuted σ) where
  get member := plain (Run.onUser (u.get o member))
  set member x := plain (Run.onUser (u.set o member x))
  call := t.call o

/-- Evaluates an expression against an object, which must not be busy. -/
def evaluate (e : Expression) (o : ObjectId) : Minuted σ (Except ExpressionError Value) := do
  if (← plain get).busy.contains o then return .error (.reentrant e.source)
  borrowing o (e.program.eval (scope u t o)).run

/-- Runs a refresh. -/
def refresh : Refresh → Minuted σ (Except ExpressionError Unit)
  | .named name => t.refresh name
  | .bound node attr value object => do
    match ← evaluate u t value object with
    | .error e => return .error e
    | .ok x =>
      let _ ← plain (Run.onForest (·.setAttr node attr x.display))
      return .ok ()

/-- Runs one of the refreshes of a tick. -/
def addReport (report : TickReport) (entry : Nat × Refresh) : Minuted σ TickReport := do
  match ← refresh u t entry.2 with
  | .ok () => return { report with refreshed := report.refreshed + 1 }
  | .error e =>
    plain (Run.notice u (.stale entry.1 e))
    return { report with failed := report.failed + 1 }

/-- Runs the refreshes of a zone, as they are registered at the start. -/
def tick (z : Zone) : Minuted σ TickReport :=
  holding z do
    let snapshot := ((← plain get).zone z).refreshes
    plain (modify (·.onZone z fun s => { s with ticks := s.ticks + 1 }))
    snapshot.foldlM (addReport u t) {}

/-- Runs a handler. -/
def handle : Handler → Minuted σ Unit
  | .named name => t.handler name
  | .bound _ event action object => do
    match ← evaluate u t action object with
    | .ok _ => return
    | .error e => plain (Run.notice u (.unhandled event e))
  | .wrapped _ zone inner => do
    handle inner
    if (← plain get).alive u zone.id then let _ ← tick u t zone

/-- Runs the handlers of a dispatcher, as they are registered at the start. -/
def dispatch (d : Nat) (node : NodeId) (event : String) : Minuted σ Nat := do
  let snapshot := ((← plain get).listenersFor d node event).map (·.handler)
  snapshot.forM (handle u t)
  return snapshot.length

/-! ### Attaching -/

/-- Registers an input, and shows its value. -/
def attachInput (b : Binding) (e : Expression) (live : NodeId) (o : ObjectId) (z : Zone) :
    Minuted σ Nat := do
  let r := Refresh.bound live b.name e o
  let tick ← addRefresh z r
  if let .error e := ← refresh u t r then plain (Run.notice u (.unshown b.written e))
  return tick

/-- Attaches a binding to a live node, for an object. -/
def attachBinding (b : Binding) (live : NodeId) (o : ObjectId) (z : Zone) :
    Minuted σ (Option Attachment) := do
  match b.expression with
  | .error e =>
    plain (Run.notice u (.skipped b.written e))
    return none
  | .ok e =>
    match b.kind with
    | .input => return some (.refresh (← attachInput u t b e live o z))
    | .output => return some (.listener (← plain (b.attachOutput e live o z)))

/-- Attaches the bindings of one element of the template to its copy. -/
def wireBindings (z : Zone) (o : ObjectId) (bindings : List (Spot × Binding))
    (address : List Nat) (live : NodeId) (w : Wiring) : Minuted σ Wiring :=
  (bindings.filter (·.1.address = address)).foldlM (fun w (_, b) => do
    return w.add (← attachBinding u t b live o z)) w

/-- Mounts the component of one element of the template on its copy. -/
def wireChildren (parts : List (Spot × (NodeId → Minuted σ Instance))) (address : List Nat)
    (live : NodeId) (w : Wiring) : Minuted σ Wiring :=
  (parts.filter (·.1.address = address)).foldlM (fun w (_, mount) => do
    return { w with children := w.children ++ [← mount live] }) w

section Copying

variable {ω : Type}

mutual

/-- Copies a tree, and wires each copy when it is complete. -/
def copy (wire : List Nat → NodeId → ω → Minuted σ ω) (address : List Nat) :
    Tree → ω → Minuted σ (NodeId × ω)
  | .node d ts, w => do
    let live ← plain (Run.onForest (·.add d))
    let w ← copyAll wire live address 0 ts w
    return (live, ← wire address live w)

/-- Copies the children of a node, from an index on, to the end of a copy of it. -/
def copyAll (wire : List Nat → NodeId → ω → Minuted σ ω) (parent : NodeId)
    (address : List Nat) : Nat → List Tree → ω → Minuted σ ω
  | _, [], w => return w
  | i, t :: ts, w => do
    let (live, w) ← copy wire (address ++ [i]) t w
    plain (modify fun world => { world with forest := world.forest.append parent live })
    copyAll wire parent address (i + 1) ts w

end

end Copying

mutual

/-- Mounts a blueprint for an object on a host. -/
def mount (z : Zone) : Blueprint → ObjectId → NodeId → Minuted σ Instance
  | .mk compiler cls template bindings children warnings, object, host => do
    let b := Blueprint.mk compiler cls template bindings children warnings
    let childObjects ← b.constructedClasses.mapM fun c => plain (Run.construct u c)
    let serial ← plain Run.fresh
    let parts := mountings z children childObjects
    let fragment ← plain (Run.onForest (·.add .document))
    let wire address live w := do
      let w ← wireBindings u t z object bindings address live w
      wireChildren parts address live w
    let w ← copyAll wire fragment [] 0 template.root.children {}
    let mounted ← plain (Run.onForest (·.moveChildren fragment host))
    plain (modify fun world =>
      { world with attached := (serial, ⟨w.ticks, w.listeners, mounted⟩) :: world.attached })
    return .mk serial b object childObjects host z w.children

/-- The ways in which the children of a blueprint are mounted, for their objects. -/
def mountings (z : Zone) :
    List (Spot × Blueprint) → List ObjectId → List (Spot × (NodeId → Minuted σ Instance))
  | [], _ => []
  | (spot, b) :: rest, o :: os => (spot, mount z b o) :: mountings z rest os
  | (spot, b) :: rest, [] =>
    (spot, fun live => do mount z b (← plain (Run.construct u b.cls)) live) :: mountings z rest []

end

/-- Makes an instance of a blueprint, with a new object, at the end of a host. -/
def attach (b : Blueprint) (host : NodeId) (z : Zone) : Minuted σ Instance :=
  holding z do
    let object ← plain (Run.construct u b.cls)
    mount u t z b object host

/-! ### Detaching -/

mutual

/-- Detaches an instance with all instances inside of it, these first. -/
def detach : Instance → Minuted σ Unit
  | .mk serial _ _ _ host z children => do
    match (← plain get).registrations? serial with
    | none => return
    | some r =>
      plain (modify (·.forget serial))
      detachAll children
      r.ticks.forM fun n => do let _ ← removeRefresh z n
      plain (modify (·.takeBack z host { r with ticks := [] }))

/-- Detaches several instances. -/
def detachAll : List Instance → Minuted σ Unit
  | [] => return
  | i :: rest => do
    detach i
    detachAll rest

end

end Minuted

/-! ## The user's code -/

/-- What a routine does, as it takes minutes. -/
def Routine.minute (u : UserCode σ) (t : Scribe σ) {α : Type} : Routine σ α → Minuted σ α
  | .bind x f => x.minute u t >>= fun a => (f a).minute u t
  | .evaluate e o => Minuted.evaluate u t e o
  | .handle h => Minuted.handle u t h
  | .tick z => Minuted.tick u t z
  | .dispatch d node event => Minuted.dispatch u t d node event
  | .onTick z name => Minuted.addRefresh z (.named name)
  | .removeTick z n => Minuted.removeRefresh z n
  | .attachBinding b live o z => Minuted.attachBinding u t b live o z
  | .attach b host z => Minuted.attach u t b host z
  | .detach i => Minuted.detach i
  | x => Minuted.plain (x.run u)

/-- A user's code that runs to a depth, as it takes minutes. -/
def Code.scribe (c : Code σ) : Nat → Scribe σ
  | 0 =>
    { call := fun _ _ _ => failure
      handler := fun _ => failure
      refresh := fun _ => failure }
  | n + 1 =>
    { call := fun o method args => (c.call o method args).minute (c.user n) (c.scribe n)
      handler := fun name => (c.handler name).minute (c.user n) (c.scribe n)
      refresh := fun name => (c.refresh name).minute (c.user n) (c.scribe n) }

end LiveTemplates
