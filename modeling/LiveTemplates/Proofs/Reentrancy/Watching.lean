/-
# LiveTemplates.Proofs.Reentrancy.Watching -- activities, watched at work

What a world holds is kept in cells.  A cell is borrowed for each access, shared with others
or alone; who asks for a cell that is lent in a way that does not go together with this ends
the program.  Evaluating borrows an object in the same way, but is refused if it is lent.

The activities of a world are written down here once more, with each cell that they borrow,
for as long as they borrow it, and with the calls that have not returned.  Each moment is
recorded at which something is borrowed, a call begins or ends, or code of the user's runs.

* `Watch`: a world under watch, with what is lent and the calls that have not returned;
* `Watched`: activities in such a world, which end it all if they ask for what is lent;
* `Watched.evaluate`, `Watched.tick`, `Watched.dispatch`, `Watched.attach`, `Watched.detach`,
  and what these consist of.
-/
import LiveTemplates.Proofs.Instance.Lineup

namespace LiveTemplates

set_option autoImplicit false

variable {σ : Type}

/-! ## Cells and calls -/

/-- A cell.  Zones, dispatchers and instances have cells of their own for each of their lists,
nodes for their children and for what they hold, templates for those of each of their nodes,
and compilers for their blueprints and the classes in progress. -/
inductive Cell where
  | refreshes (zone : Nat)
  | wrappers (zone : Nat)
  | listeners (dispatcher : Nat)
  | target
  | children (serial : Nat)
  | ticks (serial : Nat)
  | subscriptions (serial : Nat)
  | mounted (serial : Nat)
  | nodes (n : NodeId)
  | content (n : NodeId)
  | templateNodes (compiler : Nat) (cls : String) (address : List Nat)
  | templateContent (compiler : Nat) (cls : String) (address : List Nat)
  | blueprints (compiler : Nat)
  | inProgress (compiler : Nat)
deriving Repr, DecidableEq

/-- A cell is borrowed, alone or shared with others. -/
structure Loan where
  cell : Cell
  alone : Bool
deriving Repr, DecidableEq

/-- Do two loans not go together? -/
def Loan.clashes (a b : Loan) : Bool :=
  a.cell == b.cell && (a.alone || b.alone)

namespace Cell

/-- To read a cell. -/
def shared (c : Cell) : Loan :=
  ⟨c, false⟩

/-- To change a cell. -/
def alone (c : Cell) : Loan :=
  ⟨c, true⟩

end Cell

/-- A call that can run code of the user's, or takes back what this must not meet again. -/
inductive Call where
  | evaluate (o : ObjectId)
  /-- A refresh that a zone has given a number. -/
  | refresh (zone tick : Nat)
  | tick (zone : Nat)
  | dispatch (dispatcher : Nat) (node : NodeId) (event : String)
  | attach (host : NodeId) (z : Zone)
  | detach (i : Instance)

/-- A call that has not returned. -/
structure OpenCall where
  call : Call
  /-- How many moments there were before it began. -/
  since : Nat

/-- What is recorded. -/
inductive Happening where
  | begins (c : Call)
  | ends (c : Call)
  | borrows (l : Loan)
  /-- Code of the user's runs. -/
  | user
  /-- An input shows its value. -/
  | writes (node : NodeId) (attr : String)
  /-- A zone is made. -/
  | opened (z : Zone)
  /-- An instance is handed out, with the numbers of the refreshes that each instance inside
  has registered. -/
  | attached (i : Instance) (ticks : List (Nat × List Nat))

/-- A moment: what happens, the calls that have not returned, latest first, and what is
lent. -/
structure Moment where
  what : Happening
  calls : List OpenCall
  busy : List ObjectId
  loans : List Loan

/-! ## Watching -/

/-- A world under watch. -/
structure Watch (σ : Type) where
  world : World σ
  loans : List Loan := []
  calls : List OpenCall := []
  /-- The moments until now, latest first. -/
  log : List Moment := []

namespace Watch

/-- Records a moment. -/
def note (s : Watch σ) (what : Happening) : Watch σ :=
  { s with log := ⟨what, s.calls, s.world.busy, s.loans⟩ :: s.log }

/-- A call begins. -/
def enter (s : Watch σ) (c : Call) : Watch σ :=
  { s.note (.begins c) with calls := ⟨c, s.log.length⟩ :: s.calls }

/-- The latest call ends. -/
def leave (s : Watch σ) (c : Call) : Watch σ :=
  { s with calls := s.calls.tail }.note (.ends c)

/-- Does something to the world. -/
def onWorld (s : Watch σ) (f : World σ → World σ) : Watch σ :=
  { s with world := f s.world }

end Watch

/-- Why an activity ends it all. -/
inductive Halt where
  /-- Activities go on inside of each other without an end. -/
  | endless
  /-- A cell was asked for that is lent. -/
  | clash (asked : Loan)

/-- An activity under watch. -/
abbrev Watched (σ : Type) := ExceptT Halt (StateM (Watch σ))

/-- The user's methods, handlers and refreshes, under watch. -/
structure Hooks (σ : Type) where
  call : ObjectId → String → List Value → Watched σ (Except ExpressionError Value)
  handler : String → Watched σ Unit
  refresh : String → Watched σ (Except ExpressionError Unit)

namespace Watched

variable {α : Type}

/-! ### Borrowing -/

/-- Records a moment. -/
def note (what : Happening) : Watched σ Unit :=
  modify (·.note what)

/-- Asks for a cell. -/
def ask (l : Loan) : Watched σ Unit := do
  note (.borrows l)
  if (← get).loans.any l.clashes then throw (.clash l)

/-- Changes the world.  For this, cells are borrowed one after the other, each for a moment. -/
def step (loans : List Loan) (f : World σ → α × World σ) : Watched σ α := do
  loans.forM ask
  modifyGet fun s => ((f s.world).1, s.onWorld fun w => (f w).2)

/-- Runs an activity, and changes what is watched behind it. -/
def closing (leave : Watch σ → Watch σ) (x : Watched σ α) : Watched σ α := do
  let a ← x
  modify leave
  return a

/-- Borrows a cell during an activity. -/
def lend (l : Loan) (x : Watched σ α) : Watched σ α := do
  ask l
  modify fun s => { s with loans := l :: s.loans }
  closing (fun s => { s with loans := s.loans.tail }) x

/-- Borrows an object during an activity, or is refused. -/
def borrowing (o : ObjectId) (refused : α) (x : Watched σ α) : Watched σ α := do
  if (← get).world.busy.contains o then return refused
  modify (·.onWorld fun w => { w with busy := o :: w.busy })
  closing (·.onWorld fun w => { w with busy := w.busy.erase o }) x

/-- Runs an activity as a call. -/
def calling (c : Call) (x : Watched σ α) : Watched σ α := do
  modify (·.enter c)
  closing (·.leave c) x

/-! ### Code of the user's -/

/-- Runs code of the user's. -/
def entering (x : Watched σ α) : Watched σ α := do
  note .user
  x

/-- Runs code of the user's that only changes the user's own state. -/
def own (f : σ → α × σ) : Watched σ α :=
  entering (step [] fun w => ((f w.user).1, { w with user := (f w.user).2 }))

variable (u : UserCode σ) (v : Hooks σ)

def notice (n : Notice) : Watched σ Unit :=
  own fun s => ((), u.notice n s)

/-- An object as a scope. -/
def scope (o : ObjectId) : Scope (Watched σ) where
  get member := own (u.get o member)
  set member x := own (u.set o member x)
  call method args := entering (v.call o method args)

/-! ### Running -/

/-- Evaluates an expression against an object, which must not be borrowed. -/
def evaluate (e : Expression) (o : ObjectId) : Watched σ (Except ExpressionError Value) :=
  calling (.evaluate o) do
    borrowing o (.error (.reentrant e.source)) (e.program.eval (scope u v o)).run

/-- Runs a refresh. -/
def refresh : Refresh → Watched σ (Except ExpressionError Unit)
  | .named name => entering (v.refresh name)
  | .bound node attr value object => do
    match ← evaluate u v value object with
    | .error e => return .error e
    | .ok x =>
      note (.writes node attr)
      let _ ← step [(Cell.content node).alone] fun w =>
        let (isElement, forest) := w.forest.setAttr node attr x.display
        (isElement, { w with forest := forest })
      return .ok ()

/-- Runs one of the refreshes of a tick. -/
def addReport (z : Zone) (report : TickReport) (entry : Nat × Refresh) : Watched σ TickReport := do
  match ← calling (.refresh z.id entry.1) (refresh u v entry.2) with
  | .ok () => return { report with refreshed := report.refreshed + 1 }
  | .error e =>
    notice u (.stale entry.1 e)
    return { report with failed := report.failed + 1 }

/-- Holds a zone during an activity. -/
def holding (z : Zone) (x : Watched σ α) : Watched σ α := do
  step [] fun w => ((), { w with pins := z :: w.pins })
  let a ← x
  step [] fun w => ((), { w with pins := w.pins.tail })
  return a

/-- Runs the refreshes of a zone, as they are registered at the start. -/
def tick (z : Zone) : Watched σ TickReport :=
  calling (.tick z.id) <| holding z do
    let snapshot ← step [(Cell.refreshes z.id).shared] fun w => ((w.zone z).refreshes, w)
    step [] fun w => ((), w.onZone z fun s => { s with ticks := s.ticks + 1 })
    snapshot.foldlM (addReport u v z) {}

/-- Runs a handler. -/
def handle : Handler → Watched σ Unit
  | .named name => entering (v.handler name)
  | .bound _ event action object => do
    match ← evaluate u v action object with
    | .ok _ => return
    | .error e => notice u (.unhandled event e)
  | .wrapped _ zone inner => do
    handle inner
    if ← step [] fun w => (w.alive u zone.id, w) then let _ ← tick u v zone

/-- Runs the handlers of a dispatcher, as they are registered at the start. -/
def dispatch (d : Nat) (node : NodeId) (event : String) : Watched σ Nat :=
  calling (.dispatch d node event) do
    let snapshot ← step [(Cell.listeners d).shared] fun w =>
      ((w.listenersFor d node event).map (·.handler), w)
    snapshot.forM (handle u v)
    return snapshot.length

/-! ### Registering -/

def fresh : Watched σ Nat :=
  step [] fun w => (w.serial, { w with serial := w.serial + 1 })

/-- Registers a refresh with a zone. -/
def addRefresh (z : Zone) (r : Refresh) : Watched σ Nat :=
  step [(Cell.refreshes z.id).alone] fun w => w.addRefresh z r

/-- Takes back the refresh of a number. -/
def removeRefresh (z : Zone) (tick : Nat) : Watched σ Bool :=
  step [(Cell.refreshes z.id).alone] fun w => w.removeRefresh z tick

mutual

/-- Registers a listener with a target. -/
def addListener : Target → Listener → Watched σ Unit
  | .dispatcher d, l => step [(Cell.listeners d).alone] fun w => ((), w.onListeners d (· ++ [l]))
  | .zone z, l => addWrapped z l

/-- Registers a listener with a zone, which has given back its own list when it goes on. -/
def addWrapped : Zone → Listener → Watched σ Unit
  | .mk id behind, l => do
    let z := Zone.mk id behind
    let handler := Handler.wrapped (← fresh) z l.handler
    step [(Cell.wrappers id).alone] fun w =>
      ((), w.onZone z fun s => { s with wrappers := s.wrappers ++ [⟨l, handler⟩] })
    addListener behind { l with handler := handler }

end

mutual

/-- Takes back a listener. -/
def removeListener : Target → Listener → Watched σ Bool
  | .dispatcher d, l => step [(Cell.listeners d).alone] fun w =>
    ((w.listeners d).any (·.same l), w.onListeners d (·.eraseP (·.same l)))
  | .zone z, l => removeWrapped z l

/-- Takes back a listener that was registered with a zone. -/
def removeWrapped : Zone → Listener → Watched σ Bool
  | .mk id behind, l => do
    let z := Zone.mk id behind
    let matching ← step [(Cell.wrappers id).alone] fun w =>
      ((w.zone z).wrappers.filter (·.inner.same l), w.onZone z fun s =>
        { s with wrappers := s.wrappers.filter fun r => !r.inner.same l })
    matching.foldlM (fun removed r => do
      let one ← removeListener behind { l with handler := r.handler }
      return removed || one) false

end

/-! ### Attaching -/

/-- Registers an input, and shows its value. -/
def attachInput (b : Binding) (e : Expression) (live : NodeId) (o : ObjectId) (z : Zone) :
    Watched σ Nat := do
  let r := Refresh.bound live b.name e o
  let tick ← addRefresh z r
  if let .error e := ← calling (.refresh z.id tick) (refresh u v r) then
    notice u (.unshown b.written e)
  return tick

/-- Registers an output. -/
def attachOutput (b : Binding) (e : Expression) (live : NodeId) (o : ObjectId) (z : Zone) :
    Watched σ Listener := do
  let l : Listener := ⟨live, b.name, .bound (← fresh) b.name e o⟩
  addWrapped z l
  return l

/-- Attaches a binding to a live node. -/
def attachBinding (b : Binding) (live : NodeId) (o : ObjectId) (z : Zone) :
    Watched σ (Option Attachment) := do
  match b.expression with
  | .error e =>
    notice u (.skipped b.written e)
    return none
  | .ok e =>
    match b.kind with
    | .input => return some (.refresh (← attachInput u v b e live o z))
    | .output => return some (.listener (← attachOutput b e live o z))

/-- The list of an instance that a registration goes to. -/
def keeper (serial : Nat) : Option Attachment → List Loan
  | none => []
  | some (.refresh _) => [(Cell.ticks serial).alone]
  | some (.listener _) => [(Cell.subscriptions serial).alone]

/-- Attaches the bindings of one element of the template to its copy. -/
def wireBindings (z : Zone) (o : ObjectId) (serial : Nat) (bindings : List (Spot × Binding))
    (address : List Nat) (live : NodeId) (w : Wiring) : Watched σ Wiring :=
  (bindings.filter (·.1.address = address)).foldlM (fun w (_, b) => do
    let a ← attachBinding u v b live o z
    step (keeper serial a) fun world => ((), world)
    return w.add a) w

/-- Mounts the component of one element of the template on its copy. -/
def wireChildren (serial : Nat) (parts : List (Spot × (NodeId → Watched σ Instance)))
    (address : List Nat) (live : NodeId) (w : Wiring) : Watched σ Wiring :=
  (parts.filter (·.1.address = address)).foldlM (fun w (_, mount) => do
    let i ← mount live
    step [(Cell.children serial).alone] fun world => ((), world)
    return { w with children := w.children ++ [i] }) w

/-- The cells of a node of a template, which are read when it is copied. -/
def templateCells (b : Blueprint) (address : List Nat) : List Loan :=
  [(Cell.templateContent b.compiler b.cls.id address).shared,
    (Cell.templateNodes b.compiler b.cls.id address).shared]

section Copying

variable {ω : Type}

mutual

/-- Copies a tree, and wires each copy when it is complete. -/
def copy (cells : List Nat → List Loan) (wire : List Nat → NodeId → ω → Watched σ ω)
    (address : List Nat) : Tree → ω → Watched σ (NodeId × ω)
  | .node d ts, w => do
    let live ← step (cells address) fun world =>
      let (live, forest) := world.forest.add d
      (live, { world with forest := forest })
    let w ← copyAll cells wire live address 0 ts w
    return (live, ← wire address live w)

/-- Copies the children of a node, from an index on, to the end of a copy of it. -/
def copyAll (cells : List Nat → List Loan) (wire : List Nat → NodeId → ω → Watched σ ω)
    (parent : NodeId) (address : List Nat) : Nat → List Tree → ω → Watched σ ω
  | _, [], w => return w
  | i, t :: ts, w => do
    let (live, w) ← copy cells wire (address ++ [i]) t w
    step [(Cell.nodes parent).alone] fun world =>
      ((), { world with forest := world.forest.append parent live })
    copyAll cells wire parent address (i + 1) ts w

end

end Copying

/-- Makes an object of a class. -/
def construct (c : ClassRef) : Watched σ ObjectId := do
  let o ← fresh
  own fun s => ((), u.construct c o s)
  return o

/-- Makes the objects of the children of a blueprint. -/
def constructChildren (b : Blueprint) : Watched σ (List ObjectId) :=
  b.constructedClasses.mapM (construct u)

mutual

/-- Mounts a blueprint for an object on a host. -/
def mount (z : Zone) : Blueprint → ObjectId → NodeId → Watched σ Instance
  | .mk compiler cls template bindings children warnings, object, host => do
    let b := Blueprint.mk compiler cls template bindings children warnings
    let childObjects ← constructChildren u b
    let serial ← fresh
    let parts := mountings z children childObjects
    let fragment ← step (templateCells b []) fun world =>
      let (fragment, forest) := world.forest.add .document
      (fragment, { world with forest := forest })
    let wire address live w := do
      let w ← wireBindings u v z object serial bindings address live w
      wireChildren serial parts address live w
    let w ← copyAll (templateCells b) wire fragment [] 0 template.root.children {}
    let mounted ← step [(Cell.nodes fragment).alone, (Cell.nodes host).alone] fun world =>
      let (mounted, forest) := world.forest.moveChildren fragment host
      (mounted, { world with forest := forest })
    step [(Cell.children serial).shared, (Cell.mounted serial).alone] fun world =>
      ((), { world with attached := (serial, ⟨w.ticks, w.listeners, mounted⟩) :: world.attached })
    return .mk serial b object childObjects host z w.children

/-- The ways in which the children of a blueprint are mounted, for their objects. -/
def mountings (z : Zone) :
    List (Spot × Blueprint) → List ObjectId → List (Spot × (NodeId → Watched σ Instance))
  | [], _ => []
  | (spot, b) :: rest, o :: os => (spot, mount z b o) :: mountings z rest os
  | (spot, b) :: rest, [] =>
    (spot, fun live => do mount z b (← construct u b.cls) live) :: mountings z rest []

end

/-- The numbers of the refreshes of an instance and of those inside of it. -/
def ticksOf (w : World σ) (i : Instance) : List (Nat × List Nat) :=
  i.all.map fun j => (j.serial, ((w.registrations? j.serial).map (·.ticks)).getD [])

/-- Makes an instance of a blueprint at the end of a host, and hands it out. -/
def attach (b : Blueprint) (host : NodeId) (z : Zone) : Watched σ Instance :=
  calling (.attach host z) do
    let i ← holding z do
      let object ← construct u b.cls
      mount u v z b object host
    note (.attached i (ticksOf (← get).world i))
    return i

/-! ### Detaching -/

mutual

/-- Detaches an instance with all instances inside of it, these first. -/
def detach : Instance → Watched σ Unit
  | .mk serial blueprint object childObjects host z children =>
    calling (.detach (.mk serial blueprint object childObjects host z children)) do
      let registrations ← step [] fun w => match w.registrations? serial with
        | none => (none, w)
        | some r => (some r, w.forget serial)
      match registrations with
      | none => return
      | some r =>
        lend (Cell.children serial).shared (detachAll children)
        lend (Cell.ticks serial).alone do
          r.ticks.forM fun tick => do let _ ← removeRefresh z tick
        lend (Cell.subscriptions serial).alone do
          r.listeners.forM fun l => do let _ ← removeWrapped z l
        lend (Cell.mounted serial).alone do
          r.mounted.forM fun n => step [(Cell.nodes host).alone] fun w =>
            ((), { w with forest := (w.forest.remove host n).2 })

/-- Detaches several instances. -/
def detachAll : List Instance → Watched σ Unit
  | [] => return
  | i :: rest => do
    detach i
    detachAll rest

end

end Watched

end LiveTemplates
