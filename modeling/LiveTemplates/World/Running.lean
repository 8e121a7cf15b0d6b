/-
# LiveTemplates.World.Running -- what happens when an event happens

A dispatch runs the handlers that are registered for the event on the node at its
start, one after the other.  A wrapped handler is followed by a tick of its zone, if
the zone is still alive.  A tick runs the refreshes that are registered at its
start; one that fails is counted and reported, and the others go on.

An expression is evaluated against an object that is not busy, and the object is busy
meanwhile.
-/
import LiveTemplates.Program.Eval
import LiveTemplates.World.Listening

namespace LiveTemplates

variable {σ : Type}

/-- Evaluates an expression against an object, which must not be busy. -/
def Expression.evaluate (u : UserCode σ) (e : Expression) (o : ObjectId) :
    Run σ (Except ExpressionError Value) := do
  if (← get).busy.contains o then return .error (.reentrant e.source)
  modify fun w => { w with busy := o :: w.busy }
  let outcome ← (e.program.eval (u.scope o)).run
  modify fun w => { w with busy := w.busy.erase o }
  return outcome

/-- Runs a refresh. -/
def Refresh.run (u : UserCode σ) : Refresh → Run σ (Except ExpressionError Unit)
  | .named name => u.refresh name
  | .bound node attr value object => do
    match ← value.evaluate u object with
    | .error e => return .error e
    | .ok v =>
      let _ ← Run.onForest (·.setAttr node attr v.display)
      return .ok ()

/-- How many refreshes went well in a tick, and how many failed. -/
structure TickReport where
  refreshed : Nat := 0
  failed : Nat := 0
deriving Repr, DecidableEq

/-- Runs one of the refreshes of a tick. -/
def TickReport.add (u : UserCode σ) (report : TickReport) (entry : Nat × Refresh) :
    Run σ TickReport := do
  match ← entry.2.run u with
  | .ok () => return { report with refreshed := report.refreshed + 1 }
  | .error e =>
    Run.notice u (.stale entry.1 e)
    return { report with failed := report.failed + 1 }

/-- Runs the refreshes of a zone. -/
def Zone.tick (u : UserCode σ) (z : Zone) : Run σ TickReport :=
  Run.holding z do
    let snapshot := ((← get).zone z).refreshes
    modify (·.onZone z fun s => { s with ticks := s.ticks + 1 })
    snapshot.foldlM (TickReport.add u) {}

/-- Runs a handler. -/
def Handler.run (u : UserCode σ) : Handler → Run σ Unit
  | .named name => u.handler name
  | .bound _ event action object => do
    match ← action.evaluate u object with
    | .ok _ => return
    | .error e => Run.notice u (.unhandled event e)
  | .wrapped _ zone inner => do
    inner.run u
    if (← get).alive u zone.id then let _ ← zone.tick u

/-- Runs the handlers of a dispatcher for an event on a node; gives their number. -/
def dispatch (u : UserCode σ) (dispatcher : Nat) (node : NodeId) (event : String) : Run σ Nat := do
  let snapshot := ((← get).listenersFor dispatcher node event).map (·.handler)
  snapshot.forM (·.run u)
  return snapshot.length

end LiveTemplates
