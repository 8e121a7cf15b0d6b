/-
# LiveTemplates.Binding.Attached -- bindings on live nodes

An input shows its value in an attribute at once and at each tick of its zone.  An output
acts when its event happens on the node.  A broken binding is passed over.
-/
import LiveTemplates.World.Running

namespace LiveTemplates

variable {σ : Type}

/-- What a binding has registered. -/
inductive Attachment where
  | refresh (tick : Nat)
  | listener (l : Listener)

namespace Binding

/-- Registers an input, and shows its value. -/
def attachInput (u : UserCode σ) (b : Binding) (e : Expression) (live : NodeId) (o : ObjectId)
    (z : Zone) : Run σ Nat := do
  let refresh := Refresh.bound live b.name e o
  let tick ← modifyGet (·.addRefresh z refresh)
  if let .error e := ← refresh.run u then Run.notice u (.unshown b.written e)
  return tick

/-- Registers an output. -/
def attachOutput (b : Binding) (e : Expression) (live : NodeId) (o : ObjectId) (z : Zone) :
    Run σ Listener := do
  let l : Listener := ⟨live, b.name, .bound (← Run.fresh) b.name e o⟩
  modify (World.addWrapped z l)
  return l

/-- Attaches a binding to a live node, for an object. -/
def attach (u : UserCode σ) (b : Binding) (live : NodeId) (o : ObjectId) (z : Zone) :
    Run σ (Option Attachment) := do
  match b.expression with
  | .error e =>
    Run.notice u (.skipped b.written e)
    return none
  | .ok e =>
    match b.kind with
    | .input => return some (.refresh (← b.attachInput u e live o z))
    | .output => return some (.listener (← b.attachOutput e live o z))

end Binding

end LiveTemplates
