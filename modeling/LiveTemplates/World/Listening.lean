/-
# LiveTemplates.World.Listening -- what is registered and taken back

A dispatcher lists its listeners.  A zone registers each handler wrapped with the
target behind it, and remembers under which wrapper.  A zone also lists
refreshes; the number of a refresh is never given out again.
-/
import LiveTemplates.World.Basic

namespace LiveTemplates.World

variable {σ : Type}

/-! ## Dispatchers -/

/-- The listeners of a dispatcher. -/
def listeners (w : World σ) (d : Nat) : List Listener :=
  (w.dispatchers[d]?).getD []

/-- The listeners of a dispatcher for an event on a node. -/
def listenersFor (w : World σ) (d : Nat) (node : NodeId) (event : String) : List Listener :=
  (w.listeners d).filter (·.isFor node event)

/-- Changes the listeners of a dispatcher. -/
def onListeners (w : World σ) (d : Nat) (f : List Listener → List Listener) : World σ :=
  { w with dispatchers := w.dispatchers.modify d f }

/-- A new dispatcher. -/
def newDispatcher (w : World σ) : Nat × World σ :=
  (w.dispatchers.size, { w with dispatchers := w.dispatchers.push [] })

/-! ## Zones -/

/-- The registries of a zone. -/
def zone (w : World σ) (z : Zone) : ZoneState :=
  (w.zones[z.id]?).getD {}

/-- Changes the registries of a zone. -/
def onZone (w : World σ) (z : Zone) (f : ZoneState → ZoneState) : World σ :=
  { w with zones := w.zones.modify z.id f }

/-- A new zone in front of a target. -/
def newZone (w : World σ) (behind : Target) : Zone × World σ :=
  (.mk w.zones.size behind, { w with zones := w.zones.push {} })

/-- Registers a refresh with a zone; gives its number. -/
def addRefresh (w : World σ) (z : Zone) (r : Refresh) : Nat × World σ :=
  let tick := (w.zone z).nextTick
  (tick, w.onZone z fun s =>
    { s with refreshes := s.refreshes ++ [(tick, r)], nextTick := tick + 1 })

/-- Takes back the refresh of a number; tells whether there was one. -/
def removeRefresh (w : World σ) (z : Zone) (tick : Nat) : Bool × World σ :=
  ((w.zone z).refreshes.any (·.1 == tick),
    w.onZone z fun s => { s with refreshes := s.refreshes.filter (·.1 != tick) })

/-! ## Targets -/

mutual

/-- Registers a listener with a target. -/
def addListener : Target → Listener → World σ → World σ
  | .dispatcher d, l, w => w.onListeners d (· ++ [l])
  | .zone z, l, w => addWrapped z l w

/-- Registers a listener with a zone: wrapped, with the target behind it. -/
def addWrapped : Zone → Listener → World σ → World σ
  | .mk id behind, l, w =>
    let z := Zone.mk id behind
    let handler := Handler.wrapped w.serial z l.handler
    let w := { w with serial := w.serial + 1 }
    let w := w.onZone z fun s => { s with wrappers := s.wrappers ++ [⟨l, handler⟩] }
    addListener behind { l with handler := handler } w

end

mutual

/-- Takes back a listener; tells whether the dispatcher behind the target had it.  A
dispatcher takes back the first of several, a zone all of them. -/
def removeListener : Target → Listener → World σ → Bool × World σ
  | .dispatcher d, l, w =>
    ((w.listeners d).any (·.same l), w.onListeners d (·.eraseP (·.same l)))
  | .zone z, l, w => removeWrapped z l w

/-- Takes back a listener that was registered with a zone: all its wrappers, behind the zone. -/
def removeWrapped : Zone → Listener → World σ → Bool × World σ
  | .mk id behind, l, w =>
    let z := Zone.mk id behind
    let matching := (w.zone z).wrappers.filter (·.inner.same l)
    let w := w.onZone z fun s =>
      { s with wrappers := s.wrappers.filter fun r => !r.inner.same l }
    matching.foldl (fun (removed, w) r =>
      let (one, w) := removeListener behind { l with handler := r.handler } w
      (removed || one, w)) (false, w)

end

end LiveTemplates.World
