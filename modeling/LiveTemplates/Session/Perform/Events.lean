/-
# LiveTemplates.Session.Perform.Events -- steps on events and zones
-/
import LiveTemplates.Session.Perform.Basic

namespace LiveTemplates.Session

open Answering

/-- The target for listeners that a name stands for.  `doc` is the document's target,
whatever that is at present. -/
def listeningTarget (name : String) : Answering Target := do
  let w ← get
  match w.user.zone? name with
  | some z => return .zone z
  | none => if name == "doc" then return w.target else lookUp (·.target? name)

/-- The handler of a name, which the session must have. -/
def handlerNamed (name : String) : Answering Handler := do
  let _ ← lookUp (·.setting.handlers.lookup name)
  return .named name

/-- The dispatcher of a name, or the document's. -/
def dispatcherNamed (name : Option String) : Answering Nat :=
  match name with
  | none => return 0
  | some name => lookUp (·.dispatcher? name)

/-- Sends an event to one of the elements below a node that listen for it. -/
def sendToListening (u : UserCode State) (n : NodeId) (event : String) (k : Nat) : Answering Json := do
  let w ← get
  let listening := (w.forest.elementsBelow n).filter fun e => !(w.listenersFor 0 e event).isEmpty
  match listening[k % listening.length]? with
  | none => return .null
  | some e =>
    let invoked ← OptionT.lift (dispatch u 0 e event)
    return .list [ofNode (← dataOf e), count listening.length, count invoked]

/-- The message for programmers about the document or a zone. -/
def describeNamed (name : String) : Answering String := do
  let w ← get
  if name == "doc" then
    return s!"Document \x7b html: {Text.quoted (markupBelow w.forest w.document)} \x7d"
  else
    let s := w.zone (← lookUp (·.zone? name))
    return s!"Zone \x7b registered: {s.refreshes.length}, ticks: {s.ticks} \x7d"

/-- Performs a step on events and zones. -/
def EventStep.perform (u : UserCode State) (register : Option String) :
    EventStep → Answering Json
  | .dispatcher => do
    let d ← modifyGet (·.newDispatcher)
    keep register fun s name => { s with dispatchers := s.dispatchers.put name d }
    return .null
  | .zone behind => do
    let target ← lookUp (·.target? behind)
    let z ← modifyGet (·.newZone target)
    keep register fun s name => { s with zones := s.zones.put name z }
    return .null
  | .listen target n event handler => do
    let target ← listeningTarget target
    let l : Listener := ⟨← nodeOf n, event, ← handlerNamed handler⟩
    modify (World.addListener target l)
    return .null
  | .unlisten target n event handler => do
    let target ← listeningTarget target
    let l : Listener := ⟨← nodeOf n, event, ← handlerNamed handler⟩
    return .bool (← modifyGet (World.removeListener target l))
  | .dispatch n event name => do
    let n ← nodeOf n
    let d ← dispatcherNamed name
    return count (← OptionT.lift (LiveTemplates.dispatch u d n event))
  | .listeners n event name => do
    let n ← nodeOf n
    let d ← dispatcherNamed name
    return count ((← get).listenersFor d n event).length
  | .fire n event k => do sendToListening u (← nodeOf n) event k
  | .setTarget target => do
    let target ← lookUp (·.target? target)
    modify fun w => { w with target := target }
    return .null
  | .dropZone name => do
    let known := ((← get).user.zones.lookup name).isSome
    remember fun s => { s with zones := s.zones.filter (·.1 != name) }
    return .bool known
  | .tick name => do
    let z ← lookUp (·.zone? name)
    let report ← OptionT.lift (z.tick u)
    return record [("refreshed", count report.refreshed), ("failed", count report.failed)]
  | .onTick name refresh => do
    let z ← lookUp (·.zone? name)
    let _ ← lookUp (·.setting.refreshes.lookup refresh)
    let tick ← modifyGet (·.addRefresh z (.named refresh))
    keep register fun s register => { s with ticks := s.ticks.put register tick }
    return count tick
  | .removeTick name id => do
    let z ← lookUp (·.zone? name)
    let tick ← lookUp (·.ticks.lookup id)
    return .bool (← modifyGet (·.removeRefresh z tick))
  | .zoneInfo name => do
    let s := (← get).zone (← lookUp (·.zone? name))
    return .list [count s.refreshes.length, count s.ticks, count s.wrappers.length]
  | .debug name => return .text (← describeNamed name)
  | .log v => do
    remember (·.say v)
    return .null

end LiveTemplates.Session
