/-
# LiveTemplates.Session.Perform.Instances -- steps on applications, instances and objects
-/
import LiveTemplates.Session.Perform.Compile

namespace LiveTemplates.Session

open Answering

/-- The answer about an object that is busy. -/
def borrowed : Json :=
  record [("error", .text "Borrowed")]

/-- Does something with an object that is not busy; it is busy meanwhile. -/
def withObject (o : ObjectPath) (work : ObjectId → Act Json) : Answering Json := do
  let o ← objectOf o
  if (← get).busy.contains o then return borrowed
  modify fun w => { w with busy := o :: w.busy }
  let answer ← OptionT.lift (work o)
  modify fun w => { w with busy := w.busy.erase o }
  return answer

/-- What a binding has registered, as a datum. -/
def ofAttachment (described : Bool) : Option Attachment → Json
  | none => .null
  | some (.refresh tick) => .list [.text "refresh", count tick]
  | some (.listener l) =>
    .list ([.text "listener", .text l.event] ++
      if described then
        [.text (s!"Subscription \x7b event: {Text.quoted l.event} \x7d")]
      else [])

/-- Attaches a binding to a node. -/
def bindNode (u : UserCode State) (register : Option String) (b : Binding) (n : NodeId)
    (o : ObjectId) (z : Zone) (described : Bool) : Answering Json := do
  let attachment ← OptionT.lift (Run.holding z (b.attach u n o z))
  if let some (.refresh tick) := attachment then
    keep register fun s name => { s with ticks := s.ticks.put name tick }
  let tag := (← dataOf n).describe
  return record (bindingEntries b tag ++ [("attached", ofAttachment described attachment)])

/-- Starts an application. -/
def bootstrapWith (u : UserCode State) (register : Option String) (c : ClassRef)
    (options : CompileOptions) : Answering Json := do
  let catalog := (← get).user.setting.catalog
  match ← OptionT.lift (Application.bootstrap u catalog c options) with
  | .error f => return ofFaultWithFamily f
  | .ok a =>
    keep register fun s name => { s with applications := s.applications.put name a }
    return ofManifest a.blueprint.manifest

/-- Performs a step on instances. -/
def InstanceStep.perform (u : UserCode State) (register : Option String) :
    InstanceStep → Answering Json
  | .bootstrap c options =>
    match toOptions options with
    | .error f => return ofJsonFault f
    | .ok options => bootstrapWith u register c options
  | .attach name n zone => do
    let b ← lookUp (·.blueprint? name)
    let n ← nodeOf n
    let z ← lookUp (·.zone? zone)
    let i ← OptionT.lift (b.attach u n z)
    keep register fun s name => { s with instances := s.instances.put name i }
    return inspectInstance (← get) i
  | .inspect i => do
    let i ← lookUp (·.instance? i)
    return inspectInstance (← get) i
  | .host application => do
    let a ← lookUp (·.applications.lookup application)
    keepNode register a.root.host
    return ofElement (← dataOf a.root.host)
  | .detach i => do
    let i ← lookUp (·.instance? i)
    modify i.detach
    return .null
  | .object scope => do
    let o ← OptionT.lift Run.fresh
    remember (·.setObject o (.ofJson (register.getD "") scope))
    keep register fun s name => { s with objectNames := s.objectNames.put name o }
    return .null
  | .read o member =>
    withObject o fun o => do
      return ((← (u.scope o).get member).map shown).getD (.text "none")
  | .write o member v =>
    withObject o fun o => do
      match ← (u.scope o).set member v with
      | .ok () => return .null
      | .error e => return ofExpressionError e
  | .call o method args =>
    withObject o fun o => return ofOutcome (← (u.scope o).call method args)
  | .eval o kind source => do
    let o ← objectOf o
    match Expression.compile kind source with
    | .error e => return ofExpressionError e
    | .ok e => return ofOutcome (← OptionT.lift (e.evaluate u o))
  | .bind (kind, name, source) n o zone described => do
    let n ← nodeOf n
    let o ← objectOf o
    let z ← lookUp (·.zone? zone)
    bindNode u register (.of kind name source) n o z described

end LiveTemplates.Session
