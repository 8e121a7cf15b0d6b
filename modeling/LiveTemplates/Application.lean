/-
# LiveTemplates.Application -- a component at the root of a document

An application compiles its root class with a compiler of its own, looks for the element
of the document that has the tag of the class, and attaches the root instance there
with a zone of its own.  From then on the zone stands in front of the document's
listeners.  Where compiling or mounting fails, the document stays as it was.
-/
import LiveTemplates.Blueprint.Compiler
import LiveTemplates.Instance

namespace LiveTemplates

variable {σ : Type}

/-- An application. -/
structure Application where
  zone : Zone
  compiler : Compiler
  blueprint : Blueprint
  root : Instance

/-- Does the work of a compiler, with its reports. -/
def Run.compiling (u : UserCode σ) (k : Compiler) (work : Compiling α) :
    Run σ (Except ConfigurationError α × Compiler) := do
  let (outcome, k, notices) := k.run work
  notices.forM (Run.notice u)
  return (outcome, k)

/-- The place for an application among the elements with its tag. -/
def mountPlace (options : CompileOptions) (tag : String) : List NodeId → Except MountError NodeId
  | [] => throw (.noHostElement tag)
  | [host] => pure host
  | host :: others =>
    if options.allowDuplicateHosts then pure host
    else throw (.duplicateHostElement tag (others.length + 1))

namespace Application

/-- Starts an application. -/
def bootstrap (u : UserCode σ) (catalog : Catalog) (c : ClassRef) (options : CompileOptions) :
    Run σ (Except Fault Application) := do
  let z ← modifyGet (·.newZone (.dispatcher 0))
  let (outcome, k) ← Run.compiling u { serial := ← Run.fresh, options := options }
    (Compiler.compile catalog c)
  match outcome with
  | .error e => return .error (.configuration e)
  | .ok b =>
    let w ← get
    let hosts := w.forest.elementsByTag w.document c.tag
    match mountPlace options c.tag hosts with
    | .error e => return .error (.mount e)
    | .ok host =>
      if hosts.length > 1 then Run.notice u (.severalHosts c.tag hosts.length)
      let root ← b.attach u host z
      modify fun w => { w with target := .zone z }
      return .ok ⟨z, k, b, root⟩

end Application

end LiveTemplates
