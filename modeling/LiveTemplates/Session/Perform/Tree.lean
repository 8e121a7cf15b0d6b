/-
# LiveTemplates.Session.Perform.Tree -- steps on the nodes of the host tree
-/
import LiveTemplates.Session.Perform.Basic

namespace LiveTemplates.Session

open Answering

/-- Reads a template into the forest; its root goes into the register. -/
def readTemplate (register : Option String) (markup : String) : Answering Json := do
  match Template.grow markup with
  | none => return record [("error", .text "Io"), ("message", .text Template.noBodyReason)]
  | some (g, _, root) =>
    let root ← onForest fun f => (root + f.size, f.adopt g)
    keepNode register root
    keep register fun s name => { s with templates := s.templates.put name root }
    return .text (markupBelow (← get).forest root)

/-- Descriptions of elements. -/
def describeElements (ns : List NodeId) : Answering Json := do
  let f := (← get).forest
  return .list (ns.map fun n => ofElement (f.data n))

/-- Performs a step on nodes. -/
def TreeStep.perform (register : Option String) : TreeStep → Answering Json
  | .template markup => readTemplate register markup
  | .node n => do
    let n ← nodeOf n
    keepNode register n
    return ofNode (← dataOf n)
  | .query tag => do
    let w ← get
    describeElements (w.forest.elementsByTag w.document tag)
  | .find n tag => do
    let n ← nodeOf n
    describeElements ((← get).forest.elementsByTag n tag)
  | .walk n => do
    let n ← nodeOf n
    let f := (← get).forest
    return .list ((f.elementsBelow n).map fun e => ofBoundElement (f.data e))
  | .tree n => do
    let n ← nodeOf n
    return ofTree ((← get).forest.tree n)
  | .info n => do
    let n ← nodeOf n
    return inspectNode (← get).forest n
  | .getAttr n name => do
    let d ← dataOf (← nodeOf n)
    return ((d.attr? name).map Json.text).getD .null
  | .setAttr n name value => do
    let n ← nodeOf n
    return .bool (← onForest (·.setAttr n name value))
  | .text n => do
    let n ← nodeOf n
    return .text ((← get).forest.textContent n)
  | .html n => do
    let n ← nodeOf n
    return .text (markupBelow (← get).forest n)
  | .clone n => do
    let d ← dataOf (← nodeOf n)
    let copy ← onForest (·.add d)
    keepNode register copy
    return ofTree (.node d [])
  | .append parent child => do
    let parent ← nodeOf parent
    let child ← nodeOf child
    onForest fun f => ((), f.append parent child)
    return .text (markupBelow (← get).forest parent)
  | .remove parent child => do
    let parent ← nodeOf parent
    let child ← nodeOf child
    return .bool (← onForest (·.remove parent child))
  | .fragment => do
    keepNode register (← onForest (·.add .document))
    return .null
  | .instruction target contents => do
    keepNode register (← onForest (·.add (.instruction target contents)))
    return .null
  | .move source target => do
    let source ← nodeOf source
    let target ← nodeOf target
    let moved ← onForest (·.moveChildren source target)
    let f := (← get).forest
    return .list (moved.map fun n => ofNode (f.data n))
  | .same a b => do
    let a ← nodeOf a
    let b ← nodeOf b
    return .bool (a == b)

end LiveTemplates.Session
