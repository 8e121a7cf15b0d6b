/-
# LiveTemplates.Session.Describe -- nodes, components and reports as structured data
-/
import LiveTemplates.Blueprint.Manifest
import LiveTemplates.Markup.Written
import LiveTemplates.Session.Inspect
import LiveTemplates.Session.State

namespace LiveTemplates.Session

/-! ## Nodes -/

/-- Attributes as pairs of name and value. -/
def ofAttrs (attrs : List Attr) : Json :=
  .list (attrs.map fun a => .list [.text a.name, .text a.value])

/-- A node in a word. -/
def ofNode (d : NodeData) : Json :=
  .text d.describe

/-- A node in a word, with its attributes. -/
def ofElement (d : NodeData) : Json :=
  .list [ofNode d, ofAttrs d.attrs]

mutual

/-- A tree as a datum. -/
def ofTree : Tree → Json
  | .node (.text s) _ => .text s
  | .node (.comment s) _ => .list [.text "#comment", .text s]
  | .node d ts =>
    match d with
    | .element _ _ attrs => .list [ofNode d, ofAttrs attrs, .list (ofTrees ts)]
    | d => .list [ofNode d, .list (ofTrees ts)]

def ofTrees : List Tree → List Json
  | [] => []
  | t :: ts => ofTree t :: ofTrees ts

end

/-- All that a node is. -/
def inspectNode (f : Forest) (n : NodeId) : Json :=
  let d := f.data n
  record [("tag", (d.tag?.map Json.text).getD .null), ("element", .bool d.isElement),
    ("attributes", ofAttrs d.attrs),
    ("children", .list ((f.children n).map fun c => ofNode (f.data c))),
    ("text", .text (f.textContent n))]

/-- An element with the bindings that are written on it. -/
def ofBoundElement (d : NodeData) : Json :=
  .list [ofNode d, .list ((Binding.gather d.attrs).map fun (kind, name, source) =>
    .list [ofBindingKind kind, .text name, .text source])]

/-- The markup below a node. -/
def markupBelow (f : Forest) (n : NodeId) : String :=
  Markup.inner (f.tree n)

/-! ## Components -/

/-- A binding on an element. -/
def bindingEntries (b : Binding) (tag : String) : List (String × Json) :=
  let fault := match b.expression with
    | .ok _ => .null
    | .error e => ofExpressionError e
  [("kind", ofBindingKind b.kind), ("attribute", .text b.written), ("expression", .text b.source),
   ("node", .text tag), ("dependencies", texts b.dependencies), ("error", fault)]

/-- Bindings of a template as data. -/
def ofBindings (bindings : List (Spot × Binding)) : Json :=
  .list (bindings.map fun (spot, b) => record (bindingEntries b spot.tag))

/-- Components of a template as data. -/
def ofChildren (children : List (Spot × Blueprint)) : Json :=
  .list (children.map fun (spot, b) => .list [.text b.cls.name, .text spot.tag])

/-- A binding in a manifest as a datum. -/
def ofBindingManifest (b : BindingManifest) : Json :=
  record ([("kind", ofBindingKind b.kind), ("name", .text b.name), ("expression", .text b.source),
    ("target", .text b.target), ("dependencies", texts b.dependencies)]
      ++ (match b.fault with
        | none => []
        | some message => [("error", .text message)]))

mutual

/-- A manifest as a datum. -/
def ofManifest : Manifest → Json
  | .mk component tag bindings children warnings =>
    record ([("component", .text component), ("tag", .text tag),
      ("bindings", .list (bindings.map ofBindingManifest)), ("children", .list (ofManifests children))]
        ++ (if warnings.isEmpty then [] else [("warnings", texts warnings)]))

def ofManifests : List Manifest → List Json
  | [] => []
  | m :: ms => ofManifest m :: ofManifests ms

end

/-- The classes of the children of a blueprint, each once, with their tags, in the order of
the texts. -/
def componentsOf (b : Blueprint) : List String :=
  ((firstSeen b.childClasses).map fun c => s!"{c.name}:{c.tag}").mergeSort fun a b => a ≤ b

/-- All that a blueprint is. -/
def inspectBlueprint (b : Blueprint) : Json :=
  record [("class", .text b.cls.name), ("html", .text (Markup.inner b.template.root)),
    ("template_root", ofNode b.template.root.data),
    ("document", .list (b.template.document.children.map fun t => ofNode t.data)),
    ("bindings", ofBindings b.bindings), ("children", ofChildren b.children),
    ("components", texts (componentsOf b)),
    ("warnings", .list (b.warnings.map ofConfigurationError))]

/-- What a compiler has made. -/
def inspectCompiler (k : Compiler) : Json :=
  let classes := palette.filter fun id => (k.find? ⟨id, true⟩).isSome
  record [("len", count k.blueprints.length), ("empty", .bool k.blueprints.isEmpty),
    ("classes", texts classes), ("options", ofOptions k.options)]

/-! ## Instances -/

/-- The label of an object, unless it is busy. -/
def labelOf (w : World State) (o : ObjectId) : Json :=
  .text (if w.busy.contains o then "<borrowed>" else (w.user.object o).label)

/-- An instance in a message for programmers. -/
def describeInstance (i : Instance) (r : Option Registrations) : String :=
  let registered := r.getD {}
  s!"ComponentInstance \x7b component: {Text.quoted i.blueprint.cls.name}, "
    ++ s!"children: {i.children.length}, ticks: {registered.ticks.length}, "
    ++ s!"listeners: {registered.listeners.length}, attached: {r.isSome} \x7d"

/-- All that an instance is. -/
def inspectInstance (w : World State) (i : Instance) : Json :=
  let r := w.registrations? i.serial
  let registered := r.getD {}
  record [("class", .text i.blueprint.cls.name), ("component", labelOf w i.object),
    ("objects", .list (i.childObjects.map (labelOf w))),
    ("children", .list (i.children.map fun child => labelOf w child.object)),
    ("host", ofNode (w.forest.data i.host)),
    ("mounted", .list (registered.mounted.map fun n => ofNode (w.forest.data n))),
    ("ticks", .list (registered.ticks.map count)), ("attached", .bool r.isSome),
    ("debug", .text (describeInstance i r))]

/-! ## Reports -/

/-- A warning: its message and further entries. -/
def warning (message : String) (entries : List (String × Json)) : Json :=
  .list [.text "warn", record (("message", .text message) :: entries)]

/-- The entries for an expression's fault. -/
def faultOf (e : ExpressionError) : List (String × Json) :=
  [("code", .text e.code), ("error", .text e.message)]

/-- A report as an entry of the log. -/
def ofNotice : Notice → Json
  | .consulted id => .list [.text "metadata", .text id]
  | .unused e => warning e.message [("code", .text e.code)]
  | .broken component binding e =>
    warning "binding will not be attached"
      ([("component", .text component), ("attribute", .text binding)] ++ faultOf e)
  | .skipped binding e =>
    warning "skipping binding that failed to compile"
      [("attribute", .text binding), ("error", .text e.message)]
  | .unshown binding e =>
    warning "initial render of binding failed" (("attribute", .text binding) :: faultOf e)
  | .stale tick e => warning "binding refresh failed" (("tick_id", count tick) :: faultOf e)
  | .unhandled event e => warning "event handler failed" (("event", .text event) :: faultOf e)
  | .severalHosts tag n =>
    warning "several host elements match, mounting on the first"
      [("tag", .text tag), ("count", count n)]

end LiveTemplates.Session
