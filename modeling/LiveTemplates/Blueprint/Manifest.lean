/-
# LiveTemplates.Blueprint.Manifest -- what a blueprint says about itself
-/
import LiveTemplates.Blueprint.Basic

namespace LiveTemplates

/-- A binding in a manifest. -/
structure BindingManifest where
  kind : BindingKind
  name : String
  source : String
  /-- The tag of the element that it is on. -/
  target : String
  dependencies : List String
  /-- What is wrong with a broken binding. -/
  fault : Option String
deriving Repr, DecidableEq

/-- A blueprint in words, with those of its children. -/
inductive Manifest where
  | mk (component tag : String) (bindings : List BindingManifest) (children : List Manifest)
      (warnings : List String)

/-- A binding on an element in words. -/
def BindingManifest.of (spot : Spot) (b : Binding) : BindingManifest :=
  let fault := match b.expression with
    | .ok _ => none
    | .error e => some e.message
  ⟨b.kind, b.name, b.source, spot.tag, b.dependencies, fault⟩

namespace Blueprint

mutual

/-- The manifest of a blueprint. -/
def manifest : Blueprint → Manifest
  | mk _ cls _ bindings children warnings =>
    .mk cls.name cls.tag (bindings.map fun (spot, b) => .of spot b) (manifests children)
      (warnings.map (·.message))

/-- The manifests of several blueprints. -/
def manifests : List (Spot × Blueprint) → List Manifest
  | [] => []
  | (_, b) :: rest => b.manifest :: manifests rest

end

end Blueprint

end LiveTemplates
