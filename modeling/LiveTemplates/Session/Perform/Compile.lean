/-
# LiveTemplates.Session.Perform.Compile -- steps on compilers and blueprints
-/
import LiveTemplates.Session.Perform.Basic

namespace LiveTemplates.Session

open Answering

/-- The options that a step is given, or the usual ones. -/
def toOptions (options : Option Json) : Except Json.Fault CompileOptions :=
  match options with
  | none => pure {}
  | some j => CompileOptions.ofJson j

/-- Does work with the compiler of a name. -/
def compileWith (u : UserCode State) (name : String) (work : Catalog → Compiling α) :
    Answering (Except ConfigurationError α) := do
  let k ← lookUp (·.compiler? name)
  let catalog := (← get).user.setting.catalog
  let (outcome, k) ← OptionT.lift (Run.compiling u k (work catalog))
  remember (·.setCompiler name k)
  return outcome

/-- Performs a step on compilers. -/
def CompilerStep.perform (u : UserCode State) (register : Option String) :
    CompilerStep → Answering Json
  | .compiler options =>
    match toOptions options with
    | .error f => return ofJsonFault f
    | .ok options => do
      let serial ← OptionT.lift Run.fresh
      keep register fun s name =>
        { s with compilers := s.compilers.put name { serial := serial, options := options } }
      return .null
  | .compile name c => do
    match ← compileWith u name (Compiler.compile · c) with
    | .error e => return ofConfigurationError e
    | .ok b =>
      keep register fun s name => { s with blueprints := s.blueprints.put name b }
      return ofManifest b.manifest
  | .registry name => return inspectCompiler (← lookUp (·.compiler? name))
  | .parseTemplate template owner components name => do
    let root ← lookUp (·.templates.lookup template)
    let tree := (← get).forest.tree root
    match ← compileWith u name (Compiler.scan · owner components tree) with
    | .error e => return ofConfigurationError e
    | .ok s =>
      return record [("bindings", ofBindings s.bindings), ("components", ofChildren s.children),
        ("unused", texts ((s.unused components).map (·.name)))]
  | .blueprint name => return inspectBlueprint (← lookUp (·.blueprint? name))
  | .sameBlueprint a b => do
    let a ← lookUp (·.blueprint? a)
    let b ← lookUp (·.blueprint? b)
    return .bool (a.same b)
  | .construct name around => do
    let b ← lookUp (·.blueprint? name)
    let own ← match around with
      | none => OptionT.lift (Run.construct u b.cls)
      | some register => lookUp (·.objectNames.lookup register)
    let children ← OptionT.lift (b.constructChildren u)
    let w ← get
    return record [("component", labelOf w own), ("children", .list (children.map (labelOf w)))]

end LiveTemplates.Session
