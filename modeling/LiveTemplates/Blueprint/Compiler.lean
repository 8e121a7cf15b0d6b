/-
# LiveTemplates.Blueprint.Compiler -- from classes to blueprints

A compiler keeps the blueprints that it has made and makes none twice.  While it reads
the template of a class, this is in progress; the classes that the template uses are
compiled as their tags are met, each in front of the bindings of its element.  A class
that is met again while it is in progress includes itself.

Of several declared classes with one tag the last one counts.  A class that is
declared without its tag being used for it is unused.

The depth of the recursion is bounded by the number of declarations: the classes in
progress are all different, and only a declared class uses others.
-/
import LiveTemplates.Blueprint.Basic
import LiveTemplates.Notice
import LiveTemplates.Options

namespace LiveTemplates

/-- A compiler with its blueprints. -/
structure Compiler where
  /-- The number that tells it from other compilers. -/
  serial : Nat
  options : CompileOptions := {}
  /-- The blueprints by class, in the order in which they were completed. -/
  blueprints : List (String × Blueprint) := []
  /-- The classes that are being compiled, outermost first. -/
  inProgress : List ClassRef := []

namespace Compiler

/-- The blueprint of a class, if there is one. -/
def find? (k : Compiler) (c : ClassRef) : Option Blueprint :=
  k.blueprints.lookup c.id

/-- Keeps a blueprint. -/
def keep (k : Compiler) (b : Blueprint) : Compiler :=
  { k with blueprints := k.blueprints ++ [(b.cls.id, b)] }

/-- Is a class in progress? -/
def isCompiling (k : Compiler) (c : ClassRef) : Bool :=
  k.inProgress.any c.same

end Compiler

/-- A compiler at work, and what it has reported, latest first. -/
structure Workshop where
  compiler : Compiler
  notices : List Notice := []

/-- Work of a compiler, which can fail. -/
abbrev Compiling := ExceptT ConfigurationError (StateM Workshop)

namespace Compiling

/-- Reports something. -/
def report (n : Notice) : Compiling Unit :=
  modify fun w => { w with notices := n :: w.notices }

/-- Changes the compiler. -/
def change (f : Compiler → Compiler) : Compiling Unit :=
  modify fun w => { w with compiler := f w.compiler }

/-- Does work with a class in progress, which it no longer is when the work has failed
or is done. -/
def within (c : ClassRef) (work : Compiling α) : Compiling α := do
  change fun k => { k with inProgress := k.inProgress ++ [c] }
  let outcome ← ExceptT.lift work.run
  change fun k => { k with inProgress := k.inProgress.dropLast }
  liftExcept outcome

end Compiling

/-! ## Reading a template -/

/-- What has been found in a template. -/
structure Scan where
  bindings : List (Spot × Binding) := []
  children : List (Spot × Blueprint) := []
  /-- The classes whose tags were met. -/
  used : List ClassRef := []

namespace Scan

/-- The class that a tag stands for. -/
def classOf? (declared : List ClassRef) (tag : String) : Option ClassRef :=
  declared.reverse.find? (·.tag = tag)

/-- Compiles the class that an element stands for, if it stands for one. -/
def addChild (compile : ClassRef → Compiling Blueprint) (declared : List ClassRef) (spot : Spot)
    (s : Scan) : Compiling Scan :=
  match classOf? declared spot.tag with
  | none => return s
  | some c => do
    let b ← compile c
    let used := if s.used.any c.same then s.used else s.used ++ [c]
    return { s with children := s.children ++ [(spot, b)], used := used }

/-- Adds a binding of an element. -/
def addBinding (owner : ClassRef) (strict : Bool) (spot : Spot) (s : Scan) (b : Binding) :
    Compiling Scan := do
  if let .error e := b.expression then
    if strict then throw (.invalidBinding owner.name b.written e)
    Compiling.report (.broken owner.name b.written e)
  return { s with bindings := s.bindings ++ [(spot, b)] }

/-- Reads an element. -/
def addElement (compile : ClassRef → Compiling Blueprint) (owner : ClassRef)
    (declared : List ClassRef) (strict : Bool) (s : Scan) (element : List Nat × NodeData) :
    Compiling Scan := do
  let (address, data) := element
  let spot : Spot := ⟨address, data.describe⟩
  let s ← s.addChild compile declared spot
  (Binding.among data.attrs).foldlM (addBinding owner strict spot) s

/-- Reads the elements of a template, in document order. -/
def ofTree (compile : ClassRef → Compiling Blueprint) (owner : ClassRef)
    (declared : List ClassRef) (root : Tree) : Compiling Scan := do
  let strict := (← get).compiler.options.strictExpressions
  root.elementsBelow.foldlM (addElement compile owner declared strict) {}

/-- The declared classes whose tags were not met. -/
def unused (s : Scan) (declared : List ClassRef) : List ClassRef :=
  declared.filter fun c => !s.used.any c.same

end Scan

/-! ## Compiling -/

namespace Compiler

/-- What a class declares, which is reported if there is such a thing. -/
def consult (catalog : Catalog) (c : ClassRef) : Compiling Metadata := do
  if c.declared then Compiling.report (.consulted c.id)
  liftExcept (catalog.metadata c)

/-- The template of a class. -/
def readTemplate (c : ClassRef) (markup : String) : Compiling Template :=
  match Template.parse? markup with
  | some t => return t
  | none => throw (.templateParse c.name Template.noBodyReason)

/-- Reports the classes that are unused, or fails with the first. -/
def warnUnused (owner : ClassRef) (unused : List ClassRef) :
    Compiling (List ConfigurationError) := do
  let strict := (← get).compiler.options.strictComponents
  unused.mapM fun c => do
    let e := ConfigurationError.unusedComponent owner.name c.name c.tag
    if strict then throw e
    Compiling.report (.unused e)
    return e

/-- Makes the blueprint of a class that has none, with a way to compile the classes that
its template uses. -/
def make (catalog : Catalog) (compile : ClassRef → Compiling Blueprint) (c : ClassRef) :
    Compiling Blueprint := do
  let metadata ← consult catalog c
  let template ← readTemplate c metadata.template
  let s ← Compiling.within c (Scan.ofTree compile c metadata.components template.root)
  let warnings ← warnUnused c (s.unused metadata.components)
  let b := Blueprint.mk (← get).compiler.serial c template s.bindings s.children warnings
  Compiling.change (·.keep b)
  return b

/-- The blueprint of a class: the one there is, or else a new one. -/
def obtain (catalog : Catalog) (compile : ClassRef → Compiling Blueprint) (c : ClassRef) :
    Compiling Blueprint := do
  let k := (← get).compiler
  match k.find? c with
  | some b => return b
  | none =>
    if k.isCompiling c then throw (.recursiveComponent c.name)
    make catalog compile c

/-- Compiles a class, with classes inside of it down to a depth. -/
def compileWithin (catalog : Catalog) : Nat → ClassRef → Compiling Blueprint
  | 0, c => throw (.recursiveComponent c.name)
  | depth + 1, c => obtain catalog (compileWithin catalog depth) c

/-- A depth that is never exceeded. -/
def depthBound (catalog : Catalog) : Nat :=
  catalog.length + 1

/-- Compiles a class. -/
def compile (catalog : Catalog) (c : ClassRef) : Compiling Blueprint :=
  compileWithin catalog (depthBound catalog) c

/-- Reads a template on behalf of a class, without making a blueprint of it. -/
def scan (catalog : Catalog) (owner : ClassRef) (declared : List ClassRef) (root : Tree) :
    Compiling Scan :=
  Scan.ofTree (compile catalog) owner declared root

/-- Does work from a compiler on; gives the outcome, the compiler and the reports in order. -/
def run (k : Compiler) (work : Compiling α) :
    Except ConfigurationError α × Compiler × List Notice :=
  let (outcome, w) := (ExceptT.run work).run { compiler := k }
  (outcome, w.compiler, w.notices.reverse)

end Compiler

end LiveTemplates
