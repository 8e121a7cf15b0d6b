/-
# LiveTemplates.Blueprint.Basic -- compiled components

A blueprint is all that it takes to make instances of a class: the template, the
bindings on its elements, and the blueprints of the components that take the place of
others of its elements.  It never changes.

A compiler makes at most one blueprint of a class, so blueprints are the same if
compiler and class are.
-/
import LiveTemplates.Binding.Basic
import LiveTemplates.Component.Class
import LiveTemplates.Template

namespace LiveTemplates

/-- An element of a template: its address below the root, and its tag. -/
structure Spot where
  address : List Nat
  tag : String
deriving Repr, DecidableEq, Inhabited

/-- A compiled component. -/
inductive Blueprint where
  | mk (compiler : Nat) (cls : ClassRef) (template : Template) (bindings : List (Spot × Binding))
      (children : List (Spot × Blueprint)) (warnings : List ConfigurationError)

namespace Blueprint

/-- The number of the compiler. -/
def compiler : Blueprint → Nat
  | mk n _ _ _ _ _ => n

def cls : Blueprint → ClassRef
  | mk _ c _ _ _ _ => c

def template : Blueprint → Template
  | mk _ _ t _ _ _ => t

/-- The bindings in the order in which they are read. -/
def bindings : Blueprint → List (Spot × Binding)
  | mk _ _ _ bs _ _ => bs

/-- The components on elements of the template, in the order of these. -/
def children : Blueprint → List (Spot × Blueprint)
  | mk _ _ _ _ cs _ => cs

def warnings : Blueprint → List ConfigurationError
  | mk _ _ _ _ _ ws => ws

/-- Are they the same blueprint? -/
def same (a b : Blueprint) : Bool :=
  a.compiler == b.compiler && a.cls.same b.cls

/-- The classes of the children. -/
def childClasses (b : Blueprint) : List ClassRef :=
  b.children.map fun (_, child) => child.cls

/-- The class of the children of a name.  Of several classes with this name the last
counts. -/
def classNamed? (b : Blueprint) (name : String) : Option ClassRef :=
  b.childClasses.reverse.find? (·.name = name)

/-- The classes of the objects that are made for the children: each is looked up by the name
of the child, and left out if there is none. -/
def constructedClasses (b : Blueprint) : List ClassRef :=
  (b.childClasses.map (·.name)).filterMap b.classNamed?

mutual

/-- How many instances the blueprint makes at once. -/
def population : Blueprint → Nat
  | mk _ _ _ _ children _ => 1 + populationAll children

/-- How many instances several blueprints make. -/
def populationAll : List (Spot × Blueprint) → Nat
  | [] => 0
  | (_, b) :: rest => b.population + populationAll rest

end

end Blueprint

end LiveTemplates
