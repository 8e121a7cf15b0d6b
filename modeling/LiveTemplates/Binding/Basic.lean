/-
# LiveTemplates.Binding.Basic -- the bindings of a template

A binding has a kind, a name and a source, which is compiled when the binding is read.
A source that does not compile leaves a broken binding.
-/
import LiveTemplates.Binding.Attribute
import LiveTemplates.Node

namespace LiveTemplates

/-- A binding, with what its source compiles to. -/
structure Binding where
  kind : BindingKind
  name : String
  source : String
  expression : Except ExpressionError Expression

namespace Binding

/-- The binding of a kind, a name and a source. -/
def of (kind : BindingKind) (name source : String) : Binding :=
  ⟨kind, name, source, Expression.compile kind source⟩

/-- The attribute under which the binding is written. -/
def written (b : Binding) : String :=
  b.kind.written b.name

/-- The members whose values the binding uses; a broken one uses none. -/
def dependencies (b : Binding) : List String :=
  match b.expression with
  | .ok e => e.dependencies
  | .error _ => []

/-- Kind, name and source of each binding among attributes, in order. -/
def gather (attrs : List Attr) : List (BindingKind × String × String) :=
  attrs.filterMap fun a =>
    (BindingKind.ofAttribute? a.name).map fun (kind, name) => (kind, name, a.value)

/-- The bindings among attributes, in order. -/
def among (attrs : List Attr) : List Binding :=
  (gather attrs).map fun (kind, name, source) => .of kind name source

end Binding

end LiveTemplates
