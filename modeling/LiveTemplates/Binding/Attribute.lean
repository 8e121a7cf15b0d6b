/-
# LiveTemplates.Binding.Attribute -- how a binding is written

A binding is written as an attribute: `[name]` for an input and `(name)` for an
output, where the name is a word.  Every other attribute is plain.
-/
import LiveTemplates.Expression
import LiveTemplates.Text.Word

namespace LiveTemplates.BindingKind

/-- The brackets around the name. -/
def brackets : BindingKind → Char × Char
  | .input => ('[', ']')
  | .output => ('(', ')')

/-- The attribute under which a binding is written. -/
def written (kind : BindingKind) (name : String) : String :=
  String.ofList (kind.brackets.1 :: (name.toList ++ [kind.brackets.2]))

/-- The word between an opening bracket and its closing one. -/
def wordBetween (kind : BindingKind) (cs : List Char) : Option String :=
  match cs with
  | [] => none
  | c :: rest =>
    if c = kind.brackets.1 ∧ rest.getLast? = some kind.brackets.2 ∧ rest.dropLast ≠ [] ∧
        rest.dropLast.all Text.isWord then
      some (String.ofList rest.dropLast)
    else none

/-- The binding that is written as an attribute, if it is one. -/
def ofAttribute? (name : String) : Option (BindingKind × String) :=
  match wordBetween .input name.toList with
  | some word => some (.input, word)
  | none => (wordBetween .output name.toList).map (.output, ·)

end LiveTemplates.BindingKind
