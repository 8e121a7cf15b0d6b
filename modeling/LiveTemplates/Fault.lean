/-
# LiveTemplates.Fault -- what can go wrong, and its wording

Three families: an expression that does not compile or evaluate, a component that
is declared wrongly, an application that finds no place to mount.  Every fault
has a stable code, which opens its message.
-/

namespace LiveTemplates

/-! ## Expressions -/

/-- Why an expression does not compile or does not evaluate. -/
inductive ExpressionError where
  /-- The source breaks the grammar, for the given reason. -/
  | malformed (source reason : String)
  /-- The source is grammatical and outside of the closed language. -/
  | unsupported (source construct : String)
  | unknownMember (member : String)
  | unknownMethod (method : String)
  | readOnly (member : String)
  /-- A method failed by itself. -/
  | runtime (message : String)
  /-- The object is already evaluating an expression. -/
  | reentrant (source : String)
deriving Repr, DecidableEq, Inhabited

namespace ExpressionError

/-- The reason given for an input without content. -/
def emptyReason : String := "empty expression"

/-- The reason given for text behind a complete expression. -/
def trailingReason : String := "unexpected trailing input"

/-- The reason given for every other break of the grammar. -/
def grammarReason : String := "<parser>"

def code : ExpressionError → String
  | .malformed .. => "ZUI-EXP-001"
  | .unsupported .. => "ZUI-EXP-002"
  | _ => "ZUI-EXP-003"

def message : ExpressionError → String
  | .malformed source reason =>
    s!"ZUI-EXP-001: invalid expression syntax in `{source}`: {reason}"
  | .unsupported source construct =>
    s!"ZUI-EXP-002: unsupported construct `{construct}` in `{source}`"
  | .unknownMember member => s!"ZUI-EXP-003: unknown member '{member}'"
  | .unknownMethod method => s!"ZUI-EXP-003: unknown method '{method}'"
  | .readOnly member => s!"ZUI-EXP-003: member '{member}' is read-only"
  | .runtime message => s!"ZUI-EXP-003: {message}"
  | .reentrant source =>
    s!"ZUI-EXP-003: component is already borrowed while evaluating `{source}`"

end ExpressionError

/-! ## Configuration -/

/-- Why a component class has no blueprint, or a blueprint has a blemish. -/
inductive ConfigurationError where
  | missingMetadata (component : String)
  /-- A declared child class whose tag the template never uses. -/
  | unusedComponent (parent component tag : String)
  /-- A class that includes itself through its template. -/
  | recursiveComponent (component : String)
  | templateParse (component reason : String)
  /-- A binding whose expression does not compile. -/
  | invalidBinding (component binding : String) (cause : ExpressionError)
deriving Repr, DecidableEq, Inhabited

namespace ConfigurationError

def code : ConfigurationError → String
  | .missingMetadata .. => "ZUI-CFG-001"
  | .unusedComponent .. => "ZUI-CFG-002"
  | .recursiveComponent .. => "ZUI-CFG-003"
  | .templateParse .. => "ZUI-CFG-004"
  | .invalidBinding .. => "ZUI-CFG-005"

/-- An unused class is reported and does not stop the compilation. -/
def fatal : ConfigurationError → Bool
  | .unusedComponent .. => false
  | _ => true

def message : ConfigurationError → String
  | .missingMetadata component =>
    s!"ZUI-CFG-001: component '{component}' has no metadata provider"
  | .unusedComponent parent component tag =>
    s!"ZUI-CFG-002: '{parent}' declares '{component}' but its template never uses <{tag}>"
  | .recursiveComponent component =>
    s!"ZUI-CFG-003: component '{component}' includes itself through its template"
  | .templateParse component reason =>
    s!"ZUI-CFG-004: template of '{component}' could not be parsed: {reason}"
  | .invalidBinding component binding cause =>
    s!"ZUI-CFG-005: binding '{binding}' in '{component}' is invalid: {cause.message}"

end ConfigurationError

/-! ## Mounting -/

/-- Why an application found no place in the document. -/
inductive MountError where
  | noHostElement (tag : String)
  | duplicateHostElement (tag : String) (count : Nat)
deriving Repr, DecidableEq, Inhabited

namespace MountError

def code : MountError → String
  | .noHostElement .. => "ZUI-MNT-001"
  | .duplicateHostElement .. => "ZUI-MNT-002"

def message : MountError → String
  | .noHostElement tag => s!"ZUI-MNT-001: couldn't find {tag} element for app bootstrap"
  | .duplicateHostElement tag count =>
    s!"ZUI-MNT-002: found {count} {tag} elements for app bootstrap, expected exactly one"

end MountError

/-! ## All of them -/

/-- A fault of any family. -/
inductive Fault where
  | configuration (e : ConfigurationError)
  | mount (e : MountError)
  | expression (e : ExpressionError)
deriving Repr, DecidableEq, Inhabited

namespace Fault

def code : Fault → String
  | .configuration e => e.code
  | .mount e => e.code
  | .expression e => e.code

def message : Fault → String
  | .configuration e => e.message
  | .mount e => e.message
  | .expression e => e.message

end Fault

end LiveTemplates
