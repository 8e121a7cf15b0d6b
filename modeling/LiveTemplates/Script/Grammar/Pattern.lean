/-
# LiveTemplates.Script.Grammar.Pattern -- expressions as targets of an assignment

An assignment is recognized when its operator comes, after its target has been
read as an expression.  A name and a member are targets, also between
parentheses; a list and an object are patterns if all of their parts are.
-/
import LiveTemplates.Script.Grammar.Basic

namespace LiveTemplates.Script

/-- The target that stands for a single place: a name or a member. -/
def Term.place? : Term → Option Term
  | t@(.name ..) => some t
  | t@(.member ..) => some t
  | t@(.element ..) => some t
  | t@(.other _ .privateField) => some t
  | .group _ (.array ..) => none
  | .group _ (.object ..) => none
  | .group _ inner => inner.place?
  | _ => none

mutual

/-- Where names with a default stand in a pattern; `none` if a part of it is no
target. -/
def Term.patternDefaults? : Term → Option (List Nat)
  | .array _ items comma => itemDefaults? comma items
  | .object _ entries comma => entryDefaults? comma entries
  | t => t.place?.map fun _ => []

/-- A target with an optional default. -/
def Term.defaultedDefaults? : Term → Option (List Nat)
  | .assign _ .plain _ _ => some []
  | .assign .. => none
  | t => t.patternDefaults?

def itemDefaults? (comma : Bool) : List Term → Option (List Nat)
  | [] => some []
  | .other _ .hole :: rest => itemDefaults? comma rest
  | .spread _ inner :: rest => if rest.isEmpty && !comma then inner.patternDefaults? else none
  | item :: rest => do return (← item.defaultedDefaults?) ++ (← itemDefaults? comma rest)

def entryDefaults? (comma : Bool) : List Term → Option (List Nat)
  | [] => some []
  | .shorthand s _ initialized :: rest => do
    let more ← entryDefaults? comma rest
    return if initialized then s.start :: more else more
  | .entry _ value :: rest => do
    return (← value.defaultedDefaults?) ++ (← entryDefaults? comma rest)
  | .spread _ inner :: rest => if rest.isEmpty && !comma then inner.patternDefaults? else none
  | _ :: _ => none

end

/-- The single place that an expression stands for. -/
def asPlace (t : Term) : Parse Term :=
  match t.place? with
  | some target => pure target
  | none => refuse

/-- The target of a plain assignment: a single place or a pattern. -/
def asTarget (t : Term) : Parse Term := do
  match t with
  | .array .. | .object .. =>
    match t.patternDefaults? with
    | none => refuse
    | some found =>
      modify fun p => { p with defaults := p.defaults.filter fun n => !found.contains n }
      return .other t.span .pattern
  | t => asPlace t

end LiveTemplates.Script
