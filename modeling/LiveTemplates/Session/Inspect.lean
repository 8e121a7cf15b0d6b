/-
# LiveTemplates.Session.Inspect -- questions about values, texts and classes

Questions that are answered without a document.
-/
import LiveTemplates.Binding.Attribute
import LiveTemplates.Json.Writer
import LiveTemplates.Options
import LiveTemplates.Session.Classes

namespace LiveTemplates.Session

/-! ## Values -/

/-- All that a value is. -/
def inspectValue (v : Value) : Json :=
  record [("truthy", .bool v.truthy), ("nullish", .bool v.nullish),
    ("number", ofValue (.number v.toNumber)), ("typeof", .text v.kind), ("text", .text v.display)]

/-- Are two values the same, kind by kind?  Numbers are compared as numbers. -/
def sameValue (a b : Value) : Bool :=
  a.strictEq b

/-- How two values compare. -/
def inspectPair (a b : Value) : Json :=
  record [("strict", .bool (a.strictEq b)), ("loose", .bool (a.looseEq b)),
    ("same", .bool (sameValue a b))]

/-- The value that a text stands for, if it is a scalar. -/
def readScalarValue (text : String) : Except Json.Fault Value := do
  let (j, rest) ← Json.readValue false Json.maxDepth text.toList
  let v : Value ← match j with
    | .null => pure .undefined
    | .bool b => pure (.bool b)
    | .integer n => pure (.number (ofInteger n))
    | .double x => pure (.number x)
    | .text s => pure (.text s)
    | .list _ | .record _ => throw .mismatch
  Json.expectEnd rest
  return v

/-- A value as the text of a datum. -/
def writeValue : Value → String
  | .undefined | .null => "null"
  | .bool b => if b then "true" else "false"
  | .number x => Json.writeNumber x
  | .text s => Json.writeText s

/-! ## Faults -/

/-- The expression fault that a record describes. -/
def toExpressionError? (j : Json) : Option ExpressionError :=
  let t := textAt j
  match t "variant" with
  | "Syntax" => some (.malformed (t "source") (t "message"))
  | "Unsupported" => some (.unsupported (t "source") (t "construct"))
  | "UnknownMember" => some (.unknownMember (t "member"))
  | "UnknownMethod" => some (.unknownMethod (t "method"))
  | "ReadOnly" => some (.readOnly (t "member"))
  | "Runtime" => some (.runtime (t "message"))
  | "Reentrant" => some (.reentrant (t "source"))
  | _ => none

/-- The fault that a record describes. -/
def toFault? (j : Json) : Option Fault :=
  let t := textAt j
  match t "variant" with
  | "MissingMetadata" => some (.configuration (.missingMetadata (t "component")))
  | "UnusedComponent" =>
    some (.configuration (.unusedComponent (t "parent") (t "component") (t "tag")))
  | "RecursiveComponent" => some (.configuration (.recursiveComponent (t "component")))
  | "TemplateParse" => some (.configuration (.templateParse (t "component") (t "message")))
  | "InvalidBinding" => do
    let cause ← toExpressionError? ((j.field? "cause").getD .null)
    return .configuration (.invalidBinding (t "component") (t "attribute") cause)
  | "NoHostElement" => some (.mount (.noHostElement (t "tag")))
  | "DuplicateHostElement" =>
    some (.mount (.duplicateHostElement (t "tag") (((j.field? "count").bind Json.nat?).getD 0)))
  | _ => (toExpressionError? j).map .expression

/-- Code, message and weight of a fault. -/
def inspectFault (f : Fault) : Json :=
  let fatal := match f with
    | .configuration e => Json.bool e.fatal
    | _ => .null
  record [("code", .text f.code), ("message", .text f.message), ("fatal", fatal)]

/-! ## Options and classes -/

/-- Options as a datum. -/
def ofOptions (o : CompileOptions) : Json :=
  record [("strictComponents", .bool o.strictComponents),
    ("strictExpressions", .bool o.strictExpressions),
    ("allowDuplicateHosts", .bool o.allowDuplicateHosts)]

/-- The options that a text stands for. -/
def inspectOptions (text : String) : Json :=
  match CompileOptions.read text with
  | .ok o => record [("options", ofOptions o), ("default", .bool (o == {}))]
  | .error f => ofJsonFault f

/-- All that a class is. -/
def inspectClass (catalog : Catalog) (c other : ClassRef) : Json :=
  let metadata := match catalog.metadata c with
    | .ok m => record [("template", .text m.template), ("components", texts (m.components.map (·.name)))]
    | .error e => ofConfigurationError e
  record [("name", .text c.name), ("tag", .text c.tag), ("metadata", metadata),
    ("debug", .text c.describe), ("equal", .bool (c.same other))]

/-- The references to classes of which none before is to the same class. -/
def firstSeen (classes : List ClassRef) : List ClassRef :=
  classes.foldl (fun seen c => if seen.any c.same then seen else seen ++ [c]) []

/-! ## Questions -/

/-- The answer to a question without a document, if it is one. -/
def inspect? (q : Json) : Option Json := do
  let field := q.field?
  match textAt q "op" with
  | "value" => return inspectValue (toValue (← field "v"))
  | "convert" =>
    let v := toValue (← field "v")
    return record [("value", ofValue v), ("text", .text v.display)]
  | "value_pair" => return inspectPair (toValue (← field "a")) (toValue (← field "b"))
  | "value_json" =>
    match readScalarValue (textAt q "json") with
    | .ok v => return record [("value", ofValue v), ("json", .text (writeValue v))]
    | .error f => return ofJsonFault f
  | "options" => return inspectOptions (textAt q "json")
  | "error" => return inspectFault (← toFault? q)
  | "tag" => return .text (Tag.ofName (textAt q "name"))
  | "binding_syntax" =>
    match BindingKind.ofAttribute? (textAt q "attribute") with
    | none => return .null
    | some (kind, name) => return .list [ofBindingKind kind, .text name]
  | "class" =>
    let c ← toClassRef? (← field "class")
    let other ← match field "other" with
      | none => pure c
      | some j => toClassRef? j
    return inspectClass (toCatalog (field "classes")) c other
  | "class_set" =>
    let classes ← (itemsAt q "of").mapM toClassRef?
    let seen := firstSeen classes
    return record [("distinct", count seen.length), ("first_seen", texts (seen.map (·.name)))]
  | _ => none

end LiveTemplates.Session
