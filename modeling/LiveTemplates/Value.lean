/-
# LiveTemplates.Value -- what an expression evaluates to

A value is undefined, null, a truth value, a number or a text.  Each has a truth
value, a number and a text of its own; `looseEq` compares across kinds through
numbers, `strictEq` only within a kind.
-/
import LiveTemplates.Number.Notation
import LiveTemplates.Number.Reading
import LiveTemplates.Text.Blank

namespace LiveTemplates

/-- The value of an expression or a member. -/
inductive Value where
  | undefined
  | null
  | bool (b : Bool)
  | number (x : Float)
  | text (s : String)
deriving DecidableEq, Inhabited

namespace Value

/-- Does the value count as true? -/
def truthy : Value → Bool
  | .undefined | .null => false
  | .bool b => b
  | .number x => x != 0.0 && !x.isNaN
  | .text s => !s.isEmpty

/-- Is there no value? -/
def nullish : Value → Bool
  | .undefined | .null => true
  | _ => false

/-- The number that a text stands for; a blank text is zero, and a text that no
number is written as is no number. -/
def textToNumber (s : String) : Float :=
  match Text.trimChars s.toList with
  | [] => 0.0
  | cs => (Number.read? cs).getD (0.0 / 0.0)

/-- The value as a number. -/
def toNumber : Value → Float
  | .undefined => 0.0 / 0.0
  | .null => 0.0
  | .bool b => if b then 1.0 else 0.0
  | .number x => x
  | .text s => textToNumber s

/-- The name of the value's kind. -/
def kind : Value → String
  | .undefined => "undefined"
  | .null => "object"
  | .bool _ => "boolean"
  | .number _ => "number"
  | .text _ => "string"

/-- The value as a text. -/
def display : Value → String
  | .undefined => "undefined"
  | .null => "null"
  | .bool b => if b then "true" else "false"
  | .number x => Number.text x
  | .text s => s

/-- Equal without conversion.  Numbers are compared as numbers: the two zeros are
equal, and what is no number equals nothing. -/
def strictEq : Value → Value → Bool
  | .undefined, .undefined => true
  | .null, .null => true
  | .bool a, .bool b => a == b
  | .number x, .number y => x == y
  | .text s, .text t => s == t
  | _, _ => false

/-- Equal after conversion to numbers where the kinds differ; the two absent
values equal each other and nothing else. -/
def looseEq (a b : Value) : Bool :=
  if a.nullish && b.nullish then true
  else if a.nullish || b.nullish then false
  else match a, b with
    | .text s, .text t => s == t
    | a, b => a.toNumber == b.toNumber

end Value

end LiveTemplates
