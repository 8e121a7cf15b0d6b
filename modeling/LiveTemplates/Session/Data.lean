/-
# LiveTemplates.Session.Data -- values, programs and faults as structured data

A number is shown by its sixteen hexadecimal digits, the bits of the double; what
is no number has one spelling.  An undefined value is shown by a record of its
own.
-/
import LiveTemplates.Json.Basic
import LiveTemplates.Expression
import LiveTemplates.Number.Hexadecimal

namespace LiveTemplates.Session

/-- A record of named data. -/
abbrev record (entries : List (String × Json)) : Json := .record entries

/-- A natural number as a datum. -/
def count (n : Nat) : Json := .integer n

/-- A list of texts as a datum. -/
def texts (ss : List String) : Json := .list (ss.map .text)

/-! ## Values -/

/-- The bits of a double, with one spelling for what is no number. -/
def bitsOf (x : Float) : Nat :=
  if x.isNaN then 0x7ff8000000000000 else x.toBits.toNat

/-- A value as a datum. -/
def ofValue : Value → Json
  | .undefined => record [("undefined", .bool true)]
  | .null => .null
  | .bool b => .bool b
  | .number x => record [("n", .text (String.ofList (Number.hexChars 16 (bitsOf x))))]
  | .text s => .text s

/-- The double nearest to an integer. -/
def ofInteger (n : Int) : Float :=
  if n < 0 then -(Float.ofScientific n.natAbs false 0) else Float.ofScientific n.natAbs false 0

/-- The value that a datum stands for. -/
def toValue : Json → Value
  | .null => .null
  | .bool b => .bool b
  | .integer n => .number (ofInteger n)
  | .double x => .number x
  | .text s => .text s
  | .list _ => .null
  | .record entries =>
    match entries.lookup "n" with
    | some (.text s) => .number (Float.ofBits (UInt64.ofNat (Number.ofHexDigits s.toList)))
    | _ => if (entries.lookup "undefined").isSome then .undefined else .null

/-- A value with its text. -/
def shown (v : Value) : Json :=
  record [("value", ofValue v), ("text", .text v.display)]

/-! ## Programs -/

def ofUnaryOp : UnaryOp → Json
  | .not => .text "!"
  | .negate => .text "-"
  | .plus => .text "+"
  | .typeOf => .text "typeof"

def ofBinaryOp : BinaryOp → Json
  | .eq => .text "=="
  | .notEq => .text "!="
  | .strictEq => .text "==="
  | .strictNotEq => .text "!=="
  | .lt => .text "<"
  | .ltEq => .text "<="
  | .gt => .text ">"
  | .gtEq => .text ">="
  | .add => .text "+"
  | .sub => .text "-"
  | .mul => .text "*"
  | .div => .text "/"
  | .rem => .text "%"

def ofLogicalOp : LogicalOp → Json
  | .and => .text "&&"
  | .or => .text "||"
  | .coalesce => .text "??"

mutual

/-- A program as a datum: its kind and its parts. -/
def ofProgram : Program → Json
  | .literal v => .list [.text "lit", ofValue v]
  | .template pieces parts => .list [.text "tpl", texts pieces, .list (ofPrograms parts)]
  | .member name => .list [.text "get", .text name]
  | .call method args => .list [.text "call", .text method, .list (ofPrograms args)]
  | .unary op argument => .list [.text "un", ofUnaryOp op, ofProgram argument]
  | .binary op left right => .list [.text "bin", ofBinaryOp op, ofProgram left, ofProgram right]
  | .logical op left right =>
    .list [.text "logic", ofLogicalOp op, ofProgram left, ofProgram right]
  | .conditional test consequent alternate =>
    .list [.text "if", ofProgram test, ofProgram consequent, ofProgram alternate]
  | .assign name op value =>
    .list [.text "assign", .text name, (op.map ofBinaryOp).getD .null, ofProgram value]
  | .update name increment isPrefix =>
    .list [.text "update", .text name, .text (if increment then "++" else "--"), .bool isPrefix]
  | .sequence steps => .list [.text "seq", .list (ofPrograms steps)]

def ofPrograms : List Program → List Json
  | [] => []
  | p :: ps => ofProgram p :: ofPrograms ps

end

def ofBindingKind : BindingKind → Json
  | .input => .text "input"
  | .output => .text "output"

/-! ## Faults -/

/-- The answer to a question about something that is not there. -/
def badReference : Json := record [("error", .text "BadRef")]

/-- The name of an expression's fault. -/
def expressionErrorName : ExpressionError → String
  | .malformed .. => "Syntax"
  | .unsupported .. => "Unsupported"
  | .unknownMember .. => "UnknownMember"
  | .unknownMethod .. => "UnknownMethod"
  | .readOnly .. => "ReadOnly"
  | .runtime .. => "Runtime"
  | .reentrant .. => "Reentrant"

/-- The name of a class's fault. -/
def configurationErrorName : ConfigurationError → String
  | .missingMetadata .. => "MissingMetadata"
  | .unusedComponent .. => "UnusedComponent"
  | .recursiveComponent .. => "RecursiveComponent"
  | .templateParse .. => "TemplateParse"
  | .invalidBinding .. => "InvalidBinding"

/-- The name of a mounting's fault. -/
def mountErrorName : MountError → String
  | .noHostElement .. => "NoHostElement"
  | .duplicateHostElement .. => "DuplicateHostElement"

/-- The entries that show a fault. -/
def faultEntries : Fault → List (String × Json)
  | .expression e =>
    [("error", .text (expressionErrorName e)), ("code", .text e.code), ("message", .text e.message)]
  | .configuration e =>
    [("error", .text (configurationErrorName e)), ("code", .text e.code),
     ("message", .text e.message), ("fatal", .bool e.fatal)]
  | .mount e =>
    [("error", .text (mountErrorName e)), ("code", .text e.code), ("message", .text e.message)]

/-- A fault as a datum. -/
def ofFault (f : Fault) : Json := record (faultEntries f)

def ofExpressionError (e : ExpressionError) : Json := ofFault (.expression e)

def ofConfigurationError (e : ConfigurationError) : Json := ofFault (.configuration e)

/-- The family of a fault. -/
def familyName : Fault → String
  | .configuration _ => "Configuration"
  | .mount _ => "Mount"
  | .expression _ => "Expression"

/-- A fault with its family. -/
def ofFaultWithFamily (f : Fault) : Json :=
  record (faultEntries f ++ [("family", .text (familyName f))])

/-- The fault of a text that is not the datum that was asked for. -/
def ofJsonFault (f : Json.Fault) : Json :=
  let category := match f with
    | .malformed => "Syntax"
    | .cutShort => "Eof"
    | .mismatch => "Data"
  record [("error", .text "Json"), ("category", .text category)]

/-- A value with its text, or a fault. -/
def ofOutcome : Except ExpressionError Value → Json
  | .ok v => shown v
  | .error e => ofExpressionError e

end LiveTemplates.Session
