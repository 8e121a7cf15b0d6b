/-
# LiveTemplates.Program.Eval -- evaluating a program

Operands are evaluated from left to right.  The first access that fails ends the
evaluation with its error.
-/
import LiveTemplates.Number.Remainder
import LiveTemplates.Program
import LiveTemplates.Program.Scope

namespace LiveTemplates

/-! ## Operators -/

/-- The result of an operator in front of a value. -/
def UnaryOp.apply (op : UnaryOp) (v : Value) : Value :=
  match op with
  | .not => .bool !v.truthy
  | .negate => .number (-v.toNumber)
  | .plus => .number v.toNumber
  | .typeOf => .text v.kind

namespace BinaryOp

/-- Compares two texts by code points and all else as numbers. -/
def compare (onTexts : String → String → Bool) (onNumbers : Float → Float → Bool) :
    Value → Value → Bool
  | .text s, .text t => onTexts s t
  | a, b => onNumbers a.toNumber b.toNumber

/-- Joins the texts of two values if one of them is a text, adds their numbers
otherwise. -/
def addValues : Value → Value → Value
  | .text s, b => .text (s ++ b.display)
  | a, .text t => .text (a.display ++ t)
  | a, b => .number (a.toNumber + b.toNumber)

/-- The result of an operator between two values. -/
def apply (op : BinaryOp) (a b : Value) : Value :=
  match op with
  | .eq => .bool (a.looseEq b)
  | .notEq => .bool !(a.looseEq b)
  | .strictEq => .bool (a.strictEq b)
  | .strictNotEq => .bool !(a.strictEq b)
  | .lt => .bool (compare (fun s t => s < t) (fun x y => x < y) a b)
  | .ltEq => .bool (compare (fun s t => !(t < s)) (fun x y => x ≤ y) a b)
  | .gt => .bool (compare (fun s t => t < s) (fun x y => y < x) a b)
  | .gtEq => .bool (compare (fun s t => !(s < t)) (fun x y => y ≤ x) a b)
  | .add => addValues a b
  | .sub => .number (a.toNumber - b.toNumber)
  | .mul => .number (a.toNumber * b.toNumber)
  | .div => .number (a.toNumber / b.toNumber)
  | .rem => .number (Number.remainder a.toNumber b.toNumber)

end BinaryOp

/-- Does the left operand decide? -/
def LogicalOp.decides (op : LogicalOp) (v : Value) : Bool :=
  match op with
  | .and => !v.truthy
  | .or => v.truthy
  | .coalesce => !v.nullish

/-! ## Programs -/

namespace Program

variable {m : Type → Type} [Monad m]

mutual

/-- The value of a program. -/
def eval (s : Scope m) : Program → ExceptT ExpressionError m Value
  | .literal v => pure v
  | .template pieces parts => do return .text (← evalText s pieces parts)
  | .member name => s.read name
  | .call method args => do
    let values ← evalArgs s args
    s.invoke method values
  | .unary op argument => do return op.apply (← argument.eval s)
  | .binary op left right => do
    let a ← left.eval s
    let b ← right.eval s
    return op.apply a b
  | .logical op left right => do
    let a ← left.eval s
    if op.decides a then return a else right.eval s
  | .conditional test consequent alternate => do
    let t ← test.eval s
    if t.truthy then consequent.eval s else alternate.eval s
  | .assign name op value => do
    let v ← value.eval s
    let next ← match op with
      | none => pure v
      | some op => pure (op.apply (← s.read name) v)
    s.write name next
    return next
  | .update name increment isPrefix => do
    let old := (← s.read name).toNumber
    let new := if increment then old + 1.0 else old - 1.0
    s.write name (.number new)
    return .number (if isPrefix then new else old)
  | .sequence steps => evalLast s .undefined steps

/-- The text of pieces with parts between them. -/
def evalText (s : Scope m) : List String → List Program → ExceptT ExpressionError m String
  | [], _ => pure ""
  | piece :: pieces, [] => do return piece ++ (← evalText s pieces [])
  | piece :: pieces, part :: parts => do
    let v ← part.eval s
    return piece ++ v.display ++ (← evalText s pieces parts)

/-- The values of arguments. -/
def evalArgs (s : Scope m) : List Program → ExceptT ExpressionError m (List Value)
  | [] => pure []
  | arg :: args => do
    let v ← arg.eval s
    return v :: (← evalArgs s args)

/-- The value of the last step, or the given one without steps. -/
def evalLast (s : Scope m) (last : Value) : List Program → ExceptT ExpressionError m Value
  | [] => pure last
  | step :: steps => do
    let v ← step.eval s
    evalLast s v steps

end

end Program

end LiveTemplates
