/-
# LiveTemplates.Program -- the closed language of bindings

A `Program` is what a binding does: it reads members of one object, writes them,
calls its methods and computes with the results.  There is nothing else it could
reach.
-/
import LiveTemplates.Value

namespace LiveTemplates

/-- Operators in front of an operand. -/
inductive UnaryOp where
  | not | negate | plus | typeOf
deriving Repr, DecidableEq

/-- Operators between two operands that are both evaluated. -/
inductive BinaryOp where
  | eq | notEq | strictEq | strictNotEq
  | lt | ltEq | gt | gtEq
  | add | sub | mul | div | rem
deriving Repr, DecidableEq

/-- Operators whose right operand is evaluated only where the left does not decide. -/
inductive LogicalOp where
  | and | or | coalesce
deriving Repr, DecidableEq

/-- What a binding does. -/
inductive Program where
  | literal (v : Value)
  /-- Pieces of text with the values of parts between them; one piece more than
  parts. -/
  | template (pieces : List String) (parts : List Program)
  | member (name : String)
  | call (method : String) (args : List Program)
  | unary (op : UnaryOp) (argument : Program)
  | binary (op : BinaryOp) (left right : Program)
  | logical (op : LogicalOp) (left right : Program)
  | conditional (test consequent alternate : Program)
  /-- Assigns a value or, with an operator, the member combined with the value. -/
  | assign (member : String) (op : Option BinaryOp) (value : Program)
  /-- Steps a member up or down; the result is the new number if `isPrefix`. -/
  | update (member : String) (increment isPrefix : Bool)
  | sequence (steps : List Program)

end LiveTemplates
