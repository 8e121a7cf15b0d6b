/-
# LiveTemplates.Program.Lowering -- the program of a syntax tree

A tree of the closed language becomes a program; of any other tree the place of
its first part outside of the language is given.  A part is looked at before its
own parts, and those from left to right.

Members belong to the object that is evaluated, so `x` and `this.x` are the same.

On the way the members are collected whose values the program uses: those it reads, those
it steps up or down and those it combines with an operator.  A member that is only assigned
is not among them.
-/
import LiveTemplates.Program
import LiveTemplates.Script.Term

namespace LiveTemplates

open Script (Term)

/-- The operator that the closed language has for a unary one. -/
def UnaryOp.ofScript? : Script.UnaryOperator → Option UnaryOp
  | .not => some .not
  | .negate => some .negate
  | .plus => some .plus
  | .typeOf => some .typeOf
  | .complement | .void | .delete => none

/-- The operator that the closed language has for a binary one. -/
def BinaryOp.ofScript? : Script.BinaryOperator → Option BinaryOp
  | .eq => some .eq
  | .notEq => some .notEq
  | .strictEq => some .strictEq
  | .strictNotEq => some .strictNotEq
  | .lt => some .lt
  | .ltEq => some .ltEq
  | .gt => some .gt
  | .gtEq => some .gtEq
  | .add => some .add
  | .sub => some .sub
  | .mul => some .mul
  | .div => some .div
  | .rem => some .rem
  | .power | .shiftLeft | .shiftRight | .shiftRightZero | .bitOr | .bitXor | .bitAnd | .isIn
  | .instanceOf => none

/-- The operator that the closed language has for a logical one. -/
def LogicalOp.ofScript : Script.LogicalOperator → LogicalOp
  | .and => .and
  | .or => .or
  | .coalesce => .coalesce

/-- The operator of an assignment, if the closed language has it: plain, or one of
the five of arithmetic. -/
def assignmentOp? : Script.AssignmentOperator → Option (Option BinaryOp)
  | .plain => some none
  | .compound .add => some (some .add)
  | .compound .sub => some (some .sub)
  | .compound .mul => some (some .mul)
  | .compound .div => some (some .div)
  | .compound .rem => some (some .rem)
  | .compound _ | .logical _ => none

/-- Lowering trees: it gives up with a place, and collects the members whose values are used,
ascending by code points and each once. -/
abbrev Lowering :=
  StateT (List String) (Except Script.Span)

namespace Lowering

/-- Adds a name to an ascending list of names, unless it is there. -/
def insertName (name : String) : List String → List String
  | [] => [name]
  | n :: rest =>
    if name < n then name :: n :: rest
    else if name = n then n :: rest
    else n :: insertName name rest

/-- Collects a member whose value is used. -/
def use (member : String) : Lowering Unit :=
  modify (insertName member)

/-- The program that reads a member. -/
def read (member : String) : Lowering Program := do
  use member
  return .member member

/-- The name behind a bare name or a member of the object that is evaluated. -/
def ownName? : Term → Option String
  | .name _ id => some id
  | .member _ (.this _) property => some property
  | _ => none

/-- What a bare name stands for: one of three values, or a member. -/
def ofName (id : String) : Lowering Program :=
  if id = "undefined" then return .literal .undefined
  else if id = "NaN" then return .literal (.number (0.0 / 0.0))
  else if id = "Infinity" then return .literal (.number (1.0 / 0.0))
  else read id

mutual

/-- The program of a tree, or the place of its first part outside of the language. -/
def ofTerm : Term → Lowering Program
  | .literal _ v => pure (.literal v)
  | .template _ quasis parts => do return .template quasis (← ofTerms parts)
  | .name _ id => ofName id
  | .member _ (.this _) property => read property
  | .element _ (.this _) (.literal _ (.text key)) => read key
  | .call span callee args =>
    match ownName? callee with
    | none => throw span
    | some method => do return .call method (← ofTerms args)
  | .unary span op argument =>
    match UnaryOp.ofScript? op with
    | none => throw span
    | some op => do return .unary op (← ofTerm argument)
  | .binary span op left right =>
    match BinaryOp.ofScript? op with
    | none => throw span
    | some op => do
      let l ← ofTerm left
      return .binary op l (← ofTerm right)
  | .logical _ op left right => do
    let l ← ofTerm left
    return .logical (.ofScript op) l (← ofTerm right)
  | .conditional _ test consequent alternate => do
    let t ← ofTerm test
    let c ← ofTerm consequent
    return .conditional t c (← ofTerm alternate)
  | .assign span op target value =>
    match ownName? target with
    | none => throw target.span
    | some name =>
      match assignmentOp? op with
      | none => throw span
      | some op => do
        if op.isSome then use name
        return .assign name op (← ofTerm value)
  | .update span increment isPrefix target =>
    match ownName? target with
    | none => throw span
    | some name => do
      use name
      return .update name increment isPrefix
  | .group _ inner => ofTerm inner
  | .sequence _ items => do return .sequence (← ofTerms items)
  | t => throw t.span

/-- The programs of several trees. -/
def ofTerms : List Term → Lowering (List Program)
  | [] => pure []
  | t :: ts => do
    let p ← ofTerm t
    return p :: (← ofTerms ts)

end

end Lowering

end LiveTemplates
