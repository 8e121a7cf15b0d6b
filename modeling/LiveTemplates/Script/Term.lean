/-
# LiveTemplates.Script.Term -- syntax trees of the script language

Binding expressions are written in a script language of which the templates use
a small part.  A `Term` is an expression of that language with the place it was
read from.  Constructs that the templates never use keep their place and their
kind only (`Term.other`).

A place is a range of character positions in the source; `Span.slice` gives the
text there.
-/
import LiveTemplates.Value

namespace LiveTemplates.Script

/-- The characters of a source from `start` up to `stop`. -/
structure Span where
  start : Nat
  stop : Nat
deriving Repr, DecidableEq, Inhabited

/-- The text of a source at a place. -/
def Span.slice (s : Span) (source : List Char) : List Char :=
  (source.take s.stop).drop s.start

inductive UnaryOperator where
  | not | negate | plus | typeOf | complement | void | delete
deriving Repr, DecidableEq

inductive BinaryOperator where
  | eq | notEq | strictEq | strictNotEq
  | lt | ltEq | gt | gtEq
  | add | sub | mul | div | rem | power
  | shiftLeft | shiftRight | shiftRightZero
  | bitOr | bitXor | bitAnd | isIn | instanceOf
deriving Repr, DecidableEq

inductive LogicalOperator where
  | and | or | coalesce
deriving Repr, DecidableEq

inductive AssignmentOperator where
  /-- `=` -/
  | plain
  /-- A binary operator followed by `=`. -/
  | compound (op : BinaryOperator)
  /-- A logical operator followed by `=`. -/
  | logical (op : LogicalOperator)
deriving Repr, DecidableEq

/-- Constructs outside of what templates use. -/
inductive OtherKind where
  | bigInteger | pattern | function | arrow | classBody | construction | metaProperty | importCall
  | super | taggedTemplate | chain | privateField | privateIn | await | yield | hole
deriving Repr, DecidableEq

/-- An expression, or a part of one that stands in the place of an expression:
an element or entry of a literal, a spread, a target of an assignment. -/
inductive Term where
  /-- A truth value, null, a number or a text. -/
  | literal (span : Span) (value : Value)
  /-- A text with expressions in it; one more piece of text than expressions. -/
  | template (span : Span) (pieces : List String) (parts : List Term)
  | name (span : Span) (id : String)
  | this (span : Span)
  /-- `object.property` -/
  | member (span : Span) (object : Term) (property : String)
  /-- `object[index]` -/
  | element (span : Span) (object index : Term)
  | call (span : Span) (callee : Term) (args : List Term)
  | unary (span : Span) (op : UnaryOperator) (argument : Term)
  | binary (span : Span) (op : BinaryOperator) (left right : Term)
  | logical (span : Span) (op : LogicalOperator) (left right : Term)
  | conditional (span : Span) (test consequent alternate : Term)
  | assign (span : Span) (op : AssignmentOperator) (target value : Term)
  | update (span : Span) (increment isPrefix : Bool) (target : Term)
  /-- An expression between parentheses. -/
  | group (span : Span) (inner : Term)
  /-- Expressions separated by commas. -/
  | sequence (span : Span) (items : List Term)
  /-- `...inner` -/
  | spread (span : Span) (inner : Term)
  | array (span : Span) (items : List Term) (trailingComma : Bool)
  | object (span : Span) (entries : List Term) (trailingComma : Bool)
  /-- `key: value` in an object. -/
  | entry (span : Span) (value : Term)
  /-- `id` or, if initialized, `id = …` in an object. -/
  | shorthand (span : Span) (id : String) (initialized : Bool)
  | other (span : Span) (kind : OtherKind)

namespace Term

/-- The place of a tree. -/
def span : Term → Span
  | .literal s _ | .template s _ _ | .name s _ | .this s | .member s _ _ | .element s _ _
  | .call s _ _ | .unary s _ _ | .binary s _ _ _ | .logical s _ _ _ | .conditional s _ _ _
  | .assign s _ _ _ | .update s _ _ _ | .group s _ | .sequence s _ | .spread s _ | .array s _ _
  | .object s _ _ | .entry s _ | .shorthand s _ _ | .other s _ => s

end Term

/-- A statement.  Only expression statements matter to a template; of the other
statements the place is kept. -/
inductive Statement where
  | expression (tree : Term)
  | empty
  | other (span : Span)

end LiveTemplates.Script
