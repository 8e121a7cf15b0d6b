/-
# LiveTemplates.Expression -- compiled sources of bindings

The source of an input is one expression, the source of an output a list of
statements, each of them an expression.  Blanks around a source do not count.

A source that breaks the grammar is blamed as it was given; of a source that is
grammatical and outside of the closed language the first part outside is blamed.
-/
import LiveTemplates.Fault
import LiveTemplates.Program.Lowering
import LiveTemplates.Script.Grammar.Module

namespace LiveTemplates

open Script (Term Statement)

/-- What a binding is for: to show a value, or to act on an event. -/
inductive BindingKind where
  | input | output
deriving Repr, DecidableEq

/-- A compiled source, with the members whose values it uses. -/
structure Expression where
  source : String
  kind : BindingKind
  program : Program
  dependencies : List String

namespace Expression

/-- The fault of a source with a part outside of the closed language. -/
def outside (trimmed : List Char) (span : Script.Span) : ExpressionError :=
  .unsupported (String.ofList trimmed) (String.ofList (span.slice trimmed))

/-- The programs of statements, all of them expressions or empty. -/
def ofStatements : List Statement → Lowering (List Program)
  | [] => pure []
  | .expression t :: rest => do
    let p ← Lowering.ofTerm t
    return p :: (← ofStatements rest)
  | .empty :: rest => ofStatements rest
  | .other span :: _ => throw span

/-- One program that does several in turn. -/
def joined : List Program → Program
  | [p] => p
  | ps => .sequence ps

/-- Compiles the source of an input. -/
def compileInput (source : String) : Except ExpressionError Expression :=
  match Text.trimChars source.toList with
  | [] => throw (.malformed source ExpressionError.emptyReason)
  | trimmed =>
    match Script.readExpression trimmed with
    | none => throw (.malformed source ExpressionError.grammarReason)
    | some t =>
      if t.span.stop < trimmed.length then
        throw (.malformed source ExpressionError.trailingReason)
      else
        match (Lowering.ofTerm t).run [] with
        | .error span => throw (outside trimmed span)
        | .ok (program, dependencies) => pure ⟨source, .input, program, dependencies⟩

/-- Compiles the source of an output. -/
def compileOutput (source : String) : Except ExpressionError Expression :=
  let trimmed := Text.trimChars source.toList
  match Script.readModule trimmed with
  | none => throw (.malformed source ExpressionError.grammarReason)
  | some statements =>
    match (ofStatements statements).run [] with
    | .error span => throw (outside trimmed span)
    | .ok (steps, dependencies) => pure ⟨source, .output, joined steps, dependencies⟩

/-- Compiles a source. -/
def compile (kind : BindingKind) (source : String) : Except ExpressionError Expression :=
  match kind with
  | .input => compileInput source
  | .output => compileOutput source

end Expression

end LiveTemplates
