/-
# LiveTemplates.Proofs.Program.Language -- which trees have a program

The closed language is a grammar (`Script.Term.Closed`): a tree is inside if it is built in one
of the admitted ways from trees that are inside.  What is called, assigned or stepped is no
expression of its own; it has to be a member of the object, written `x` or `this.x`.

Lowering looks at the nodes of a tree one after another (`Script.Term.checks`): at a node before
what is below it, and there from left to right.  An assignment takes two looks, one at its target
and one at its operator.  The first node that is outside of the language is blamed.

* `Script.Term.blamed_checks_eq_none`: no node is blamed just in the closed language;
* `Lowering.ofTerm_judged`: lowering a tree gives a program or the place that is blamed;
* `Expression.compile_iff_closed`: so a source that is grammatical compiles just if it is in the
  closed language, and is reported with the text at the place that is blamed if it is not.
-/
import LiveTemplates.Expression
import Mathlib

namespace LiveTemplates

set_option autoImplicit false

namespace Script

/-! ## The grammar -/

/-- The operators in front of an operand. -/
def UnaryOperator.admitted : List UnaryOperator :=
  [.not, .negate, .plus, .typeOf]

/-- The operators between two operands. -/
def BinaryOperator.admitted : List BinaryOperator :=
  [.eq, .notEq, .strictEq, .strictNotEq, .lt, .ltEq, .gt, .gtEq, .add, .sub, .mul, .div, .rem]

/-- The operators of an assignment: `=`, `+=`, `-=`, `*=`, `/=` and `%=`. -/
def AssignmentOperator.admitted : List AssignmentOperator :=
  [.plain, .compound .add, .compound .sub, .compound .mul, .compound .div, .compound .rem]

namespace Term

/-- The object that is evaluated. -/
def isThis : Term → Bool
  | .this _ => true
  | _ => false

/-- A text as it stands, without expressions in it. -/
def isText : Term → Bool
  | .literal _ (.text _) => true
  | _ => false

/-- A member of the object that is evaluated, by its bare name or behind `this`. -/
def isOwn : Term → Bool
  | .name _ _ => true
  | .member _ base _ => base.isThis
  | _ => false

/-- The trees of the closed language. -/
inductive Closed : Term → Prop
  | literal (s : Span) (v : Value) : Closed (.literal s v)
  | template (s : Span) (pieces : List String) {parts : List Term}
      (closed : ∀ t ∈ parts, Closed t) : Closed (.template s pieces parts)
  | name (s : Span) (id : String) : Closed (.name s id)
  | member (s : Span) {base : Term} (property : String) (this : base.isThis = true) :
      Closed (.member s base property)
  | element (s : Span) {base index : Term} (this : base.isThis = true)
      (text : index.isText = true) : Closed (.element s base index)
  | call (s : Span) {callee : Term} {args : List Term} (own : callee.isOwn = true)
      (closed : ∀ t ∈ args, Closed t) : Closed (.call s callee args)
  | unary (s : Span) {op : UnaryOperator} {argument : Term} (admitted : op ∈ UnaryOperator.admitted)
      (closed : Closed argument) : Closed (.unary s op argument)
  | binary (s : Span) {op : BinaryOperator} {left right : Term}
      (admitted : op ∈ BinaryOperator.admitted) (first : Closed left) (second : Closed right) :
      Closed (.binary s op left right)
  | logical (s : Span) (op : LogicalOperator) {left right : Term} (first : Closed left)
      (second : Closed right) : Closed (.logical s op left right)
  | conditional (s : Span) {test consequent alternate : Term} (first : Closed test)
      (second : Closed consequent) (third : Closed alternate) :
      Closed (.conditional s test consequent alternate)
  | assign (s : Span) {op : AssignmentOperator} {target value : Term} (own : target.isOwn = true)
      (admitted : op ∈ AssignmentOperator.admitted) (closed : Closed value) :
      Closed (.assign s op target value)
  | update (s : Span) (increment isPrefix : Bool) {target : Term} (own : target.isOwn = true) :
      Closed (.update s increment isPrefix target)
  | group (s : Span) {inner : Term} (closed : Closed inner) : Closed (.group s inner)
  | sequence (s : Span) {items : List Term} (closed : ∀ t ∈ items, Closed t) :
      Closed (.sequence s items)

end Term

/-! ## The order of checking -/

/-- A look at a node: the place to blame, and whether there is no reason to. -/
structure Check where
  place : Span
  passed : Bool
deriving Repr, DecidableEq

/-- The place of the first check that fails. -/
def blamed (checks : List Check) : Option Span :=
  (checks.find? fun c => !c.passed).map Check.place

namespace Term

mutual

/-- The looks at the nodes of a tree. -/
def checks : Term → List Check
  | .literal s _ => [⟨s, true⟩]
  | .template s _ parts => ⟨s, true⟩ :: checksAll parts
  | .name s _ => [⟨s, true⟩]
  | .member s base _ => [⟨s, base.isThis⟩]
  | .element s base index => [⟨s, base.isThis && index.isText⟩]
  | .call s callee args => ⟨s, callee.isOwn⟩ :: checksAll args
  | .unary s op argument => ⟨s, op ∈ UnaryOperator.admitted⟩ :: argument.checks
  | .binary s op left right =>
    ⟨s, op ∈ BinaryOperator.admitted⟩ :: (left.checks ++ right.checks)
  | .logical s _ left right => ⟨s, true⟩ :: (left.checks ++ right.checks)
  | .conditional s test consequent alternate =>
    ⟨s, true⟩ :: (test.checks ++ (consequent.checks ++ alternate.checks))
  | .assign s op target value =>
    ⟨target.span, target.isOwn⟩ :: ⟨s, op ∈ AssignmentOperator.admitted⟩ :: value.checks
  | .update s _ _ target => [⟨s, target.isOwn⟩]
  | .group s inner => ⟨s, true⟩ :: inner.checks
  | .sequence s items => ⟨s, true⟩ :: checksAll items
  | t => [⟨t.span, false⟩]

/-- The looks at the nodes of several trees. -/
def checksAll : List Term → List Check
  | [] => []
  | t :: ts => t.checks ++ checksAll ts

end

end Term

section Blame

variable {c : Check} {cs ds : List Check}

@[simp]
theorem blamed_nil : blamed [] = none :=
  rfl

@[simp]
theorem blamed_cons : blamed (c :: cs) = if c.passed then blamed cs else some c.place := by
  cases passed : c.passed <;> simp [blamed, passed]

@[simp]
theorem blamed_append : blamed (cs ++ ds) = (blamed cs).or (blamed ds) := by
  induction cs with
  | nil => rfl
  | cons c cs ih => cases passed : c.passed <;> simp [passed, ih]

theorem blamed_eq_none_iff : blamed cs = none ↔ ∀ c ∈ cs, c.passed = true := by
  simp [blamed]

end Blame

namespace Term

theorem forall_mem_checksAll {P : Check → Prop} {ts : List Term} :
    (∀ c ∈ checksAll ts, P c) ↔ ∀ t ∈ ts, ∀ c ∈ t.checks, P c := by
  induction ts with
  | nil => simp [checksAll]
  | cons t ts ih => rw [checksAll, List.forall_mem_append, ih, List.forall_mem_cons]

/-- Trees of the closed language pass all checks. -/
theorem Closed.passed {t : Term} (closed : t.Closed) : ∀ c ∈ t.checks, c.passed = true := by
  induction closed with
  | literal | name => simp [checks]
  | template _ _ _ ih | sequence _ _ ih =>
      simpa [checks] using forall_mem_checksAll.2 ih
  | member _ _ this => simpa [checks] using this
  | element _ this text => simpa [checks] using ⟨this, text⟩
  | call _ own _ ih => simpa [checks, own] using forall_mem_checksAll.2 ih
  | unary _ admitted _ ih => simpa [checks, admitted] using ih
  | binary _ admitted _ _ first second =>
      simpa [checks, admitted, or_imp, forall_and] using ⟨first, second⟩
  | logical _ _ _ _ first second =>
      simpa [checks, or_imp, forall_and] using ⟨first, second⟩
  | conditional _ _ _ _ first second third =>
      simpa [checks, or_imp, forall_and] using ⟨first, second, third⟩
  | assign _ own admitted _ ih => simpa [checks, own, admitted] using ih
  | update _ _ _ own => simpa [checks] using own
  | group _ _ ih => simpa [checks] using ih

mutual

/-- Trees that pass all checks are in the closed language. -/
theorem closed_of_passed : ∀ {t : Term}, (∀ c ∈ t.checks, c.passed = true) → t.Closed
  | .literal s v, _ => .literal s v
  | .template s pieces parts, passed =>
      .template s pieces (closedAll_of_passed (List.forall_mem_cons.1 passed).2)
  | .name s id, _ => .name s id
  | .member s base property, passed => .member s property (List.forall_mem_cons.1 passed).1
  | .element s base index, passed => by
      have own := (List.forall_mem_cons.1 passed).1
      rw [Bool.and_eq_true] at own
      exact .element s own.1 own.2
  | .call s callee args, passed => by
      obtain ⟨own, later⟩ := List.forall_mem_cons.1 passed
      exact .call s own (closedAll_of_passed later)
  | .unary s op argument, passed => by
      obtain ⟨admitted, later⟩ := List.forall_mem_cons.1 passed
      exact .unary s (of_decide_eq_true admitted) (closed_of_passed later)
  | .binary s op left right, passed => by
      obtain ⟨admitted, later⟩ := List.forall_mem_cons.1 passed
      obtain ⟨first, second⟩ := List.forall_mem_append.1 later
      exact .binary s (of_decide_eq_true admitted) (closed_of_passed first)
        (closed_of_passed second)
  | .logical s op left right, passed => by
      obtain ⟨first, second⟩ := List.forall_mem_append.1 (List.forall_mem_cons.1 passed).2
      exact .logical s op (closed_of_passed first) (closed_of_passed second)
  | .conditional s test consequent alternate, passed => by
      obtain ⟨first, later⟩ := List.forall_mem_append.1 (List.forall_mem_cons.1 passed).2
      obtain ⟨second, third⟩ := List.forall_mem_append.1 later
      exact .conditional s (closed_of_passed first) (closed_of_passed second)
        (closed_of_passed third)
  | .assign s op target value, passed => by
      obtain ⟨own, later⟩ := List.forall_mem_cons.1 passed
      obtain ⟨admitted, later⟩ := List.forall_mem_cons.1 later
      exact .assign s own (of_decide_eq_true admitted) (closed_of_passed later)
  | .update s increment isPrefix target, passed =>
      .update s increment isPrefix (List.forall_mem_cons.1 passed).1
  | .group s inner, passed => .group s (closed_of_passed (List.forall_mem_cons.1 passed).2)
  | .sequence s items, passed =>
      .sequence s (closedAll_of_passed (List.forall_mem_cons.1 passed).2)
  | .this _, passed | .spread .., passed | .array .., passed | .object .., passed
  | .entry .., passed | .shorthand .., passed | .other .., passed =>
      nomatch (List.forall_mem_cons.1 passed).1

theorem closedAll_of_passed : ∀ {ts : List Term}, (∀ c ∈ checksAll ts, c.passed = true) →
    ∀ t ∈ ts, t.Closed
  | [], _ => nofun
  | t :: ts, passed => by
      obtain ⟨first, later⟩ := List.forall_mem_append.1 passed
      exact List.forall_mem_cons.2 ⟨closed_of_passed first, closedAll_of_passed later⟩

end

/-- No node is blamed just in the closed language. -/
theorem blamed_checks_eq_none {t : Term} : blamed t.checks = none ↔ t.Closed :=
  blamed_eq_none_iff.trans ⟨closed_of_passed, Closed.passed⟩

end Term

end Script

/-! ## Lowering -/

namespace Lowering

open Script (Check Span Term blamed)

/-- Looks at nodes decide how lowering ends: with a result if all of them pass, and with the
place that is blamed otherwise. -/
def Judged {α : Type} (cs : List Check) (x : Lowering α) : Prop :=
  ∀ names, match blamed cs with
    | none => ∃ a final, x.run names = .ok (a, final)
    | some place => x.run names = .error place

namespace Judged

variable {α β : Type} {cs ds : List Check} {x : Lowering α} {s : Span}

theorem pure (a : α) : Judged [] (pure a : Lowering α) :=
  fun names => ⟨a, names, rfl⟩

theorem read (member : String) : Judged [] (read member) :=
  fun _ => ⟨_, _, rfl⟩

theorem throw (s : Span) (cs : List Check) : Judged (⟨s, false⟩ :: cs) (throw s : Lowering α) :=
  fun _ => rfl

/-- A check that passes decides nothing. -/
theorem after (judged : Judged cs x) : Judged (⟨s, true⟩ :: cs) x := by
  intro names
  rw [Script.blamed_cons, if_pos rfl]
  exact judged names

theorem bind {f : α → Lowering β} (first : Judged cs x) (second : ∀ a, Judged ds (f a)) :
    Judged (cs ++ ds) (x >>= f) := by
  intro names
  have start := first names
  rw [Script.blamed_append, StateT.run_bind]
  cases blame : blamed cs with
  | some place =>
      simp only [blame] at start
      simp [start, Bind.bind, Except.bind]
  | none =>
      simp only [blame] at start
      obtain ⟨a, middle, ran⟩ := start
      rw [ran]
      exact second a middle

/-- Nothing is decided behind the last check. -/
theorem map (f : α → β) (judged : Judged cs x) : Judged cs (do return f (← x)) := by
  simpa using judged.bind fun a => pure (f a)

theorem ok_iff (judged : Judged cs x) (names : List String) :
    (∃ a final, x.run names = .ok (a, final)) ↔ blamed cs = none := by
  have ends := judged names
  cases blame : blamed cs with
  | none => simpa [blame] using ends
  | some place =>
      simp only [blame] at ends
      simp [ends]

theorem error_iff (judged : Judged cs x) (names : List String) (place : Span) :
    x.run names = .error place ↔ blamed cs = some place := by
  have ends := judged names
  cases blame : blamed cs with
  | none =>
      simp only [blame] at ends
      obtain ⟨a, final, ran⟩ := ends
      simp [ran]
  | some place' =>
      simp only [blame] at ends
      simp [ends]

end Judged

/-! ### Names and operators -/

theorem isSome_ownName? (t : Term) : (ownName? t).isSome = t.isOwn := by
  cases t with
  | member _ base _ => cases base <;> rfl
  | _ => rfl

theorem isSome_unary (op : Script.UnaryOperator) :
    (UnaryOp.ofScript? op).isSome = decide (op ∈ Script.UnaryOperator.admitted) := by
  cases op <;> rfl

theorem isSome_binary (op : Script.BinaryOperator) :
    (BinaryOp.ofScript? op).isSome = decide (op ∈ Script.BinaryOperator.admitted) := by
  cases op <;> rfl

theorem isSome_assignmentOp? (op : Script.AssignmentOperator) :
    (assignmentOp? op).isSome = decide (op ∈ Script.AssignmentOperator.admitted) := by
  rcases op with _ | op | op
  · rfl
  · cases op <;> rfl
  · rfl

theorem ofName_judged (id : String) : Judged [] (ofName id) := by
  unfold ofName
  split
  · exact .pure _
  split
  · exact .pure _
  split
  · exact .pure _
  · exact .read id

/-! ### Trees -/

mutual

/-- Lowering a tree gives a program, or the place of the first node outside of the language. -/
theorem ofTerm_judged : ∀ t : Term, Judged t.checks (ofTerm t)
  | .literal _ v => .after (.pure (Program.literal v))
  | .template _ pieces parts => .after ((ofTerms_judged parts).map (Program.template pieces))
  | .name _ id => .after (ofName_judged id)
  | .member s base property => by
      cases base with
      | this => exact .after (.read property)
      | _ => exact .throw s []
  | .element s base index => by
      cases base with
      | this =>
          cases index with
          | literal _ v =>
              cases v with
              | text key => exact .after (.read key)
              | _ => exact .throw s []
          | _ => exact .throw s []
      | _ => exact .throw s []
  | .call s callee args => by
      have own := isSome_ownName? callee
      rw [Term.checks, ofTerm, ← own]
      cases ownName? callee with
      | none => exact .throw s _
      | some method => exact .after ((ofTerms_judged args).map (Program.call method))
  | .unary s op argument => by
      have admitted := isSome_unary op
      rw [Term.checks, ofTerm, ← admitted]
      cases UnaryOp.ofScript? op with
      | none => exact .throw s _
      | some op => exact .after ((ofTerm_judged argument).map (Program.unary op))
  | .binary s op left right => by
      have admitted := isSome_binary op
      rw [Term.checks, ofTerm, ← admitted]
      cases BinaryOp.ofScript? op with
      | none => exact .throw s _
      | some op =>
          exact .after ((ofTerm_judged left).bind fun l =>
            (ofTerm_judged right).map (Program.binary op l))
  | .logical _ op left right =>
      .after ((ofTerm_judged left).bind fun l =>
        (ofTerm_judged right).map (Program.logical (.ofScript op) l))
  | .conditional _ test consequent alternate =>
      .after ((ofTerm_judged test).bind fun t => (ofTerm_judged consequent).bind fun c =>
        (ofTerm_judged alternate).map (Program.conditional t c))
  | .assign s op target value => by
      have own := isSome_ownName? target
      have admitted := isSome_assignmentOp? op
      rw [Term.checks, ofTerm, ← own, ← admitted]
      cases ownName? target with
      | none => exact .throw target.span _
      | some name =>
          cases assignmentOp? op with
          | none => exact .after (.throw s _)
          | some op =>
              have assigned := (ofTerm_judged value).map (Program.assign name op)
              cases op with
              | none => exact .after (.after assigned)
              | some op => exact .after (.after fun names => assigned (insertName name names))
  | .update s increment isPrefix target => by
      have own := isSome_ownName? target
      rw [Term.checks, ofTerm, ← own]
      cases ownName? target with
      | none => exact .throw s _
      | some name => exact .after fun names => ⟨_, insertName name names, rfl⟩
  | .group _ inner => .after (ofTerm_judged inner)
  | .sequence _ items => .after ((ofTerms_judged items).map Program.sequence)
  | .this s => .throw s []
  | .spread s _ => .throw s []
  | .array s _ _ => .throw s []
  | .object s _ _ => .throw s []
  | .entry s _ => .throw s []
  | .shorthand s _ _ => .throw s []
  | .other s _ => .throw s []

/-- Lowering several trees stops at the first node of all that is outside of the language. -/
theorem ofTerms_judged : ∀ ts : List Term, Judged (Term.checksAll ts) (ofTerms ts)
  | [] => .pure []
  | t :: ts => (ofTerm_judged t).bind fun p => (ofTerms_judged ts).map (p :: ·)

end

end Lowering

/-! ## Sources -/

namespace Script.Statement

/-- The statements of the closed language: expressions of it, and nothing at all. -/
def Closed : Statement → Prop
  | .expression t => t.Closed
  | .empty => True
  | .other _ => False

/-- The looks at the nodes of a statement; any other statement is a single node. -/
def checks : Statement → List Check
  | .expression t => t.checks
  | .empty => []
  | .other s => [⟨s, false⟩]

theorem blamed_checks_iff {s : Statement} : blamed s.checks = none ↔ s.Closed := by
  cases s with
  | expression t => exact Term.blamed_checks_eq_none
  | empty => simp [checks, Closed]
  | other s => simp [checks, Closed]

theorem blamed_all_iff {statements : List Statement} :
    blamed (statements.flatMap checks) = none ↔ ∀ s ∈ statements, s.Closed := by
  induction statements with
  | nil => simp
  | cons s rest ih => simp [ih, blamed_checks_iff]

end Script.Statement

namespace Expression

open Lowering (Judged ofTerm_judged)
open Script (Statement Term blamed)

/-- Lowering statements stops at the first node of all that is outside of the language. -/
theorem ofStatements_judged : ∀ statements : List Statement,
    Judged (statements.flatMap Statement.checks) (ofStatements statements)
  | [] => .pure []
  | .expression t :: rest =>
      (ofTerm_judged t).bind fun p => (ofStatements_judged rest).map (p :: ·)
  | .empty :: rest => ofStatements_judged rest
  | .other s :: _ => .throw s _

/-- What a grammatical source is read as: an input as one expression that ends where the source
ends, an output as statements. -/
def ReadAs (source : String) : BindingKind → List Statement → Prop
  | .input, statements => ∃ t, Script.readExpression (Text.trimChars source.toList) = some t ∧
      (Text.trimChars source.toList).length ≤ t.span.stop ∧
      Text.trimChars source.toList ≠ [] ∧ statements = [.expression t]
  | .output, statements => Script.readModule (Text.trimChars source.toList) = some statements

/-- Compiling a grammatical source is lowering its statements. -/
theorem compile_of_readAs {source : String} {kind : BindingKind} {statements : List Statement}
    (read : ReadAs source kind statements) : compile kind source =
      match (ofStatements statements).run [] with
      | .error place => .error (outside (Text.trimChars source.toList) place)
      | .ok (steps, dependencies) => .ok ⟨source, kind, joined steps, dependencies⟩ := by
  cases kind with
  | input =>
      obtain ⟨t, tree, whole, content, rfl⟩ := read
      rw [compile, compileInput]
      split
      case h_1 empty => exact absurd empty content
      case h_2 =>
        simp only [tree, if_neg (Nat.not_lt.2 whole), ofStatements, StateT.run_bind]
        cases (Lowering.ofTerm t).run [] <;> rfl
  | output =>
      have tree : Script.readModule (Text.trimChars source.toList) = some statements := read
      simp only [compile, compileOutput, tree]
      rfl

/-- Lowering accepts just the trees of the closed language, and blames the first node outside of
it.  So a grammatical source compiles just if all of its statements are in the closed language,
and is reported with the text of the first node outside of it otherwise. -/
theorem compile_iff_closed :
    (∀ (t : Term) (names : List String),
      ((∃ p final, (Lowering.ofTerm t).run names = .ok (p, final)) ↔ t.Closed) ∧
        ∀ place, (Lowering.ofTerm t).run names = .error place ↔ blamed t.checks = some place) ∧
    ∀ (source : String) (kind : BindingKind) (statements : List Statement),
      ReadAs source kind statements →
        ((∃ e, compile kind source = .ok e) ↔ ∀ s ∈ statements, s.Closed) ∧
        ∀ fault, compile kind source = .error fault ↔
          ∃ place, blamed (statements.flatMap Statement.checks) = some place ∧
            fault = .unsupported (String.ofList (Text.trimChars source.toList))
              (String.ofList (place.slice (Text.trimChars source.toList))) := by
  refine ⟨fun t names => ?_, fun source kind statements read => ?_⟩
  · have judged := ofTerm_judged t
    exact ⟨(judged.ok_iff names).trans Term.blamed_checks_eq_none, judged.error_iff names⟩
  · have judged := ofStatements_judged statements
    rw [compile_of_readAs read, ← Statement.blamed_all_iff, ← judged.ok_iff []]
    simp only [← judged.error_iff []]
    rcases (ofStatements statements).run [] with place | ⟨steps, dependencies⟩
    · simp [outside, eq_comm]
    · simp

namespace Stray

/-- A call with a member of something else than the object among its arguments. -/
def source : String :=
  " add(this.count, window.name, ...rest) "

def tree : Term :=
  .call ⟨0, 37⟩ (.name ⟨0, 3⟩ "add")
    [.member ⟨4, 14⟩ (.this ⟨4, 8⟩) "count", .member ⟨16, 27⟩ (.name ⟨16, 22⟩ "window") "name",
      .spread ⟨29, 36⟩ (.name ⟨32, 36⟩ "rest")]

set_option maxRecDepth 20000 in
theorem readAs : ReadAs source .input [.expression tree] :=
  ⟨tree, by cbv, by decide +kernel, by decide +kernel, rfl⟩

end Stray

/-- Of two arguments outside of the closed language the first is reported. -/
theorem compile_iff_closed_stray : ReadAs Stray.source .input [.expression Stray.tree] ∧
    compile .input Stray.source =
      .error (.unsupported "add(this.count, window.name, ...rest)" "window.name") := by
  refine ⟨Stray.readAs, ((compile_iff_closed.2 _ _ _ Stray.readAs).2 _).2 ⟨⟨16, 27⟩, ?_, ?_⟩⟩
  · decide
  · decide +kernel

end Expression

end LiveTemplates
