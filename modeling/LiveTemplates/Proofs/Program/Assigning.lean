/-
# LiveTemplates.Proofs.Program.Assigning -- assignments with an operator

An assignment with an operator combines a member with a value and assigns the result.  The member
is read after the value has been evaluated, where `x = x op e` reads it before.  So both come to
the same just where evaluating the value leaves the member, as far as the operator can tell.

* `Program.compound_eq`: what an assignment with an operator does, in any scope;
* `Program.compound_of_commutes`: where reading the member may as well come first, it is
  `x = x op e`;
* `MapScope.LeavesAlone`: the value leaves the member of a table alone;
* `MapScope.compound_assignment`: it is `x = x op e` just there.
-/
import LiveTemplates.Expression
import LiveTemplates.Proofs.Program.Access
import Mathlib

namespace LiveTemplates

set_option autoImplicit false

namespace Program

variable {m : Type → Type} [Monad m] [LawfulMonad m] (s : Scope m) (name : String)
  (op : BinaryOp) (value : Program)

/-- An assignment with an operator evaluates its value, and then assigns the member combined with
what came of it. -/
theorem compound_eq : (assign name (some op) value).eval s = (do
    let v ← value.eval s
    (assign name none (binary op (member name) (literal v))).eval s) := by
  rw [eval]
  refine bind_congr fun v => ?_
  simp [eval]

/-- The plain assignment of a member combined with a value reads the member first. -/
theorem plain_eq : (assign name none (binary op (member name) value)).eval s = (do
    let a ← s.read name
    let v ← value.eval s
    s.write name (op.apply a v)
    return op.apply a v) := by
  simp [eval]

/-- Where the member may as well be read before the value is evaluated, both are the same. -/
theorem compound_of_commutes
    (commutes : (do let v ← value.eval s; let a ← s.read name; return (a, v)) =
      (do let a ← s.read name; let v ← value.eval s; return (a, v))) :
    (assign name (some op) value).eval s =
      (assign name none (binary op (member name) value)).eval s := by
  have both := congrArg (fun x => do
    let (a, v) ← x
    s.write name (op.apply a v)
    return op.apply a v) commutes
  rw [plain_eq, eval]
  simpa using both

end Program

/-! ## In a table of members -/

namespace MapScope

/-- What a program comes to in a table, and the table it leaves. -/
def run (a : MapScope) (p : Program) : Except ExpressionError Value × MapScope :=
  (p.eval scope).run.run a

/-- The value of a member, which has to exist. -/
def found (a : MapScope) (name : String) : Except ExpressionError Value :=
  match a.members name with
  | some v => .ok v
  | none => .error (.unknownMember name)

theorem run_read (a : MapScope) (name : String) :
    (scope.read name).run.run a = (a.found name, a) := by
  have asked : (scope.get name).run a = (a.members name, a) := rfl
  rw [Scope.read, ExceptT.run_bind_lift, StateT.run_bind, asked, found]
  cases a.members name <;> rfl

theorem run_bind {α β : Type} (x : ExceptT ExpressionError (StateM MapScope) α)
    (f : α → ExceptT ExpressionError (StateM MapScope) β) (a : MapScope) :
    (x >>= f).run.run a = match x.run.run a with
      | (.ok v, b) => (f v).run.run b
      | (.error e, b) => (.error e, b) := by
  rw [ExceptT.run_bind, StateT.run_bind]
  rcases x.run.run a with ⟨e | v, b⟩ <;> rfl

variable (a : MapScope) (name : String) (op : BinaryOp) (value : Program)

/-- An assignment with an operator finds the member where the value has left it. -/
theorem run_compound : a.run (.assign name (some op) value) = match a.run value with
    | (.error e, b) => (.error e, b)
    | (.ok v, b) => match b.found name with
      | .error e => (.error e, b)
      | .ok u => (.ok (op.apply u v), b.put name (op.apply u v)) := by
  rw [run, run, Program.eval, run_bind]
  rcases (value.eval scope).run.run a with ⟨e | v, b⟩
  · rfl
  · simp only
    rw [run_bind, run_read]
    cases b.found name <;> rfl

/-- The plain assignment finds the member where it was. -/
theorem run_plain : a.run (.assign name none (.binary op (.member name) value)) =
    match a.found name with
    | .error e => (.error e, a)
    | .ok u => match a.run value with
      | (.error e, b) => (.error e, b)
      | (.ok v, b) => (.ok (op.apply u v), b.put name (op.apply u v)) := by
  rw [run, run, Program.plain_eq, run_bind, run_read]
  cases a.found name with
  | error e => rfl
  | ok u =>
      simp only
      rw [run_bind]
      rcases (value.eval scope).run.run a with ⟨e | v, b⟩ <;> rfl

/-- Evaluating a value leaves a member of a table alone, as far as an operator can tell: after a
success the member is there, and combined with the value it gives what it would have given before.
Where there is no such member, nothing at all is changed, and no other error is met before. -/
def LeavesAlone : Prop :=
  match a.found name, a.run value with
  | .ok u, (.ok v, b) => ∃ u', b.found name = .ok u' ∧ op.apply u' v = op.apply u v
  | .ok _, (.error _, _) => True
  | .error _, (.ok _, b) => b = a
  | .error e, (.error e', b) => b = a ∧ e' = e

theorem compound_iff : a.run (.assign name (some op) value) =
    a.run (.assign name none (.binary op (.member name) value)) ↔
      a.LeavesAlone name op value := by
  rw [run_compound, run_plain, LeavesAlone]
  cases before : a.found name with
  | ok u =>
      rcases a.run value with ⟨e | v, b⟩
      · simp
      · cases after : b.found name with
        | error => simp [after]
        | ok u' =>
            simp only [after, Prod.mk.injEq, Except.ok.injEq, exists_eq_left', and_iff_left_iff_imp]
            intro same
            rw [same]
  | error e =>
      rcases a.run value with ⟨e' | v, b⟩
      · simp [and_comm]
      · simp only
        constructor
        · intro same
          cases after : b.found name with
          | error =>
              rw [after] at same
              exact (Prod.mk.inj same).2
          | ok =>
              rw [after] at same
              cases (Prod.mk.inj same).1
        · rintro rfl
          rw [before]

/-- What an assignment with an operator does, in any scope, and where that is `x = x op e`. -/
theorem compound_assignment :
    (∀ {m : Type → Type} [Monad m] [LawfulMonad m] (s : Scope m),
      (Program.assign name (some op) value).eval s = (do
        let v ← value.eval s
        (Program.assign name none (.binary op (.member name) (.literal v))).eval s)) ∧
    ∀ a : MapScope, a.run (.assign name (some op) value) =
      a.run (.assign name none (.binary op (.member name) value)) ↔ a.LeavesAlone name op value :=
  ⟨fun s => Program.compound_eq s name op value, fun a => a.compound_iff name op value⟩

/-- So `x += y` is `x = x + y` where both are known. -/
theorem compound_assignment_apart :
    let table := (empty.put "x" (.text "a")).put "y" (.text "b")
    (Program.assign "x" (some .add) (.member "y")).eval scope = (do
      let v ← (Program.member "y").eval scope
      (Program.assign "x" none (.binary .add (.member "x") (.literal v))).eval scope) ∧
    table.run (.assign "x" (some .add) (.member "y")) =
      table.run (.assign "x" none (.binary .add (.member "x") (.member "y"))) := by
  intro table
  obtain ⟨any, alone⟩ := compound_assignment "x" .add (.member "y")
  have found : table.found "x" = .ok (.text "a") := by simp [table, MapScope.found, put]
  have ran : table.run (.member "y") = (.ok (.text "b"), table) := by
    rw [run, Program.eval, run_read]
    simp [table, MapScope.found, put]
  refine ⟨any scope, (alone table).2 ?_⟩
  rw [LeavesAlone, found, ran]
  exact ⟨.text "a", found, rfl⟩

set_option maxRecDepth 20000 in
/-- `x += (x = 'b')` is not `x = x + (x = 'b')`: where `x` was `a`, it comes to `bb` and not to
`ab`. -/
theorem compound_not_plain : ∃ e e' : Expression,
    Expression.compile .input "x += (x = 'b')" = .ok e ∧
      Expression.compile .input "x = x + (x = 'b')" = .ok e' ∧
      ((empty.put "x" (.text "a")).run e.program).1 = .ok (.text "bb") ∧
      ((empty.put "x" (.text "a")).run e'.program).1 = .ok (.text "ab") := by
  let assigned : Program := .assign "x" none (.literal (.text "b"))
  refine ⟨⟨"x += (x = 'b')", .input, .assign "x" (some .add) assigned, ["x"]⟩,
    ⟨"x = x + (x = 'b')", .input, .assign "x" none (.binary .add (.member "x") assigned), ["x"]⟩,
    by cbv, by cbv, by cbv, by cbv⟩

end MapScope

end LiveTemplates
