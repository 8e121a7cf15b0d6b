/-
# LiveTemplates.Proofs.Program.Sufficiency -- dependencies are exact and sufficient

The dependencies of an expression are the members whose values its program uses: it reads them,
steps them, or combines them with a value.  Nothing else in a table of members matters to it.  In
two tables that agree on the dependencies an evaluation makes the same accesses and comes to the
same; what it writes is the same in both, and all else stays as it was in each.

* `MapScope.after`: a table after accesses;
* `Program.eval_agreeing`: evaluations in two tables, access by access;
* `Expression.dependencies_exact`: what this means for a compiled expression.
-/
import LiveTemplates.Proofs.Program.Recording

namespace LiveTemplates

set_option autoImplicit false

/-! ## Tables after accesses -/

/-- A member has been written. -/
def Access.Written (log : List Access) (member : String) : Prop :=
  ∃ v, .set member v (.ok ()) ∈ log

namespace MapScope

/-- A table after one access. -/
def next (a : MapScope) : Access → MapScope
  | .set member v (.ok _) => a.put member v
  | _ => a

/-- A table after accesses. -/
def after (a : MapScope) (log : List Access) : MapScope :=
  log.foldl next a

variable {a b : MapScope} {member : String}

theorem after_append (a : MapScope) (log log' : List Access) :
    a.after (log ++ log') = (a.after log).after log' :=
  List.foldl_append

theorem members_next (same : a.members member = b.members member) (access : Access) :
    (a.next access).members member = (b.next access).members member := by
  unfold next
  split
  · simp only [put, same]
  · exact same

/-- Where two tables agree, they go on to. -/
theorem members_after (log : List Access) : ∀ {a b : MapScope},
    a.members member = b.members member →
      (a.after log).members member = (b.after log).members member := by
  induction log with
  | nil => exact id
  | cons access rest ih => exact fun same => ih (members_next same access)

/-- What has been written is the same in both. -/
theorem members_after_written {log : List Access} (written : Access.Written log member) :
    ∀ a b : MapScope, (a.after log).members member = (b.after log).members member := by
  obtain ⟨v, inside⟩ := written
  induction log with
  | nil => cases inside
  | cons access rest ih =>
      intro a b
      rcases List.mem_cons.1 inside with rfl | later
      · refine members_after rest ?_
        simp [next, put]
      · exact ih later _ _

/-- What has not been written is as it was. -/
theorem members_after_of_not_written {log : List Access} (not : ¬ Access.Written log member) :
    ∀ a : MapScope, (a.after log).members member = a.members member := by
  induction log with
  | nil => exact fun _ => rfl
  | cons access rest ih =>
      intro a
      refine (ih (fun ⟨v, inside⟩ => not ⟨v, List.mem_cons_of_mem _ inside⟩) _).trans ?_
      unfold next
      split
      case h_1 name v _ =>
        have other : ¬ member = name := fun same => not ⟨v, by simp [same]⟩
        simp only [put, if_neg other]
      case h_2 => rfl

end MapScope

/-! ## Evaluations in two tables -/

variable {α β : Type}

/-- In two tables that agree on some members an evaluation makes the same accesses and comes to
the same, and each table is left as the accesses leave it. -/
def Agreeing (K : String → Prop)
    (x : ExceptT ExpressionError (StateT (List Access) (StateM MapScope)) α) : Prop :=
  ∀ log a b, (∀ member, K member → a.members member = b.members member) → ∃ r new,
    (x.run.run log).run a = ((r, log ++ new), a.after new) ∧
      (x.run.run log).run b = ((r, log ++ new), b.after new)

namespace Agreeing

variable {K : String → Prop}

theorem pure (a : α) : Agreeing K (Pure.pure a) := by
  intro log s t _
  refine ⟨.ok a, [], ?_⟩
  rw [List.append_nil]
  exact ⟨rfl, rfl⟩

theorem bind {x : ExceptT ExpressionError (StateT (List Access) (StateM MapScope)) α}
    {f : α → ExceptT ExpressionError (StateT (List Access) (StateM MapScope)) β}
    (first : Agreeing K x) (later : ∀ a, Agreeing K (f a)) : Agreeing K (x >>= f) := by
  intro log s t agree
  obtain ⟨r, new, ran, ran'⟩ := first log s t agree
  rw [ExceptT.run_bind, StateT.run_bind, StateT.run_bind, StateT.run_bind, ran, ran']
  cases r with
  | error e => exact ⟨.error e, new, rfl, rfl⟩
  | ok a =>
      obtain ⟨q, more, last, last'⟩ := later a (log ++ new) (s.after new) (t.after new)
        fun member inside => MapScope.members_after new (agree member inside)
      rw [List.append_assoc, ← MapScope.after_append] at last
      rw [List.append_assoc, ← MapScope.after_append] at last'
      exact ⟨q, new ++ more, last, last'⟩

theorem read {name : String} (inside : K name) :
    Agreeing K (MapScope.scope.recorded.read name) := by
  intro log s t agree
  have asked (u : MapScope) : ((MapScope.scope.recorded.get name).run log).run u =
      ((u.members name, log ++ [.get name (u.members name)]), u) := rfl
  rw [Scope.read, ExceptT.run_bind_lift, StateT.run_bind, StateT.run_bind, StateT.run_bind,
    asked, asked, agree name inside]
  cases t.members name with
  | some v => exact ⟨.ok v, [.get name (some v)], rfl, rfl⟩
  | none => exact ⟨.error (.unknownMember name), [.get name none], rfl, rfl⟩

theorem write (name : String) (v : Value) : Agreeing K (MapScope.scope.recorded.write name v) :=
  fun _ _ _ _ => ⟨.ok (), [.set name v (.ok ())], rfl, rfl⟩

theorem invoke (method : String) (args : List Value) :
    Agreeing K (MapScope.scope.recorded.invoke method args) :=
  fun _ _ _ _ => ⟨.error (.unknownMethod method),
    [.call method args (.error (.unknownMethod method))], rfl, rfl⟩

end Agreeing

/-- Where two tables agree on the members that a program uses, evaluations agree. -/
theorem Program.eval_agreeing (p : Program) :
    Agreeing p.Uses (p.eval MapScope.scope.recorded) := by
  refine closed_eval_of_each (P := fun _ x => Agreeing p.Uses x) Agreeing.pure Agreeing.bind p
    fun c stands => ?_
  have used {name : String} (same : c.used? = some name) : p.Uses name := ⟨c, stands, same⟩
  cases c with
  | read => exact .read (used rfl)
  | stepped => exact ⟨.read (used rfl), .write _⟩
  | combined => exact ⟨.read (used rfl), .write _⟩
  | assigned => exact .write _
  | called => exact .invoke _

/-! ## Compiled expressions -/

/-- An expression comes to the same in two tables.  Afterwards these agree on its dependencies and
on what has been written, and are as they were otherwise. -/
def Expression.SameIn (e : Expression) (a b : MapScope) : Prop :=
  ∃ r log a' b',
    ((e.program.eval MapScope.scope.recorded).run.run []).run a = ((r, log), a') ∧
    ((e.program.eval MapScope.scope.recorded).run.run []).run b = ((r, log), b') ∧
    (e.program.eval MapScope.scope).run.run a = (r, a') ∧
    (e.program.eval MapScope.scope).run.run b = (r, b') ∧
    (∀ member ∈ e.dependencies, a'.members member = b'.members member) ∧
    (∀ member, Access.Written log member → a'.members member = b'.members member) ∧
    ∀ member, ¬ Access.Written log member →
      a'.members member = a.members member ∧ b'.members member = b.members member

namespace Expression

/-- The record forgotten, an evaluation in a table. -/
theorem run_of_recorded (e : Expression) {a a' : MapScope} {r : Except ExpressionError Value}
    {log : List Access}
    (ran : ((e.program.eval MapScope.scope.recorded).run.run []).run a = ((r, log), a')) :
    (e.program.eval MapScope.scope).run.run a = (r, a') := by
  rw [← e.program.eval_recorded MapScope.scope [], StateT.run_map, ran]
  rfl

/-- The dependencies of a compiled source are just the members that its program reads, steps or
combines with a value, listed ascending; and in two tables that agree on them the expression comes
to the same. -/
theorem dependencies_exact {kind : BindingKind} {source : String} {e : Expression}
    (compiled : compile kind source = .ok e) :
    e.dependencies.Pairwise (· < ·) ∧
    (∀ member, member ∈ e.dependencies ↔ .read member ∈ e.program.occurrences ∨
      .stepped member ∈ e.program.occurrences ∨ .combined member ∈ e.program.occurrences) ∧
    ∀ a b : MapScope, (∀ member ∈ e.dependencies, a.members member = b.members member) →
      e.SameIn a b := by
  refine ⟨dependencies_ascending compiled, fun member => ?_, fun a b agree => ?_⟩
  · rw [mem_dependencies compiled, Program.uses_iff]
  obtain ⟨r, log, ran, ran'⟩ := e.program.eval_agreeing [] a b fun member used =>
    agree member ((mem_dependencies compiled member).2 used)
  refine ⟨r, log, a.after log, b.after log, ran, ran', e.run_of_recorded ran,
    e.run_of_recorded ran', fun member inside => ?_, fun member written => ?_,
    fun member not => ⟨?_, ?_⟩⟩
  · exact MapScope.members_after log (agree member inside)
  · exact MapScope.members_after_written written a b
  · exact MapScope.members_after_of_not_written not a
  · exact MapScope.members_after_of_not_written not b

namespace Noted

def source : String :=
  "z = x += y, f(w = z)"

def expression : Expression where
  source := source
  kind := .output
  program := .sequence [.assign "z" none (.assign "x" (some .add) (.member "y")),
    .call "f" [.assign "w" none (.member "z")]]
  dependencies := ["x", "y", "z"]

/-- A table with a value for `w`. -/
def table (w : String) : MapScope :=
  ((MapScope.empty.put "x" (.text "a")).put "y" (.text "b")).put "w" (.text w)

end Noted

set_option maxRecDepth 20000 in
/-- `z = x += y, f(w = z)` in two tables that differ in `w`. -/
theorem dependencies_exact_noted :
    compile .output Noted.source = .ok Noted.expression ∧
      (Noted.table "c").members "w" ≠ (Noted.table "d").members "w" ∧
      Noted.expression.SameIn (Noted.table "c") (Noted.table "d") := by
  have compiled : compile .output Noted.source = .ok Noted.expression := by cbv
  refine ⟨compiled, by simp [Noted.table, MapScope.put], ?_⟩
  refine (dependencies_exact compiled).2.2 _ _ fun member inside => ?_
  have other : member ≠ "w" := fun same => by simp [same, Noted.expression] at inside
  simp [Noted.table, MapScope.put, other]

end Expression

end LiveTemplates
