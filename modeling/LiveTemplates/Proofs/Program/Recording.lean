/-
# LiveTemplates.Proofs.Program.Recording -- evaluation is sandboxed and fails fast

A scope is the code of somebody else: it can answer the same question differently each time, and
do whatever its effects allow.  `Scope.recorded` puts a record of all accesses in front of any
scope.  The record changes nothing of the evaluation, and says of every outcome which accesses
have led to it: those of the program's rules, and no others.

* `Yields`: whatever comes of a computation has a property;
* `Scope.recorded`: a scope, with its accesses recorded; `Program.eval_recorded`: the record
  changes nothing;
* `Program.eval_traces`: what is recorded is what the rules say;
* `Expression.sandboxed`: what this means for a compiled expression.
-/
import LiveTemplates.Proofs.Program.Access
import LiveTemplates.Proofs.Program.Collecting
import LiveTemplates.Proofs.Program.Traces
import Mathlib

namespace LiveTemplates

set_option autoImplicit false

variable {m : Type → Type} {α β : Type}

/-! ## Whatever comes of a computation -/

/-- Whatever comes of a computation has a property: it is a computation of things with this
property, which is forgotten. -/
def Yields [Functor m] (P : α → Prop) (x : m α) : Prop :=
  ∃ y : m { a // P a }, Subtype.val <$> y = x

namespace Yields

variable [Monad m] [LawfulMonad m] {P : α → Prop} {Q : β → Prop}

theorem pure {a : α} (holds : P a) : Yields P (Pure.pure a : m α) :=
  ⟨Pure.pure ⟨a, holds⟩, map_pure _ _⟩

theorem bind {x : m α} {f : α → m β} (first : Yields P x) (later : ∀ a, P a → Yields Q (f a)) :
    Yields Q (x >>= f) := by
  obtain ⟨y, rfl⟩ := first
  choose g same using later
  refine ⟨y >>= fun a => g a.1 a.2, ?_⟩
  rw [map_bind, bind_map_left]
  exact bind_congr fun a => same a.1 a.2

theorem any (x : m α) : Yields (fun _ => True) x :=
  ⟨(fun a => ⟨a, trivial⟩) <$> x, by rw [← comp_map]; exact id_map x⟩

theorem imp {P' : α → Prop} {x : m α} (yields : Yields P x) (implies : ∀ a, P a → P' a) :
    Yields P' x := by
  have all := yields.bind fun a holds => pure (m := m) (implies a holds)
  rwa [bind_pure] at all

/-- A computation with a state has a result from every state. -/
theorem run {σ : Type} {x : StateM σ α} (yields : Yields P x) (s : σ) : P (x.run s).1 := by
  obtain ⟨y, rfl⟩ := yields
  exact (y.run s).1.2

end Yields

/-! ## Recording -/

variable [Monad m]

/-- A computation whose result answers an access, which is recorded. -/
def recording (x : m α) (access : α → Access) : StateT (List Access) m α :=
  fun log => do
    let answer ← x
    return (answer, log ++ [access answer])

theorem fst_recording [LawfulMonad m] (x : m α) (access : α → Access) (log : List Access) :
    Prod.fst <$> (recording x access).run log = x := by
  show Prod.fst <$> (x >>= fun answer => pure (answer, log ++ [access answer])) = x
  simp

/-- A scope, with its accesses recorded. -/
def Scope.recorded (s : Scope m) : Scope (StateT (List Access) m) where
  get member := recording (s.get member) (.get member)
  set member v := recording (s.set member v) (.set member v)
  call method args := recording (s.call method args) (.call method args)

/-- An evaluation adds to the record, and what it adds is what a relation says of its outcome. -/
def Records (x : ExceptT ExpressionError (StateT (List Access) m) α)
    (T : List Access → Except ExpressionError α → Prop) : Prop :=
  ∀ log, Yields (fun out => ∃ new, out.2 = log ++ new ∧ T new out.1) (x.run.run log)

namespace Records

variable [LawfulMonad m] {x : ExceptT ExpressionError (StateT (List Access) m) α}
  {S T : List Access → Except ExpressionError α → Prop}
  {U : List Access → Except ExpressionError β → Prop}

theorem imp (records : Records x S) (implies : ∀ log r, S log r → T log r) : Records x T :=
  fun log => (records log).imp fun out ⟨new, same, holds⟩ => ⟨new, same, implies new out.1 holds⟩

theorem pure {a : α} (holds : T [] (.ok a)) : Records (m := m) (Pure.pure a) T :=
  fun log => .pure ⟨[], (List.append_nil log).symm, holds⟩

/-- One thing after the other; the second one is not done if the first one fails. -/
theorem bind {f : α → ExceptT ExpressionError (StateT (List Access) m) β} (first : Records x S)
    (later : ∀ log a, S log (.ok a) → Records (f a) fun log' r => U (log ++ log') r)
    (stops : ∀ log e, S log (.error e) → U log (.error e)) : Records (x >>= f) U := by
  intro log
  rw [ExceptT.run_bind, StateT.run_bind]
  refine (first log).bind fun (r, log') ⟨new, same, holds⟩ => ?_
  cases same
  cases r with
  | error e => exact .pure ⟨new, rfl, stops new e holds⟩
  | ok a =>
      refine (later new a holds (log ++ new)).imp fun out ⟨more, same, holds⟩ => ?_
      exact ⟨new ++ more, same.trans (List.append_assoc ..), holds⟩

/-- The result is only made into another one. -/
theorem map {f : α → β} (records : Records x fun log r => U log (r.map f)) :
    Records (do return f (← x)) U := by
  refine records.bind (fun log a holds => pure ?_) fun log e holds => holds
  rwa [List.append_nil]

theorem recording {y : m (Except ExpressionError α)}
    {access : Except ExpressionError α → Access} (holds : ∀ r, T [access r] r) :
    Records (ExceptT.mk (LiveTemplates.recording y access)) T :=
  fun _ => (Yields.any y).bind fun r _ => .pure ⟨[access r], rfl, holds r⟩

variable (s : Scope m)

theorem read (name : String) : Records (s.recorded.read name) (Program.Traces (.member name)) := by
  intro log
  have asked : Yields (fun out => out.2 = log ++ [.get name out.1]) ((s.recorded.get name).run log) :=
    (Yields.any (s.get name)).bind fun _ _ => .pure rfl
  rw [Scope.read, ExceptT.run_bind_lift, StateT.run_bind]
  refine asked.bind fun (answer, log') same => ?_
  cases answer with
  | some v => exact .pure ⟨_, same, .known⟩
  | none => exact .pure ⟨_, same, .unknown⟩

theorem write (name : String) (v : Value) :
    Records (s.recorded.write name v) fun log r => log = [.set name v r] :=
  recording fun _ => rfl

theorem invoke (method : String) (args : List Value) :
    Records (s.recorded.invoke method args) fun log r => log = [.call method args r] :=
  recording fun _ => rfl

end Records

/-! ## Evaluating -/

namespace Program

section Evaluating

variable [LawfulMonad m] (s : Scope m)

mutual

/-- What an evaluation records is what the rules say of the program and of the outcome. -/
theorem eval_traces : ∀ p : Program, Records (p.eval s.recorded) p.Traces
  | .literal v => by
      rw [eval]
      exact .pure .literal
  | .template pieces parts => by
      rw [eval]
      exact ((evalText_traces pieces parts).imp fun _ _ inner => .template inner).map
  | .member name => by
      rw [eval]
      exact .read s name
  | .call method args => by
      rw [eval]
      refine (evalArgs_traces args).bind (fun log values inner => ?_) fun _ _ inner =>
        .callStops inner
      refine (Records.invoke s method values).imp fun _ r same => ?_
      rw [same]
      exact .call inner
  | .unary op argument => by
      rw [eval]
      exact ((eval_traces argument).imp fun _ _ inner => .unary inner).map
  | .binary op left right => by
      rw [eval]
      refine (eval_traces left).bind (fun log a first => ?_) fun _ _ first => .binaryStops first
      exact ((eval_traces right).imp fun _ _ second => .binary first second).map
  | .logical op left right => by
      rw [eval]
      refine (eval_traces left).bind (fun log a first => ?_) fun _ _ first => .logicalStops first
      split
      case isTrue decides =>
        refine .pure ?_
        rw [List.append_nil]
        exact .decided first decides
      case isFalse needs =>
        exact (eval_traces right).imp fun _ _ second =>
          .undecided first (Bool.eq_false_iff.2 needs) second
  | .conditional test consequent alternate => by
      rw [eval]
      refine (eval_traces test).bind (fun log a first => ?_) fun _ _ first =>
        .conditionalStops first
      split
      case isTrue holds =>
        exact (eval_traces consequent).imp fun _ _ second => .consequent first holds second
      case isFalse fails =>
        exact (eval_traces alternate).imp fun _ _ second =>
          .alternate first (Bool.eq_false_iff.2 fails) second
  | .assign name none value => by
      rw [eval]
      refine (eval_traces value).bind (fun log v inner => ?_) fun _ _ inner => .assignStops inner
      simp only [pure_bind]
      refine Records.map ((Records.write s name v).imp fun _ r same => ?_)
      rw [same]
      exact .assign inner
  | .assign name (some op) value => by
      rw [eval]
      refine (eval_traces value).bind (fun log v inner => ?_) fun _ _ inner => .assignStops inner
      refine (Records.read s name).bind (fun _ a read => ?_) fun _ e read => ?_
      · cases read
        simp only [pure_bind]
        refine Records.map ((Records.write s name _).imp fun _ r same => ?_)
        rw [same]
        exact .combine inner
      · cases read
        exact .combineUnknown inner
  | .update name increment isPrefix => by
      rw [eval]
      refine (Records.read s name).bind (fun _ a read => ?_) fun _ e read => ?_
      · cases read
        refine Records.map ((Records.write s name _).imp fun _ r same => ?_)
        rw [same]
        exact .update
      · cases read
        exact .updateUnknown
  | .sequence steps => by
      rw [eval]
      exact (evalLast_traces .undefined steps).imp fun _ _ inner => .sequence inner

theorem evalText_traces : ∀ (pieces : List String) (parts : List Program),
    Records (evalText s.recorded pieces parts) (TracesText pieces parts)
  | [], parts => by
      rw [evalText]
      exact .pure .done
  | piece :: pieces, [] => by
      rw [evalText]
      exact ((evalText_traces pieces []).imp fun _ _ rest => .plain rest).map
  | piece :: pieces, part :: parts => by
      rw [evalText]
      refine (eval_traces part).bind (fun log v first => ?_) fun _ _ first => .stops first
      exact ((evalText_traces pieces parts).imp fun _ _ rest => .part first rest).map

theorem evalArgs_traces : ∀ args : List Program,
    Records (evalArgs s.recorded args) (TracesArgs args)
  | [] => by
      rw [evalArgs]
      exact .pure .done
  | arg :: args => by
      rw [evalArgs]
      refine (eval_traces arg).bind (fun log v first => ?_) fun _ _ first => .stops first
      exact ((evalArgs_traces args).imp fun _ _ rest => .argument first rest).map

theorem evalLast_traces : ∀ (last : Value) (steps : List Program),
    Records (evalLast s.recorded last steps) (TracesLast last steps)
  | last, [] => by
      rw [evalLast]
      exact .pure .done
  | last, step :: steps => by
      rw [evalLast]
      refine (eval_traces step).bind (fun log v first => ?_) fun _ _ first => .stops first
      exact (evalLast_traces v steps).imp fun _ _ rest => .step first rest

end

/-- The record changes nothing of an evaluation. -/
theorem eval_recorded (p : Program) (log : List Access) :
    Prod.fst <$> (p.eval s.recorded).run.run log = (p.eval s).run := by
  refine related_eval
    (R := fun α (x : ExceptT ExpressionError (StateT (List Access) m) α)
      (y : ExceptT ExpressionError m α) => ∀ log, Prod.fst <$> x.run.run log = y.run)
    ⟨fun a log => ?_, fun first later log => ?_, fun name log => ?_⟩ p
    (fun _ => ⟨fun name v => fst_recording _ _, fun method args => fst_recording _ _⟩) log
  · simp
  · rw [ExceptT.run_bind, StateT.run_bind, ExceptT.run_bind, map_bind, ← first log, bind_map_left]
    refine bind_congr fun (r, log') => ?_
    cases r with
    | error e => simp
    | ok a => exact later a log'
  · rw [Scope.read, Scope.read, ExceptT.run_bind_lift, ExceptT.run_bind_lift, StateT.run_bind,
      map_bind, ← fst_recording (s.get name) (.get name) log, bind_map_left]
    refine bind_congr fun (answer, log') => ?_
    cases answer <;> simp

end Evaluating

end Program

/-! ## Sandboxed -/

/-- What is to be said of the accesses of an expression that has been evaluated, and of the
outcome. -/
structure Expression.Sandboxed (e : Expression) (log : List Access)
    (r : Except ExpressionError Value) : Prop where
  gets : ∀ member answer, .get member answer ∈ log → member ∈ e.dependencies
  sets : ∀ member v answer, .set member v answer ∈ log → e.program.Sets member
  calls : ∀ method args answer, .call method args answer ∈ log → e.program.Calls method
  order : e.program.Traces log r
  ok_iff : (∃ v, r = .ok v) ↔ ∀ a ∈ log, a.failure? = none
  error : ∀ fault, r = .error fault → ∃ before last, log = before ++ [last] ∧
    last.failure? = some fault ∧ ∀ a ∈ before, a.failure? = none
  onlyGets : e.program.onlyReads = true → ∀ a ∈ log, ∃ member answer, a = .get member answer

namespace Expression

/-- What the rules say of the program of a compiled source. -/
theorem sandboxed_of_traces {kind : BindingKind} {source : String} {e : Expression}
    (compiled : compile kind source = .ok e) {log : List Access}
    {r : Except ExpressionError Value} (traces : e.program.Traces log r) :
    e.Sandboxed log r where
  gets member answer inside :=
    (mem_dependencies compiled member).2 (traces.failFast.stands _ inside)
  sets _ _ _ inside := traces.failFast.stands _ inside
  calls method args answer inside := by
    obtain ⟨c, stands, of⟩ := traces.failFast.stands _ inside
    obtain rfl : c = .called method := of
    exact stands
  order := traces
  ok_iff := by
    refine ⟨fun ⟨v, same⟩ => traces.failFast.ok v same, fun fine => ?_⟩
    cases r with
    | ok v => exact ⟨v, rfl⟩
    | error fault =>
        obtain ⟨before, last, rfl, failed, -⟩ := traces.failFast.error fault rfl
        rw [fine last (by simp)] at failed
        cases failed
  error := traces.failFast.error
  onlyGets reads a inside := by
    obtain ⟨c, stands, of⟩ := traces.failFast.stands a inside
    obtain ⟨member, rfl⟩ := (Program.onlyReads_iff _).1 reads c stands
    cases a with
    | get member answer => exact ⟨member, answer, rfl⟩
    | set => cases of
    | call => cases of

/-- Evaluation is sandboxed and fails fast, whatever the scope does: recording its accesses
changes nothing, and of every outcome the record says that the expression has kept to itself. -/
theorem sandboxed {kind : BindingKind} {source : String} {e : Expression}
    (compiled : compile kind source = .ok e) [LawfulMonad m] (s : Scope m) :
    Prod.fst <$> (e.program.eval s.recorded).run.run [] = (e.program.eval s).run ∧
      Yields (fun out => e.Sandboxed out.2 out.1) ((e.program.eval s.recorded).run.run []) := by
  refine ⟨e.program.eval_recorded s [], (e.program.eval_traces s []).imp ?_⟩
  rintro ⟨r, log⟩ ⟨new, same, traces⟩
  rw [List.nil_append] at same
  exact sandboxed_of_traces compiled (same ▸ traces)

namespace Fickle

/-- A scope that counts how often it is asked, and knows no member from the third time on. -/
def scope : Scope (StateM Nat) where
  get _ := do
    let n ← getModify (· + 1)
    return if n < 2 then some (.bool (n == 0)) else none
  set _ _ := return .ok ()
  call _ _ := return .ok (.bool true)

def source : String :=
  "f(a, a) && (b = a)"

def expression : Expression where
  source := source
  kind := .output
  program := .logical .and (.call "f" [.member "a", .member "a"]) (.assign "b" none (.member "a"))
  dependencies := ["a"]

/-- What is asked of the scope. -/
def log : List Access :=
  [.get "a" (some (.bool true)), .get "a" (some (.bool false)),
    .call "f" [.bool true, .bool false] (.ok (.bool true)), .get "a" none]

end Fickle

set_option maxRecDepth 20000 in
/-- `f(a, a) && (b = a)`, where `a` is another one each time and then is gone: `b` is never set. -/
theorem sandboxed_fickle :
    compile .output Fickle.source = .ok Fickle.expression ∧
      ((Fickle.expression.program.eval Fickle.scope.recorded).run.run []).run 0 =
        ((.error (.unknownMember "a"), Fickle.log), 3) ∧
      Fickle.expression.Sandboxed Fickle.log (.error (.unknownMember "a")) := by
  have compiled : compile .output Fickle.source = .ok Fickle.expression := by cbv
  have ran : ((Fickle.expression.program.eval Fickle.scope.recorded).run.run []).run 0 =
      ((.error (.unknownMember "a"), Fickle.log), 3) := by cbv
  have all := (sandboxed compiled Fickle.scope).2.run 0
  rw [ran] at all
  exact ⟨compiled, ran, all⟩

end Expression

end LiveTemplates
