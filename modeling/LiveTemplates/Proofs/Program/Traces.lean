/-
# LiveTemplates.Proofs.Program.Traces -- the order of accesses

A scope is asked for members, told to write them, and asked to call methods; whatever answers it
gives, a program makes its accesses in one order.  `Program.Traces` gives this order by rules: the
accesses of a program, each with the answer it got, and what the evaluation comes to.  Operands
come from left to right, an operand that is not needed makes no access, and after an access that
fails there is none.

* `Access`: an access with its answer; `Access.failure?`: the error with which it ends all;
* `Program.Traces`: the accesses of an evaluation and its outcome;
* `Program.Traces.failFast`: every access stands in the program, and an access fails just where
  the evaluation does, as the last one.
-/
import LiveTemplates.Program.Eval
import LiveTemplates.Proofs.Program.Occurrences

namespace LiveTemplates

set_option autoImplicit false

/-! ## Accesses -/

/-- An access to a scope, with the answer. -/
inductive Access where
  | get (member : String) (answer : Option Value)
  | set (member : String) (v : Value) (answer : Except ExpressionError Unit)
  | call (method : String) (args : List Value) (answer : Except ExpressionError Value)

namespace Access

/-- The error with which an access ends an evaluation, unless it succeeds. -/
def failure? : Access → Option ExpressionError
  | get _ (some _) => none
  | get member none => some (.unknownMember member)
  | set _ _ (.ok _) | call _ _ (.ok _) => none
  | set _ _ (.error e) | call _ _ (.error e) => some e

/-- An access is one that an occurrence can make. -/
def Of (c : Occurrence) : Access → Prop
  | get member _ => c.used? = some member
  | set member _ _ => c.target? = some member
  | call method _ _ => c = .called method

end Access

/-! ## Evaluations -/

/-- The new value of a member that is stepped. -/
def Value.stepped (v : Value) (increment : Bool) : Float :=
  if increment then v.toNumber + 1.0 else v.toNumber - 1.0

namespace Program

mutual

/-- The accesses of an evaluation in their order, and what it comes to. -/
inductive Traces : Program → List Access → Except ExpressionError Value → Prop
  | literal {v : Value} : Traces (.literal v) [] (.ok v)
  | template {pieces : List String} {parts : List Program} {log : List Access}
      {r : Except ExpressionError String} (inner : TracesText pieces parts log r) :
      Traces (.template pieces parts) log (r.map .text)
  | known {name : String} {v : Value} : Traces (.member name) [.get name (some v)] (.ok v)
  | unknown {name : String} :
      Traces (.member name) [.get name none] (.error (.unknownMember name))
  /-- A method is called after all arguments are there. -/
  | call {method : String} {args : List Program} {values : List Value} {log : List Access}
      {r : Except ExpressionError Value} (inner : TracesArgs args log (.ok values)) :
      Traces (.call method args) (log ++ [.call method values r]) r
  | callStops {method : String} {args : List Program} {log : List Access} {e : ExpressionError}
      (inner : TracesArgs args log (.error e)) : Traces (.call method args) log (.error e)
  | unary {op : UnaryOp} {argument : Program} {log : List Access}
      {r : Except ExpressionError Value} (inner : Traces argument log r) :
      Traces (.unary op argument) log (r.map op.apply)
  | binary {op : BinaryOp} {left right : Program} {a : Value} {log log' : List Access}
      {r : Except ExpressionError Value} (first : Traces left log (.ok a))
      (second : Traces right log' r) :
      Traces (.binary op left right) (log ++ log') (r.map (op.apply a))
  | binaryStops {op : BinaryOp} {left right : Program} {log : List Access} {e : ExpressionError}
      (first : Traces left log (.error e)) : Traces (.binary op left right) log (.error e)
  /-- Where the left operand decides, the right one makes no access. -/
  | decided {op : LogicalOp} {left right : Program} {a : Value} {log : List Access}
      (first : Traces left log (.ok a)) (decides : op.decides a = true) :
      Traces (.logical op left right) log (.ok a)
  | undecided {op : LogicalOp} {left right : Program} {a : Value} {log log' : List Access}
      {r : Except ExpressionError Value} (first : Traces left log (.ok a))
      (needs : op.decides a = false) (second : Traces right log' r) :
      Traces (.logical op left right) (log ++ log') r
  | logicalStops {op : LogicalOp} {left right : Program} {log : List Access}
      {e : ExpressionError} (first : Traces left log (.error e)) :
      Traces (.logical op left right) log (.error e)
  /-- Only the branch that is taken makes accesses. -/
  | consequent {test consequent alternate : Program} {a : Value} {log log' : List Access}
      {r : Except ExpressionError Value} (first : Traces test log (.ok a))
      (holds : a.truthy = true) (second : Traces consequent log' r) :
      Traces (.conditional test consequent alternate) (log ++ log') r
  | alternate {test consequent alternate : Program} {a : Value} {log log' : List Access}
      {r : Except ExpressionError Value} (first : Traces test log (.ok a))
      (fails : a.truthy = false) (second : Traces alternate log' r) :
      Traces (.conditional test consequent alternate) (log ++ log') r
  | conditionalStops {test consequent alternate : Program} {log : List Access}
      {e : ExpressionError} (first : Traces test log (.error e)) :
      Traces (.conditional test consequent alternate) log (.error e)
  | assign {name : String} {value : Program} {v : Value} {log : List Access}
      {answer : Except ExpressionError Unit} (inner : Traces value log (.ok v)) :
      Traces (.assign name none value) (log ++ [.set name v answer]) (answer.map fun _ => v)
  /-- A member is read after the value that it is combined with. -/
  | combine {name : String} {op : BinaryOp} {value : Program} {a v : Value} {log : List Access}
      {answer : Except ExpressionError Unit} (inner : Traces value log (.ok v)) :
      Traces (.assign name (some op) value)
        (log ++ [.get name (some a), .set name (op.apply a v) answer])
        (answer.map fun _ => op.apply a v)
  | combineUnknown {name : String} {op : BinaryOp} {value : Program} {v : Value}
      {log : List Access} (inner : Traces value log (.ok v)) :
      Traces (.assign name (some op) value) (log ++ [.get name none])
        (.error (.unknownMember name))
  | assignStops {name : String} {op : Option BinaryOp} {value : Program} {log : List Access}
      {e : ExpressionError} (inner : Traces value log (.error e)) :
      Traces (.assign name op value) log (.error e)
  | update {name : String} {increment isPrefix : Bool} {a : Value}
      {answer : Except ExpressionError Unit} :
      Traces (.update name increment isPrefix)
        [.get name (some a), .set name (.number (a.stepped increment)) answer]
        (answer.map fun _ => .number (if isPrefix then a.stepped increment else a.toNumber))
  | updateUnknown {name : String} {increment isPrefix : Bool} :
      Traces (.update name increment isPrefix) [.get name none] (.error (.unknownMember name))
  | sequence {steps : List Program} {log : List Access} {r : Except ExpressionError Value}
      (inner : TracesLast .undefined steps log r) : Traces (.sequence steps) log r

/-- So for a text of pieces with parts between them. -/
inductive TracesText :
    List String → List Program → List Access → Except ExpressionError String → Prop
  | done {parts : List Program} : TracesText [] parts [] (.ok "")
  | plain {piece : String} {pieces : List String} {log : List Access}
      {r : Except ExpressionError String} (rest : TracesText pieces [] log r) :
      TracesText (piece :: pieces) [] log (r.map (piece ++ ·))
  | part {piece : String} {pieces : List String} {part : Program} {parts : List Program}
      {v : Value} {log log' : List Access} {r : Except ExpressionError String}
      (first : Traces part log (.ok v)) (rest : TracesText pieces parts log' r) :
      TracesText (piece :: pieces) (part :: parts) (log ++ log')
        (r.map (piece ++ v.display ++ ·))
  | stops {piece : String} {pieces : List String} {part : Program} {parts : List Program}
      {log : List Access} {e : ExpressionError} (first : Traces part log (.error e)) :
      TracesText (piece :: pieces) (part :: parts) log (.error e)

/-- So for arguments. -/
inductive TracesArgs :
    List Program → List Access → Except ExpressionError (List Value) → Prop
  | done : TracesArgs [] [] (.ok [])
  | argument {arg : Program} {args : List Program} {v : Value} {log log' : List Access}
      {r : Except ExpressionError (List Value)} (first : Traces arg log (.ok v))
      (rest : TracesArgs args log' r) : TracesArgs (arg :: args) (log ++ log') (r.map (v :: ·))
  | stops {arg : Program} {args : List Program} {log : List Access} {e : ExpressionError}
      (first : Traces arg log (.error e)) : TracesArgs (arg :: args) log (.error e)

/-- So for steps, of which the last one counts. -/
inductive TracesLast :
    Value → List Program → List Access → Except ExpressionError Value → Prop
  | done {last : Value} : TracesLast last [] [] (.ok last)
  | step {last v : Value} {step : Program} {steps : List Program} {log log' : List Access}
      {r : Except ExpressionError Value} (first : Traces step log (.ok v))
      (rest : TracesLast v steps log' r) : TracesLast last (step :: steps) (log ++ log') r
  | stops {last : Value} {step : Program} {steps : List Program} {log : List Access}
      {e : ExpressionError} (first : Traces step log (.error e)) :
      TracesLast last (step :: steps) log (.error e)

end

end Program

/-! ## What all evaluations have in common -/

/-- All accesses stand among occurrences.  They all succeed, or the last one fails and the
evaluation with it. -/
structure FailFast {α : Type} (cs : List Occurrence) (log : List Access)
    (r : Except ExpressionError α) : Prop where
  stands : ∀ a ∈ log, ∃ c ∈ cs, a.Of c
  ok : ∀ v, r = .ok v → ∀ a ∈ log, a.failure? = none
  error : ∀ e, r = .error e → ∃ before last, log = before ++ [last] ∧ last.failure? = some e ∧
    ∀ a ∈ before, a.failure? = none

namespace FailFast

variable {α β : Type} {cs ds : List Occurrence} {log log' : List Access}
  {r : Except ExpressionError α} {e : ExpressionError}

theorem none (v : α) : FailFast cs [] (.ok v) :=
  ⟨List.forall_mem_nil _, fun _ _ => List.forall_mem_nil _, fun _ same => (by cases same)⟩

theorem mono (failFast : FailFast cs log r) (sub : cs ⊆ ds) : FailFast ds log r :=
  ⟨fun a member => (failFast.stands a member).imp fun _ both => ⟨sub both.1, both.2⟩, failFast.ok,
    failFast.error⟩

theorem map (failFast : FailFast cs log r) (f : α → β) : FailFast cs log (r.map f) := by
  cases r with
  | error e =>
      refine ⟨failFast.stands, fun _ same => (by cases same), fun e' same => ?_⟩
      cases same
      exact failFast.error e rfl
  | ok v => exact ⟨failFast.stands, fun _ _ => failFast.ok v rfl, fun _ same => (by cases same)⟩

/-- What ends an evaluation ends those around it. -/
theorem stops (failFast : FailFast cs log (.error e : Except ExpressionError α)) (sub : cs ⊆ ds) :
    FailFast ds log (.error e : Except ExpressionError β) := by
  refine ⟨(failFast.mono sub).stands, fun _ same => (by cases same), fun e' same => ?_⟩
  cases same
  exact failFast.error e rfl

/-- After an evaluation that succeeds, another one. -/
theorem append {v : β} (first : FailFast cs log (.ok v)) (second : FailFast ds log' r) :
    FailFast (cs ++ ds) (log ++ log') r where
  stands := List.forall_mem_append.2
    ⟨(first.mono (List.subset_append_left _ _)).stands,
      (second.mono (List.subset_append_right _ _)).stands⟩
  ok w same := List.forall_mem_append.2 ⟨first.ok v rfl, second.ok w same⟩
  error e same := by
    obtain ⟨before, last, rfl, failed, fine⟩ := second.error e same
    exact ⟨log ++ before, last, (List.append_assoc ..).symm, failed,
      List.forall_mem_append.2 ⟨first.ok v rfl, fine⟩⟩

/-- An access that succeeds. -/
theorem succeeds {a : Access} {c : Occurrence} (of : a.Of c) (fine : a.failure? = Option.none)
    (v : α) : FailFast [c] [a] (.ok v) :=
  ⟨List.forall_mem_singleton.2 ⟨c, List.mem_singleton_self c, of⟩,
    fun _ _ => List.forall_mem_singleton.2 fine, fun _ same => (by cases same)⟩

/-- An access that fails. -/
theorem fails {a : Access} {c : Occurrence} (of : a.Of c) (failed : a.failure? = some e) :
    FailFast [c] [a] (.error e : Except ExpressionError α) := by
  refine ⟨List.forall_mem_singleton.2 ⟨c, List.mem_singleton_self c, of⟩,
    fun _ same => (by cases same), fun e' same => ?_⟩
  cases same
  exact ⟨[], a, rfl, failed, List.forall_mem_nil _⟩

theorem get {c : Occurrence} {member : String} (of : c.used? = some member) (a : Value) (v : α) :
    FailFast [c] [.get member (some a)] (.ok v) :=
  succeeds (a := .get member (some a)) of rfl v

theorem unknown {c : Occurrence} {member : String} (of : c.used? = some member) :
    FailFast [c] [.get member Option.none]
      (.error (.unknownMember member) : Except ExpressionError α) :=
  fails (a := .get member Option.none) of rfl

theorem set {c : Occurrence} {member : String} (of : c.target? = some member) (v : Value) :
    ∀ answer : Except ExpressionError Unit, FailFast [c] [.set member v answer] answer
  | .ok _ => succeeds (a := .set member v (.ok ())) of rfl ()
  | .error e => fails (a := .set member v (.error e)) of rfl

/-- A member is read and then given another value. -/
theorem getSet {c : Occurrence} {member : String} (used : c.used? = some member)
    (target : c.target? = some member) (a v : Value) (answer : Except ExpressionError Unit) :
    FailFast [c] [.get member (some a), .set member v answer] answer :=
  ((get used a ()).append (set target v answer)).mono (by simp)

theorem call (method : String) (args : List Value) :
    ∀ answer : Except ExpressionError Value,
      FailFast [.called method] [.call method args answer] answer
  | .ok v => succeeds (a := .call method args (.ok v)) (c := .called method) rfl rfl v
  | .error e => fails (a := .call method args (.error e)) (c := .called method) rfl rfl

end FailFast

namespace Program

mutual

/-- Every access of an evaluation stands in the program, and the evaluation fails just where its
last access does. -/
theorem Traces.failFast : ∀ {p : Program} {log : List Access} {r : Except ExpressionError Value},
    p.Traces log r → FailFast p.occurrences log r
  | _, _, _, .literal => .none _
  | _, _, _, .template inner => inner.failFast.map _
  | _, _, _, .known => .get rfl _ _
  | _, _, _, .unknown => .unknown rfl
  | _, _, _, .call inner => by
      refine (inner.failFast.append (.call _ _ _)).mono ?_
      simp [occurrences]
  | _, _, _, .callStops inner => inner.failFast.stops (List.subset_cons_self _ _)
  | _, _, _, .unary inner => by
      rw [occurrences]
      exact inner.failFast.map _
  | _, _, _, .binary first second => (first.failFast.append second.failFast).map _
  | _, _, _, .binaryStops first => first.failFast.stops (List.subset_append_left _ _)
  | _, _, _, .decided first _ => first.failFast.mono (List.subset_append_left _ _)
  | _, _, _, .undecided first _ second => first.failFast.append second.failFast
  | _, _, _, .logicalStops first => first.failFast.stops (List.subset_append_left _ _)
  | _, _, _, .consequent first _ second =>
      (first.failFast.append second.failFast).mono (List.subset_append_left _ _)
  | _, _, _, .alternate first _ second => by
      refine (first.failFast.append second.failFast).mono ?_
      rw [occurrences]
      refine List.append_subset.2 ⟨?_, List.subset_append_right _ _⟩
      exact List.Subset.trans (List.subset_append_left _ _) (List.subset_append_left _ _)
  | _, _, _, .conditionalStops first => by
      refine first.failFast.stops ?_
      rw [occurrences, List.append_assoc]
      exact List.subset_append_left _ _
  | .assign name none _, _, _, .assign inner => by
      refine (inner.failFast.append ((FailFast.set (c := .assigned name) rfl _ _).map _)).mono ?_
      simp [occurrences]
  | .assign name (some _) _, _, _, .combine inner => by
      have done := FailFast.getSet (c := .combined name) rfl rfl
      refine (inner.failFast.append ((done _ _ _).map _)).mono ?_
      simp [occurrences]
  | .assign name (some _) _, _, _, .combineUnknown inner => by
      refine (inner.failFast.append (FailFast.unknown (c := .combined name) rfl)).mono ?_
      simp [occurrences]
  | .assign name op value, _, _, .assignStops inner => by
      refine inner.failFast.stops ?_
      cases op <;> exact List.subset_cons_self _ _
  | .update name _ _, _, _, .update =>
      (FailFast.getSet (c := .stepped name) rfl rfl _ _ _).map _
  | _, _, _, .updateUnknown => .unknown rfl
  | _, _, _, .sequence inner => by
      rw [occurrences]
      exact inner.failFast

theorem TracesText.failFast : ∀ {pieces : List String} {parts : List Program}
    {log : List Access} {r : Except ExpressionError String},
    TracesText pieces parts log r → FailFast (occurrencesAll parts) log r
  | _, _, _, _, .done => .none _
  | _, _, _, _, .plain rest => rest.failFast.map _
  | _, _, _, _, .part first rest => (first.failFast.append rest.failFast).map _
  | _, _, _, _, .stops first => first.failFast.stops (List.subset_append_left _ _)

theorem TracesArgs.failFast : ∀ {args : List Program} {log : List Access}
    {r : Except ExpressionError (List Value)},
    TracesArgs args log r → FailFast (occurrencesAll args) log r
  | _, _, _, .done => .none _
  | _, _, _, .argument first rest => (first.failFast.append rest.failFast).map _
  | _, _, _, .stops first => first.failFast.stops (List.subset_append_left _ _)

theorem TracesLast.failFast : ∀ {last : Value} {steps : List Program} {log : List Access}
    {r : Except ExpressionError Value},
    TracesLast last steps log r → FailFast (occurrencesAll steps) log r
  | _, _, _, _, .done => .none _
  | _, _, _, _, .step first rest => first.failFast.append rest.failFast
  | _, _, _, _, .stops first => first.failFast.stops (List.subset_append_left _ _)

end

end Program

end LiveTemplates
