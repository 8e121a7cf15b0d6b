/-
# LiveTemplates.Proofs.Program.Access -- a program is what it accesses

Evaluating a program does nothing but read, write and call through the scope that it is
given, one access after the other.  So evaluations through two scopes are related as the
accesses are that stand in the program (`Program.related_eval_of_alike`), and what holds of
these accesses, and of doing things one after the other, holds of the evaluation
(`Program.closed_eval_of_each`).  Programs without assignment, update and call only read
(`Program.onlyReads`, `Program.onlyReads_iff`), and need less (`Program.related_eval`,
`Program.closed_eval`).
-/
import LiveTemplates.Program.Eval
import LiveTemplates.Proofs.Program.Occurrences

namespace LiveTemplates

set_option autoImplicit false

namespace Program

mutual

/-- Is there no assignment, no update and no call in a program? -/
def onlyReads : Program → Bool
  | .literal _ => true
  | .template _ parts => onlyReadsAll parts
  | .member _ => true
  | .call _ _ => false
  | .unary _ argument => argument.onlyReads
  | .binary _ left right => left.onlyReads && right.onlyReads
  | .logical _ left right => left.onlyReads && right.onlyReads
  | .conditional test consequent alternate =>
    test.onlyReads && consequent.onlyReads && alternate.onlyReads
  | .assign _ _ _ => false
  | .update _ _ _ => false
  | .sequence steps => onlyReadsAll steps

/-- Is there no assignment, no update and no call in some programs? -/
def onlyReadsAll : List Program → Bool
  | [] => true
  | p :: ps => p.onlyReads && onlyReadsAll ps

end

mutual

/-- Then members that are read are all that stands in the program. -/
theorem onlyReads_iff : ∀ p : Program,
    p.onlyReads = true ↔ ∀ c ∈ p.occurrences, ∃ member, c = .read member
  | .literal _ => by simp [onlyReads, occurrences]
  | .template _ parts => by simpa only [onlyReads, occurrences] using onlyReadsAll_iff parts
  | .member _ => by simp [onlyReads, occurrences]
  | .call _ _ => by simp [onlyReads, occurrences]
  | .unary _ argument => by simpa only [onlyReads, occurrences] using onlyReads_iff argument
  | .binary _ left right => by
      rw [onlyReads, occurrences, List.forall_mem_append, Bool.and_eq_true, onlyReads_iff left,
        onlyReads_iff right]
  | .logical _ left right => by
      rw [onlyReads, occurrences, List.forall_mem_append, Bool.and_eq_true, onlyReads_iff left,
        onlyReads_iff right]
  | .conditional test consequent alternate => by
      rw [onlyReads, occurrences, List.forall_mem_append, List.forall_mem_append,
        Bool.and_eq_true, Bool.and_eq_true, onlyReads_iff test, onlyReads_iff consequent,
        onlyReads_iff alternate]
  | .assign _ none _ => by simp [onlyReads, occurrences]
  | .assign _ (some _) _ => by simp [onlyReads, occurrences]
  | .update _ _ _ => by simp [onlyReads, occurrences]
  | .sequence steps => by simpa only [onlyReads, occurrences] using onlyReadsAll_iff steps

theorem onlyReadsAll_iff : ∀ ps : List Program,
    onlyReadsAll ps = true ↔ ∀ c ∈ occurrencesAll ps, ∃ member, c = .read member
  | [] => by simp [onlyReadsAll, occurrencesAll]
  | p :: ps => by
      rw [onlyReadsAll, occurrencesAll, List.forall_mem_append, Bool.and_eq_true, onlyReads_iff p,
        onlyReadsAll_iff ps]

end

end Program

variable {m n : Type → Type} [Monad m] [Monad n]

/-! ## Evaluations side by side -/

/-- What can stand in a program is accessed alike through two scopes. -/
def Occurrence.Alike
    (R : (α : Type) → ExceptT ExpressionError m α → ExceptT ExpressionError n α → Prop)
    (s : Scope m) (t : Scope n) : Occurrence → Prop
  | .read member => R Value (s.read member) (t.read member)
  | .stepped member | .combined member =>
    R Value (s.read member) (t.read member) ∧ ∀ v, R Unit (s.write member v) (t.write member v)
  | .assigned member => ∀ v, R Unit (s.write member v) (t.write member v)
  | .called method => ∀ args, R Value (s.invoke method args) (t.invoke method args)

namespace Program

/-- Things that can fail are related if they do nothing, or one thing after the other. -/
structure Sequential
    (R : (α : Type) → ExceptT ExpressionError m α → ExceptT ExpressionError n α → Prop) :
    Prop where
  pure : ∀ {α : Type} (a : α), R α (pure a) (pure a)
  bind : ∀ {α β : Type} {x : ExceptT ExpressionError m α} {y : ExceptT ExpressionError n α}
    {f : α → ExceptT ExpressionError m β} {g : α → ExceptT ExpressionError n β},
    R α x y → (∀ a, R β (f a) (g a)) → R β (x >>= f) (y >>= g)

section Relation

variable {R : (α : Type) → ExceptT ExpressionError m α → ExceptT ExpressionError n α → Prop}
  {s : Scope m} {t : Scope n}

section Alike

variable (sequential : Sequential R)

include sequential

mutual

/-- Evaluations of one program are related if the accesses are that stand in it. -/
theorem related_eval_of_alike : ∀ p : Program, (∀ c ∈ p.occurrences, c.Alike R s t) →
    R Value (p.eval s) (p.eval t)
  | .literal v, _ => by
      rw [eval, eval]
      exact sequential.pure v
  | .template pieces parts, alike => by
      rw [eval, eval]
      exact sequential.bind
        (related_evalText pieces parts (by simpa only [occurrences] using alike))
        fun _ => sequential.pure _
  | .member name, alike => by
      rw [eval, eval]
      exact alike (.read name) (by simp [occurrences])
  | .call method args, alike => by
      rw [occurrences, List.forall_mem_cons] at alike
      obtain ⟨invoked, alike⟩ := alike
      rw [eval, eval]
      exact sequential.bind (related_evalArgs args alike) fun values => invoked values
  | .unary op argument, alike => by
      rw [eval, eval]
      exact sequential.bind (related_eval_of_alike argument (by simpa only [occurrences] using alike))
        fun _ => sequential.pure _
  | .binary op left right, alike => by
      rw [occurrences, List.forall_mem_append] at alike
      rw [eval, eval]
      refine sequential.bind (related_eval_of_alike left alike.1) fun a => ?_
      exact sequential.bind (related_eval_of_alike right alike.2) fun _ => sequential.pure _
  | .logical op left right, alike => by
      rw [occurrences, List.forall_mem_append] at alike
      rw [eval, eval]
      refine sequential.bind (related_eval_of_alike left alike.1) fun a => ?_
      split
      · exact sequential.pure a
      · exact related_eval_of_alike right alike.2
  | .conditional test consequent alternate, alike => by
      rw [occurrences, List.forall_mem_append, List.forall_mem_append] at alike
      obtain ⟨⟨tested, first⟩, second⟩ := alike
      rw [eval, eval]
      refine sequential.bind (related_eval_of_alike test tested) fun t => ?_
      split
      · exact related_eval_of_alike consequent first
      · exact related_eval_of_alike alternate second
  | .assign name none value, alike => by
      rw [occurrences, List.forall_mem_cons] at alike
      obtain ⟨write, alike⟩ := alike
      rw [eval, eval]
      refine sequential.bind (related_eval_of_alike value alike) fun v => ?_
      refine sequential.bind (sequential.pure v) fun next => ?_
      exact sequential.bind (write next) fun _ => sequential.pure next
  | .assign name (some op) value, alike => by
      rw [occurrences, List.forall_mem_cons] at alike
      obtain ⟨⟨read, write⟩, alike⟩ := alike
      rw [eval, eval]
      refine sequential.bind (related_eval_of_alike value alike) fun v => ?_
      refine sequential.bind read fun a => sequential.bind (sequential.pure _) fun next => ?_
      exact sequential.bind (write next) fun _ => sequential.pure next
  | .update name increment isPrefix, alike => by
      obtain ⟨read, write⟩ := alike (.stepped name) (by simp [occurrences])
      rw [eval, eval]
      exact sequential.bind read fun v => sequential.bind (write _) fun _ => sequential.pure _
  | .sequence steps, alike => by
      rw [eval, eval]
      exact related_evalLast .undefined steps (by simpa only [occurrences] using alike)

theorem related_evalText : ∀ (pieces : List String) (parts : List Program),
    (∀ c ∈ occurrencesAll parts, c.Alike R s t) →
      R String (evalText s pieces parts) (evalText t pieces parts)
  | [], parts, _ => by
      rw [evalText, evalText]
      exact sequential.pure _
  | piece :: pieces, [], alike => by
      rw [evalText, evalText]
      exact sequential.bind (related_evalText pieces [] alike) fun _ => sequential.pure _
  | piece :: pieces, part :: parts, alike => by
      rw [occurrencesAll, List.forall_mem_append] at alike
      rw [evalText, evalText]
      refine sequential.bind (related_eval_of_alike part alike.1) fun v => ?_
      exact sequential.bind (related_evalText pieces parts alike.2) fun _ => sequential.pure _

theorem related_evalArgs : ∀ args : List Program,
    (∀ c ∈ occurrencesAll args, c.Alike R s t) →
      R (List Value) (evalArgs s args) (evalArgs t args)
  | [], _ => by
      rw [evalArgs, evalArgs]
      exact sequential.pure _
  | arg :: args, alike => by
      rw [occurrencesAll, List.forall_mem_append] at alike
      rw [evalArgs, evalArgs]
      refine sequential.bind (related_eval_of_alike arg alike.1) fun v => ?_
      exact sequential.bind (related_evalArgs args alike.2) fun _ => sequential.pure _

theorem related_evalLast : ∀ (last : Value) (steps : List Program),
    (∀ c ∈ occurrencesAll steps, c.Alike R s t) →
      R Value (evalLast s last steps) (evalLast t last steps)
  | last, [], _ => by
      rw [evalLast, evalLast]
      exact sequential.pure last
  | last, step :: steps, alike => by
      rw [occurrencesAll, List.forall_mem_append] at alike
      rw [evalLast, evalLast]
      refine sequential.bind (related_eval_of_alike step alike.1) fun v => ?_
      exact related_evalLast v steps alike.2

end

end Alike

/-- Things that can fail are related if they do nothing, or one thing after the other, or read
the same member, each from its own scope. -/
structure Relates (R : (α : Type) → ExceptT ExpressionError m α → ExceptT ExpressionError n α → Prop)
    (s : Scope m) (t : Scope n) : Prop where
  pure : ∀ {α : Type} (a : α), R α (pure a) (pure a)
  bind : ∀ {α β : Type} {x : ExceptT ExpressionError m α} {y : ExceptT ExpressionError n α}
    {f : α → ExceptT ExpressionError m β} {g : α → ExceptT ExpressionError n β},
    R α x y → (∀ a, R β (f a) (g a)) → R β (x >>= f) (y >>= g)
  read : ∀ member, R Value (s.read member) (t.read member)

/-- So are writing and calling, each through its own scope. -/
structure ActsAlike
    (R : (α : Type) → ExceptT ExpressionError m α → ExceptT ExpressionError n α → Prop)
    (s : Scope m) (t : Scope n) : Prop where
  write : ∀ member v, R Unit (s.write member v) (t.write member v)
  invoke : ∀ method args, R Value (s.invoke method args) (t.invoke method args)

/-- Where all accesses are related, all occurrences are accessed alike. -/
theorem Relates.alike (relates : Relates R s t) (acts : ActsAlike R s t) :
    ∀ c : Occurrence, c.Alike R s t
  | .read name => relates.read name
  | .stepped name | .combined name => ⟨relates.read name, acts.write name⟩
  | .assigned name => acts.write name
  | .called name => acts.invoke name

/-- Evaluations of one program are related if all accesses are; of a program that only reads, if
reading is. -/
theorem related_eval (relates : Relates R s t) (p : Program)
    (acts : p.onlyReads = false → ActsAlike R s t) : R Value (p.eval s) (p.eval t) := by
  refine related_eval_of_alike ⟨relates.pure, relates.bind⟩ p fun c stands => ?_
  cases only : p.onlyReads with
  | true =>
      obtain ⟨name, rfl⟩ := (onlyReads_iff p).1 only c stands
      exact relates.read name
  | false => exact relates.alike (acts only) c

end Relation

/-! ## What holds of an evaluation -/

/-- What holds of doing nothing, of doing one thing after the other, and of the accesses that
stand in a program, holds of its evaluation. -/
theorem closed_eval_of_each {P : (α : Type) → ExceptT ExpressionError m α → Prop} {s : Scope m}
    (pure : ∀ {α : Type} (a : α), P α (pure a))
    (bind : ∀ {α β : Type} {x : ExceptT ExpressionError m α}
      {f : α → ExceptT ExpressionError m β}, P α x → (∀ a, P β (f a)) → P β (x >>= f))
    (p : Program) (each : ∀ c ∈ p.occurrences, c.Alike (fun α x _ => P α x) s s) :
    P Value (p.eval s) :=
  related_eval_of_alike (R := fun α x _ => P α x) (t := s)
    ⟨pure, fun first later => bind first later⟩ p each

/-- A property of things that can fail holds of doing nothing, of doing one thing after the
other, and of reading from a scope. -/
structure Closed (P : (α : Type) → ExceptT ExpressionError m α → Prop) (s : Scope m) : Prop where
  pure : ∀ {α : Type} (a : α), P α (pure a)
  bind : ∀ {α β : Type} {x : ExceptT ExpressionError m α} {f : α → ExceptT ExpressionError m β},
    P α x → (∀ a, P β (f a)) → P β (x >>= f)
  read : ∀ member, P Value (s.read member)

/-- A property holds of all writing and calling through a scope. -/
structure Acts (P : (α : Type) → ExceptT ExpressionError m α → Prop) (s : Scope m) : Prop where
  write : ∀ member v, P Unit (s.write member v)
  invoke : ∀ method args, P Value (s.invoke method args)

/-- What holds of the accesses of a program holds of its evaluation. -/
theorem closed_eval {P : (α : Type) → ExceptT ExpressionError m α → Prop} {s : Scope m}
    (closed : Closed P s) (p : Program) (acts : p.onlyReads = false → Acts P s) :
    P Value (p.eval s) :=
  related_eval (R := fun α x _ => P α x) (t := s)
    ⟨closed.pure, fun first later => closed.bind first later, closed.read⟩ p
    fun no => ⟨(acts no).write, (acts no).invoke⟩

end Program

end LiveTemplates
