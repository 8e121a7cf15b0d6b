/-
# LiveTemplates.Proofs.World.Stepwise -- activities of two kinds, side by side

An activity of the world can be written down once more as one of another kind: one that is watched,
or that takes minutes.  If a relation between the two holds of doing nothing and of doing one thing
after the other, then it holds of going through a list, however this is done, and of evaluating
what only reads, writes and calls what is related.

* `Stepwise`: such a relation;
* `Stepwise.foldlM`, `Stepwise.forM`, `Stepwise.mapM`: the ways of going through a list;
* `Stepwise.foldlM_of_forall₂`: going through two lists of related elements;
* `Stepwise.eval`: evaluating a program against two scopes.
-/
import LiveTemplates.Proofs.Program.Access
import Mathlib.Data.List.Forall2

namespace LiveTemplates

set_option autoImplicit false

variable {m n : Type → Type} [Monad m] [Monad n]

/-- Activities of two kinds are related if they do nothing, or one thing after the other. -/
structure Stepwise (R : (α : Type) → m α → n α → Prop) : Prop where
  pure : ∀ {α : Type} (a : α), R α (Pure.pure a) (Pure.pure a)
  bind : ∀ {α β : Type} {x : m α} {y : n α} {f : α → m β} {g : α → n β},
    R α x y → (∀ a, R β (f a) (g a)) → R β (x >>= f) (y >>= g)

namespace Stepwise

variable {R : (α : Type) → m α → n α → Prop} (stepwise : Stepwise R) {α β : Type}

include stepwise

theorem foldlM_of_forall₂ {γ : Type} {P : α → γ → Prop} {f : β → α → m β} {g : β → γ → n β}
    (each : ∀ b a c, P a c → R β (f b a) (g b c)) {as : List α} {cs : List γ}
    (related : List.Forall₂ P as cs) (b : β) : R β (as.foldlM f b) (cs.foldlM g b) := by
  induction related generalizing b with
  | nil => exact stepwise.pure b
  | cons first _ ih =>
      rw [List.foldlM_cons, List.foldlM_cons]
      exact stepwise.bind (each b _ _ first) ih

theorem foldlM {f : β → α → m β} {g : β → α → n β} (each : ∀ b a, R β (f b a) (g b a))
    (as : List α) (b : β) : R β (as.foldlM f b) (as.foldlM g b) := by
  refine stepwise.foldlM_of_forall₂ (P := Eq) ?_ (List.forall₂_same.2 fun _ _ => rfl) b
  rintro b a _ rfl
  exact each b a

theorem forM {f : α → m Unit} {g : α → n Unit} (each : ∀ a, R Unit (f a) (g a)) (as : List α) :
    R Unit (as.forM f) (as.forM g) := by
  induction as with
  | nil => exact stepwise.pure ()
  | cons a rest ih => exact stepwise.bind (each a) fun _ => ih

theorem mapM [LawfulMonad m] [LawfulMonad n] {f : α → m β} {g : α → n β}
    (each : ∀ a, R β (f a) (g a)) (as : List α) :
    R (List β) (as.mapM f) (as.mapM g) := by
  induction as with
  | nil => exact stepwise.pure []
  | cons a rest ih =>
      rw [List.mapM_cons, List.mapM_cons]
      exact stepwise.bind (each a) fun b => stepwise.bind ih fun bs => stepwise.pure (b :: bs)

/-! ## Evaluating -/

variable [LawfulMonad m] [LawfulMonad n] {s : Scope m} {t : Scope n}

/-- Reading a member that has to exist. -/
theorem read {member : String} (get : R (Option Value) (s.get member) (t.get member)) :
    R (Except ExpressionError Value) (s.read member).run (t.read member).run := by
  rw [Scope.read, Scope.read, ExceptT.run_bind, ExceptT.run_bind, ExceptT.run_lift,
    ExceptT.run_lift, bind_map_left, bind_map_left]
  refine stepwise.bind get fun found => ?_
  cases found with
  | some x => exact stepwise.pure (Except.ok x)
  | none => exact stepwise.pure (Except.error _)

/-- Evaluating a program, which reads, writes, and calls the methods that stand in it. -/
theorem eval {p : Program} (get : ∀ member, R (Option Value) (s.get member) (t.get member))
    (set : ∀ member v, R (Except ExpressionError Unit) (s.set member v) (t.set member v))
    (call : ∀ method, p.Calls method → ∀ args,
      R (Except ExpressionError Value) (s.call method args) (t.call method args)) :
    R (Except ExpressionError Value) (p.eval s).run (p.eval t).run := by
  refine Program.related_eval_of_alike
    (R := fun α x y => R (Except ExpressionError α) (ExceptT.run x) (ExceptT.run y))
    { pure := fun a => stepwise.pure (Except.ok a)
      bind := fun {α β x y f g} first later => ?_ } p fun c stands => ?_
  · rw [ExceptT.run_bind, ExceptT.run_bind]
    refine stepwise.bind first fun r => ?_
    cases r with
    | ok a => exact later a
    | error e => exact stepwise.pure (Except.error e)
  · cases c with
    | read member => exact stepwise.read (get member)
    | stepped member => exact ⟨stepwise.read (get member), set member⟩
    | combined member => exact ⟨stepwise.read (get member), set member⟩
    | assigned member => exact set member
    | called method => exact call method stands

end Stepwise

end LiveTemplates
