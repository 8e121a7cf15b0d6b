/-
# LiveTemplates.Proofs.Instance.Halting -- attaching comes to an end

Only methods of the user can go on without an end: reading, writing and making objects are
changes of the user's own state.  So an evaluation comes to an end if the methods do that stand
in its program, and attaching does if the methods do that stand in the programs of inputs.

* `Run.Halts`: an activity comes to an end in whatever world;
* `Run.Halts.evaluate`: an evaluation does if the methods do that its program calls;
* `Blueprint.all`, `Blueprint.CallFree`: a blueprint with all blueprints inside of it, the inputs
  of which call no methods;
* `Blueprint.CallFree.attach_halts`: attaching such a blueprint comes to an end.
-/
import LiveTemplates.Proofs.Instance.Composition

namespace LiveTemplates

set_option autoImplicit false

variable {σ α β : Type}

/-! ## Activities that come to an end -/

/-- An activity comes to an end, in whatever world it starts. -/
def Run.Halts (x : Run σ α) : Prop :=
  ∀ w, ∃ a v, x.run w = some (a, v)

namespace Run.Halts

theorem total {x : Run σ α} {g : World σ → α × World σ} (run : ∀ w, x.run w = some (g w)) :
    x.Halts :=
  fun w => ⟨(g w).1, (g w).2, run w⟩

theorem pure (a : α) : Halts (pure a : Run σ α) :=
  total fun _ => rfl

theorem bind {x : Run σ α} {f : α → Run σ β} (first : x.Halts) (later : ∀ a, (f a).Halts) :
    Halts (x >>= f) := by
  intro w
  obtain ⟨a, v, ran⟩ := first w
  obtain ⟨b, t, rest⟩ := later a v
  exact ⟨b, t, bind_eq_some.2 ⟨a, v, ran, rest⟩⟩

theorem borrowing (o : ObjectId) {x : Run σ α} (inner : x.Halts) : (Run.borrowing o x).Halts := by
  intro w
  obtain ⟨a, v, ran⟩ := inner { w with busy := o :: w.busy }
  exact ⟨a, _, by rw [run_borrowing, ran]; rfl⟩

theorem holding (z : Zone) {x : Run σ α} (inner : x.Halts) : (Run.holding z x).Halts := by
  intro w
  obtain ⟨a, v, ran⟩ := inner { w with pins := z :: w.pins }
  exact ⟨a, _, by rw [run_holding, ran]; rfl⟩

variable {u : UserCode σ} {e : Expression} {o : ObjectId}

/-- An evaluation comes to an end if the methods do that its program calls. -/
theorem evaluate (call : ∀ method, e.program.Calls method → ∀ args, (u.call o method args).Halts) :
    (e.evaluate u o).Halts := by
  have eval : (e.program.eval (u.scope o)).run.Halts := by
    refine Program.closed_eval_of_each (P := fun α x => Halts (ExceptT.run x))
      (fun a => pure (Except.ok a)) (fun first later => ?_) e.program fun c stands => ?_
    · rw [ExceptT.run_bind]
      refine bind first fun r => ?_
      cases r with
      | ok a => exact later a
      | error e => exact pure (Except.error e)
    · have read (member : String) : ((u.scope o).read member).run.Halts :=
        total (u.run_read o member)
      have write (member : String) (v : Value) : ((u.scope o).write member v).run.Halts :=
        total (run_onUser (u.set o member v))
      cases c with
      | read member => exact read member
      | stepped member => exact ⟨read member, write member⟩
      | combined member => exact ⟨read member, write member⟩
      | assigned member => exact write member
      | called method => exact call method stands
  intro w
  rw [Expression.run_evaluate]
  split
  · exact ⟨_, _, rfl⟩
  · exact borrowing o eval w

/-- So does showing the value. -/
theorem refreshBound {live : NodeId} {name : String}
    (call : ∀ method, e.program.Calls method → ∀ args, (u.call o method args).Halts) :
    (Refresh.run u (.bound live name e o)).Halts := by
  refine bind (evaluate call) fun r => ?_
  cases r with
  | error e => exact pure _
  | ok v => exact bind (total (run_onForest _)) fun _ => pure _

end Run.Halts

/-- The methods come to an end that a refresh calls in an evaluation. -/
def Refresh.Safe (u : UserCode σ) (r : Refresh) : Prop :=
  ∀ live name e o, r = .bound live name e o →
    ∀ method, e.program.Calls method → ∀ args, (u.call o method args).Halts

/-- What attaching does by itself comes to an end. -/
theorem Run.Halts.composes (u : UserCode σ) (z : Zone) :
    Composes u z (Refresh.Safe u) fun _ x => Run.Halts x where
  pure := pure
  bind := bind
  notice n := total (run_notice u n)
  fresh := total run_fresh
  construct _ := total fun _ => rfl
  onForest f := total (run_onForest f)
  append _ _ := total fun _ => rfl
  addRefresh _ _ := total fun _ => rfl
  shows live name e o safe := refreshBound (safe live name e o rfl)
  addWrapped _ _ _ _ _ := total fun _ => rfl
  enroll _ := total fun _ => rfl
  holding := holding z

/-! ## Inputs that call no methods -/

namespace Blueprint

mutual

/-- A blueprint with all blueprints inside of it, each as often as it is used. -/
def all : Blueprint → List Blueprint
  | mk compiler cls template bindings children warnings =>
    mk compiler cls template bindings children warnings :: allOf children

/-- Several blueprints with all blueprints inside of them. -/
def allOf : List (Spot × Blueprint) → List Blueprint
  | [] => []
  | (_, b) :: rest => b.all ++ allOf rest

end

theorem allOf_eq (children : List (Spot × Blueprint)) :
    allOf children = children.flatMap (·.2.all) := by
  induction children with
  | nil => rfl
  | cons child rest ih => rw [allOf, ih, List.flatMap_cons]

theorem all_eq (b : Blueprint) : b.all = b :: b.children.flatMap (·.2.all) := by
  obtain ⟨compiler, cls, template, bindings, children, warnings⟩ := b
  rw [all, allOf_eq]
  rfl

theorem mem_all_of_inside {b d : Blueprint} (inside : Relation.ReflTransGen Contains b d) :
    d ∈ b.all := by
  induction inside using Relation.ReflTransGen.head_induction_on with
  | refl =>
      rw [all_eq]
      exact List.mem_cons_self
  | head contains _ ih =>
      obtain ⟨spot, member⟩ := contains
      rw [all_eq]
      exact List.mem_cons_of_mem _ (List.mem_flatMap.2 ⟨_, member, ih⟩)

/-- The programs of the inputs of a blueprint, and of the blueprints inside of it, call no
methods. -/
def CallFree (b : Blueprint) : Prop :=
  ∀ d ∈ b.all, ∀ binding ∈ d.bindings, binding.2.kind = .input →
    ∀ e, binding.2.expression = .ok e → ∀ method, ¬ e.program.Calls method

theorem CallFree.allows {b : Blueprint} (free : b.CallFree) (u : UserCode σ) :
    b.Allows (Refresh.Safe u) := by
  intro d inside binding member e kind compiled live o _ _ _ _ same method calls
  cases same
  exact (free d (mem_all_of_inside inside) binding member kind e compiled method calls).elim

/-- Attaching such a blueprint comes to an end. -/
theorem CallFree.attach_halts {b : Blueprint} (free : b.CallFree) (u : UserCode σ) (host : NodeId)
    (z : Zone) : (b.attach u host z).Halts :=
  (Run.Halts.composes u z).attach b host (free.allows u)

end Blueprint

end LiveTemplates
