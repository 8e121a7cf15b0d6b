/-
# LiveTemplates.Proofs.Instance.Deafness -- where no methods are called, there need be none

If the programs of inputs call no methods, then attaching does the same with a user's code that has
no methods to be called: code that is deaf to calls.

* `UserCode.deaf`: a user's code without methods;
* `Expression.evaluate_deaf`: an evaluation is the same with it, if the program calls none;
* `Blueprint.CallFree.attach_deaf`: so is attaching, if the programs of the inputs call none.
-/
import LiveTemplates.Proofs.Instance.Halting
import LiveTemplates.Proofs.Instance.Mounting

namespace LiveTemplates

set_option autoImplicit false

variable {σ : Type}

/-- The user's code as it is, with methods that never return. -/
def UserCode.deaf (u : UserCode σ) : UserCode σ :=
  { u with call := fun _ _ _ => failure }

variable {u : UserCode σ}

/-- So all that methods are asked for holds of them. -/
theorem UserCode.keeps_deaf {R : World σ → World σ → Prop} (o : ObjectId) (method : String)
    (args : List Value) : LiveTemplates.Keeps R (u.deaf.call o method args) :=
  fun _ _ _ ran => by cases ran

theorem Run.notice_deaf (n : Notice) : Run.notice u.deaf n = Run.notice u n :=
  rfl

theorem Run.construct_deaf (c : ClassRef) : Run.construct u.deaf c = Run.construct u c :=
  rfl

theorem Expression.evaluate_deaf {e : Expression} (free : ∀ method, ¬ e.program.Calls method)
    (o : ObjectId) : e.evaluate u.deaf o = e.evaluate u o := by
  have eval : e.program.eval (u.deaf.scope o) = e.program.eval (u.scope o) := by
    refine Program.related_eval_of_alike (R := fun α x y => x = y)
      { pure := fun _ => rfl
        bind := fun first later => by rw [first, funext later] } e.program fun c stands => ?_
    cases c with
    | read member => exact rfl
    | stepped member | combined member => exact ⟨rfl, fun _ => rfl⟩
    | assigned member => exact fun _ => rfl
    | called method => exact (free method stands).elim
  rw [Expression.evaluate, Expression.evaluate, eval]

theorem Binding.attach_deaf {b : Binding} (free : b.kind = .input →
    ∀ e, b.expression = .ok e → ∀ method, ¬ e.program.Calls method) (live : NodeId) (o : ObjectId)
    (z : Zone) : b.attach u.deaf live o z = b.attach u live o z := by
  unfold Binding.attach
  cases compiled : b.expression with
  | error e => rfl
  | ok e =>
      cases kind : b.kind with
      | output => rfl
      | input =>
          have same : Refresh.run u.deaf (.bound live b.name e o) =
              Refresh.run u (.bound live b.name e o) := by
            rw [Refresh.run, Refresh.run, Expression.evaluate_deaf (free kind e compiled)]
          have attached : b.attachInput u.deaf e live o z = b.attachInput u e live o z := by
            unfold Binding.attachInput
            simp only [same, Run.notice_deaf]
          exact congrArg (· >>= _) attached

theorem Wiring.wireBindings_deaf {bindings : List (Spot × Binding)} (free : ∀ b ∈ bindings,
      b.2.kind = .input → ∀ e, b.2.expression = .ok e → ∀ method, ¬ e.program.Calls method)
    (z : Zone) (o : ObjectId) (address : List Nat) (live : NodeId) :
    Wiring.wireBindings u.deaf z o bindings address live =
      Wiring.wireBindings u z o bindings address live := by
  have each : ∀ bs : List (Spot × Binding), bs ⊆ bindings → ∀ s : Wiring,
      bs.foldlM (fun w b => do return w.add (← b.2.attach u.deaf live o z)) s =
        bs.foldlM (fun w b => do return w.add (← b.2.attach u live o z)) s := by
    intro bs sub
    induction bs with
    | nil => exact fun _ => rfl
    | cons b bs ih =>
        obtain ⟨member, others⟩ := List.cons_subset.1 sub
        intro s
        rw [List.foldlM_cons, List.foldlM_cons, Binding.attach_deaf (free b member)]
        exact congrArg (_ >>= ·) (funext (ih others))
  exact funext (each _ List.filter_sublist.subset)

namespace Blueprint

theorem CallFree.own {b : Blueprint} (free : b.CallFree) : ∀ binding ∈ b.bindings,
    binding.2.kind = .input → ∀ e, binding.2.expression = .ok e →
      ∀ method, ¬ e.program.Calls method := by
  refine free b ?_
  rw [all_eq]
  exact List.mem_cons_self

theorem CallFree.child {b : Blueprint} (free : b.CallFree) : ∀ child ∈ b.children,
    child.2.CallFree := by
  intro child member d inside
  refine free d ?_
  rw [all_eq]
  exact List.mem_cons_of_mem _ (List.mem_flatMap.2 ⟨child, member, inside⟩)

/-- So is mounting a blueprint, if it is for the blueprints inside. -/
theorem CallFree.mount_deaf_of_inside {b : Blueprint} (free : b.CallFree) {z : Zone}
    (inside : ∀ objects : List ObjectId,
      mountings u.deaf z b.children objects = mountings u z b.children objects)
    (o : ObjectId) (host : NodeId) : b.mount u.deaf z o host = b.mount u z o host := by
  have constructed : b.constructChildren u.deaf = b.constructChildren u := rfl
  have wired (objects : List ObjectId) : b.wire u.deaf z o objects = b.wire u z o objects := by
    unfold wire
    rw [inside]
    exact funext fun address => funext fun live => funext fun s =>
      congrArg (· >>= _) (congrFun (Wiring.wireBindings_deaf free.own z o address live) s)
  rw [mount_eq, mount_eq, constructed]
  simp only [wired]

mutual

theorem mount_deaf (z : Zone) : ∀ (b : Blueprint), b.CallFree → ∀ (o : ObjectId) (host : NodeId),
    b.mount u.deaf z o host = b.mount u z o host
  | .mk _ _ _ _ children _, free, o, host =>
      free.mount_deaf_of_inside (mountings_deaf z children free.child) o host

theorem mountings_deaf (z : Zone) : ∀ (children : List (Spot × Blueprint)),
    (∀ child ∈ children, child.2.CallFree) → ∀ objects : List ObjectId,
      mountings u.deaf z children objects = mountings u z children objects
  | [], _, _ => by rw [mountings, mountings]
  | (spot, b) :: rest, free, [] => by
      obtain ⟨first, others⟩ := List.forall_mem_cons.1 free
      rw [mountings, mountings, mountings_deaf z rest others]
      simp only [mount_deaf z b first, Run.construct_deaf]
  | (spot, b) :: rest, free, o :: objects => by
      obtain ⟨first, others⟩ := List.forall_mem_cons.1 free
      rw [mountings, mountings, mountings_deaf z rest others, funext (mount_deaf z b first o)]

end

/-- Attaching a blueprint is the same with code that has no methods. -/
theorem CallFree.attach_deaf {b : Blueprint} (free : b.CallFree) (host : NodeId) (z : Zone) :
    b.attach u.deaf host z = b.attach u host z := by
  rw [attach, attach]
  simp only [mount_deaf z b free, Run.construct_deaf]

end Blueprint

end LiveTemplates
