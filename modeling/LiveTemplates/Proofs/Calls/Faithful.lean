/-
# LiveTemplates.Proofs.Calls.Faithful -- telling changes nothing

An activity that tells what it calls is to come to the same as the activity itself: to the same
result in the same world, or to no end.  What it adds to what has been told before is described
by a property of the result, of the worlds before and behind, and of the calls (`Tells`).

* `Tells.bind`, `Tells.calling`, `Tells.around`, `Tells.plain`: how activities are put together;
* `Bearing`, `Tells.evaluate`: what is needed for evaluations, and that it is enough if the methods
  tell that stand in the program;
* `Tells.copyAll`: what is told while a tree is copied.
-/
import LiveTemplates.Proofs.Calls.Telling
import LiveTemplates.Proofs.World.Stepwise

namespace LiveTemplates

set_option autoImplicit false

variable {σ α β : Type}

/-- What an activity tells comes to an end as the activity does: with the same result in the same
world and with some calls behind those told before, or not at all. -/
inductive Told.Ends (P : α → World σ → List (Episode σ) → World σ → Prop) (w : World σ)
    (told : List (Episode σ)) :
    Option (α × World σ) → Option ((α × List (Episode σ)) × World σ) → Prop
  | done {a : α} {es : List (Episode σ)} {v : World σ} (holds : P a w es v) :
      Ends P w told (some (a, v)) (some ((a, told ++ es), v))
  | endless : Ends P w told none none

/-- An activity tells what it calls, and a property holds of it. -/
def Tells (P : α → World σ → List (Episode σ) → World σ → Prop) (x : Run σ α) (y : Told σ α) :
    Prop :=
  ∀ w told, Told.Ends P w told (x.run w) ((y.run told).run w)

namespace Tells

variable {P : α → World σ → List (Episode σ) → World σ → Prop}
  {Q : α → World σ → List (Episode σ) → World σ → Prop} {x : Run σ α} {y : Told σ α}

/-! ## What comes to a result -/

/-- What comes to a result comes to it when it tells what it calls. -/
theorem told (tells : Tells P x y) {w v : World σ} {a : α} (ran : x.run w = some (a, v)) :
    ∃ es, (y.run []).run w = some ((a, es), v) ∧ P a w es v := by
  have ends := tells w []
  rw [ran] at ends
  generalize (y.run []).run w = outcome at ends
  cases ends with
  | done holds => exact ⟨_, rfl, holds⟩

/-- What comes to a result when it tells what it calls comes to it. -/
theorem ran (tells : Tells P x y) {w v : World σ} {a : α} {told es : List (Episode σ)}
    (ran : (y.run told).run w = some ((a, es), v)) :
    x.run w = some (a, v) ∧ ∃ new, es = told ++ new ∧ P a w new v := by
  have ends := tells w told
  rw [ran] at ends
  generalize x.run w = outcome at ends
  cases ends with
  | done holds => exact ⟨rfl, _, rfl, holds⟩

/-! ## One thing after the other -/

theorem imp (tells : Tells P x y) (implies : ∀ a w es v, P a w es v → Q a w es v) :
    Tells Q x y := by
  intro w told
  have ends := tells w told
  generalize x.run w = outcome, (y.run told).run w = outcome' at ends
  cases ends with
  | endless => exact .endless
  | done holds => exact .done (implies _ _ _ _ holds)

theorem congr {x' : Run σ α} (tells : Tells P x y) (same : ∀ w, x'.run w = x.run w) :
    Tells P x' y :=
  fun w told => same w ▸ tells w told

theorem pure {a : α} (holds : ∀ w, P a w [] w) : Tells P (Pure.pure a) (Pure.pure a) := by
  intro w told
  have ends : Told.Ends P w told (some (a, w)) (some ((a, told ++ []), w)) := .done (holds w)
  rwa [List.append_nil] at ends

theorem endless : Tells P (failure : Run σ α) (failure : Told σ α) :=
  fun _ _ => .endless

/-- What calls nothing tells nothing. -/
theorem plain (holds : ∀ w a v, x.run w = some (a, v) → P a w [] v) :
    Tells P x (Told.plain x) := by
  intro w told
  have ran : ((Told.plain x).run told).run w = (x.run w).map fun p => ((p.1, told), p.2) := by
    show (x.run w).bind _ = _
    cases x.run w <;> rfl
  rw [ran]
  cases same : x.run w with
  | none => exact .endless
  | some p =>
      have ends : Told.Ends P w told (some p) (some ((p.1, told ++ []), p.2)) :=
        .done (holds w p.1 p.2 same)
      rwa [List.append_nil] at ends

/-- A result, and nothing else. -/
theorem value (a : α) :
    Tells (fun b (w : World σ) es v => b = a ∧ es = [] ∧ v = w) (Pure.pure a) (Pure.pure a) :=
  pure fun _ => ⟨rfl, rfl, rfl⟩

/-- A step that always comes to an end. -/
theorem step {f : World σ → α × World σ} (run : ∀ w, x.run w = some (f w)) :
    Tells (fun a w es v => a = (f w).1 ∧ es = [] ∧ v = (f w).2) x (Told.plain x) := by
  refine plain fun w a v ran => ?_
  rw [run, Option.some.injEq] at ran
  rw [ran]
  exact ⟨rfl, rfl, rfl⟩

/-- One thing after the other, where what comes to a result is known of it. -/
theorem bind_of {C : α → Prop} {S : β → World σ → List (Episode σ) → World σ → Prop}
    {T : α → β → World σ → List (Episode σ) → World σ → Prop} {f : α → Run σ β}
    {g : α → Told σ β} (first : Tells P x y) (known : ∀ a w es v, P a w es v → C a)
    (later : ∀ a, C a → Tells (T a) (f a) (g a))
    (joins : ∀ a b w es v fs t, P a w es v → T a b v fs t → S b w (es ++ fs) t) :
    Tells S (x >>= f) (y >>= g) := by
  intro w told
  have ends := first w told
  rw [StateT.run_bind, StateT.run_bind, StateT.run_bind]
  generalize x.run w = outcome, (y.run told).run w = outcome' at ends
  cases ends with
  | endless => exact .endless
  | @done a es v holds =>
      have ends := later a (known _ _ _ _ holds) v (told ++ es)
      rw [Option.bind_eq_bind, Option.bind_eq_bind, Option.bind_some, Option.bind_some]
      generalize (f a).run v = outcome, ((g a).run (told ++ es)).run v = outcome' at ends
      cases ends with
      | endless => exact .endless
      | done holds' =>
          rw [List.append_assoc]
          exact .done (joins _ _ _ _ _ _ _ holds holds')

theorem bind {S : β → World σ → List (Episode σ) → World σ → Prop}
    {T : α → β → World σ → List (Episode σ) → World σ → Prop} {f : α → Run σ β}
    {g : α → Told σ β} (first : Tells P x y) (later : ∀ a, Tells (T a) (f a) (g a))
    (joins : ∀ a b w es v fs t, P a w es v → T a b v fs t → S b w (es ++ fs) t) :
    Tells S (x >>= f) (y >>= g) :=
  bind_of (C := fun _ => True) first (fun _ _ _ _ _ => trivial) (fun a _ => later a) joins

/-- An activity runs as a call. -/
theorem calling {what : α → Called} (tells : Tells P x y)
    (holds : ∀ a w es v, x.run w = some (a, v) → P a w es v → Q a w [.mk (what a) w v es] v) :
    Tells Q x (Told.calling what y) := by
  intro w told
  have ends := tells w []
  show Told.Ends Q w told _ (((y.run []).run w).bind _)
  cases ran : x.run w with
  | none =>
      rw [ran] at ends
      generalize (y.run []).run w = outcome at ends
      cases ends
      exact .endless
  | some p =>
      rw [ran] at ends
      generalize (y.run []).run w = outcome at ends
      cases ends with
      | done inner => exact .done (holds _ _ _ _ ran inner)

/-- The world is changed before an activity, and behind it. -/
theorem around {before after : World σ → World σ} (tells : Tells P x y)
    (holds : ∀ a w es v, P a (before w) es v → Q a w es (after v)) :
    Tells Q (do modify before; let a ← x; modify after; return a)
      (do Told.plain (modify before); let a ← y; Told.plain (modify after); return a) := by
  intro w told
  have ends := tells (before w) told
  show Told.Ends Q w told ((x.run (before w)).bind _) (((y.run told).run (before w)).bind _)
  generalize x.run (before w) = outcome, (y.run told).run (before w) = outcome' at ends
  cases ends with
  | endless => exact .endless
  | done inner => exact .done (holds _ _ _ _ inner)

theorem holding (z : Zone) (tells : Tells P x y)
    (holds : ∀ a w es v, P a { w with pins := z :: w.pins } es v →
      Q a w es { v with pins := v.pins.tail }) :
    Tells Q (Run.holding z x) (Told.holding z y) :=
  tells.around holds

/-- The world is looked at before an activity. -/
theorem look {γ : Type} {g : World σ → γ} {f : γ → Run σ α} {h : γ → Told σ α}
    {T : γ → α → World σ → List (Episode σ) → World σ → Prop} (later : ∀ c, Tells (T c) (f c) (h c))
    (holds : ∀ a w es v, T (g w) a w es v → Q a w es v) :
    Tells Q (get >>= fun w => f (g w)) (Told.plain get >>= fun w => h (g w)) := by
  intro w told
  have ends := later (g w) w told
  show Told.Ends Q w told ((f (g w)).run w) (((h (g w)).run told).run w)
  generalize (f (g w)).run w = outcome, ((h (g w)).run told).run w = outcome' at ends
  cases ends with
  | endless => exact .endless
  | done inner => exact .done (holds _ _ _ _ inner)

end Tells

/-! ## Properties that hold of steps in a row -/

/-- A property that does not see results holds of one thing after the other if it holds of each. -/
def Chains (Q : World σ → List (Episode σ) → World σ → Prop) : Prop :=
  ∀ ⦃w es v fs x⦄, Q w es v → Q v fs x → Q w (es ++ fs) x

namespace Tells

variable {Q : World σ → List (Episode σ) → World σ → Prop} (chains : Chains Q)

include chains

theorem seq {x : Run σ α} {y : Told σ α} {f : α → Run σ β} {g : α → Told σ β}
    (first : Tells (fun _ => Q) x y) (later : ∀ a, Tells (fun _ => Q) (f a) (g a)) :
    Tells (fun _ => Q) (x >>= f) (y >>= g) :=
  bind first later fun _ _ _ _ _ _ _ before behind => chains before behind

theorem foldlM (nothing : ∀ w, Q w [] w) {f : β → α → Run σ β} {g : β → α → Told σ β} (as : List α)
    (each : ∀ b, ∀ a ∈ as, Tells (fun _ => Q) (f b a) (g b a)) (b : β) :
    Tells (fun _ => Q) (as.foldlM f b) (as.foldlM g b) := by
  induction as generalizing b with
  | nil => exact pure nothing
  | cons a rest ih =>
      rw [List.foldlM_cons, List.foldlM_cons]
      exact seq chains (each b a (by simp)) fun b =>
        ih (fun b a member => each b a (List.mem_cons_of_mem _ member)) b

end Tells

/-! ## Evaluating -/

/-- What has to be allowed for evaluations: they read, write and report in the user's own state,
and an object is busy meanwhile. -/
structure Bearing (Q : World σ → List (Episode σ) → World σ → Prop) : Prop where
  chains : Chains Q
  own : ∀ w s, Q w [] { w with user := s }
  borrowed : ∀ ⦃w es v o⦄, Q { w with busy := o :: w.busy } es v →
    Q w es { v with busy := v.busy.erase o }

namespace Tells

variable {Q : World σ → List (Episode σ) → World σ → Prop} (bearing : Bearing Q)
  {u : UserCode σ} {t : Teller σ}

include bearing

theorem nothing (a : α) : Tells (fun _ => Q) (Pure.pure a) (Pure.pure a) :=
  pure fun w => bearing.own w w.user

theorem own {x : Run σ α} {f : World σ → α × σ}
    (run : ∀ w, x.run w = some ((f w).1, { w with user := (f w).2 })) :
    Tells (fun _ => Q) x (Told.plain x) := by
  refine plain fun w a v ran => ?_
  rw [run, Option.some.injEq, Prod.mk.injEq] at ran
  rw [← ran.2]
  exact bearing.own w _

theorem notice (n : Notice) :
    Tells (fun _ => Q) (Run.notice u n) (Told.plain (Run.notice u n)) :=
  own bearing (f := fun w => ((), u.notice n w.user)) (Run.run_notice u n)

theorem stepwise :
    Stepwise fun (α : Type) (x : Run σ α) (y : Told σ α) => Tells (fun _ => Q) x y where
  pure a := nothing bearing a
  bind first later := seq bearing.chains first later

/-- What a program can reach tells what it calls if the methods do that stand in it. -/
theorem eval {p : Program} {o : ObjectId} (call : ∀ method, p.Calls method → ∀ args,
      Tells (fun _ => Q) (u.call o method args) (t.call o method args)) :
    Tells (fun _ => Q) (p.eval (u.scope o)).run (p.eval (Told.scope u t o)).run :=
  (stepwise bearing).eval (fun member => own bearing (Run.run_onUser (u.get o member)))
    (fun member v => own bearing (Run.run_onUser (u.set o member v))) call

theorem evaluate {e : Expression} {o : ObjectId} (call : ∀ method, e.program.Calls method → ∀ args,
      Tells (fun _ => Q) (u.call o method args) (t.call o method args)) :
    Tells (fun _ => Q) (e.evaluate u o) (Told.evaluate u t e o) := by
  have during : Tells (fun _ => Q) (Run.borrowing o (e.program.eval (u.scope o)).run)
      (Told.borrowing o (e.program.eval (Told.scope u t o)).run) :=
    (eval bearing call).around fun _ _ _ _ inner => bearing.borrowed inner
  refine congr (look (g := fun w : World σ => w.busy.contains o) (T := fun _ _ => Q)
    (f := fun busy => if busy then return .error (.reentrant e.source)
      else Run.borrowing o (e.program.eval (u.scope o)).run)
    (h := fun busy => if busy then return .error (.reentrant e.source)
      else Told.borrowing o (e.program.eval (Told.scope u t o)).run) (fun busy => ?_)
    fun _ _ _ _ => id) fun w => ?_
  · cases busy with
    | true => exact nothing bearing _
    | false => exact during
  · rw [Expression.run_evaluate]
    show _ = (if w.busy.contains o then _ else _ : Run σ _).run w
    split <;> rfl

/-- Running the refresh of an input evaluates its value, and shows it. -/
theorem refreshBound {node : NodeId} {attr : String} {value : Expression} {o : ObjectId}
    (call : ∀ method, value.program.Calls method → ∀ args,
      Tells (fun _ => Q) (u.call o method args) (t.call o method args))
    (shows : ∀ w text, Q w [] { w with forest := (w.forest.setAttr node attr text).2 }) :
    Tells (fun _ => Q) (Refresh.run u (.bound node attr value o))
      (Told.refresh u t (.bound node attr value o)) := by
  refine seq bearing.chains (evaluate bearing call) fun r => ?_
  cases r with
  | error e => exact nothing bearing (Except.error e)
  | ok x =>
      refine seq bearing.chains (plain fun w _ v ran => ?_) fun _ => nothing bearing (Except.ok ())
      rw [Run.run_onForest, Option.some.injEq, Prod.mk.injEq] at ran
      rw [← ran.2]
      exact shows w x.display

end Tells

/-! ## Copying -/

namespace Told

theorem bind_apply (x : Told σ α) (f : α → Told σ β) (told : List (Episode σ)) :
    (x >>= f) told = x told >>= fun p => f p.1 p.2 := rfl

/-- What calls nothing hands on what was told. -/
theorem plain_bind (x : Run σ α) (f : α → Told σ β) (told : List (Episode σ)) :
    (plain x >>= f) told = x >>= fun a => f a told := by
  show ((x >>= fun a => pure (a, told)) >>= fun p => f p.1 p.2) = _
  rw [bind_assoc]
  exact bind_congr fun a => pure_bind _ _

variable {ω : Type} (wire : List Nat → NodeId → ω → Told σ ω)

theorem copy_node (address : List Nat) (d : NodeData) (ts : List Tree) (s : ω) :
    copy wire address (.node d ts) s = do
      let live ← plain (Run.onForest (·.add d))
      let s ← copyAll wire live address 0 ts s
      let s ← wire address live s
      return (live, s) := by
  funext told
  rw [plain_bind, copy, Wiring.copy, bind_assoc]
  refine bind_congr fun live => ?_
  rw [bind_apply, copyAll, bind_assoc]
  refine bind_congr fun p => ?_
  rw [bind_apply, bind_assoc]
  exact bind_congr fun _ => pure_bind _ _

theorem copyAll_nil (parent : NodeId) (address : List Nat) (i : Nat) (s : ω) :
    copyAll wire parent address i [] s = return s := by
  funext told
  exact Wiring.copyAll.eq_1 ..

theorem copyAll_cons (parent : NodeId) (address : List Nat) (i : Nat) (t : Tree) (ts : List Tree)
    (s : ω) :
    copyAll wire parent address i (t :: ts) s = (do
      let (live, s) ← copy wire (address ++ [i]) t s
      plain (modify fun world => { world with forest := world.forest.append parent live })
      copyAll wire parent address (i + 1) ts s) := by
  funext told
  rw [bind_apply, copy, bind_assoc, copyAll, Wiring.copyAll]
  refine bind_congr fun (live, s, told) => ?_
  dsimp only
  rw [pure_bind, plain_bind]
  rfl

end Told

namespace Tells

variable {ω : Type} {Q : World σ → List (Episode σ) → World σ → Prop} (chains : Chains Q)
  (changes : ∀ w forest, Q w [] { w with forest := forest })
  {wire : List Nat → NodeId → ω → Run σ ω} {wire' : List Nat → NodeId → ω → Told σ ω}

include changes

/-- A step that changes nodes. -/
theorem onForest {x : Run σ α} {f : World σ → α × Forest}
    (run : ∀ w, x.run w = some ((f w).1, { w with forest := (f w).2 })) :
    Tells (fun _ => Q) x (Told.plain x) := by
  refine plain fun w a v ran => ?_
  rw [run, Option.some.injEq, Prod.mk.injEq] at ran
  rw [← ran.2]
  exact changes w _

include chains

mutual

theorem copy
    (wires : ∀ address live s, Tells (fun _ => Q) (wire address live s) (wire' address live s)) :
    ∀ (address : List Nat) (t : Tree) (s : ω), Tells (fun _ => Q) (Wiring.copy wire address t s) (Told.copy wire' address t s)
  | address, .node d ts, s => by
      rw [Wiring.copy, Told.copy_node]
      refine seq chains (onForest changes (Run.run_onForest _)) fun live => ?_
      refine seq chains (copyAll wires live address 0 ts s) fun s => ?_
      exact seq chains (wires address live s) fun s => pure fun w => changes w w.forest

theorem copyAll
    (wires : ∀ address live s, Tells (fun _ => Q) (wire address live s) (wire' address live s)) :
    ∀ (parent : NodeId) (address : List Nat) (i : Nat) (ts : List Tree) (s : ω),
    Tells (fun _ => Q) (Wiring.copyAll wire parent address i ts s)
      (Told.copyAll wire' parent address i ts s)
  | parent, address, i, [], s => by
      rw [Wiring.copyAll, Told.copyAll_nil]
      exact pure fun w => changes w w.forest
  | parent, address, i, t :: ts, s => by
      rw [Wiring.copyAll, Told.copyAll_cons]
      refine seq chains (copy wires (address ++ [i]) t s) fun p => ?_
      refine seq chains (onForest changes (f := fun w => ((), w.forest.append parent p.1))
        fun _ => rfl) fun _ => ?_
      exact copyAll wires parent address (i + 1) ts p.2

end

end Tells

end LiveTemplates
