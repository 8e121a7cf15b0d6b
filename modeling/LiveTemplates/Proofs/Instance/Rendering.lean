/-
# LiveTemplates.Proofs.Instance.Rendering -- the rendered template of a blueprint

What an attached blueprint looks like can be told without any nodes that change: by
recursion over the template, with an element's inputs shown in its attributes, and the
components that are on it rendered behind its children (`Blueprint.render`).  Rendering
works on nothing but the user's own state, since expressions are evaluated against the
user's objects, and takes the numbers of new objects from a supply.

* `Renders`: an activity ends, and does to the user's own state what a rendering does;
* `Renders.construct_all`: so does making the objects for the children;
* `Binding.attach_shows`: so does attaching a binding that watches, and the live element
  shows what is rendered.
-/
import LiveTemplates.Proofs.Forest.Growth
import LiveTemplates.Proofs.Instance.Mounting
import LiveTemplates.Proofs.World.Evolution

namespace LiveTemplates

set_option autoImplicit false

variable {σ α β γ δ : Type}

/-! ## Rendering -/

/-- Work on the user's own state, with a supply of numbers for new objects. -/
abbrev Rendering (σ : Type) := StateM (σ × List ObjectId)

namespace Rendering

/-- A change of the user's own state. -/
def onUser (f : σ → α × σ) : Rendering σ α :=
  modifyGet fun (s, supply) => ((f s).1, (f s).2, supply)

/-- Reports something. -/
def report (u : UserCode σ) (n : Notice) : Rendering σ Unit :=
  onUser fun s => ((), u.notice n s)

/-- A new object of a class. -/
def construct (u : UserCode σ) (c : ClassRef) : Rendering σ ObjectId :=
  modifyGet fun (s, supply) =>
    (supply.headD 0, u.construct c (supply.headD 0) s, supply.tail)

/-- The members of an object.  There are no methods. -/
def scope (u : UserCode σ) (o : ObjectId) : Scope (Rendering σ) where
  get member := onUser (u.get o member)
  set member v := onUser (u.set o member v)
  call method _ := pure (.error (.unknownMethod method))

end Rendering

/-- An element with the value of one of its inputs.  An input without a value leaves the
element as it is. -/
def Binding.render (u : UserCode σ) (o : ObjectId) (d : NodeData) (b : Binding) :
    Rendering σ NodeData := do
  match b.expression with
  | .error e =>
    Rendering.report u (.skipped b.written e)
    return d
  | .ok e =>
    match b.kind with
    | .output => return d
    | .input =>
      match ← (e.program.eval (Rendering.scope u o)).run with
      | .ok v => return d.setAttr b.name v.display
      | .error e =>
        Rendering.report u (.unshown b.written e)
        return d

mutual

/-- The copy of a tree.  Each node gets its content, and more children at its end, from what
it held and its address. -/
def Tree.render (furnish : List Nat → NodeData → Rendering σ (NodeData × List Tree))
    (address : List Nat) : Tree → Rendering σ Tree
  | .node d ts => do
    let below ← renderAll furnish address 0 ts
    let (d, more) ← furnish address d
    return .node d (below ++ more)

/-- The copies of the children of a node, from an index on. -/
def Tree.renderAll (furnish : List Nat → NodeData → Rendering σ (NodeData × List Tree))
    (address : List Nat) : Nat → List Tree → Rendering σ (List Tree)
  | _, [] => return []
  | i, t :: ts => do
    let first ← t.render furnish (address ++ [i])
    return first :: (← renderAll furnish address (i + 1) ts)

end

/-- What a node of a template becomes: its inputs are shown in the order of its attributes, and
the components on it are rendered behind its children. -/
def Rendering.furnish (u : UserCode σ) (o : ObjectId)
    (parts : List (Spot × Rendering σ (List Tree))) (address : List Nat) (d : NodeData) :
    Rendering σ (NodeData × List Tree) := do
  let d ← (Binding.among d.attrs).foldlM (Binding.render u o) d
  let more ← (parts.filter (·.1.address = address)).mapM (·.2)
  return (d, more.flatten)

mutual

/-- The template of a blueprint, rendered for an object.  Each component in it gets a new
object. -/
def Blueprint.render (u : UserCode σ) : Blueprint → ObjectId → Rendering σ (List Tree)
  | .mk _ _ template _ children _, o => do
    let objects ← (children.map (·.2.cls)).mapM (Rendering.construct u)
    Tree.renderAll (Rendering.furnish u o (renderings u children objects)) [] 0
      template.root.children

/-- The ways in which the children of a blueprint are rendered, for their objects. -/
def Blueprint.renderings (u : UserCode σ) :
    List (Spot × Blueprint) → List ObjectId → List (Spot × Rendering σ (List Tree))
  | (spot, b) :: rest, o :: os => (spot, b.render u o) :: renderings u rest os
  | _, _ => []

end

/-! ## Running and rendering -/

/-- From one world to another, the same has happened to the user's own state as in a rendering,
for objects that are new.  Nothing has become busy. -/
structure Accords (y : Rendering σ β) (w v : World σ) (b : β) : Prop where
  later : w.serial ≤ v.serial
  busy : v.busy = w.busy
  objects : ∃ os : List ObjectId, os.Nodup ∧ (∀ o ∈ os, w.serial ≤ o ∧ o < v.serial) ∧
    ∀ rest, y.run (w.user, os ++ rest) = (b, v.user, rest)

namespace Accords

variable {y : Rendering σ β} {g : β → Rendering σ γ} {w v x : World σ} {b : β} {c : γ}

theorem quiet (later : w.serial ≤ v.serial) (busy : v.busy = w.busy)
    (same : ∀ supply, y.run (w.user, supply) = (b, v.user, supply)) : Accords y w v b :=
  ⟨later, busy, [], List.nodup_nil, nofun, same⟩

theorem bind (first : Accords y w v b) (second : Accords (g b) v x c) :
    Accords (y >>= g) w x c := by
  obtain ⟨os, distinct, new, same⟩ := first.objects
  obtain ⟨os', distinct', new', same'⟩ := second.objects
  refine ⟨Nat.le_trans first.later second.later, second.busy.trans first.busy, os ++ os', ?_, ?_,
    fun rest => ?_⟩
  · rw [List.nodup_append]
    exact ⟨distinct, distinct', fun o here o' there =>
      Nat.ne_of_lt (Nat.lt_of_lt_of_le (new o here).2 (new' o' there).1)⟩
  · intro o member
    rcases List.mem_append.1 member with here | there
    · exact ⟨(new o here).1, Nat.lt_of_lt_of_le (new o here).2 second.later⟩
    · exact ⟨Nat.le_trans first.later (new' o there).1, (new' o there).2⟩
  · rw [List.append_assoc, StateT.run_bind, same, ← same' rest]
    rfl

end Accords

/-- From a world on, an activity ends and does to the user's own state what a rendering does;
something holds of both outcomes and the world behind. -/
def Renders (x : Run σ α) (y : Rendering σ β) (w : World σ) (P : α → β → World σ → Prop) : Prop :=
  ∃ a b v, x.run w = some (a, v) ∧ Accords y w v b ∧ P a b v

namespace Renders

variable {x : Run σ α} {y : Rendering σ β} {f : α → Run σ γ} {g : β → Rendering σ δ}
  {w : World σ} {P P' : α → β → World σ → Prop} {Q : γ → δ → World σ → Prop}

theorem pure {a : α} {b : β} (holds : P a b w) : Renders (pure a) (pure b) w P :=
  ⟨a, b, w, rfl, .quiet (Nat.le_refl _) rfl fun _ => rfl, holds⟩

theorem bind (first : Renders x y w P)
    (later : ∀ a b v, P a b v → w.serial ≤ v.serial → v.busy = w.busy → Renders (f a) (g b) v Q) :
    Renders (x >>= f) (y >>= g) w Q := by
  obtain ⟨a, b, v, ran, accords, holds⟩ := first
  obtain ⟨c, d, x, ran', accords', holds'⟩ := later a b v holds accords.later accords.busy
  exact ⟨c, d, x, Run.bind_eq_some.2 ⟨a, v, ran, ran'⟩, accords.bind accords', holds'⟩

theorem imp (first : Renders x y w P) (weaker : ∀ a b v, P a b v → P' a b v) :
    Renders x y w P' := by
  obtain ⟨a, b, v, ran, accords, holds⟩ := first
  exact ⟨a, b, v, ran, accords, weaker a b v holds⟩

/-- Where rendering goes on behind what is rendered. -/
theorem map {Q : α → δ → World σ → Prop} (first : Renders x y w P) (g : β → δ)
    (later : ∀ a b v, P a b v → Q a (g b) v) : Renders x (y >>= fun b => Pure.pure (g b)) w Q := by
  have both := first.bind (f := Pure.pure) (g := fun b => Pure.pure (g b))
    fun a b v holds _ _ => .pure (later a b v holds)
  rwa [bind_pure] at both

/-- A step that a rendering does not have. -/
theorem skip {a : α} {v : World σ} (ran : x.run w = some (a, v)) (user : v.user = w.user)
    (later : w.serial ≤ v.serial) (busy : v.busy = w.busy) {y : Rendering σ δ}
    (rest : Renders (f a) y v Q) : Renders (x >>= f) y w Q := by
  obtain ⟨c, d, x, ran', accords, holds⟩ := rest
  refine ⟨c, d, x, Run.bind_eq_some.2 ⟨a, v, ran, ran'⟩, ?_, holds⟩
  obtain ⟨os, distinct, new, same⟩ := accords.objects
  exact ⟨Nat.le_trans later accords.later, accords.busy.trans busy, os, distinct,
    fun o member => ⟨Nat.le_trans later (new o member).1, (new o member).2⟩,
    fun rest => user ▸ same rest⟩

theorem report (u : UserCode σ) (n : Notice) (w : World σ) :
    Renders (Run.notice u n) (Rendering.report u n) w fun _ _ v => v.forest = w.forest :=
  ⟨(), (), _, Run.run_notice u n w, .quiet (Nat.le_refl _) rfl fun _ => rfl, rfl⟩

theorem construct (u : UserCode σ) (c : ClassRef) (w : World σ) :
    Renders (Run.construct u c) (Rendering.construct u c) w fun o o' v =>
      o = w.serial ∧ o' = o ∧ v.serial = w.serial + 1 ∧ v.forest = w.forest := by
  refine ⟨w.serial, w.serial, _, rfl, ⟨Nat.le_succ _, rfl, [w.serial], List.nodup_singleton _,
    fun o member => ?_, fun rest => rfl⟩, rfl, rfl, rfl, rfl⟩
  rw [List.mem_singleton.1 member]
  exact ⟨Nat.le_refl _, Nat.lt_succ_self _⟩

end Renders

/-! ## New objects -/

/-- Some objects are busy, and all of these have been made. -/
def World.Holding (busy : List ObjectId) (w : World σ) : Prop :=
  w.busy = busy ∧ ∀ o ∈ busy, o < w.serial

theorem World.Holding.later {busy : List ObjectId} {w v : World σ} (holding : w.Holding busy)
    (later : w.serial ≤ v.serial) (same : v.busy = w.busy) : v.Holding busy :=
  ⟨same.trans holding.1, fun o member => Nat.lt_of_lt_of_le (holding.2 o member) later⟩

/-- The objects of the children are made in the same order, and none of them is busy. -/
theorem Renders.construct_all (u : UserCode σ) {busy : List ObjectId} :
    ∀ (classes : List ClassRef) {w : World σ}, w.Holding busy →
      Renders (classes.mapM (Run.construct u)) (classes.mapM (Rendering.construct u)) w
        fun os os' v => os' = os ∧ os.length = classes.length ∧ (∀ o ∈ os, o ∉ busy) ∧
          v.forest = w.forest
  | [], w, _ => .pure ⟨rfl, rfl, nofun, rfl⟩
  | c :: rest, w, holding => by
      simp only [List.mapM_cons]
      refine (Renders.construct u c w).bind fun o o' v ⟨number, same, _, forest⟩ later busy => ?_
      refine (construct_all u rest (holding.later later busy)).bind
        fun os os' x ⟨same', length, free, forest'⟩ _ _ => .pure ?_
      refine ⟨by rw [same, same'], by simp [length], ?_, forest'.trans forest⟩
      refine List.forall_mem_cons.2 ⟨fun inside => ?_, free⟩
      exact absurd (holding.2 o inside) (by rw [number]; exact Nat.lt_irrefl _)

/-! ## Inputs -/

/-- Two ways of evaluating do the same to the user's own state, and nothing else. -/
def Rendering.Same (α : Type) (x : ExceptT ExpressionError (Run σ) α)
    (y : ExceptT ExpressionError (Rendering σ) α) : Prop :=
  ∀ w : World σ, ∃ r s, x.run.run w = some (r, { w with user := s }) ∧
    ∀ supply, y.run.run (w.user, supply) = (r, s, supply)

theorem Rendering.Same.bind {α β : Type} {x : ExceptT ExpressionError (Run σ) α}
    {y : ExceptT ExpressionError (Rendering σ) α} {f : α → ExceptT ExpressionError (Run σ) β}
    {g : α → ExceptT ExpressionError (Rendering σ) β} (first : Same α x y)
    (later : ∀ a, Same β (f a) (g a)) : Same β (x >>= f) (y >>= g) := by
  intro w
  obtain ⟨r, s, ran, same⟩ := first w
  cases r with
  | error e =>
      refine ⟨.error e, s, ?_, fun supply => ?_⟩
      · rw [ExceptT.run_bind]
        exact Run.bind_eq_some.2 ⟨_, _, ran, rfl⟩
      · rw [ExceptT.run_bind, StateT.run_bind, same]
        rfl
  | ok a =>
      obtain ⟨r, s', ran', same'⟩ := later a { w with user := s }
      refine ⟨r, s', ?_, fun supply => ?_⟩
      · rw [ExceptT.run_bind]
        exact Run.bind_eq_some.2 ⟨_, _, ran, ran'⟩
      · rw [ExceptT.run_bind, StateT.run_bind, same]
        exact same' supply

theorem Rendering.Same.read (u : UserCode σ) (o : ObjectId) (member : String) :
    Same Value ((u.scope o).read member) ((scope u o).read member) := by
  refine fun w => ⟨_, _, u.run_read o member w, fun supply => ?_⟩
  have found : ((ExceptT.lift ((scope u o).get member) :
      ExceptT ExpressionError (Rendering σ) (Option Value))).run.run (w.user, supply) =
        (.ok (u.get o member w.user).1, (u.get o member w.user).2, supply) := rfl
  simp only [Scope.read, ExceptT.run_bind, StateT.run_bind, found, UserCode.reading]
  cases (u.get o member w.user).1 <;> rfl

/-- A program that only reads does the same to the user's own state in both ways. -/
theorem Program.eval_same (u : UserCode σ) (o : ObjectId) {p : Program}
    (reads : p.onlyReads = true) :
    Rendering.Same Value (p.eval (u.scope o)) (p.eval (Rendering.scope u o)) :=
  related_eval ⟨fun a w => ⟨.ok a, w.user, rfl, fun _ => rfl⟩, fun first later => first.bind later,
    fun member => .read u o member⟩ p (fun no => absurd (reads.symm.trans no) nofun)

/-- Evaluating against an object that is not busy. -/
theorem Expression.evaluate_renders (u : UserCode σ) {e : Expression} {o : ObjectId}
    {w : World σ} (reads : e.program.onlyReads = true) (free : o ∉ w.busy) :
    Renders (e.evaluate u o) ((e.program.eval (Rendering.scope u o)).run) w
      fun r r' v => r' = r ∧ v.forest = w.forest := by
  obtain ⟨r, s, ran, same⟩ :=
    Program.eval_same u o reads { w with busy := o :: w.busy }
  refine ⟨r, r, { w with user := s }, ?_, .quiet (Nat.le_refl _) rfl same, rfl, rfl⟩
  rw [Expression.run_evaluate, if_neg (by simpa using free), Run.run_borrowing, ran]
  simp

/-- Attaching a binding that watches shows it in the live element. -/
theorem Binding.attach_shows (u : UserCode σ) {b : Binding} (watches : b.Watches) (live : NodeId)
    {o : ObjectId} (z : Zone) {w : World σ} (free : o ∉ w.busy) (d : NodeData) :
    Renders (b.attach u live o z) (b.render u o d) w
      fun _ d' v => Forest.Grows w.forest v.forest live d d' [] [] := by
  unfold Binding.attach Binding.render
  cases compiled : b.expression with
  | error e =>
      refine (Renders.report u _ w).bind fun _ _ v same _ _ => .pure ?_
      rw [same]
      exact .refl _ _ _
  | ok e =>
      cases kind : b.kind with
      | output =>
          let l : Listener := ⟨live, b.name, .bound w.serial b.name e o⟩
          have registered := World.addWrapped_registered z l { w with serial := w.serial + 1 }
          let v := World.addWrapped z l { w with serial := w.serial + 1 }
          refine ⟨_, d, v, rfl, .quiet ?_ registered.busy fun supply => ?_, ?_⟩
          · exact Nat.le_trans (Nat.le_succ _) registered.later
          · rw [registered.user]
            rfl
          · show Forest.Grows w.forest v.forest live d d [] []
            rw [registered.forest]
            exact .refl _ _ _
      | input =>
          have reads := watches e kind compiled
          let refresh := Refresh.bound live b.name e o
          have free : o ∉ (w.addRefresh z refresh).2.busy := free
          simp only [Binding.attachInput, bind_assoc]
          refine .skip (w := w) (v := (w.addRefresh z refresh).2) rfl rfl (Nat.le_refl _) rfl ?_
          simp only [Refresh.run, bind_assoc, refresh]
          refine (Expression.evaluate_renders u reads free).bind fun _ r v same _ _ => ?_
          obtain ⟨rfl, same⟩ : _ ∧ v.forest = w.forest := same
          cases r with
          | ok value =>
              let changed := (v.forest.setAttr live b.name value.display).2
              refine .skip (w := v) (v := { v with forest := changed }) rfl rfl (Nat.le_refl _)
                rfl (.pure ?_)
              show Forest.Grows w.forest changed live _ _ _ _
              rw [← same]
              exact .setAttr _ _ _ _ _
          | error e =>
              refine (Renders.report u _ v).bind fun _ _ x still _ _ => .pure ?_
              rw [still, same]
              exact .refl _ _ _

end LiveTemplates
