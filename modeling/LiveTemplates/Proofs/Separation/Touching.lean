/-
# LiveTemplates.Proofs.Separation.Touching -- two worlds that differ in one object

The objects of components are told apart by what is seen of each in the user's own state.  An
object touches only itself if reading, writing and calling depend on nothing else and change
nothing else.  Then so does every evaluation against it.

Two worlds can differ in what is seen of one object, and in some attributes of nodes.

* `Touches`: a change of the user's own state that touches one object only;
* `UserCode.Local`: so do the user's objects; `UserCode.Local.evaluate`: so does evaluating;
* `Run.Unseen`: what touches no object at all;
* `Forest.Alike`: the same nodes, but for some attributes;
* `World.Differ`: the same worlds, but for one object and some attributes.
-/
import LiveTemplates.Proofs.Forest.Attributes
import LiveTemplates.Proofs.Forest.Growth
import LiveTemplates.Proofs.World.Activity

namespace LiveTemplates

set_option autoImplicit false

variable {σ β : Type}

/-! ## Objects that touch only themselves -/

/-- A change of the user's own state touches only one object: what is seen of the others is as it
was, and the user holds the same zones; what it gives, and what is seen of the object behind it,
depends on what was seen of the object and on nothing else. -/
structure Touches (u : UserCode σ) (view : σ → ObjectId → β) (o : ObjectId) {α : Type}
    (f : σ → α × σ) : Prop where
  others : ∀ s p, p ≠ o → view (f s).2 p = view s p
  holds : ∀ s, u.holds (f s).2 = u.holds s
  alike : ∀ s t, view s o = view t o → (f s).1 = (f t).1 ∧ view (f s).2 o = view (f t).2 o

/-- Reading, writing and calling touch only the object itself, and reports touch none. -/
structure UserCode.Local (u : UserCode σ) (view : σ → ObjectId → β) : Prop where
  get : ∀ o member, Touches u view o (u.get o member)
  set : ∀ o member v, Touches u view o (u.set o member v)
  call : ∀ o method args, ∃ f, u.call o method args = Run.onUser f ∧ Touches u view o f
  notice : ∀ n s, view (u.notice n s) = view s ∧ u.holds (u.notice n s) = u.holds s

namespace Touches

variable {u : UserCode σ} {view : σ → ObjectId → β} {o : ObjectId} {α γ : Type}

theorem pure (a : α) : Touches u view o fun s => (a, s) :=
  ⟨fun _ _ _ => rfl, fun _ => rfl, fun _ _ same => ⟨rfl, same⟩⟩

theorem bind {f : σ → α × σ} {g : α → σ → γ × σ} (first : Touches u view o f)
    (later : ∀ a, Touches u view o (g a)) : Touches u view o fun s => g (f s).1 (f s).2 where
  others s p other := ((later _).others _ p other).trans (first.others s p other)
  holds s := ((later _).holds _).trans (first.holds s)
  alike s t same := by
    obtain ⟨value, seen⟩ := first.alike s t same
    rw [value]
    exact (later _).alike _ _ seen

theorem map {f : σ → α × σ} (touches : Touches u view o f) (g : α → γ) :
    Touches u view o fun s => (g (f s).1, (f s).2) :=
  touches.bind fun a => pure (g a)

end Touches

/-- An activity is a change of the user's own state that touches only one object. -/
def Run.Within (u : UserCode σ) (view : σ → ObjectId → β) (o : ObjectId) {α : Type}
    (x : Run σ α) : Prop :=
  ∃ f, Touches u view o f ∧ ∀ w, x.run w = some ((f w.user).1, { w with user := (f w.user).2 })

namespace Run.Within

variable {u : UserCode σ} {view : σ → ObjectId → β} {o : ObjectId} {α γ : Type}

theorem pure (a : α) : Within u view o (Pure.pure a : Run σ α) :=
  ⟨_, .pure a, fun _ => rfl⟩

theorem bind {x : Run σ α} {f : α → Run σ γ} (first : Within u view o x)
    (later : ∀ a, Within u view o (f a)) : Within u view o (x >>= f) := by
  obtain ⟨change, touches, ran⟩ := first
  choose next touches' ran' using later
  refine ⟨_, touches.bind touches', fun w => Run.bind_eq_some.2 ⟨_, _, ran w, ?_⟩⟩
  exact ran' _ _

end Run.Within

namespace UserCode.Local

variable {u : UserCode σ} {view : σ → ObjectId → β} (own : u.Local view)

include own

/-- A program that is run against an object touches only this. -/
theorem eval (o : ObjectId) (p : Program) : Run.Within u view o (p.eval (u.scope o)).run := by
  refine Program.closed_eval (P := fun α x => Run.Within u view o x.run)
    ⟨fun a => .pure _, fun first later => ?_, fun member => ?_⟩ p fun _ => ⟨fun member v => ?_,
      fun method args => ?_⟩
  · rw [ExceptT.run_bind]
    refine first.bind fun r => ?_
    cases r with
    | ok a => exact later a
    | error e => exact .pure _
  · refine ⟨_, (own.get o member).map fun r => r.elim (.error (.unknownMember member)) .ok,
      fun w => (u.run_read o member w).trans ?_⟩
    rw [UserCode.reading]
    cases (u.get o member w.user).1 <;> rfl
  · exact ⟨_, own.set o member v, fun w => rfl⟩
  · obtain ⟨f, same, touches⟩ := own.call o method args
    refine ⟨f, touches, fun w => ?_⟩
    show (u.call o method args).run w = _
    rw [same]
    rfl

/-- Evaluating an expression against an object touches only this, where it is not busy. -/
theorem evaluate (e : Expression) (o : ObjectId) : ∃ f, Touches u view o f ∧
    ∀ w, (e.evaluate u o).run w = some (if w.busy.contains o then
      (.error (.reentrant e.source), w) else ((f w.user).1, { w with user := (f w.user).2 })) := by
  obtain ⟨f, touches, ran⟩ := own.eval o e.program
  refine ⟨f, touches, fun w => ?_⟩
  rw [Expression.run_evaluate]
  split
  · rfl
  · rw [Run.run_borrowing, ran]
    simp

end UserCode.Local

/-- Where nothing happens but reports, of which nothing is seen in any object. -/
def Run.Unseen (u : UserCode σ) (view : σ → ObjectId → β) {α : Type} (x : Run σ α) : Prop :=
  ∀ w, ∃ a s, x.run w = some (a, { w with user := s }) ∧ view s = view w.user ∧
    u.holds s = u.holds w.user

namespace Run.Unseen

variable {u : UserCode σ} {view : σ → ObjectId → β} {α γ : Type}

theorem pure (a : α) : Unseen u view (Pure.pure a : Run σ α) :=
  fun w => ⟨a, w.user, rfl, rfl, rfl⟩

theorem notice (own : u.Local view) (n : Notice) : Unseen u view (Run.notice u n) :=
  fun w => ⟨(), _, rfl, own.notice n w.user⟩

theorem andThen {x : Run σ α} (unseen : Unseen u view x) (a : γ) :
    Unseen u view (do let _ ← x; Pure.pure a) := by
  intro w
  obtain ⟨b, s, ran, seen⟩ := unseen w
  exact ⟨a, s, Run.bind_eq_some.2 ⟨b, _, ran, rfl⟩, seen⟩

end Run.Unseen

/-! ## Nodes that differ in some attributes -/

namespace NodeData

/-- What a node holds, without its attributes. -/
def bare : NodeData → NodeData
  | .element space name _ => .element space name []
  | d => d

theorem bare_setAttr (d : NodeData) (name value : String) : (d.setAttr name value).bare = d.bare := by
  cases d <;> rfl

theorem isElement_bare (d : NodeData) : d.bare.isElement = d.isElement := by
  cases d <;> rfl

theorem attr?_of_not_isElement {d : NodeData} (none : d.isElement = false) (name : String) :
    d.attr? name = Option.none := by
  cases d with
  | element => cases none
  | _ => rfl

end NodeData

/-- Two nodes are the same, but for some attributes. -/
structure Node.Alike (free : String → Prop) (x y : Node) : Prop where
  parent : y.parent = x.parent
  children : y.children = x.children
  bare : y.data.bare = x.data.bare
  attr : ∀ name, ¬ free name → y.data.attr? name = x.data.attr? name

/-- Two forests have the same nodes, but for some attributes of some of these. -/
def Forest.Alike (free : NodeId → String → Prop) (f g : Forest) : Prop :=
  ∀ n, Option.Rel (Node.Alike (free n)) f.nodes[n]? g.nodes[n]?

theorem Node.Alike.refl (free : String → Prop) (x : Node) : x.Alike free x :=
  ⟨rfl, rfl, rfl, fun _ _ => rfl⟩

/-- An attribute that can differ is set to different values, or one that cannot to the same. -/
theorem Node.Alike.setAttr {free : String → Prop} {x y : Node} (alike : x.Alike free y)
    {name a b : String} (either : free name ∨ a = b) :
    Node.Alike free { x with data := x.data.setAttr name a }
      { y with data := y.data.setAttr name b } where
  parent := alike.parent
  children := alike.children
  bare := by rw [NodeData.bare_setAttr, NodeData.bare_setAttr, alike.bare]
  attr other fixed := by
    by_cases same : other = name
    · subst same
      obtain rfl := either.resolve_left fixed
      have element : y.data.isElement = x.data.isElement := by
        rw [← y.data.isElement_bare, alike.bare, x.data.isElement_bare]
      cases kind : x.data.isElement with
      | true =>
          rw [NodeData.attr?_setAttr_self kind,
            NodeData.attr?_setAttr_self (element.trans kind)]
      | false =>
          rw [NodeData.attr?_of_not_isElement (by rw [NodeData.isElement_setAttr, element, kind]),
            NodeData.attr?_of_not_isElement (by rw [NodeData.isElement_setAttr, kind])]
    · rw [NodeData.attr?_setAttr_of_ne _ same, NodeData.attr?_setAttr_of_ne _ same]
      exact alike.attr other fixed

namespace Forest.Alike

variable {free : NodeId → String → Prop} {f g : Forest}

theorem refl (free : NodeId → String → Prop) (f : Forest) : f.Alike free f := by
  intro n
  cases f.nodes[n]? with
  | none => exact .none
  | some x => exact .some (.refl _ x)

/-- A node changes in both. -/
theorem modify (alike : f.Alike free g) {n : NodeId} {change change' : Node → Node}
    (each : ∀ x y, Node.Alike (free n) x y → Node.Alike (free n) (change x) (change' y)) :
    (f.modify n change).Alike free (g.modify n change') := by
  intro k
  have both := alike k
  rw [getElem?_modify, getElem?_modify]
  split
  case isTrue same =>
    subst same
    generalize f.nodes[k]? = x, g.nodes[k]? = y at both
    cases both with
    | none => exact .none
    | some both => exact .some (each _ _ both)
  case isFalse => exact both

theorem setAttr (alike : f.Alike free g) {n : NodeId} {name a b : String}
    (either : free n name ∨ a = b) :
    (f.setAttr n name a).2.Alike free (g.setAttr n name b).2 :=
  alike.modify fun _ _ both => both.setAttr either

/-- A value is shown in an attribute that can differ, in one of them. -/
theorem setAttr_right (alike : f.Alike free g) {n : NodeId} {name : String} (may : free n name)
    (value : String) : f.Alike free (g.setAttr n name value).2 := by
  intro k
  have both := alike k
  rw [Forest.setAttr, getElem?_modify]
  split
  case isTrue same =>
    subst same
    generalize f.nodes[k]? = x, g.nodes[k]? = y at both
    cases both with
    | none => exact .none
    | some both =>
        refine .some ⟨both.parent, both.children, ?_, fun other fixed => ?_⟩
        · rw [NodeData.bare_setAttr, both.bare]
        · have different : other ≠ name := fun same => fixed (same ▸ may)
          rw [NodeData.attr?_setAttr_of_ne _ different, both.attr other fixed]
  case isFalse => exact both

theorem symm (alike : f.Alike free g) : g.Alike free f := by
  intro n
  have both := alike n
  generalize f.nodes[n]? = x, g.nodes[n]? = y at both
  cases both with
  | none => exact .none
  | some both =>
      exact .some ⟨both.parent.symm, both.children.symm, both.bare.symm,
        fun name fixed => (both.attr name fixed).symm⟩

theorem children (alike : f.Alike free g) (n : NodeId) : g.children n = f.children n := by
  have both := alike n
  rw [Forest.children, Forest.children]
  generalize f.nodes[n]? = x, g.nodes[n]? = y at both
  cases both with
  | none => rfl
  | some both => simp [both.children]

theorem attr? (alike : f.Alike free g) {n : NodeId} {name : String} (fixed : ¬ free n name) :
    (g.data n).attr? name = (f.data n).attr? name := by
  have both := alike n
  rw [Forest.data, Forest.data]
  generalize f.nodes[n]? = x, g.nodes[n]? = y at both
  cases both with
  | none => rfl
  | some both => simpa using both.attr name fixed

theorem remove (alike : f.Alike free g) (parent child : NodeId) :
    (f.remove parent child).2.Alike free (g.remove parent child).2 := by
  rw [Forest.remove, Forest.remove, alike.children parent]
  split
  · refine (alike.modify fun x y both => ?_).modify fun x y both => ?_
    · exact ⟨both.parent, by rw [both.children], both.bare, both.attr⟩
    · exact ⟨rfl, both.children, both.bare, both.attr⟩
  · exact alike

end Forest.Alike

/-! ## Worlds that differ in one object -/

namespace World

/-- A world is the same as another, but for what is seen of one object, and for some attributes
of nodes. -/
inductive Differ (u : UserCode σ) (view : σ → ObjectId → β) (o : ObjectId)
    (free : NodeId → String → Prop) (w : World σ) : World σ → Prop
  | intro {user : σ} {forest : Forest} (others : ∀ p, p ≠ o → view user p = view w.user p)
      (holds : u.holds user = u.holds w.user) (alike : w.forest.Alike free forest) :
      Differ u view o free w { w with user := user, forest := forest }

/-- A change that does not see nodes or the user's own state, and leaves them as they are. -/
def Blind (g : World σ → World σ) : Prop :=
  ∀ w user forest, g { w with user := user, forest := forest } =
    { g w with user := user, forest := forest }

namespace Differ

variable {u : UserCode σ} {view : σ → ObjectId → β} {o : ObjectId}
  {free : NodeId → String → Prop} {w v : World σ}

theorem blind (differ : w.Differ u view o free v) {g : World σ → World σ} (blind : Blind g) :
    (g w).Differ u view o free (g v) := by
  have own : g w = { g w with user := w.user, forest := w.forest } := blind w w.user w.forest
  cases differ with
  | @intro user forest others holds alike =>
      have other : g { w with user := user, forest := forest } =
        { g w with user := user, forest := forest } := blind w user forest
      rw [other, own]
      exact .intro others holds alike

/-- The user's own state changes in both worlds, in which other objects are seen to be the same
then. -/
theorem users (differ : w.Differ u view o free v) {s t : σ}
    (others : ∀ p, p ≠ o → view v.user p = view w.user p → view t p = view s p)
    (held : u.holds s = u.holds w.user) (held' : u.holds t = u.holds v.user) :
    { w with user := s }.Differ u view o free { v with user := t } := by
  cases differ with
  | intro same holds alike =>
      exact .intro (fun p other => others p other (same p other))
        (held'.trans (holds.trans held.symm)) alike

/-- One object is touched in both worlds. -/
theorem touch (differ : w.Differ u view o free v) {α : Type} {p : ObjectId} {f : σ → α × σ}
    (touches : Touches u view p f) :
    { w with user := (f w.user).2 }.Differ u view o free { v with user := (f v.user).2 } ∧
      (p ≠ o → (f v.user).1 = (f w.user).1) := by
  cases differ with
  | @intro user forest others holds alike =>
      refine ⟨.intro (fun q other => ?_) ?_ alike, fun other => ?_⟩
      · by_cases same : q = p
        · subst same
          exact (touches.alike _ _ (others q other)).2
        · rw [touches.others _ q same, touches.others _ q same]
          exact others q other
      · rw [touches.holds, touches.holds]
        exact holds
      · exact (touches.alike _ _ (others p other)).1

/-- Nodes change in both worlds. -/
theorem forests (differ : w.Differ u view o free v) {f g : Forest}
    (alike : w.forest.Alike free v.forest → f.Alike free g) :
    { w with forest := f }.Differ u view o free { v with forest := g } := by
  cases differ with
  | intro others holds same => exact .intro others holds (alike same)

end Differ

end World

end LiveTemplates
