/-
# LiveTemplates.Proofs.Instance.Composition -- what attaching is composed of

Attaching a blueprint takes a few kinds of steps: it makes objects, gives out numbers,
changes nodes, registers refreshes and listeners, shows a value, and lists the instance
among those that are attached.  All else is one step after the other.

* `Composes`: a property of activities that these steps have, and that carries over to what
  is composed of them;
* `Composes.attach`: so attaching has it, as far as the refreshes that the blueprint
  registers are allowed (`Blueprint.Allows`).
-/
import LiveTemplates.Instance
import LiveTemplates.Proofs.Blueprint.Registry
import LiveTemplates.Proofs.World.Activity

namespace LiveTemplates

set_option autoImplicit false

variable {σ : Type}

/-- The refreshes that a binding registers are allowed. -/
def Binding.Allows (allowed : Refresh → Prop) (b : Binding) : Prop :=
  ∀ e, b.kind = .input → b.expression = .ok e → ∀ live o, allowed (.bound live b.name e o)

/-- So are those of all bindings of a blueprint, and of the blueprints inside of it. -/
def Blueprint.Allows (allowed : Refresh → Prop) (b : Blueprint) : Prop :=
  ∀ d, Relation.ReflTransGen Blueprint.Contains b d →
    ∀ binding ∈ d.bindings, binding.2.Allows allowed

theorem Blueprint.Allows.child {allowed : Refresh → Prop} {b : Blueprint}
    (allows : b.Allows allowed) {child : Spot × Blueprint} (member : child ∈ b.children) :
    child.2.Allows allowed :=
  fun d inside => allows d (.head ⟨child.1, member⟩ inside)

theorem Blueprint.allows_all (b : Blueprint) : b.Allows fun _ => True :=
  fun _ _ _ _ _ _ _ _ _ => trivial

/-- What attaching with some user's code and a zone does by itself has a property, and so has
what is composed of activities that have it. -/
structure Composes (u : UserCode σ) (z : Zone) (allowed : Refresh → Prop)
    (P : (α : Type) → Run σ α → Prop) : Prop where
  pure : ∀ {α : Type} (a : α), P α (pure a)
  bind : ∀ {α β : Type} {x : Run σ α} {f : α → Run σ β}, P α x → (∀ a, P β (f a)) → P β (x >>= f)
  notice : ∀ n, P Unit (Run.notice u n)
  fresh : P Nat Run.fresh
  construct : ∀ c, P ObjectId (Run.construct u c)
  onForest : ∀ {α : Type} (f : Forest → α × Forest), P α (Run.onForest f)
  append : ∀ parent live,
    P Unit (modify fun w => { w with forest := w.forest.append parent live })
  addRefresh : ∀ r, allowed r → P Nat (modifyGet (·.addRefresh z r))
  shows : ∀ live name e o, allowed (.bound live name e o) →
    P _ (Refresh.run u (.bound live name e o))
  addWrapped : ∀ live name serial e o,
    P Unit (modify (World.addWrapped z ⟨live, name, .bound serial name e o⟩))
  enroll : ∀ entry, P Unit (modify fun w => { w with attached := entry :: w.attached })
  holding : ∀ {α : Type} {x : Run σ α}, P α x → P α (Run.holding z x)

namespace Composes

variable {u : UserCode σ} {z : Zone} {allowed : Refresh → Prop}
  {P : (α : Type) → Run σ α → Prop} (composes : Composes u z allowed P)

include composes

theorem mapM {α β : Type} {f : α → Run σ β} (xs : List α) (each : ∀ a ∈ xs, P β (f a)) :
    P (List β) (xs.mapM f) := by
  induction xs with
  | nil => exact composes.pure []
  | cons x rest ih =>
      rw [List.mapM_cons]
      refine composes.bind (each x (by simp)) fun b => composes.bind (ih ?_) fun _ =>
        composes.pure _
      exact fun a member => each a (List.mem_cons_of_mem _ member)

theorem foldlM {α β : Type} {f : β → α → Run σ β} (xs : List α) (start : β)
    (each : ∀ b, ∀ a ∈ xs, P β (f b a)) : P β (xs.foldlM f start) := by
  induction xs generalizing start with
  | nil => exact composes.pure start
  | cons x rest ih =>
      rw [List.foldlM_cons]
      exact composes.bind (each start x (by simp)) fun b =>
        ih b fun b a member => each b a (List.mem_cons_of_mem _ member)

/-- Attaching a binding. -/
theorem binding {b : Binding} (allows : b.Allows allowed) (live : NodeId) (o : ObjectId) :
    P _ (b.attach u live o z) := by
  unfold Binding.attach
  cases compiled : b.expression with
  | error e => exact composes.bind (composes.notice _) fun _ => composes.pure _
  | ok e =>
      cases kind : b.kind with
      | input =>
          have registered := allows e kind compiled live o
          refine composes.bind (composes.bind ?_ fun tick => ?_) fun _ => composes.pure _
          · exact composes.addRefresh _ registered
          · refine composes.bind (composes.shows live b.name e o registered) fun r => ?_
            cases r with
            | error e => exact composes.bind (composes.notice _) fun _ => composes.pure _
            | ok _ => exact composes.pure _
      | output =>
          refine composes.bind (composes.bind composes.fresh fun serial => ?_) fun _ =>
            composes.pure _
          exact composes.bind (composes.addWrapped live b.name serial e o) fun _ => composes.pure _

mutual

/-- Copying a tree is what is done with each copy, and no more. -/
theorem copy {wire : List Nat → NodeId → Wiring → Run σ Wiring}
    (each : ∀ address live s, P Wiring (wire address live s)) :
    ∀ (address : List Nat) (t : Tree) (s : Wiring), P _ (Wiring.copy wire address t s)
  | address, .node d ts, s => by
      rw [Wiring.copy]
      refine composes.bind (composes.onForest _) fun live => ?_
      refine composes.bind (copyAll each live address 0 ts s) fun s => ?_
      exact composes.bind (each address live s) fun _ => composes.pure _

theorem copyAll {wire : List Nat → NodeId → Wiring → Run σ Wiring}
    (each : ∀ address live s, P Wiring (wire address live s)) :
    ∀ (parent : NodeId) (address : List Nat) (i : Nat) (ts : List Tree) (s : Wiring),
      P _ (Wiring.copyAll wire parent address i ts s)
  | _, _, _, [], s => by
      rw [Wiring.copyAll]
      exact composes.pure s
  | parent, address, i, t :: ts, s => by
      rw [Wiring.copyAll]
      refine composes.bind (copy each (address ++ [i]) t s) fun p => ?_
      refine composes.bind (composes.append parent p.1) fun _ => ?_
      exact copyAll each parent address (i + 1) ts p.2

end

mutual

/-- Mounting a blueprint, and the blueprints inside of it. -/
theorem mount : ∀ (b : Blueprint) (o : ObjectId) (host : NodeId), b.Allows allowed →
    P _ (b.mount u z o host)
  | .mk compiler cls template bindings children warnings, o, host, allows => by
      rw [Blueprint.mount]
      refine composes.bind (composes.mapM _ fun c _ => composes.construct c) fun objects => ?_
      refine composes.bind composes.fresh fun serial => ?_
      refine composes.bind (composes.onForest _) fun fragment => ?_
      refine composes.bind (composes.copyAll (fun address live s => ?_) _ _ _ _ _) fun s => ?_
      · refine composes.bind (composes.foldlM _ s fun s part member => ?_) fun s =>
          composes.foldlM _ s fun s part member => ?_
        · have own := allows _ .refl part (List.mem_of_mem_filter member)
          exact composes.bind (composes.binding own live o) fun _ => composes.pure _
        · have inside := mountings children objects (fun child => allows.child) part
            (List.mem_of_mem_filter member) live
          exact composes.bind inside fun _ => composes.pure _
      · refine composes.bind (composes.onForest _) fun mounted => ?_
        exact composes.bind (composes.enroll _) fun _ => composes.pure _

theorem mountings : ∀ (children : List (Spot × Blueprint)) (objects : List ObjectId),
    (∀ child ∈ children, child.2.Allows allowed) →
    ∀ part ∈ Blueprint.mountings u z children objects, ∀ live, P _ (part.2 live)
  | [], _, _ => nofun
  | (spot, b) :: rest, [], allows => by
      intro part member live
      rw [Blueprint.mountings] at member
      rcases List.mem_cons.1 member with rfl | later
      · refine composes.bind (composes.construct b.cls) fun o => ?_
        exact mount b o live (allows (spot, b) (by simp))
      · refine mountings rest [] (fun child inside => ?_) part later live
        exact allows child (List.mem_cons_of_mem _ inside)
  | (spot, b) :: rest, o :: objects, allows => by
      intro part member live
      rw [Blueprint.mountings] at member
      rcases List.mem_cons.1 member with rfl | later
      · exact mount b o live (allows (spot, b) (by simp))
      · refine mountings rest objects (fun child inside => ?_) part later live
        exact allows child (List.mem_cons_of_mem _ inside)

end

/-- Attaching an instance of a blueprint. -/
theorem attach (b : Blueprint) (host : NodeId) (allows : b.Allows allowed) :
    P _ (b.attach u host z) :=
  composes.holding <| composes.bind (composes.construct b.cls) fun o =>
    composes.mount b o host allows

end Composes

end LiveTemplates
