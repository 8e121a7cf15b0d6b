/-
# LiveTemplates.Proofs.Separation.Seats -- each node shows the values of one object

Attaching binds the copies that it makes, each for the instance whose template it is a copy
from.  A copy is a new node, so no other instance has an input on it: each node can be given
an object, whose values are the only ones that are shown in its attributes.

* `World.Seated`: all inputs on a node are of the object that it is given to, and all
  handlers are actions of outputs;
* `World.Seats`: what is new is given to objects, and no node that was there before is given to
  another;
* `World.Seats.binding`: attaching a binding sees to it, on a node that is given to the object;
* `World.Seats.copy`: so does copying a tree, where each copy is wired for the object;
* `World.Seats.attach`: so does attaching a blueprint.
-/
import LiveTemplates.Proofs.Forest.Growth
import LiveTemplates.Proofs.Instance.Mounting
import LiveTemplates.Proofs.Separation.Touching
import LiveTemplates.Proofs.World.Listeners

namespace LiveTemplates

set_option autoImplicit false

variable {σ β : Type}

namespace World

/-- Each node is given to an object, and no other one has inputs on it.  All handlers are actions
of outputs. -/
structure Seated (seat : NodeId → ObjectId) (w : World σ) : Prop where
  inputs : ∀ z, ∀ entry ∈ (w.zone z).refreshes, ∃ n a e,
    entry.2 = .bound n a e (seat n) ∧ n < w.forest.size
  outputs : ∀ d, ∀ l ∈ w.listeners d, l.handler.name? = none

/-- However nodes are given to objects, if some of them are given to the right ones then new nodes
can be given to objects, too. -/
def Seats (here : NodeId → ObjectId → Prop) (w v : World σ) : Prop :=
  ∀ seat : NodeId → ObjectId, (∀ n o, here n o → n < w.forest.size ∧ seat n = o) →
    w.Seated seat → w.forest.size ≤ v.forest.size ∧
      ∃ seat', (∀ n < w.forest.size, seat' n = seat n) ∧ v.Seated seat'

variable {here : NodeId → ObjectId → Prop} {seat : NodeId → ObjectId} {w v x : World σ}

namespace Seated

/-- The same is registered, and no node is gone. -/
theorem later (seated : w.Seated seat) (size : w.forest.size ≤ v.forest.size)
    (refreshes : ∀ z, (v.zone z).refreshes = (w.zone z).refreshes)
    (dispatchers : v.dispatchers = w.dispatchers) : v.Seated seat where
  inputs z entry member := by
    rw [refreshes] at member
    obtain ⟨n, a, e, bound, inside⟩ := seated.inputs z entry member
    exact ⟨n, a, e, bound, Nat.lt_of_lt_of_le inside size⟩
  outputs d l member := by
    rw [listeners, dispatchers] at member
    exact seated.outputs d l member

/-- An input on a node of its object is registered. -/
theorem addRefresh (seated : w.Seated seat) {n : NodeId} (inside : n < w.forest.size) (z : Zone)
    (a : String) (e : Expression) : (w.addRefresh z (.bound n a e (seat n))).2.Seated seat where
  inputs y entry member := by
    rw [World.addRefresh, zone_onZone] at member
    split at member
    · rcases List.mem_append.1 member with old | new
      · exact seated.inputs y entry old
      · rw [List.mem_singleton.1 new]
        exact ⟨n, a, e, rfl, inside⟩
    · exact seated.inputs y entry member
  outputs := seated.outputs

mutual

/-- The action of an output is registered with a target. -/
theorem addListener : ∀ (t : Target) (l : Listener) {w : World σ}, l.handler.name? = none →
    w.Seated seat → (World.addListener t l w).Seated seat
  | .dispatcher d, l, w, action, seated => by
      refine ⟨seated.inputs, fun e l' member => ?_⟩
      simp only [World.addListener, World.listeners, World.onListeners,
        Array.getElem?_modify] at member
      split at member
      case isTrue same =>
        subst same
        cases found : w.dispatchers[d]? with
        | none => simp [found] at member
        | some ls =>
            simp only [found, Option.map_some, Option.getD_some] at member
            rcases List.mem_append.1 member with old | new
            · exact seated.outputs d l' (by simpa [World.listeners, found] using old)
            · rw [List.mem_singleton.1 new]
              exact action
      case isFalse => exact seated.outputs e l' member
  | .zone z, l, _, action, seated => addWrapped z l action seated

theorem addWrapped : ∀ (z : Zone) (l : Listener) {w : World σ}, l.handler.name? = none →
    w.Seated seat → (World.addWrapped z l w).Seated seat
  | .mk id behind, l, w, action, seated => by
      rw [World.addWrapped]
      let handler := Handler.wrapped w.serial (.mk id behind) l.handler
      have noted := Rewired.onZone { w with serial := w.serial + 1 } (.mk id behind)
        (· ++ [⟨l, handler⟩])
      refine addListener behind { l with handler := handler } action ?_
      exact seated.later (Nat.le_refl _) noted.refreshes rfl

end

end Seated

namespace Seats

/-- The same is registered, and no node is gone. -/
theorem later (size : w.forest.size ≤ v.forest.size)
    (refreshes : ∀ z, (v.zone z).refreshes = (w.zone z).refreshes)
    (dispatchers : v.dispatchers = w.dispatchers) : w.Seats here v :=
  fun seat _ seated => ⟨size, seat, fun _ _ => rfl, seated.later size refreshes dispatchers⟩

theorem trans ⦃w v x : World σ⦄ (first : w.Seats here v) (second : v.Seats here x) :
    w.Seats here x := by
  intro seat given seated
  obtain ⟨size, seat₁, same, seated⟩ := first seat given seated
  have given' : ∀ n o, here n o → n < v.forest.size ∧ seat₁ n = o := fun n o own =>
    have ⟨inside, seat⟩ := given n o own
    ⟨Nat.lt_of_lt_of_le inside size, (same n inside).trans seat⟩
  obtain ⟨size', seat₂, same', seated⟩ := second seat₁ given' seated
  refine ⟨Nat.le_trans size size', seat₂, fun n inside => ?_, seated⟩
  exact (same' n (Nat.lt_of_lt_of_le inside size)).trans (same n inside)

/-- What is done without regard to any node. -/
theorem of_none (seats : w.Seats (fun _ _ => False) v) : w.Seats here v :=
  fun seat _ seated => seats seat nofun seated

theorem hosts (here : NodeId → ObjectId → Prop) (u : UserCode σ) :
    Hosts u (Seats (σ := σ) here) where
  trans := trans
  minor {w _} step := by
    cases step with
    | count z =>
        exact later (Nat.le_refl _)
          (fun y => (congrArg ZoneState.refreshes (ticks_onZone w z y) :)) rfl
    | _ => exact later (Nat.le_refl _) (fun _ => rfl) rfl
  borrowed w v o during seat given seated := by
    obtain ⟨size, seat', same, seated⟩ := during seat given ⟨seated.inputs, seated.outputs⟩
    exact ⟨size, seat', same, seated.inputs, seated.outputs⟩
  shows _ _ _ _ := later (by simp [Forest.setAttr]) (fun _ => rfl) rfl

end Seats

end World

/-! ## Attaching -/

/-- Activities that run one after the other keep to what each of them keeps to. -/
theorem Run.Row.related {R : World σ → World σ → Prop} (trans : ∀ ⦃w v x⦄, R w v → R v x → R w x)
    (refl : ∀ w, R w w) {α : Type} {xs : List (Run σ α)} {as : List α} {w v : World σ}
    (row : Run.Row xs w as v) (each : ∀ x ∈ xs, Keeps R x) : R w v := by
  induction row with
  | nil w => exact refl w
  | cons first _ ih =>
      exact trans (each _ List.mem_cons_self _ _ _ first)
        (ih fun x member => each x (List.mem_cons_of_mem _ member))

namespace World.Seats

variable {here : NodeId → ObjectId → Prop} {u : UserCode σ} {view : σ → ObjectId → β}
  (own : u.Local view)

omit own in
/-- Making objects registers nothing. -/
theorem constructs (cs : List ClassRef) :
    Keeps (Seats here) (cs.mapM (Run.construct u)) := by
  have hosts := Seats.hosts here u
  induction cs with
  | nil => exact .pure hosts.toBears _
  | cons c rest ih =>
      rw [List.mapM_cons]
      have first : Keeps (Seats here) (Run.construct u c) :=
        .total (fun _ => rfl) fun w => .later (Nat.le_refl _) (fun _ => rfl) rfl
      exact .bind hosts.trans first fun _ => .bind hosts.trans ih fun _ => .pure hosts.toBears _

include own

theorem calls (o : ObjectId) (method : String) (args : List Value) :
    Keeps (Seats here) (u.call o method args) := by
  obtain ⟨f, same, -⟩ := own.call o method args
  rw [same]
  exact .total (Run.run_onUser f) fun _ => .later (Nat.le_refl _) (fun _ => rfl) rfl

/-- A binding is attached to a node that is given to its object. -/
theorem binding (b : Binding) (live : NodeId) (o : ObjectId) (z : Zone) :
    Keeps (Seats fun n p => n = live ∧ p = o) (b.attach u live o z) := by
  have hosts := Seats.hosts (fun n p => n = live ∧ p = o) u
  have bears := hosts.toBears
  unfold Binding.attach
  cases b.expression with
  | error e => exact .bind bears.trans (.notice bears _) fun _ => .pure bears _
  | ok e =>
      cases b.kind with
      | input =>
          refine .bind bears.trans (.bind bears.trans (.total (g := fun w => w.addRefresh z _)
            (fun _ => rfl) fun w seat given seated => ?_) fun tick => ?_) fun _ => .pure bears _
          · obtain ⟨inside, rfl⟩ := given live o ⟨rfl, rfl⟩
            exact ⟨Nat.le_refl _, seat, fun _ _ => rfl, seated.addRefresh inside z b.name e⟩
          · refine .bind bears.trans (.refreshBound bears (calls own)
              (fun w => hosts.shows w live b.name) e o) fun r => ?_
            cases r with
            | error e => exact .bind bears.trans (.notice bears _) fun _ => .pure bears _
            | ok _ => exact .pure bears _
      | output =>
          refine .bind bears.trans (.bind bears.trans (.total Run.run_fresh fun _ =>
            .later (Nat.le_refl _) (fun _ => rfl) rfl) fun serial => .bind bears.trans (.total
              (g := fun w => ((), World.addWrapped z ⟨live, b.name, .bound serial b.name e o⟩ w))
              (fun _ => rfl) fun w seat given seated => ?_) fun _ => .pure bears _) fun _ =>
                .pure bears _
          have registered := World.addWrapped_registered z ⟨live, b.name, .bound serial b.name e o⟩ w
          exact ⟨Nat.le_of_eq (congrArg _ registered.forest.symm), seat, fun _ _ => rfl,
            seated.addWrapped z _ rfl⟩

omit own in
mutual

/-- The copy of a tree, each node of which is wired for an object. -/
theorem copy {ω : Type} {wire : List Nat → NodeId → ω → Run σ ω} {o : ObjectId}
    (each : ∀ address live s, Keeps (Seats fun n p => n = live ∧ p = o) (wire address live s)) :
    ∀ (address : List Nat) (t : Tree) (s : ω),
      Keeps (Seats fun _ _ => False) (Wiring.copy wire address t s)
  | address, .node d ts, s => by
      intro w r v ran seat _ seated
      rw [Wiring.copy] at ran
      obtain ⟨live, w₁, added, ran⟩ := Run.bind_eq_some.1 ran
      obtain ⟨s', w₂, below, ran⟩ := Run.bind_eq_some.1 ran
      obtain ⟨s'', w₃, wired, last⟩ := Run.bind_eq_some.1 ran
      obtain ⟨-, rfl⟩ := Run.pure_eq_some.1 last
      obtain ⟨rfl, rfl⟩ := Prod.mk.inj (Option.some.inj added)
      -- nothing has been registered for the new node, which is given to the object
      let seat₁ := Function.update seat w.forest.size o
      have old : ∀ n < w.forest.size, seat₁ n = seat n := fun n inside =>
        Function.update_of_ne (Nat.ne_of_lt inside) _ _
      have size : w.forest.size < (w.forest.add d).2.size := by simp [Forest.size_add]
      have seated₁ : { w with forest := (w.forest.add d).2 }.Seated seat₁ := by
        refine ⟨fun z entry member => ?_, seated.outputs⟩
        obtain ⟨n, a, e, bound, inside⟩ := seated.inputs z entry member
        exact ⟨n, a, e, by rw [bound, old n inside], Nat.lt_trans inside size⟩
      obtain ⟨size₂, seat₂, same₂, seated₂⟩ :=
        copyAll each w.forest.size address 0 ts s _ _ _ below seat₁ nofun seated₁
      have given : seat₂ w.forest.size = o :=
        (same₂ _ size).trans (Function.update_self _ _ _)
      obtain ⟨size₃, seat₃, same₃, seated₃⟩ := each address w.forest.size s' _ _ _ wired seat₂
        (fun n p own => by rw [own.1, own.2]; exact ⟨Nat.lt_of_lt_of_le size size₂, given⟩) seated₂
      refine ⟨Nat.le_of_lt (Nat.lt_of_lt_of_le size (Nat.le_trans size₂ size₃)), seat₃,
        fun n inside => ?_, seated₃⟩
      have inside₁ := Nat.lt_trans inside size
      rw [same₃ n (Nat.lt_of_lt_of_le inside₁ size₂), same₂ n inside₁, old n inside]

theorem copyAll {ω : Type} {wire : List Nat → NodeId → ω → Run σ ω} {o : ObjectId}
    (each : ∀ address live s, Keeps (Seats fun n p => n = live ∧ p = o) (wire address live s)) :
    ∀ (parent : NodeId) (address : List Nat) (i : Nat) (ts : List Tree) (s : ω),
      Keeps (Seats fun _ _ => False) (Wiring.copyAll wire parent address i ts s)
  | _, _, _, [], s => by
      rw [Wiring.copyAll]
      exact .total (fun _ => rfl) fun _ => .later (Nat.le_refl _) (fun _ => rfl) rfl
  | parent, address, i, t :: ts, s => by
      rw [Wiring.copyAll]
      refine .bind Seats.trans (copy each (address ++ [i]) t s) fun r => ?_
      refine .bind Seats.trans (.total (g := fun w =>
        ((), { w with forest := w.forest.append parent r.1 })) (fun _ => rfl) fun w => ?_) fun _ =>
          copyAll each parent address (i + 1) ts r.2
      exact .later (Nat.le_of_eq (Forest.size_append _ _ _).symm) (fun _ => rfl) rfl

end

omit own in
mutual

/-- Mounting a blueprint, and the blueprints inside of it. -/
theorem mount (own : u.Local view) (z : Zone) : ∀ (b : Blueprint) (o : ObjectId) (host : NodeId),
    Keeps (Seats fun _ _ => False) (b.mount u z o host)
  | .mk compiler cls template bindings children warnings, o, host => by
      have bears {here : NodeId → ObjectId → Prop} := (Seats.hosts here u).toBears
      rw [Blueprint.mount]
      refine .bind Seats.trans (constructs _) fun objects => ?_
      refine .bind Seats.trans (.total Run.run_fresh fun _ =>
        .later (Nat.le_refl _) (fun _ => rfl) rfl) fun serial => ?_
      refine .bind Seats.trans (.total (Run.run_onForest _) fun _ =>
        .later (by simp [Forest.size_add]) (fun _ => rfl) rfl) fun fragment => ?_
      refine .bind Seats.trans (copyAll (o := o) (fun address live s => ?_) _ _ _ _ _) fun s => ?_
      · refine .bind Seats.trans (.foldlM bears _ s fun s part => ?_) fun s => ?_
        · exact .bind Seats.trans (binding own part.2 live o z) fun _ => .pure bears _
        · have inside := mountings own z children objects
          intro w t v ran
          obtain ⟨_, -, row⟩ := Wiring.wireChildren_row ran
          refine row.related Seats.trans (fun w => .later (Nat.le_refl _) (fun _ => rfl) rfl) ?_
          intro x member
          obtain ⟨part, here, rfl⟩ := List.mem_map.1 member
          exact fun w i v ran => (inside part (List.mem_of_mem_filter here) live w i v ran).of_none
      · refine .bind Seats.trans (.total (Run.run_onForest _) fun _ => .later
          (Nat.le_of_eq (Forest.size_moveChildren _ _ _).symm) (fun _ => rfl) rfl) fun mounted => ?_
        refine .bind Seats.trans (.total (g := fun w => ((), _)) (fun _ => rfl) fun _ =>
          .later (Nat.le_refl _) (fun _ => rfl) rfl) fun _ => .pure bears _

theorem mountings (own : u.Local view) (z : Zone) : ∀ (children : List (Spot × Blueprint))
    (objects : List ObjectId), ∀ part ∈ Blueprint.mountings u z children objects, ∀ live,
      Keeps (Seats fun _ _ => False) (part.2 live)
  | [], _ => nofun
  | (spot, b) :: rest, [] => by
      rw [Blueprint.mountings]
      refine List.forall_mem_cons.2 ⟨fun live => ?_, mountings own z rest []⟩
      refine .bind Seats.trans (.total (fun _ => rfl) fun w => ?_) fun o =>
        mount own z b o live
      exact .later (Nat.le_refl _) (fun _ => rfl) rfl
  | (spot, b) :: rest, o :: objects => by
      rw [Blueprint.mountings]
      exact List.forall_mem_cons.2 ⟨fun live => mount own z b o live, mountings own z rest objects⟩

end

/-- Attaching an instance of a blueprint. -/
theorem attach (b : Blueprint) (host : NodeId) (z : Zone) :
    Keeps (Seats fun _ _ => False) (b.attach u host z) := by
  have bears := (Seats.hosts (fun _ _ => False) u).toBears
  refine .holding bears z (.bind bears.trans (.total (fun _ => rfl) fun w => ?_) fun o =>
    mount own z b o host)
  exact .later (Nat.le_refl _) (fun _ => rfl) rfl

end World.Seats

end LiveTemplates
