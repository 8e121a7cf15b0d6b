/-
# LiveTemplates.Proofs.Instance.Mounting -- what mounting a blueprint does, step by step

Mounting makes the objects of the children, copies the template below a fragment, moves the
copies to the host and notes what was registered.  While the template is copied, each copy
is wired as it is completed, and nothing else happens but that nodes are added and moved.

* `Wires`: copies are wired one after the other, with nothing but nodes changed in between;
* `Wiring.copyAll_wires`: copying trees wires their nodes, in the order in which they are
  completed.  The same is done where the places of the copies are noted on the way
  (`Wiring.noting`);
* `Wiring.wireBindings_row`, `Wiring.wireChildren_row`: to wire a copy is to attach the
  bindings and to mount the components on it, one after the other (`Run.Row`);
* `Mounts`: all of mounting a blueprint in these terms (`Blueprint.mount_mounts`);
* `Blueprint.mountings_eq`: where each child has an object, it is mounted for that.
-/
import LiveTemplates.Instance
import LiveTemplates.Proofs.Node.Addresses
import LiveTemplates.Proofs.World.Activity
import Mathlib.Data.List.Forall2

namespace LiveTemplates

set_option autoImplicit false

variable {σ ω : Type}

/-- The number of a refresh that was registered. -/
def Attachment.tick? : Option Attachment → Option Nat
  | some (.refresh tick) => some tick
  | _ => none

/-- A listener that was registered. -/
def Attachment.listener? : Option Attachment → Option Listener
  | some (.listener l) => some l
  | _ => none

/-! ## Registering -/

namespace World

/-- A world differs from another at most in what is registered, and in the numbers that were
given out for it. -/
structure Registered (w v : World σ) : Prop where
  forest : v.forest = w.forest
  document : v.document = w.document
  attached : v.attached = w.attached
  busy : v.busy = w.busy
  user : v.user = w.user
  later : w.serial ≤ v.serial

mutual

theorem addListener_registered : ∀ (t : Target) (l : Listener) (w : World σ),
    w.Registered (addListener t l w)
  | .dispatcher _, _, _ => ⟨rfl, rfl, rfl, rfl, rfl, Nat.le_refl _⟩
  | .zone z, l, w => addWrapped_registered z l w

theorem addWrapped_registered : ∀ (z : Zone) (l : Listener) (w : World σ),
    w.Registered (addWrapped z l w)
  | .mk id behind, l, w => by
      rw [addWrapped]
      let handler := Handler.wrapped w.serial (.mk id behind) l.handler
      let counted : World σ := { w with serial := w.serial + 1 }
      let noted := counted.onZone (.mk id behind) fun s =>
        { s with wrappers := s.wrappers ++ [⟨l, handler⟩] }
      have inner := addListener_registered behind { l with handler := handler } noted
      exact ⟨inner.forest, inner.document, inner.attached, inner.busy, inner.user,
        Nat.le_trans (Nat.le_succ _) inner.later⟩

end

end World

/-! ## Copying -/

/-- Copies are wired one after the other; in between only nodes change. -/
inductive Wires (wire : List Nat → NodeId → ω → Run σ ω) :
    List (List Nat × NodeId) → ω → World σ → ω → World σ → Prop
  | done (s : ω) (w : World σ) : Wires wire [] s w s w
  | grow {places : List (List Nat × NodeId)} {s t : ω} {w v : World σ} (forest : Forest)
      (later : Wires wire places s { w with forest := forest } t v) : Wires wire places s w t v
  | step {address : List Nat} {live : NodeId} {places : List (List Nat × NodeId)}
      {r s t : ω} {w v x : World σ} (wired : (wire address live r).run w = some (s, v))
      (later : Wires wire places s v t x) : Wires wire ((address, live) :: places) r w t x

theorem Wires.append {wire : List Nat → NodeId → ω → Run σ ω}
    {first second : List (List Nat × NodeId)} {r s t : ω} {w v x : World σ}
    (before : Wires wire first r w s v) (after : Wires wire second s v t x) :
    Wires wire (first ++ second) r w t x := by
  induction before with
  | done => exact after
  | grow forest _ ih => exact .grow forest (ih after)
  | step wired _ ih => exact .step wired (ih after)

namespace Wiring

/-- Notes the place of each copy on the way. -/
def noting (wire : List Nat → NodeId → ω → Run σ ω) (address : List Nat) (live : NodeId)
    (s : ω × List (List Nat × NodeId)) : Run σ (ω × List (List Nat × NodeId)) := do
  return (← wire address live s.1, s.2 ++ [(address, live)])

variable {wire : List Nat → NodeId → ω → Run σ ω}

theorem run_noting {address : List Nat} {live : NodeId} {s t : ω} {w v : World σ}
    (wired : (wire address live s).run w = some (t, v)) (places : List (List Nat × NodeId)) :
    (noting wire address live (s, places)).run w =
      some ((t, places ++ [(address, live)]), v) :=
  Run.bind_eq_some.2 ⟨t, v, wired, rfl⟩

mutual

/-- Copying a tree wires its nodes, in the order in which they are completed. -/
theorem copy_wires : ∀ (t : Tree) {address : List Nat} {r s : ω} {live : NodeId}
    {w v : World σ}, (copy wire address t r).run w = some ((live, s), v) →
      ∃ places, places.map (·.1) = t.completed.map (address ++ ·) ∧
        Wires wire places r w s v ∧ ∀ before,
          (copy (noting wire) address t (r, before)).run w =
            some ((live, s, before ++ places), v)
  | .node d ts, address, r, s, live, w, v, ran => by
      rw [copy] at ran
      obtain ⟨n, w₁, added, ran⟩ := Run.bind_eq_some.1 ran
      obtain ⟨s₁, w₂, below, ran⟩ := Run.bind_eq_some.1 ran
      obtain ⟨s₂, w₃, wired, last⟩ := Run.bind_eq_some.1 ran
      obtain ⟨same, rfl⟩ := Run.pure_eq_some.1 last
      obtain ⟨rfl, rfl⟩ := Prod.mk.inj same
      obtain ⟨places, addresses, wires, noted⟩ := copyAll_wires ts below
      refine ⟨places ++ [(address, n)], ?_, ?_, fun before => ?_⟩
      · simp [addresses, Tree.completed]
      · obtain ⟨-, rfl⟩ := Prod.mk.inj (Option.some.inj added)
        exact .grow _ (wires.append (.step wired (.done _ _)))
      · rw [copy]
        refine Run.bind_eq_some.2 ⟨n, w₁, added, Run.bind_eq_some.2 ⟨_, w₂, noted before, ?_⟩⟩
        refine Run.bind_eq_some.2 ⟨_, w₃, run_noting wired _, ?_⟩
        rw [List.append_assoc]
        rfl

theorem copyAll_wires : ∀ (ts : List Tree) {parent : NodeId} {address : List Nat} {i : Nat}
    {r s : ω} {w v : World σ}, (copyAll wire parent address i ts r).run w = some (s, v) →
      ∃ places, places.map (·.1) = (Tree.completedAmong i ts).map (address ++ ·) ∧
        Wires wire places r w s v ∧ ∀ before,
          (copyAll (noting wire) parent address i ts (r, before)).run w =
            some ((s, before ++ places), v)
  | [], parent, address, i, r, s, w, v, ran => by
      rw [copyAll] at ran
      obtain ⟨rfl, rfl⟩ := Run.pure_eq_some.1 ran
      refine ⟨[], rfl, .done _ _, fun before => ?_⟩
      rw [copyAll, List.append_nil]
      rfl
  | t :: ts, parent, address, i, r, s, w, v, ran => by
      rw [copyAll] at ran
      obtain ⟨⟨live, s₁⟩, w₁, one, ran⟩ := Run.bind_eq_some.1 ran
      obtain ⟨_, w₂, moved, rest⟩ := Run.bind_eq_some.1 ran
      obtain ⟨places, addresses, wires, noted⟩ := copy_wires t one
      obtain ⟨more, addresses', wires', noted'⟩ := copyAll_wires ts rest
      refine ⟨places ++ more, ?_, ?_, fun before => ?_⟩
      · simp [addresses, addresses', Tree.completedAmong]
      · obtain ⟨-, rfl⟩ := Prod.mk.inj (Option.some.inj moved)
        exact wires.append (.grow _ wires')
      · rw [copyAll]
        refine Run.bind_eq_some.2 ⟨_, w₁, noted before, Run.bind_eq_some.2 ⟨_, w₂, moved, ?_⟩⟩
        rw [← List.append_assoc]
        exact noted' (before ++ places)

end

end Wiring

/-! ## Wiring -/

/-- Activities run one after the other. -/
inductive Run.Row {α : Type} : List (Run σ α) → World σ → List α → World σ → Prop
  | nil (w : World σ) : Row [] w [] w
  | cons {x : Run σ α} {xs : List (Run σ α)} {a : α} {as : List α} {w v u : World σ}
      (first : x.run w = some (a, v)) (later : Row xs v as u) : Row (x :: xs) w (a :: as) u

theorem Run.Row.forall₂ {α : Type} {xs : List (Run σ α)} {as : List α} {w v : World σ}
    (row : Row xs w as v) : List.Forall₂ (fun x a => ∃ w v, x.run w = some (a, v)) xs as := by
  induction row with
  | nil => exact .nil
  | cons first _ ih => exact .cons ⟨_, _, first⟩ ih

/-- Steps that each add the outcome of an activity run these activities. -/
theorem Run.row_of_foldlM {α β : Type} {f : β → α → Run σ β} {γ : Type} {x : α → Run σ γ}
    (add : β → γ → β) (step : ∀ b a, f b a = do return add b (← x a)) {as : List α} {b c : β}
    {w v : World σ} (ran : (as.foldlM f b).run w = some (c, v)) :
    ∃ new, c = new.foldl add b ∧ Run.Row (as.map x) w new v := by
  induction as generalizing b w with
  | nil =>
      obtain ⟨rfl, rfl⟩ := Run.pure_eq_some.1 ran
      exact ⟨[], rfl, .nil _⟩
  | cons a rest ih =>
      rw [List.foldlM_cons, step] at ran
      obtain ⟨d, w₁, first, later⟩ := Run.bind_eq_some.1 ran
      obtain ⟨r, w₂, one, last⟩ := Run.bind_eq_some.1 first
      obtain ⟨rfl, rfl⟩ := Run.pure_eq_some.1 last
      obtain ⟨new, same, row⟩ := ih later
      exact ⟨r :: new, same, .cons one row⟩

namespace Wiring

variable {address : List Nat} {live : NodeId} {s t : Wiring} {w v : World σ}

/-- Adding what bindings have registered. -/
theorem foldl_add (new : List (Option Attachment)) (s : Wiring) :
    (new.foldl add s).children = s.children ∧
    (new.foldl add s).ticks = s.ticks ++ new.filterMap Attachment.tick? ∧
    (new.foldl add s).listeners = s.listeners ++ new.filterMap Attachment.listener? := by
  induction new generalizing s with
  | nil => simp
  | cons a rest ih =>
      obtain ⟨children, ticks, listeners⟩ := ih (s.add a)
      rw [List.foldl_cons, children, ticks, listeners]
      rcases a with _ | tick | l <;>
        simp [add, List.filterMap_cons, Attachment.tick?, Attachment.listener?]

theorem wireBindings_row {u : UserCode σ} {z : Zone} {o : ObjectId}
    {bindings : List (Spot × Binding)}
    (ran : (wireBindings u z o bindings address live s).run w = some (t, v)) :
    ∃ new, t = new.foldl add s ∧ Run.Row ((bindings.filter (·.1.address = address)).map
      fun b => b.2.attach u live o z) w new v :=
  Run.row_of_foldlM add (fun _ _ => rfl) ran

theorem wireChildren_row {parts : List (Spot × Mounting σ)}
    (ran : (wireChildren parts address live s).run w = some (t, v)) :
    ∃ new, t = { s with children := s.children ++ new } ∧
      Run.Row ((parts.filter (·.1.address = address)).map fun part => part.2 live) w new v := by
  obtain ⟨new, rfl, row⟩ := Run.row_of_foldlM
    (x := fun (part : Spot × Mounting σ) => part.2 live)
    (fun (s : Wiring) (i : Instance) => { s with children := s.children ++ [i] })
    (fun _ _ => rfl) ran
  refine ⟨new, ?_, row⟩
  clear ran row
  induction new generalizing s with
  | nil => simp
  | cons i rest ih => simp [ih]

end Wiring

/-! ## Mounting -/

namespace Blueprint

/-- What is done with each copy when a blueprint is mounted. -/
def wire (u : UserCode σ) (z : Zone) (b : Blueprint) (o : ObjectId) (childObjects : List ObjectId)
    (address : List Nat) (live : NodeId) (s : Wiring) : Run σ Wiring := do
  let s ← Wiring.wireBindings u z o b.bindings address live s
  Wiring.wireChildren (mountings u z b.children childObjects) address live s

/-- Mounting, with the wiring of copies by itself. -/
theorem mount_eq (u : UserCode σ) (z : Zone) (b : Blueprint) (o : ObjectId) (host : NodeId) :
    b.mount u z o host = do
      let childObjects ← b.constructChildren u
      let serial ← Run.fresh
      let fragment ← Run.onForest (·.add .document)
      let s ← Wiring.copyAll (b.wire u z o childObjects) fragment [] 0 b.template.root.children {}
      let mounted ← Run.onForest (·.moveChildren fragment host)
      modify fun world =>
        { world with attached := (serial, ⟨s.ticks, s.listeners, mounted⟩) :: world.attached }
      return .mk serial b o childObjects host z s.children := by
  cases b
  rw [mount]
  rfl

/-- All that is done before the copies are moved to the host: the objects of the children are
made, a number is given out, and the template is copied below a fragment. -/
def grow (u : UserCode σ) (z : Zone) (b : Blueprint) (o : ObjectId) :
    Run σ (List ObjectId × Nat × NodeId × Wiring) := do
  let childObjects ← b.constructChildren u
  let serial ← Run.fresh
  let fragment ← Run.onForest (·.add .document)
  let s ← Wiring.copyAll (b.wire u z o childObjects) fragment [] 0 b.template.root.children {}
  return (childObjects, serial, fragment, s)

/-- Moves the copies to the host, and notes what was registered. -/
def settle (z : Zone) (b : Blueprint) (o : ObjectId) (host : NodeId) :
    List ObjectId × Nat × NodeId × Wiring → Run σ Instance
  | (childObjects, serial, fragment, s) => do
    let mounted ← Run.onForest (·.moveChildren fragment host)
    modify fun world =>
      { world with attached := (serial, ⟨s.ticks, s.listeners, mounted⟩) :: world.attached }
    return .mk serial b o childObjects host z s.children

theorem mount_grow (u : UserCode σ) (z : Zone) (b : Blueprint) (o : ObjectId) (host : NodeId) :
    b.mount u z o host = b.grow u z o >>= b.settle z o host := by
  rw [mount_eq, grow]
  simp only [bind_assoc, pure_bind, settle]

/-- Copies the template of a blueprint to a new fragment, and notes the place of each copy. -/
def copyNoting (u : UserCode σ) (z : Zone) (b : Blueprint) (o : ObjectId)
    (childObjects : List ObjectId) : Run σ (Wiring × List (List Nat × NodeId)) := do
  let fragment ← Run.onForest (·.add .document)
  Wiring.copyAll (Wiring.noting (b.wire u z o childObjects)) fragment [] 0
    b.template.root.children ({}, [])

end Blueprint

/-- Mounting a blueprint for an object on a host, with the places of the copies. -/
inductive Mounts (u : UserCode σ) (z : Zone) (b : Blueprint) (o : ObjectId) (host : NodeId)
    (w : World σ) : List (List Nat × NodeId) → Instance → World σ → Prop
  | intro {childObjects : List ObjectId} {s : Wiring} {places : List (List Nat × NodeId)}
      {v x : World σ}
      (constructed : (b.constructChildren u).run w = some (childObjects, v))
      (noted : (b.copyNoting u z o childObjects).run { v with serial := v.serial + 1 } =
        some ((s, places), x))
      (addresses : places.map (·.1) = b.template.root.completedBelow)
      (wires : Wires (b.wire u z o childObjects) places {} { v with serial := v.serial + 1 } s x)
      (mounted : List NodeId) (forest : Forest) :
      Mounts u z b o host w places (.mk v.serial b o childObjects host z s.children)
        { x with
          forest := forest
          attached := (v.serial, ⟨s.ticks, s.listeners, mounted⟩) :: x.attached }

namespace Blueprint

variable {u : UserCode σ} {z : Zone}

theorem mount_mounts {b : Blueprint} {o : ObjectId} {host : NodeId} {w v : World σ}
    {i : Instance} (ran : (b.mount u z o host).run w = some (i, v)) :
    ∃ places, Mounts u z b o host w places i v := by
  obtain ⟨compiler, cls, template, bindings, children, warnings⟩ := b
  rw [mount] at ran
  obtain ⟨childObjects, w₁, constructed, ran⟩ := Run.bind_eq_some.1 ran
  obtain ⟨serial, w₂, counted, ran⟩ := Run.bind_eq_some.1 ran
  obtain ⟨rfl, rfl⟩ := Prod.mk.inj (Option.some.inj counted)
  obtain ⟨fragment, w₃, added, ran⟩ := Run.bind_eq_some.1 ran
  obtain ⟨s, x, copied, ran⟩ := Run.bind_eq_some.1 ran
  obtain ⟨mounted, w₄, moved, ran⟩ := Run.bind_eq_some.1 ran
  obtain ⟨rfl, rfl⟩ := Prod.mk.inj (Option.some.inj moved)
  obtain ⟨_, w₅, noted, last⟩ := Run.bind_eq_some.1 ran
  obtain ⟨-, rfl⟩ := Prod.mk.inj (Option.some.inj noted)
  obtain ⟨rfl, rfl⟩ := Run.pure_eq_some.1 last
  obtain ⟨places, addresses, wires, noted⟩ := Wiring.copyAll_wires _ copied
  refine ⟨places, .intro constructed (Run.bind_eq_some.2 ⟨_, _, added, noted []⟩) ?_ ?_ _ _⟩
  · rw [List.nil_append, addresses]
    exact List.map_id _
  · obtain ⟨-, rfl⟩ := Prod.mk.inj (Option.some.inj added)
    exact .grow _ wires

/-- Attaching is mounting, for a new object and with the zone held. -/
theorem attach_mount {b : Blueprint} {host : NodeId} {w v : World σ} {i : Instance}
    (ran : (b.attach u host z).run w = some (i, v)) :
    ∃ x, (b.mount u z w.serial host).run
        { w with
          pins := z :: w.pins
          serial := w.serial + 1
          user := u.construct b.cls w.serial w.user } = some (i, x) ∧
      v = { x with pins := x.pins.tail } := by
  rw [attach, Run.run_holding] at ran
  obtain ⟨⟨j, x⟩, during, same⟩ := Option.map_eq_some_iff.1 ran
  obtain ⟨rfl, rfl⟩ := Prod.mk.inj same
  obtain ⟨o, _, made, mounted⟩ := Run.bind_eq_some.1 during
  obtain ⟨rfl, rfl⟩ := Prod.mk.inj (Option.some.inj made)
  exact ⟨x, mounted, rfl⟩

/-- Where each child has an object, it is mounted for that. -/
theorem mountings_eq : ∀ {children : List (Spot × Blueprint)} {objects : List ObjectId},
    children.length ≤ objects.length → mountings u z children objects =
      (children.zip objects).map fun (child, o) => (child.1, child.2.mount u z o)
  | [], objects, _ => by cases objects <;> simp [mountings]
  | (spot, b) :: rest, [], few => by simp at few
  | (spot, b) :: rest, o :: objects, enough => by
      rw [mountings, mountings_eq (by simpa using enough)]
      rfl

end Blueprint

end LiveTemplates
