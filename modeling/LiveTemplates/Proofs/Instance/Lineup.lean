/-
# LiveTemplates.Proofs.Instance.Lineup -- which instance has which object

The objects of the children of a blueprint are made in the order of these, which is the
order in which their elements are met in the template.  The instances inside are made as
the copies of these elements are completed.  So the object of a child goes to the instance
on the copy of its element, and both orders are the same as long as no such element is
inside of another:

* `Mounts.lineup`: the instances inside, in the order in which the elements are completed;
* `Instance.copied_all`: all of this holds of every instance inside an attached one;
* `Blueprint.attach_lines_up`: child objects and child instances of all attached instances;
* `nested_crosswise`: where an element is inside of another, the two lists differ.
-/
import LiveTemplates.Proofs.Blueprint.Made
import LiveTemplates.Proofs.Instance.Mounting
import Mathlib

namespace LiveTemplates

set_option autoImplicit false

variable {σ : Type}

/-! ## Sorting by addresses -/

/-- Things that have addresses, in the order of a list of addresses. -/
def Address.inOrder {α : Type} (places : List (List Nat)) (address : α → List Nat)
    (xs : List α) : List α :=
  places.flatMap fun a => xs.filter (address · = a)

/-- A list that is reordered has not changed if some property that tells its members apart
reads as before. -/
theorem eq_of_map_eq {α β : Type} {f : α → β} {xs ys : List α} (perm : xs.Perm ys)
    (distinct : (ys.map f).Nodup) (same : xs.map f = ys.map f) : xs = ys := by
  refine List.ext_getElem perm.length_eq fun n first second => ?_
  refine List.inj_on_of_nodup_map distinct (perm.subset (List.getElem_mem _))
    (List.getElem_mem _) ?_
  have there := List.getElem_of_eq same (by simpa using first)
  simpa using there

/-- Things are gathered by their keys, each once. -/
theorem perm_of_keys {α κ : Type} [DecidableEq κ] {key : α → κ} {keys : List κ} {xs : List α}
    (distinct : keys.Nodup) (inside : ∀ x ∈ xs, key x ∈ keys) :
    (keys.flatMap fun k => xs.filter (key · = k)).Perm xs := by
  induction xs with
  | nil => simp
  | cons x rest ih =>
      have ih := ih fun y member => inside y (List.mem_cons_of_mem _ member)
      obtain ⟨before, after, rfl⟩ := List.append_of_mem (inside x (by simp))
      have once := List.nodup_middle.1 distinct
      -- away from its own key the first one makes no difference
      have apart {part : List κ} (away : key x ∉ part) :
          (part.flatMap fun k => (x :: rest).filter (key · = k)) =
            part.flatMap fun k => rest.filter (key · = k) :=
        List.flatMap_congr fun k member => List.filter_cons_of_neg (by
          simpa using fun same : key x = k => away (same ▸ member))
      rw [List.nodup_cons, List.mem_append, not_or] at once
      rw [List.flatMap_append, List.flatMap_cons] at ih ⊢
      rw [apart once.1.1, apart once.1.2, List.filter_cons_of_pos (by simp)]
      exact List.perm_middle.trans (ih.cons x)

namespace Address

variable {α : Type} {places : List (List Nat)} {address : α → List Nat} {xs : List α}

theorem inOrder_perm (distinct : places.Nodup) (inside : ∀ x ∈ xs, address x ∈ places) :
    (inOrder places address xs).Perm xs :=
  perm_of_keys distinct inside

theorem map_inOrder (distinct : (xs.map address).Nodup) :
    (inOrder places address xs).map address = places.filter (· ∈ xs.map address) := by
  have at' (a : List Nat) : (xs.filter (address · = a)).map address =
      if a ∈ xs.map address then [a] else [] := by
    have counted : (xs.filter (address · = a)).map address = (xs.map address).filter (· = a) := by
      rw [List.filter_map]
      rfl
    rw [counted, List.filter_eq]
    split
    case isTrue member => rw [List.count_eq_one_of_mem distinct member, List.replicate_one]
    case isFalse away => rw [List.count_eq_zero_of_not_mem away, List.replicate_zero]
  rw [inOrder, List.map_flatMap]
  induction places with
  | nil => rfl
  | cons a rest ih =>
      rw [List.flatMap_cons, at', ih, List.filter_cons]
      split <;> simp_all

/-- Things are in the order of the nodes of a template as they are met; this is the order in
which these are completed if and only if none of their nodes is above another. -/
theorem inOrder_completed_eq_iff (t : Tree) (met : (xs.map address).Pairwise Ahead)
    (inside : ∀ x ∈ xs, address x ∈ t.completedBelow) :
    inOrder t.completedBelow address xs = xs ↔
      ∀ x ∈ xs, ∀ y ∈ xs, ¬ Above (address x) (address y) := by
  have distinct : (xs.map address).Nodup := met.imp Ahead.ne
  have once : t.completedBelow.Nodup := t.completedBelow_done.imp Done.ne
  have perm : (inOrder t.completedBelow address xs).Perm xs := inOrder_perm once inside
  have done : ((inOrder t.completedBelow address xs).map address).Pairwise Done := by
    rw [map_inOrder distinct]
    exact t.completedBelow_done.filter _
  have orders := eq_iff_apart met done (perm.map address)
  simp only [List.mem_map, forall_exists_index, and_imp, forall_apply_eq_imp_iff₂] at orders
  rw [← orders]
  exact ⟨fun same => by rw [same], eq_of_map_eq perm distinct⟩

/-- What is done at each place with the things that have its address is done with all of them
in the order of the places. -/
theorem forall₂_inOrder {β : Type} {R : α → NodeId → β → Prop}
    {places : List (List Nat × NodeId)} {ys : List β}
    (each : List.Forall₂ (fun seat y => R seat.1 seat.2 y)
      (places.flatMap fun place => (xs.filter (address · = place.1)).map (·, place.2)) ys) :
    List.Forall₂ (fun x y => ∃ live, (address x, live) ∈ places ∧ R x live y)
      (inOrder (places.map (·.1)) address xs) ys := by
  let seats := places.flatMap fun place => (xs.filter (address · = place.1)).map (·, place.2)
  have seated : ∀ seat ∈ seats, (address seat.1, seat.2) ∈ places := by
    intro seat member
    obtain ⟨place, inside, here⟩ := List.mem_flatMap.1 member
    obtain ⟨x, found, rfl⟩ := List.mem_map.1 here
    rw [of_decide_eq_true (List.mem_filter.1 found).2]
    exact inside
  have order : inOrder (places.map (·.1)) address xs = seats.map (·.1) := by
    simp [seats, inOrder, List.map_flatMap, List.flatMap_map, Function.comp_def]
  rw [order, List.forall₂_map_left_iff]
  exact ((List.forall₂_and_left _ _).2 ⟨seated, each⟩).imp
    fun seat _ ⟨place, related⟩ => ⟨seat.2, place, related⟩

end Address

/-! ## Instances inside -/

namespace Instance

mutual

/-- An instance with all instances inside of it. -/
def all : Instance → List Instance
  | mk serial b o os host z children => mk serial b o os host z children :: allOf children

/-- Several instances with all instances inside of them. -/
def allOf : List Instance → List Instance
  | [] => []
  | i :: rest => i.all ++ allOf rest

end

/-- All instances inside of an instance. -/
def inside (i : Instance) : List Instance :=
  allOf i.children

theorem all_eq (i : Instance) : i.all = i :: i.inside := by
  obtain ⟨serial, b, o, os, host, z, children⟩ := i
  rw [all]
  rfl

theorem mem_all_self (i : Instance) : i ∈ i.all := by
  rw [all_eq]
  exact List.mem_cons_self

theorem allOf_eq (is : List Instance) : allOf is = is.flatMap all := by
  induction is with
  | nil => rfl
  | cons i rest ih => rw [allOf, ih, List.flatMap_cons]

/-- The copies of the nodes of the template of an instance are at these places, since it was
mounted. -/
def Copied (u : UserCode σ) (i : Instance) (places : List (List Nat × NodeId)) : Prop :=
  ∃ w v, Mounts u i.zone i.blueprint i.object i.host w places i v

end Instance

/-! ## Objects and instances -/

namespace Run

/-- Making objects of some classes, under numbers in a row. -/
theorem run_mapM_construct (u : UserCode σ) (cs : List ClassRef) (w : World σ) :
    (cs.mapM (construct u)).run w = some (List.range' w.serial cs.length,
      { w with
        serial := w.serial + cs.length
        user := (cs.zip (List.range' w.serial cs.length)).foldl
          (fun s (c, o) => u.construct c o s) w.user }) := by
  induction cs generalizing w with
  | nil => rfl
  | cons c rest ih =>
      rw [List.mapM_cons]
      refine bind_eq_some.2 ⟨w.serial, { w with
        serial := w.serial + 1, user := u.construct c w.serial w.user }, rfl, ?_⟩
      refine bind_eq_some.2 ⟨_, _, ih _, ?_⟩
      simp [List.range'_succ, Nat.add_assoc, Nat.add_comm 1]

end Run

/-- Wiring copies one after the other makes the instances of the components on them. -/
theorem Wires.children {u : UserCode σ} {z : Zone} {b : Blueprint} {o : ObjectId}
    {childObjects : List ObjectId} {places : List (List Nat × NodeId)} {s t : Wiring}
    {w v : World σ} (wires : Wires (b.wire u z o childObjects) places s w t v) :
    ∃ new, t.children = s.children ++ new ∧
      List.Forall₂ (fun part i => ∃ w v, (part.1.2 part.2).run w = some (i, v))
        (places.flatMap fun place => ((Blueprint.mountings u z b.children childObjects).filter
          (·.1.address = place.1)).map (·, place.2)) new := by
  induction wires with
  | done => exact ⟨[], by simp, .nil⟩
  | grow _ _ ih => exact ih
  | step wired _ ih =>
      obtain ⟨r, w₁, bound, mounted⟩ := Run.bind_eq_some.1 wired
      obtain ⟨_, rfl, -⟩ := Wiring.wireBindings_row bound
      obtain ⟨new, rfl, row⟩ := Wiring.wireChildren_row mounted
      obtain ⟨more, same, each⟩ := ih
      refine ⟨new ++ more, ?_, ?_⟩
      · rw [same, (Wiring.foldl_add _ _).1, List.append_assoc]
      · rw [List.flatMap_cons]
        refine List.rel_append (List.forall₂_map_left_iff.2 ?_) each
        exact List.forall₂_map_left_iff.1 row.forall₂

namespace Blueprint.Made

variable {b : Blueprint}

theorem children_ahead (made : b.Made) :
    (b.children.map (·.1.address)).Pairwise Address.Ahead := by
  have met := b.template.root.elementsBelow_ahead
  have places := made.places.map Spot.address
  rw [List.map_map, List.map_map] at places
  exact met.sublist places

theorem children_completed (made : b.Made) {child : Spot × Blueprint}
    (member : child ∈ b.children) : child.1.address ∈ b.template.root.completedBelow := by
  obtain ⟨element, inside, same⟩ := List.mem_map.1
    (made.places.subset (List.mem_map_of_mem (f := (·.1)) member))
  rw [← same]
  exact Tree.isSome_at?_of_mem_elementsBelow inside

theorem bindings_completed (made : b.Made) {binding : Spot × Binding}
    (member : binding ∈ b.bindings) : binding.1.address ∈ b.template.root.completedBelow := by
  rw [made.bindings] at member
  obtain ⟨element, inside, here⟩ := List.mem_flatMap.1 member
  obtain ⟨_, -, rfl⟩ := List.mem_map.1 here
  exact Tree.isSome_at?_of_mem_elementsBelow inside

/-- The children of a blueprint in the order in which their nodes are completed. -/
theorem inOrder_children_perm (made : b.Made) :
    (Address.inOrder b.template.root.completedBelow (·.1.address) b.children).Perm b.children :=
  Address.inOrder_perm (b.template.root.completedBelow_done.imp Address.Done.ne)
    fun _ => made.children_completed

/-- So are the bindings. -/
theorem inOrder_bindings_perm (made : b.Made) :
    (Address.inOrder b.template.root.completedBelow (·.1.address) b.bindings).Perm b.bindings :=
  Address.inOrder_perm (b.template.root.completedBelow_done.imp Address.Done.ne)
    fun _ => made.bindings_completed

end Blueprint.Made

namespace Mounts

variable {u : UserCode σ} {z : Zone} {b : Blueprint} {o : ObjectId} {host : NodeId}
  {w v : World σ} {places : List (List Nat × NodeId)} {i : Instance}

theorem blueprint_eq (mounts : Mounts u z b o host w places i v) : i.blueprint = b := by
  cases mounts
  rfl

theorem object_eq (mounts : Mounts u z b o host w places i v) : i.object = o := by
  cases mounts
  rfl

theorem host_eq (mounts : Mounts u z b o host w places i v) : i.host = host := by
  cases mounts
  rfl

theorem addresses (mounts : Mounts u z b o host w places i v) :
    places.map (·.1) = b.template.root.completedBelow := by
  cases mounts
  assumption

theorem copied (mounts : Mounts u z b o host w places i v) : i.Copied u places := by
  refine ⟨w, v, ?_⟩
  cases mounts
  exact .intro (by assumption) (by assumption) (by assumption) (by assumption) _ _

/-- Each child has an object of its own. -/
theorem childObjects_eq (mounts : Mounts u z b o host w places i v) (made : b.Made) :
    i.childObjects = List.range' w.serial b.children.length := by
  cases mounts with
  | intro constructed =>
      rw [Blueprint.constructChildren, made.constructedClasses, Run.run_mapM_construct,
        Option.some.injEq, Prod.mk.injEq] at constructed
      rw [Instance.childObjects, ← constructed.1, Blueprint.childClasses, List.length_map]

/-- The instances inside: as the elements are completed, each child is mounted on the copy
of its element, for its own object. -/
theorem lineup (mounts : Mounts u z b o host w places i v) (made : b.Made) :
    List.Forall₂ (fun child c => ∃ live w v, (child.1.1.address, live) ∈ places ∧
        (child.1.2.mount u z child.2 live).run w = some (c, v))
      (Address.inOrder b.template.root.completedBelow (·.1.1.address)
        (b.children.zip i.childObjects)) i.children := by
  have objects := mounts.childObjects_eq made
  cases mounts with
  | @intro childObjects s _ v x _ _ addresses wires =>
      obtain ⟨new, same, each⟩ := wires.children
      rw [Instance.childObjects] at objects
      rw [Blueprint.mountings_eq (by simp [objects])] at each
      have parts : (places.flatMap fun place =>
          (((b.children.zip childObjects).map fun child =>
            (child.1.1, child.1.2.mount u z child.2)).filter (·.1.address = place.1)).map
              (·, place.2)) =
          (places.flatMap fun place => ((b.children.zip childObjects).filter
            (·.1.1.address = place.1)).map (·, place.2)).map fun seat =>
              ((seat.1.1.1, seat.1.1.2.mount u z seat.1.2), seat.2) := by
        simp [List.map_flatMap, List.filter_map, Function.comp_def]
      rw [parts, List.forall₂_map_left_iff] at each
      rw [Instance.children, same, Instance.childObjects, ← addresses]
      let Mounted (child : (Spot × Blueprint) × ObjectId) (live : NodeId) (c : Instance) : Prop :=
        ∃ w v, (child.1.2.mount u z child.2 live).run w = some (c, v)
      refine (Address.forall₂_inOrder (R := Mounted) each).imp ?_
      rintro child c ⟨live, place, w, v, ran⟩
      exact ⟨live, w, v, place, ran⟩

end Mounts

/-- What a list is related to is related to some member of it. -/
theorem exists_left_of_forall₂ {α β : Type} {R : α → β → Prop} {xs : List α} {ys : List β}
    (related : List.Forall₂ R xs ys) {y : β} (member : y ∈ ys) : ∃ x ∈ xs, R x y := by
  induction related with
  | nil => cases member
  | cons first _ ih =>
      rcases List.mem_cons.1 member with rfl | later
      · exact ⟨_, by simp, first⟩
      · obtain ⟨x, inside, same⟩ := ih later
        exact ⟨x, List.mem_cons_of_mem _ inside, same⟩

namespace Blueprint.Made

variable {u : UserCode σ} {z : Zone} {b : Blueprint} {o : ObjectId} {host : NodeId}
  {w v : World σ} {i : Instance}

theorem inOrder_perm (made : b.Made) (objects : List ObjectId) :
    (Address.inOrder b.template.root.completedBelow (·.1.1.address)
      (b.children.zip objects)).Perm (b.children.zip objects) :=
  Address.inOrder_perm (b.template.root.completedBelow_done.imp Address.Done.ne) fun _ member =>
    made.children_completed (List.of_mem_zip member).1

/-- An instance inside is mounted for one of the children and its object. -/
theorem mounted_of_mem (made : b.Made) {places : List (List Nat × NodeId)}
    (mounts : Mounts u z b o host w places i v) {c : Instance} (member : c ∈ i.children) :
    ∃ child ∈ b.children.zip i.childObjects, ∃ live w v, (child.1.1.address, live) ∈ places ∧
      (child.1.2.mount u z child.2 live).run w = some (c, v) := by
  obtain ⟨child, inside, ran⟩ := exists_left_of_forall₂ (mounts.lineup made) member
  exact ⟨child, (made.inOrder_perm _).subset inside, ran⟩

/-- All instances inside of one that was mounted were mounted. -/
theorem copied_all (made : b.Made) (ran : (b.mount u z o host).run w = some (i, v)) :
    ∀ j ∈ i.all, j.blueprint.Made ∧ ∃ places, j.Copied u places := by
  induction made generalizing o host w i v with
  | @intro b bindings spots tagged single inside ih =>
      have made : b.Made := .intro bindings spots tagged single inside
      obtain ⟨places, mounts⟩ := mount_mounts ran
      intro j member
      rw [Instance.all_eq, Instance.inside, Instance.allOf_eq] at member
      rcases List.mem_cons.1 member with rfl | below
      · exact ⟨mounts.blueprint_eq.symm ▸ made, places, mounts.copied⟩
      · obtain ⟨c, direct, within⟩ := List.mem_flatMap.1 below
        obtain ⟨child, member, live, w, v, -, ran⟩ := made.mounted_of_mem mounts direct
        exact ih child.1 (List.of_mem_zip member).1 ran j within

end Blueprint.Made

/-! ## Lining up -/

/-- How the objects that were made for the children of an instance and the instances inside
line up: there is one object for each child, and it is the object of the instance on the
copy of the child's element.  The instances are in the order in which these elements are
completed, which is the order of the children if and only if no element is inside of
another. -/
structure Instance.LinesUp (i : Instance) (places : List (List Nat × NodeId)) : Prop where
  one : i.childObjects.length = i.blueprint.children.length
  mounted : ∀ (k : Nat) (child : Spot × Blueprint), i.blueprint.children[k]? = some child → ∃ c ∈ i.children,
    i.childObjects[k]? = some c.object ∧ c.blueprint = child.2 ∧ (child.1.address, c.host) ∈ places
  ordered : i.children.map (·.object) =
    (Address.inOrder i.blueprint.template.root.completedBelow (·.1.1.address)
      (i.blueprint.children.zip i.childObjects)).map (·.2)
  agree_iff : i.children.map (·.object) = i.childObjects ↔
    ∀ x ∈ i.blueprint.children, ∀ y ∈ i.blueprint.children,
      ¬ Address.Above x.1.address y.1.address

/-- The objects of an instance that was mounted line up with the instances inside. -/
theorem Instance.Copied.linesUp {u : UserCode σ} {i : Instance}
    {places : List (List Nat × NodeId)} (copied : i.Copied u places) (made : i.blueprint.Made) :
    i.LinesUp places := by
  obtain ⟨w, v, mounts⟩ := copied
  have objects := mounts.childObjects_eq made
  have one : i.childObjects.length = i.blueprint.children.length := by simp [objects]
  have lineup := mounts.lineup made
  have perm := made.inOrder_perm i.childObjects
  have own : (i.blueprint.children.zip i.childObjects).map (·.2) = i.childObjects :=
    List.map_snd_zip (by omega)
  have ordered : i.children.map (·.object) =
      (Address.inOrder i.blueprint.template.root.completedBelow (·.1.1.address)
        (i.blueprint.children.zip i.childObjects)).map (·.2) := by
    have same := lineup.imp (S := fun child c => child.2 = c.object)
      fun _ _ ⟨_, _, _, _, ran⟩ => (Blueprint.mount_mounts ran).choose_spec.object_eq.symm
    rw [← List.forall₂_map_right_iff, ← List.forall₂_map_left_iff (f := Prod.snd),
      List.forall₂_eq_eq_eq] at same
    exact same.symm
  refine ⟨one, fun k child here => ?_, ordered, ?_⟩
  · obtain ⟨o, paired⟩ : ∃ o, i.childObjects[k]? = some o := by
      obtain ⟨inside, -⟩ := List.getElem?_eq_some_iff.1 here
      exact ⟨_, List.getElem?_eq_getElem (by omega)⟩
    have member : (child, o) ∈ i.blueprint.children.zip i.childObjects :=
      List.mem_of_getElem? (List.getElem?_zip_eq_some.2 ⟨here, paired⟩)
    obtain ⟨c, inside, live, w, v, place, ran⟩ :=
      exists_left_of_forall₂ lineup.flip (perm.symm.subset member)
    obtain ⟨_, mounts⟩ := Blueprint.mount_mounts ran
    exact ⟨c, inside, by rw [paired, mounts.object_eq], mounts.blueprint_eq,
      mounts.host_eq.symm ▸ place⟩
  · have distinct : ((i.blueprint.children.zip i.childObjects).map (·.2)).Nodup := by
      rw [own, objects]
      exact List.nodup_range'
    have spots : (i.blueprint.children.zip i.childObjects).map (·.1) = i.blueprint.children :=
      List.map_fst_zip (by omega)
    have met : ((i.blueprint.children.zip i.childObjects).map (·.1.1.address)).Pairwise
        Address.Ahead := by
      rw [show (fun child : (Spot × Blueprint) × ObjectId => child.1.1.address) =
        (fun child => child.1.address) ∘ Prod.fst from rfl, ← List.map_map, spots]
      exact made.children_ahead
    have orders := Address.inOrder_completed_eq_iff i.blueprint.template.root met
      fun child member => made.children_completed (List.of_mem_zip member).1
    calc i.children.map (·.object) = i.childObjects
        ↔ (Address.inOrder i.blueprint.template.root.completedBelow (·.1.1.address)
            (i.blueprint.children.zip i.childObjects)).map (·.2) =
              (i.blueprint.children.zip i.childObjects).map (·.2) := by rw [ordered, own]
      _ ↔ _ := ⟨eq_of_map_eq perm distinct, fun same => by rw [same]⟩
      _ ↔ _ := orders
      _ ↔ ∀ x ∈ (i.blueprint.children.zip i.childObjects).map (·.1),
            ∀ y ∈ (i.blueprint.children.zip i.childObjects).map (·.1),
              ¬ Address.Above x.1.address y.1.address := by simp only [List.forall_mem_map]
      _ ↔ _ := by rw [spots]

/-- Of every instance in an attached one, the objects made for the children line up with the
instances inside. -/
theorem Compiler.attach_lines_up {serial : Nat} {options : CompileOptions}
    {calls : List (Catalog × ClassRef)} {c : ClassRef} {b : Blueprint} {u : UserCode σ}
    {host : NodeId} {z : Zone} {w v : World σ} {i : Instance}
    (found : (after { serial, options } calls).find? c = some b)
    (ran : (b.attach u host z).run w = some (i, v)) :
    ∀ j ∈ i.all, ∃ places, j.Copied u places ∧ j.LinesUp places := by
  obtain ⟨x, mounted, -⟩ := Blueprint.attach_mount ran
  intro j member
  obtain ⟨made, places, copied⟩ := (made_after found).copied_all mounted j member
  exact ⟨places, copied, copied.linesUp made⟩

/-! ### Elements inside of each other -/

/-- A user whose code does nothing. -/
def UserCode.idle : UserCode Unit where
  get _ _ s := (none, s)
  set _ _ _ s := (.ok (), s)
  call _ _ _ := pure (.ok .undefined)
  handler _ := pure ()
  refresh _ := pure (.ok ())
  construct _ _ s := s
  notice _ s := s
  holds _ _ := false

namespace Nesting

/-- A component is used twice, the second time inside of the first. -/
def catalog : Catalog := [("Outer", ⟨"<in><in></in></in>", [⟨"In", true⟩]⟩)]

def outer : ClassRef := ⟨"Outer", true⟩

/-- A document that is one element. -/
def blank : World Unit where
  forest := ⟨#[{ data := .element .html "div" [] }]⟩
  document := 0
  user := ()

def near : Zone := .mk 0 (.dispatcher 0)

/-- The objects made for the children, and the objects of the instances inside. -/
theorem objects :
    (((Compiler.after { serial := 0 } [(catalog, outer)]).find? outer).bind fun b =>
      ((b.attach .idle 0 near).run blank).map fun (i, _) =>
        (i.childObjects, i.children.map (·.object))) = some ([1, 2], [2, 1]) := by
  cbv

theorem attached : ∃ (b : Blueprint) (i : Instance) (v : World Unit),
    (Compiler.after { serial := 0 } [(catalog, outer)]).find? outer = some b ∧
      (b.attach .idle 0 near).run blank = some (i, v) ∧
      i.childObjects = [1, 2] ∧ i.children.map (·.object) = [2, 1] := by
  obtain ⟨b, found, ran⟩ := Option.bind_eq_some_iff.1 objects
  obtain ⟨⟨i, v⟩, ran, same⟩ := Option.map_eq_some_iff.1 ran
  obtain ⟨made, inside⟩ := Prod.mk.inj same
  exact ⟨b, i, v, found, ran, made, inside⟩

end Nesting

/-- This holds of an instance whose template uses a component inside of itself. -/
theorem Compiler.attach_lines_up_nested : ∃ (b : Blueprint) (i : Instance) (v : World Unit),
    (after { serial := 0 } [(Nesting.catalog, Nesting.outer)]).find? Nesting.outer = some b ∧
      (b.attach .idle 0 Nesting.near).run Nesting.blank = some (i, v) ∧
      ∀ j ∈ i.all, ∃ places, j.Copied .idle places ∧ j.LinesUp places := by
  obtain ⟨b, i, v, found, ran, -⟩ := Nesting.attached
  exact ⟨b, i, v, found, ran, attach_lines_up found ran⟩

/-- The instances inside are not in the order of the objects that were made for the children:
there the first object is that of the second instance. -/
theorem nested_crosswise : ∃ (b : Blueprint) (i : Instance) (v : World Unit),
    (Compiler.after { serial := 0 } [(Nesting.catalog, Nesting.outer)]).find? Nesting.outer =
        some b ∧
      (b.attach .idle 0 Nesting.near).run Nesting.blank = some (i, v) ∧
      ¬ ∀ k : Nat, i.childObjects[k]? = (i.children[k]?).map (·.object) := by
  obtain ⟨b, i, v, found, ran, made, inside⟩ := Nesting.attached
  refine ⟨b, i, v, found, ran, fun agree => ?_⟩
  have first := agree 0
  rw [made, ← List.getElem?_map, inside] at first
  cases first

end LiveTemplates
