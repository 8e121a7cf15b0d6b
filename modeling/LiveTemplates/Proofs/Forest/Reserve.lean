/-
# LiveTemplates.Proofs.Forest.Reserve -- nodes that are left alone

Some nodes of a forest can be all the nodes of some trees: what is a child of one of them is
one of them, and what is a child of any other node is none.  Whoever works on other nodes only,
puts them below each other and adds new ones, leaves them as they are.

* `Forest.Closed`: some nodes are all the nodes of some trees; `Forest.Free`: another node;
* `Forest.Leaves`: they are as they were, and so they are still;
* `Forest.Leaves.append`, `Forest.Leaves.moveChildren`, `Forest.Leaves.remove`: working on other
  nodes leaves them alone;
* `Forest.appendAll_within`: what becomes of them if others are put below one of them;
* `Forest.Orders`: a tree's nodes in document order; `Forest.Orders.elementsByTag`: so the
  elements with a tag are found.
-/
import LiveTemplates.Proofs.Forest.Growth
import Mathlib.Data.List.Perm.Subperm

namespace LiveTemplates.Forest

set_option autoImplicit false

/-! ## Whole trees -/

/-- Only nodes are listed that there are, and of some nodes if and only if by some of them. -/
def Lists (D : NodeId → Prop) (f : Forest) : Prop :=
  ∀ k, ∀ n ∈ f.children k, n < f.size ∧ (D n ↔ D k)

/-- Some nodes are all the nodes of some trees of a forest. -/
structure Closed (D : NodeId → Prop) (f : Forest) : Prop where
  inside : ∀ n, D n → n < f.size
  listed : f.Lists D

/-- There is a node of this number, and it is none of them. -/
structure Free (D : NodeId → Prop) (f : Forest) (n : NodeId) : Prop where
  inside : n < f.size
  away : ¬ D n

/-- If some nodes were all the nodes of some trees, they still are, and are as they were. -/
def Leaves (D : NodeId → Prop) (f g : Forest) : Prop :=
  f.Closed D → g.Closed D ∧ f.size ≤ g.size ∧ ∀ n, D n → g.nodes[n]? = f.nodes[n]?

theorem children_of_getElem? {f g : Forest} {n : NodeId} (same : g.nodes[n]? = f.nodes[n]?) :
    g.children n = f.children n := by
  rw [children, children, same]

section Leaving

variable {D : NodeId → Prop} {f g h : Forest} {n : NodeId}

theorem Free.later (free : f.Free D n) (size : f.size ≤ g.size) : g.Free D n :=
  ⟨Nat.lt_of_lt_of_le free.inside size, free.away⟩

/-- A new node is none of them. -/
theorem Closed.free_size (closed : f.Closed D) (less : f.size < g.size) : g.Free D f.size :=
  ⟨less, fun member => Nat.lt_irrefl _ (closed.inside _ member)⟩

/-- What is below a node that is none of them is none of them. -/
theorem Closed.free_children (closed : f.Closed D) (away : ¬ D n) : ∀ m ∈ f.children n, f.Free D m :=
  fun m member => ⟨(closed.listed n m member).1, fun below => away ((closed.listed n m member).2.1 below)⟩

namespace Leaves

theorem refl (f : Forest) : f.Leaves D f :=
  fun closed => ⟨closed, Nat.le_refl _, fun _ _ => rfl⟩

theorem trans (first : f.Leaves D g) (second : g.Leaves D h) : f.Leaves D h := by
  intro closed
  obtain ⟨between, size, same⟩ := first closed
  obtain ⟨after, size', also⟩ := second between
  exact ⟨after, Nat.le_trans size size', fun n member => (also n member).trans (same n member)⟩

/-- What is listed anew is listed elsewhere. -/
theorem of_listed (size : f.size ≤ g.size)
    (same : f.Closed D → ∀ n, D n → g.nodes[n]? = f.nodes[n]?)
    (listed : ∀ k, ∀ n ∈ g.children k, n ∈ f.children k ∨ f.Free D n ∧ ¬ D k) :
    f.Leaves D g := by
  refine fun closed => ⟨⟨fun n member => Nat.lt_of_lt_of_le (closed.inside n member) size,
    fun k n member => ?_⟩, size, same closed⟩
  rcases listed k n member with old | ⟨child, parent⟩
  · have before := closed.listed k n old
    exact ⟨Nat.lt_of_lt_of_le before.1 size, before.2⟩
  · exact ⟨Nat.lt_of_lt_of_le child.inside size, iff_of_false child.away parent⟩

theorem add (f : Forest) (d : NodeData) : f.Leaves D (f.add d).2 := by
  refine of_listed (by simp [size_add]) (fun closed n member => ?_) fun k n member => ?_
  · rw [getElem?_add, if_neg (Nat.ne_of_lt (closed.inside n member))]
  · rw [children, getElem?_add] at member
    split at member
    · cases member
    · exact .inl member

/-- Another node changes, and lists none of them that it did not list before. -/
theorem modify (away : ¬ D n) (f : Forest) {change : Node → Node}
    (listed : ∀ node, ∀ m ∈ (change node).children, m ∈ node.children ∨ f.Free D m) :
    f.Leaves D (f.modify n change) := by
  refine of_listed (by simp) (fun _ k member => ?_) fun k m member => ?_
  · have other : k ≠ n := fun same => away (same ▸ member)
    rw [getElem?_modify, if_neg other]
  · rw [children, getElem?_modify] at member
    split at member
    case isTrue same =>
      subst same
      cases here : f.nodes[k]? with
      | none => simp [here] at member
      | some node =>
          simp only [here, Option.map_some, Option.getD_some] at member
          refine (listed node m member).imp (fun old => ?_) fun other => ⟨other, away⟩
          simpa [children, here] using old
    case isFalse => exact .inl member

theorem setAttr (away : ¬ D n) (f : Forest) (name value : String) :
    f.Leaves D (f.setAttr n name value).2 :=
  modify away f fun _ _ => .inl

theorem setParent (away : ¬ D n) (f : Forest) (parent : Option NodeId) :
    f.Leaves D (f.setParent n parent) :=
  modify away f fun _ _ => .inl

theorem clear (away : ¬ D n) (f : Forest) : f.Leaves D (f.clear n) :=
  modify away f fun _ _ member => nomatch member

/-- Another node is taken out of a list. -/
theorem unlist {child : NodeId} (away : ¬ D child) (f : Forest) (parent : NodeId) :
    f.Leaves D (f.unlist parent child) := by
  refine of_listed (by simp [Forest.unlist]) (fun closed n member => ?_) fun k n member => ?_
  · rw [Forest.unlist, getElem?_modify]
    split
    case isTrue same =>
      subst same
      cases here : f.nodes[n]? with
      | none => rfl
      | some node =>
          have kept : node.children.filter (· ≠ child) = node.children := by
            refine List.filter_eq_self.2 fun m listed => decide_eq_true ?_
            rintro rfl
            exact away ((closed.listed n m (by simpa [children, here] using listed)).2.2 member)
          rw [Option.map_some, kept]
    case isFalse => rfl
  · rw [children, Forest.unlist, getElem?_modify] at member
    split at member
    case isTrue same =>
      subst same
      cases here : f.nodes[k]? with
      | none => simp [here] at member
      | some node =>
          simp only [here, Option.map_some, Option.getD_some] at member
          exact .inl (by simpa [children, here] using List.mem_of_mem_filter member)
    case isFalse => exact .inl member

theorem detach {child : NodeId} (away : ¬ D child) (f : Forest) : f.Leaves D (f.detach child) := by
  rw [Forest.detach]
  cases f.parent? child with
  | none => exact refl f
  | some p => exact (unlist away f p).trans (setParent away _ none)

/-- Other nodes are put below each other. -/
theorem append {parent child : NodeId} (above : ¬ D parent) (below : f.Free D child) :
    f.Leaves D (f.append parent child) := by
  have first := (detach below.away f).trans (setParent below.away _ (some parent))
  intro closed
  obtain ⟨-, size, -⟩ := first closed
  refine (first.trans (modify above _ fun node m member => ?_)) closed
  rcases List.mem_append.1 member with old | new
  · exact .inl old
  · rw [List.mem_singleton.1 new]
    exact .inr (below.later size)

/-- Another node is taken off its parent. -/
theorem remove {child : NodeId} (away : ¬ D child) (f : Forest) (parent : NodeId) :
    f.Leaves D (f.remove parent child).2 := by
  rw [Forest.remove]
  split
  · exact (unlist away f parent).trans (setParent away _ none)
  · exact refl f

theorem appendAll {parent : NodeId} (above : ¬ D parent) {ns : List NodeId}
    (below : ∀ n ∈ ns, f.Free D n) : f.Leaves D (f.appendAll parent ns) := by
  induction ns generalizing f with
  | nil => exact refl f
  | cons n ns ih =>
      obtain ⟨first, others⟩ := List.forall_mem_cons.1 below
      have alone := setParent first.away f none
      intro closed
      obtain ⟨closed₁, size, -⟩ := alone closed
      have one : Leaves D (f.setParent n none) ((f.setParent n none).append parent n) :=
        append above (first.later size)
      obtain ⟨-, size', -⟩ := one closed₁
      refine ((alone.trans one).trans (ih fun m member => ?_)) closed
      exact (others m member).later (Nat.le_trans size size')

/-- The children of another node are moved below a third one. -/
theorem moveChildren {source target : NodeId} (off : ¬ D source) (onto : ¬ D target) (f : Forest) :
    f.Leaves D (f.moveChildren source target).2 := by
  intro closed
  have cleared := clear off f
  obtain ⟨-, size, -⟩ := cleared closed
  exact (cleared.trans (appendAll onto fun n member =>
    (closed.free_children off n member).later size)) closed

end Leaves

end Leaving

/-- Others are put below one of them: this gets new children at its end, and the rest is as it
was. -/
theorem appendAll_within {D : NodeId → Prop} {host : NodeId} (within : D host) {ns : List NodeId}
    (away : ∀ n ∈ ns, ¬ D n) (f : Forest) {n : NodeId} (member : D n) :
    (f.appendAll host ns).nodes[n]? =
      if n = host then (f.nodes[n]?).map fun node => { node with children := node.children ++ ns }
      else f.nodes[n]? := by
  induction ns generalizing f with
  | nil =>
      split
      · cases here : f.nodes[n]? <;> simp [appendAll, here]
      · rfl
  | cons m ns ih =>
      obtain ⟨first, others⟩ := List.forall_mem_cons.1 away
      have loose : (f.setParent m none).parent? m = none := by
        rw [parent?, setParent, getElem?_modify, if_pos rfl]
        cases f.nodes[m]? <;> rfl
      have apart : host ≠ m := fun same => first (same ▸ within)
      have other : n ≠ m := fun same => first (same ▸ member)
      refine (ih others ((f.setParent m none).append host m)).trans ?_
      rw [getElem?_append loose _ apart, setParent, getElem?_modify, if_neg other]
      split
      · cases f.nodes[n]? <;> simp
      · rfl

/-! ## Document order -/

mutual

/-- A tree's nodes, each in front of what is below it. -/
inductive Orders (f : Forest) : NodeId → List NodeId → Prop
  | node {n : NodeId} {ns : List NodeId} (below : OrdersAll f (f.children n) ns) :
      Orders f n (n :: ns)

/-- The nodes of trees, one tree after the other. -/
inductive OrdersAll (f : Forest) : List NodeId → List NodeId → Prop
  | nil : OrdersAll f [] []
  | cons {n : NodeId} {roots first later : List NodeId} (here : Orders f n first)
      (there : OrdersAll f roots later) : OrdersAll f (n :: roots) (first ++ later)

end

theorem OrdersAll.append {f : Forest} {roots others first later : List NodeId}
    (here : OrdersAll f roots first) (there : OrdersAll f others later) :
    OrdersAll f (roots ++ others) (first ++ later) := by
  induction roots generalizing first with
  | nil =>
      cases here
      exact there
  | cons n roots ih =>
      cases here with
      | cons one more =>
          rw [List.append_assoc]
          exact .cons one (ih more)

/-- A walk meets the nodes in document order. -/
theorem OrdersAll.walkFrom {f : Forest} {fuel : Nat} {roots order : List NodeId}
    (orders : OrdersAll f roots order) (enough : order.length ≤ fuel) :
    f.walkFrom fuel roots = order := by
  induction fuel generalizing roots order with
  | zero =>
      obtain rfl := List.length_eq_zero_iff.1 (Nat.le_zero.1 enough)
      rfl
  | succ fuel ih =>
      cases orders with
      | nil => rfl
      | cons here there =>
          cases here with
          | node below =>
              rw [Forest.walkFrom, List.cons_append]
              exact congrArg _ (ih (below.append there) (Nat.le_of_succ_le_succ enough))

/-- The elements with a tag below the root of a tree, in document order. -/
theorem Orders.elementsByTag {f : Forest} {root : NodeId} {order : List NodeId}
    (orders : f.Orders root (root :: order)) (distinct : order.Nodup)
    (inside : ∀ n ∈ order, n < f.size) (tag : String) :
    f.elementsByTag root tag =
      order.filter fun n => (f.data n).tag? = some (Text.uppercase tag) := by
  have few : order.length ≤ f.size := by
    have within : order ⊆ List.range f.size := fun n member => List.mem_range.2 (inside n member)
    simpa using (List.Nodup.subperm distinct within).length_le
  have walked : f.walkFrom f.size (f.children root) = order := by
    cases orders with
    | node below => exact below.walkFrom few
  rw [Forest.elementsByTag, elementsBelow, walked, List.filter_filter]
  refine List.filter_congr fun n _ => ?_
  cases f.data n <;> simp [NodeData.tag?, NodeData.isElement]

end LiveTemplates.Forest
