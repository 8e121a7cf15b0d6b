/-
# LiveTemplates.Proofs.Forest.Cloning -- copies that can be found again

When a tree is copied, the copy of a node is found where the node is in the tree: below the copy
of the root, on the way that the indexes of the children tell.  It is still found there when more
children have been put behind those that it has, and attributes have been given values.

* `Forest.descend`: the node at an address below a node;
* `Forest.Mends`: nodes have got children and values of attributes, and have lost none;
* `Forest.Reaches`, `Forest.Reaches.mends`: ways down from new nodes are the same then;
* `Forest.IsClone`: a node is at an address below some roots, and holds what the node of a tree
  holds that is at this address, but for some values of attributes;
* `Forest.Dresses`: a node has got values of attributes and new trees as its last children.
-/
import LiveTemplates.Proofs.Forest.Growth

namespace LiveTemplates

set_option autoImplicit false

/-- Gives attributes of an element values, one after the other. -/
def NodeData.dress (d : NodeData) (sets : List (String × String)) : NodeData :=
  sets.foldl (fun d s => d.setAttr s.1 s.2) d

theorem NodeData.dress_append (d : NodeData) (sets more : List (String × String)) :
    d.dress (sets ++ more) = (d.dress sets).dress more :=
  List.foldl_append

namespace Forest

/-! ## Mending -/

/-- The node at an address below a node. -/
def descend (f : Forest) (n : NodeId) : List Nat → Option NodeId
  | [] => some n
  | k :: address =>
    match (f.children n)[k]? with
    | some c => f.descend c address
    | none => none

/-- The node at an address, of which the first index is that of a root. -/
def descendFrom (f : Forest) (roots : List NodeId) : List Nat → Option NodeId
  | [] => none
  | k :: address =>
    match roots[k]? with
    | some n => f.descend n address
    | none => none

/-- From some number on, nodes have got more children behind those that they had, and
attributes have got values.  No node is lost. -/
structure Mends (low : Nat) (f g : Forest) : Prop where
  size : f.size ≤ g.size
  children : ∀ n, low ≤ n → n < f.size → f.children n <+: g.children n
  data : ∀ n, low ≤ n → n < f.size → ∃ sets, g.data n = (f.data n).dress sets

/-- From a node on, an address leads to a node, by way of nodes from some number on. -/
inductive Reaches (f : Forest) (low : Nat) : NodeId → List Nat → NodeId → Prop
  | here {n : NodeId} (new : low ≤ n) : Reaches f low n [] n
  | down {n c m : NodeId} {k : Nat} {address : List Nat} (new : low ≤ n)
      (listed : (f.children n)[k]? = some c) (later : Reaches f low c address m) :
      Reaches f low n (k :: address) m

theorem inside_of_children {f : Forest} {n c : NodeId} {k : Nat}
    (listed : (f.children n)[k]? = some c) : n < f.size := by
  refine Nat.lt_of_not_le fun outside => ?_
  have none : f.nodes[n]? = none := Array.getElem?_eq_none outside
  simp [children, none] at listed

namespace Mends

variable {low low' : Nat} {f g h : Forest}

theorem refl (low : Nat) (f : Forest) : Mends low f f where
  size := Nat.le_refl _
  children _ _ _ := List.prefix_refl _
  data _ _ _ := ⟨[], rfl⟩

theorem trans (first : Mends low f g) (second : Mends low g h) : Mends low f h where
  size := Nat.le_trans first.size second.size
  children n more less := (first.children n more less).trans
    (second.children n more (Nat.lt_of_lt_of_le less first.size))
  data n more less := by
    obtain ⟨sets, same⟩ := first.data n more less
    obtain ⟨others, also⟩ := second.data n more (Nat.lt_of_lt_of_le less first.size)
    exact ⟨sets ++ others, by rw [also, same, NodeData.dress_append]⟩

theorem raise (mends : Mends low f g) (more : low ≤ low') : Mends low' f g where
  size := mends.size
  children n new := mends.children n (Nat.le_trans more new)
  data n new := mends.data n (Nat.le_trans more new)

/-- Nodes are as they were, but for more children and values of attributes. -/
theorem of_nodes (size : f.size ≤ g.size) (each : ∀ n node, low ≤ n → f.nodes[n]? = some node →
    ∃ node' sets, g.nodes[n]? = some node' ∧ node.children <+: node'.children ∧
      node'.data = node.data.dress sets) : Mends low f g := by
  have there (n : NodeId) (less : n < f.size) : ∃ node, f.nodes[n]? = some node :=
    ⟨_, Array.getElem?_eq_getElem less⟩
  refine ⟨size, fun n more less => ?_, fun n more less => ?_⟩ <;>
    obtain ⟨node, here⟩ := there n less <;>
    obtain ⟨node', sets, here', longer, dressed⟩ := each n node more here
  · simp only [Forest.children, here, here', Option.map_some, Option.getD_some]
    exact longer
  · refine ⟨sets, ?_⟩
    simp only [Forest.data, here, here', Option.map_some, Option.getD_some]
    exact dressed

/-- Old nodes are as they were, but one, which has got values of attributes and children. -/
theorem of_grows {host : NodeId} {sets : List (String × String)} {ns : List NodeId} {ts : List Tree}
    (grows : ∀ d, Grows f g host d (NodeData.dress d sets) ns ts) : Mends 0 f g := by
  refine of_nodes (grows .document).size fun n node _ here => ?_
  by_cases same : n = host
  · subst same
    obtain ⟨d, parent, children⟩ := node
    exact ⟨_, sets, (grows d).grown parent children here, List.prefix_append _ _, rfl⟩
  · refine ⟨node, [], ?_, List.prefix_refl _, rfl⟩
    rw [(grows .document).other n (lt_size_of_getElem? here) same, here]

theorem add (f : Forest) (d : NodeData) : Mends 0 f (f.add d).2 := by
  refine of_nodes (by simp [size_add]) fun n node _ here => ?_
  refine ⟨node, [], ?_, List.prefix_refl _, rfl⟩
  rw [getElem?_add, if_neg (Nat.ne_of_lt (lt_size_of_getElem? here)), here]

theorem append {parent child : NodeId} (loose : f.parent? child = none) (apart : parent ≠ child) :
    Mends 0 f (f.append parent child) := by
  refine of_nodes (Nat.le_of_eq (size_append f parent child).symm) fun n node _ here => ?_
  rw [getElem?_append loose n apart, here]
  by_cases above : n = parent
  · rw [if_pos above]
    exact ⟨_, [], rfl, List.prefix_append _ _, rfl⟩
  · rw [if_neg above]
    by_cases below : n = child
    · rw [if_pos below]
      exact ⟨_, [], rfl, List.prefix_refl _, rfl⟩
    · rw [if_neg below]
      exact ⟨node, [], rfl, List.prefix_refl _, rfl⟩

theorem setParent (f : Forest) (n : NodeId) (parent : Option NodeId) :
    Mends 0 f (f.setParent n parent) := by
  refine of_nodes (by simp [Forest.setParent]) fun k node _ here => ?_
  rw [Forest.setParent, getElem?_modify, here]
  by_cases same : k = n
  · rw [if_pos same]
    exact ⟨_, [], rfl, List.prefix_refl _, rfl⟩
  · rw [if_neg same]
    exact ⟨node, [], rfl, List.prefix_refl _, rfl⟩

theorem clear (f : Forest) (n : NodeId) : Mends (n + 1) f (f.clear n) := by
  refine of_nodes (by simp [Forest.clear]) fun k node new here => ?_
  rw [Forest.clear, getElem?_modify, if_neg (Nat.ne_of_gt new), here]
  exact ⟨node, [], rfl, List.prefix_refl _, rfl⟩

theorem appendAll {host : NodeId} {ns : List NodeId} (apart : ∀ n ∈ ns, host ≠ n) (f : Forest) :
    Mends 0 f (f.appendAll host ns) := by
  induction ns generalizing f with
  | nil => exact refl 0 f
  | cons n ns ih =>
      have loose : (f.setParent n none).parent? n = none := by
        rw [parent?, Forest.setParent, getElem?_modify, if_pos rfl]
        cases f.nodes[n]? <;> rfl
      have first := (setParent f n none).trans (append loose (apart n (by simp)))
      exact first.trans (ih (fun m member => apart m (List.mem_cons_of_mem _ member)) _)

/-- The children of a node are moved: those behind this node are mended. -/
theorem moveChildren {source host : NodeId} (apart : ∀ n ∈ f.children source, host ≠ n) :
    Mends (source + 1) f (f.moveChildren source host).2 :=
  (clear f source).trans ((appendAll apart _).raise (Nat.zero_le _))

end Mends

/-! ## Ways down -/

namespace Reaches

variable {low low' : Nat} {f g : Forest} {n m : NodeId} {address : List Nat}

theorem mends (reaches : f.Reaches low n address m) (mends : Mends low f g) :
    g.Reaches low n address m := by
  induction reaches with
  | here new => exact .here new
  | @down n c _ k _ new listed _ ih =>
      obtain ⟨rest, longer⟩ := mends.children n new (inside_of_children listed)
      refine .down new ?_ ih
      rw [← longer, List.getElem?_append_left (List.getElem?_eq_some_iff.1 listed).1, listed]

theorem lower (reaches : f.Reaches low n address m) (less : low' ≤ low) :
    f.Reaches low' n address m := by
  induction reaches with
  | here new => exact .here (Nat.le_trans less new)
  | down new listed _ ih => exact .down (Nat.le_trans less new) listed ih

theorem descend_eq (reaches : f.Reaches low n address m) : f.descend n address = some m := by
  induction reaches with
  | here => rfl
  | down _ listed _ ih => rw [descend, listed]; exact ih

theorem new (reaches : f.Reaches low n address m) : low ≤ m := by
  induction reaches with
  | here new => exact new
  | down _ _ _ ih => exact ih

end Reaches

/-! ## Clones -/

/-- A node holds what the node of a tree holds that is at an address, but for some values of
attributes. -/
def Resembles (f : Forest) (t : Tree) (address : List Nat) (m : NodeId) : Prop :=
  m < f.size ∧ ∃ d us sets, t.at? address = some (.node d us) ∧ f.data m = d.dress sets

/-- Below some roots, a node is at an address, and it holds what the node of a tree holds that is
at this address. -/
def IsClone (f : Forest) (low : Nat) (roots : List NodeId) (t : Tree) (address : List Nat)
    (m : NodeId) : Prop :=
  (∃ k rest n, address = k :: rest ∧ roots[k]? = some n ∧ f.Reaches low n rest m) ∧
    f.Resembles t address m

section

variable {low low' : Nat} {f g : Forest} {roots : List NodeId} {t : Tree} {address : List Nat}
  {m : NodeId}

theorem Resembles.mends (resembles : f.Resembles t address m) (new : low ≤ m)
    (mends : Mends low f g) : g.Resembles t address m := by
  obtain ⟨inside, d, us, sets, here, dressed⟩ := resembles
  obtain ⟨more, same⟩ := mends.data m new inside
  refine ⟨Nat.lt_of_lt_of_le inside mends.size, d, us, sets ++ more, here, ?_⟩
  rw [same, dressed, NodeData.dress_append]

theorem IsClone.mends (clone : f.IsClone low roots t address m) (mends : Mends low f g) :
    g.IsClone low roots t address m := by
  obtain ⟨⟨k, rest, n, same, root, reaches⟩, resembles⟩ := clone
  exact ⟨⟨k, rest, n, same, root, reaches.mends mends⟩, resembles.mends reaches.new mends⟩

theorem IsClone.lower (clone : f.IsClone low roots t address m) (less : low' ≤ low) :
    f.IsClone low' roots t address m := by
  obtain ⟨⟨k, rest, n, same, root, reaches⟩, resembles⟩ := clone
  exact ⟨⟨k, rest, n, same, root, reaches.lower less⟩, resembles⟩

theorem IsClone.descendFrom_eq (clone : f.IsClone low roots t address m) :
    f.descendFrom roots address = some m := by
  obtain ⟨⟨k, rest, n, rfl, root, reaches⟩, -⟩ := clone
  rw [descendFrom, root]
  exact reaches.descend_eq

end

/-! ## Dressing -/

/-- A node has got values of attributes and new trees as its last children; all other old nodes
are as they were. -/
def Dresses (f g : Forest) (live : NodeId) : Prop :=
  ∃ sets ns ts, ∀ d, Grows f g live d (NodeData.dress d sets) ns ts

namespace Dresses

variable {f g h : Forest} {live : NodeId}

theorem refl (f : Forest) (live : NodeId) : Dresses f f live :=
  ⟨[], [], [], fun d => .refl f live d⟩

theorem trans (first : Dresses f g live) (second : Dresses g h live) (inside : live < f.size) :
    Dresses f h live := by
  obtain ⟨sets, ns, ts, grows⟩ := first
  obtain ⟨more, ms, us, grows'⟩ := second
  refine ⟨sets ++ more, ns ++ ms, ts ++ us, fun d => ?_⟩
  rw [NodeData.dress_append]
  exact (grows d).trans (grows' _) inside

theorem setAttr (f : Forest) (live : NodeId) (name text : String) :
    Dresses f (f.setAttr live name text).2 live :=
  ⟨[(name, text)], [], [], fun d => .setAttr f live d name text⟩

theorem mends (dresses : Dresses f g live) : Mends 0 f g := by
  obtain ⟨_, _, _, grows⟩ := dresses
  exact .of_grows grows

end Dresses

end Forest

end LiveTemplates
