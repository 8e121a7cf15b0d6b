/-
# LiveTemplates.Proofs.Forest.Moving -- moving nodes loses none and makes no circle

A node is moved in steps: it is taken out of one list, its link is changed, and it is put at the
end of another list.  In a well-formed forest the outcome can be said at once, and is
well-formed again unless a node was moved below itself.

* `Forest.Moves`: some nodes are now the last children of another node, or have no parent any
  more, and nothing else has changed;
* `Forest.WellFormed.moves`: then a well-formed forest goes on to be one, unless one of the nodes
  was the new parent or above it;
* `Forest.WellFormed.append_moves`, `Forest.WellFormed.remove_moves`,
  `Forest.WellFormed.moveChildren_moves`: this is what the operations do, in the order of the nodes;
* `Forest.WellFormed.append`, `Forest.WellFormed.remove`, `Forest.WellFormed.moveChildren`: so they
  keep a forest well-formed;
* `Forest.WellFormed.adopt`: two well-formed forests are one together.
-/
import LiveTemplates.Proofs.Forest.WellFormed

namespace LiveTemplates.Forest

set_option autoImplicit false

/-! ## Links after a single change -/

section Changes

variable {f : Forest} {n : NodeId} (change : Node → Node) (k : NodeId)

theorem data_modify (same : ∀ node, (change node).data = node.data) :
    (f.modify n change).data k = f.data k := by
  rw [data, data, getElem?_modify]
  split
  · cases f.nodes[k]? <;> simp [same]
  · rfl

theorem parent?_modify (same : ∀ node, (change node).parent = node.parent) :
    (f.modify n change).parent? k = f.parent? k := by
  rw [parent?, parent?, getElem?_modify]
  split
  · cases f.nodes[k]? <;> simp [same]
  · rfl

theorem children_modify (same : ∀ node, (change node).children = node.children) :
    (f.modify n change).children k = f.children k := by
  rw [children, children, getElem?_modify]
  split
  · cases f.nodes[k]? <;> simp [same]
  · rfl

/-- A node gets another link. -/
theorem parent?_modify_set {p : Option NodeId} (set : ∀ node, (change node).parent = p)
    (inside : n < f.size) :
    (f.modify n change).parent? k = if k = n then p else f.parent? k := by
  rw [parent?, parent?, getElem?_modify]
  split
  case isTrue same =>
    subst same
    rw [Array.getElem?_eq_getElem inside]
    exact set _
  case isFalse => rfl

/-- A node gets another list. -/
theorem children_modify_set (list : List NodeId → List NodeId)
    (set : ∀ node, (change node).children = list node.children)
    (there : n < f.size ∨ list [] = []) :
    (f.modify n change).children k = if k = n then list (f.children k) else f.children k := by
  rw [children, children, getElem?_modify]
  split
  case isTrue same =>
    subst same
    cases here : f.nodes[k]? with
    | some node => exact set node
    | none =>
        have outside : ¬ k < f.size := fun inside => by
          rw [Array.getElem?_eq_getElem inside] at here
          cases here
        exact (there.resolve_left outside).symm
  case isFalse => rfl

end Changes

/-- Lists a node at the end of another's children. -/
def enlist (f : Forest) (parent child : NodeId) : Forest :=
  f.modify parent fun node => { node with children := node.children ++ [child] }

theorem append_eq (f : Forest) (parent child : NodeId) :
    f.append parent child = ((f.detach child).setParent child (some parent)).enlist parent child :=
  rfl

section Links

variable (f : Forest) (n m k : NodeId) (p : Option NodeId)

@[simp] theorem data_setParent : (f.setParent n p).data k = f.data k :=
  data_modify (fun node => { node with parent := p }) k fun _ => rfl

@[simp] theorem data_unlist : (f.unlist n m).data k = f.data k :=
  data_modify (fun node => { node with children := node.children.filter (· ≠ m) }) k fun _ => rfl

@[simp] theorem data_clear : (f.clear n).data k = f.data k :=
  data_modify (fun node => { node with children := [] }) k fun _ => rfl

@[simp] theorem data_enlist : (f.enlist n m).data k = f.data k :=
  data_modify (fun node => { node with children := node.children ++ [m] }) k fun _ => rfl

@[simp] theorem parent?_unlist : (f.unlist n m).parent? k = f.parent? k :=
  parent?_modify (fun node => { node with children := node.children.filter (· ≠ m) }) k fun _ => rfl

@[simp] theorem parent?_clear : (f.clear n).parent? k = f.parent? k :=
  parent?_modify (fun node => { node with children := [] }) k fun _ => rfl

@[simp] theorem parent?_enlist : (f.enlist n m).parent? k = f.parent? k :=
  parent?_modify (fun node => { node with children := node.children ++ [m] }) k fun _ => rfl

@[simp] theorem children_setParent : (f.setParent n p).children k = f.children k :=
  children_modify (fun node => { node with parent := p }) k fun _ => rfl

@[simp] theorem children_unlist : (f.unlist n m).children k =
    if k = n then (f.children k).filter (· ≠ m) else f.children k :=
  children_modify_set _ k (List.filter (· ≠ m)) (fun _ => rfl) (.inr rfl)

@[simp] theorem children_clear : (f.clear n).children k = if k = n then [] else f.children k :=
  children_modify_set _ k (fun _ => []) (fun _ => rfl) (.inr rfl)

variable {f n}

theorem parent?_setParent (inside : n < f.size) :
    (f.setParent n p).parent? k = if k = n then p else f.parent? k :=
  parent?_modify_set _ k (fun _ => rfl) inside

theorem children_enlist (inside : n < f.size) :
    (f.enlist n m).children k = f.children k ++ if k = n then [m] else [] := by
  rw [enlist, children_modify_set _ k (· ++ [m]) (fun _ => rfl) (.inl inside)]
  split <;> simp

end Links

/-! ## Nodes that are moved -/

/-- Some nodes are put, in this order, at the end of the children of a node, or taken off their
parents if none is given.  All other lists and links are as they were, in their order. -/
structure Moves (f g : Forest) (moved : List NodeId) (target : Option NodeId) : Prop where
  size : g.size = f.size
  data : ∀ n, g.data n = f.data n
  children : ∀ k, g.children k =
    (f.children k).filter (· ∉ moved) ++ if target = some k then moved else []
  parent? : ∀ n, g.parent? n = if n ∈ moved then target else f.parent? n

/-- A node lists some more nodes at its end, and the links of these lead to it. -/
structure Gains (f g : Forest) (moved : List NodeId) (target : NodeId) : Prop where
  size : g.size = f.size
  data : ∀ n, g.data n = f.data n
  children : ∀ k, g.children k = f.children k ++ if k = target then moved else []
  parent? : ∀ n, g.parent? n = if n ∈ moved then some target else f.parent? n

section Moving

variable {f g h : Forest} {moved more : List NodeId} {target : NodeId}

theorem Gains.trans (first : f.Gains g moved target) (second : g.Gains h more target) :
    f.Gains h (moved ++ more) target where
  size := second.size.trans first.size
  data n := (second.data n).trans (first.data n)
  children k := by
    rw [second.children, first.children, List.append_assoc]
    split <;> rfl
  parent? n := by
    rw [second.parent?, first.parent?]
    by_cases late : n ∈ more <;> by_cases early : n ∈ moved <;> simp [late, early]

/-- Nodes that are taken out of all lists and then gained are moved. -/
theorem Gains.moves (gains : h.Gains g moved target) (size : h.size = f.size)
    (data : ∀ n, h.data n = f.data n)
    (children : ∀ k, h.children k = (f.children k).filter (· ∉ moved))
    (parent? : ∀ n, n ∉ moved → h.parent? n = f.parent? n) : f.Moves g moved (some target) where
  size := gains.size.trans size
  data n := (gains.data n).trans (data n)
  children k := by
    rw [gains.children, children]
    simp only [Option.some.injEq, eq_comm]
  parent? n := by
    rw [gains.parent?]
    split
    · rfl
    · exact parent? n ‹_›

/-- The way below a node that nodes were moved to is the old one, or leads over the new parent and
then below one of the nodes. -/
theorem Moves.above {t : Option NodeId} (moves : f.Moves g moved t) {a b : NodeId}
    (above : g.Above a b) :
    f.Above a b ∨ ∃ p, t = some p ∧ f.Over a p ∧ ∃ m ∈ moved, f.Over m b := by
  have step {k n : NodeId} (listed : n ∈ g.children k) :
      n ∈ f.children k ∨ t = some k ∧ n ∈ moved := by
    rw [moves.children, List.mem_append] at listed
    rcases listed with old | new
    · exact .inl (List.mem_of_mem_filter old)
    · split at new
      · exact .inr ⟨‹_›, new⟩
      · cases new
  induction above with
  | single listed =>
      rcases step listed with old | ⟨rfl, new⟩
      · exact .inl (.single old)
      · exact .inr ⟨_, rfl, .refl, _, new, .refl⟩
  | tail _ listed ih =>
      rcases step listed, ih with ⟨old | ⟨rfl, new⟩, above | ⟨p, onto, leads, m, member, down⟩⟩
      · exact .inl (above.tail old)
      · exact .inr ⟨p, onto, leads, m, member, down.tail old⟩
      · exact .inr ⟨_, rfl, above.to_reflTransGen, _, new, .refl⟩
      · cases onto
        exact .inr ⟨_, rfl, leads, _, new, .refl⟩

/-- A well-formed forest goes on to be one when nodes are moved, each once, unless one of them is
the new parent or above it. -/
theorem WellFormed.moves (formed : f.WellFormed) {t : Option NodeId} (moves : f.Moves g moved t)
    (once : moved.Nodup) (apart : ∀ p ∈ t, ∀ m ∈ moved, ¬ f.Over m p) : g.WellFormed where
  distinct k := by
    rw [moves.children, List.nodup_append]
    refine ⟨(formed.distinct k).filter _, ?_, fun n old m new same => ?_⟩
    · split
      · exact once
      · exact List.nodup_nil
    · have away : n ∉ moved := by simpa using (List.mem_filter.1 old).2
      split at new
      · exact away (same ▸ new)
      · cases new
  linked {k n} := by
    rw [moves.children, moves.parent?, List.mem_append, List.mem_filter, decide_eq_true_eq]
    by_cases member : n ∈ moved
    · by_cases onto : t = some k <;> simp [member, onto]
    · rw [if_neg member, ← formed.linked]
      by_cases onto : t = some k <;> simp [member, onto]
  acyclic n circle := by
    rcases moves.above circle with old | ⟨p, onto, leads, m, member, down⟩
    · exact formed.acyclic n old
    · exact apart p onto m member (down.trans leads)

end Moving

/-! ## The operations -/

section Operations

variable {f : Forest} {parent child source target : NodeId}

/-- A node without a parent is put at the end of a list. -/
theorem append_gains (loose : f.parent? child = none) (here : parent < f.size)
    (there : child < f.size) : f.Gains (f.append parent child) [child] parent := by
  have same : (f.setParent child (some parent)).size = f.size := size_modify ..
  have appended :
      f.append parent child = (f.setParent child (some parent)).enlist parent child := by
    rw [append_eq, detach, loose]
  refine ⟨size_append f parent child, fun n => ?_, fun k => ?_, fun n => ?_⟩
  · simp [appended]
  · rw [appended, children_enlist _ _ (same ▸ here), children_setParent]
  · rw [appended, parent?_enlist, parent?_setParent _ _ there]
    simp

/-- Nodes are put at the end of a list, whatever their links were. -/
theorem appendAll_gains (here : parent < f.size) {ns : List NodeId} (there : ∀ n ∈ ns, n < f.size) :
    f.Gains (f.appendAll parent ns) ns parent := by
  induction ns generalizing f with
  | nil => exact ⟨rfl, fun _ => rfl, fun _ => by simp [appendAll], fun _ => by simp [appendAll]⟩
  | cons n rest ih =>
      obtain ⟨first, others⟩ := List.forall_mem_cons.1 there
      have size : (f.setParent n none).size = f.size := size_modify ..
      have loose : (f.setParent n none).parent? n = none := by
        rw [parent?_setParent _ _ first, if_pos rfl]
      have one := append_gains loose (size ▸ here) (size ▸ first)
      have gains : f.Gains ((f.setParent n none).append parent n) [n] parent := by
        refine ⟨one.size.trans size, fun k => ?_, fun k => ?_, fun k => ?_⟩
        · rw [one.data, data_setParent]
        · rw [one.children, children_setParent]
        · rw [one.parent?, parent?_setParent _ _ first]
          by_cases own : k = n <;> simp [own]
      have later := ih (gains.size ▸ here) fun m member => gains.size ▸ others m member
      exact gains.trans later

namespace WellFormed

variable (formed : f.WellFormed)

include formed

/-- Taking a node out of the list of its parent takes it out of all. -/
theorem children_unlist (listed : child ∈ f.children parent) (k : NodeId) :
    (f.unlist parent child).children k = (f.children k).filter (· ∉ [child]) := by
  rw [Forest.children_unlist]
  split
  · simp
  · refine (List.filter_eq_self.2 fun n member => ?_).symm
    have other : n ≠ child := fun same => ‹¬ k = parent› (formed.unique (same ▸ member) listed)
    simpa using other

theorem unlist_moves (listed : child ∈ f.children parent) :
    f.Moves ((f.unlist parent child).setParent child none) [child] none := by
  have same : (f.unlist parent child).size = f.size := size_modify ..
  refine ⟨(size_modify ..).trans same, fun n => by simp, fun k => ?_, fun n => ?_⟩
  · rw [children_setParent, formed.children_unlist listed]
    simp
  · rw [parent?_setParent _ _ (same ▸ formed.inside listed), parent?_unlist]
    simp

/-- A node is taken off its parent, if it has one. -/
theorem detach_moves (child : NodeId) : f.Moves (f.detach child) [child] none := by
  rw [detach]
  cases link : f.parent? child with
  | some p => exact formed.unlist_moves (formed.linked.2 link)
  | none =>
      refine ⟨rfl, fun _ => rfl, fun k => ?_, fun n => ?_⟩
      · have unlisted (n : NodeId) (member : n ∈ f.children k) : n ≠ child := by
          rintro rfl
          cases (formed.linked.1 member).symm.trans link
        simp only [List.mem_singleton, reduceCtorEq, if_false, List.append_nil]
        exact (List.filter_eq_self.2 fun n member => by simpa using unlisted n member).symm
      · by_cases same : n = child <;> simp [same, link]

/-- A node is put at the end of another's children. -/
theorem append_moves (here : parent < f.size) (there : child < f.size) :
    f.Moves (f.append parent child) [child] (some parent) := by
  have off := formed.detach_moves child
  have same : ((f.detach child).setParent child (some parent)).size = f.size :=
    (size_modify ..).trans off.size
  refine ⟨size_append f parent child, fun n => ?_, fun k => ?_, fun n => ?_⟩
  · rw [append_eq, data_enlist, data_setParent, off.data]
  · rw [append_eq, children_enlist _ _ (same ▸ here), children_setParent, off.children]
    simp [eq_comm]
  · rw [append_eq, parent?_enlist, parent?_setParent _ _ (off.size ▸ there), off.parent?]
    by_cases own : n = child <;> simp [own]

/-- A node is taken off another, if it is a child of that. -/
theorem remove_moves (parent child : NodeId) :
    f.remove parent child = (false, f) ∧ child ∉ f.children parent ∨
      ∃ g, f.remove parent child = (true, g) ∧ child ∈ f.children parent ∧
        f.Moves g [child] none := by
  by_cases listed : child ∈ f.children parent
  · exact .inr ⟨_, if_pos listed, listed, formed.unlist_moves listed⟩
  · exact .inl ⟨if_neg listed, listed⟩

/-- The children of a node are put at the end of another's, or of its own. -/
theorem moveChildren_moves (source : NodeId) (there : target < f.size) :
    ∃ g, f.moveChildren source target = (f.children source, g) ∧
      f.Moves g (f.children source) (some target) := by
  have same : (f.clear source).size = f.size := size_modify ..
  refine ⟨_, rfl, (appendAll_gains (same ▸ there) fun n member => ?_).moves same
    (fun n => data_clear f source n) (fun k => ?_) fun n _ => parent?_clear f source n⟩
  · exact same ▸ formed.inside member
  · rw [children_clear]
    split
    case isTrue own =>
      subst own
      simp
    case isFalse other =>
      refine (List.filter_eq_self.2 fun n member => ?_).symm
      simpa using fun also => other (formed.unique member also)

/-- A node is put below another one that is not below it. -/
theorem append (here : parent < f.size) (there : child < f.size) (apart : ¬ f.Over child parent) :
    (f.append parent child).WellFormed :=
  formed.moves (formed.append_moves here there) (List.nodup_singleton child)
    fun p onto m member => by
      cases onto
      rw [List.mem_singleton.1 member]
      exact apart

theorem remove (parent child : NodeId) : (f.remove parent child).2.WellFormed := by
  rcases formed.remove_moves parent child with ⟨same, -⟩ | ⟨g, same, -, moves⟩
  · rw [same]
    exact formed
  · rw [same]
    exact formed.moves moves (List.nodup_singleton child) nofun

/-- The children of a node are put below another one that is not below it. -/
theorem moveChildren (there : target < f.size) (apart : ¬ f.Above source target) :
    (f.moveChildren source target).2.WellFormed := by
  obtain ⟨g, same, moves⟩ := formed.moveChildren_moves source there
  rw [same]
  refine formed.moves moves (formed.distinct source) fun p onto m member leads => apart ?_
  cases onto
  exact .head' member leads

end WellFormed

end Operations

/-! ## Other changes -/

namespace WellFormed

variable {f g : Forest} (formed : f.WellFormed)

include formed

/-- What nodes hold makes no difference. -/
theorem congr (children : ∀ k, g.children k = f.children k)
    (parent? : ∀ n, g.parent? n = f.parent? n) : g.WellFormed where
  distinct k := children k ▸ formed.distinct k
  linked {k n} := by rw [children, parent?, formed.linked]
  acyclic n circle := by
    refine formed.acyclic n (Relation.TransGen.mono (fun k m listed => ?_) n n circle)
    rwa [← children]

theorem setAttr (n : NodeId) (name value : String) : (f.setAttr n name value).2.WellFormed := by
  let change (node : Node) : Node := { node with data := node.data.setAttr name value }
  exact formed.congr (fun k => children_modify change k fun _ => rfl)
    fun k => parent?_modify change k fun _ => rfl

/-- A new node has no links. -/
theorem add (d : NodeData) : (f.add d).2.WellFormed := by
  refine formed.congr (fun k => ?_) fun n => ?_
  · by_cases new : k = f.size
    · rw [children_of_size_le (Nat.le_of_eq new.symm), children, getElem?_add, if_pos new]
      rfl
    · rw [children, getElem?_add, if_neg new, children]
  · by_cases new : n = f.size
    · rw [parent?_of_size_le (Nat.le_of_eq new.symm), Forest.parent?, getElem?_add, if_pos new]
      rfl
    · rw [Forest.parent?, getElem?_add, if_neg new, Forest.parent?]

end WellFormed

/-! ## Two forests together -/

section Adopting

variable (f g : Forest)

theorem size_adopt : (f.adopt g).size = f.size + g.size := by
  simp [adopt, size]

theorem children_adopt_old {k : Nat} (old : k < f.size) :
    (f.adopt g).children k = f.children k := by
  rw [children, children, adopt, Array.getElem?_append_left old]

theorem getElem?_adopt_new (n : Nat) :
    (f.adopt g).nodes[n + f.size]? = (g.nodes[n]?).map fun node =>
      { node with
        parent := node.parent.map (· + f.size)
        children := node.children.map (· + f.size) } := by
  rw [adopt, size, Array.getElem?_append_right (Nat.le_add_left ..), Nat.add_sub_cancel,
    Array.getElem?_map]

theorem children_adopt_new (k : Nat) :
    (f.adopt g).children (k + f.size) = (g.children k).map (· + f.size) := by
  rw [children, children, getElem?_adopt_new]
  cases g.nodes[k]? <;> rfl

theorem parent?_adopt_old {n : Nat} (old : n < f.size) :
    (f.adopt g).parent? n = f.parent? n := by
  rw [parent?, parent?, adopt, Array.getElem?_append_left old]

theorem parent?_adopt_new (n : Nat) :
    (f.adopt g).parent? (n + f.size) = (g.parent? n).map (· + f.size) := by
  rw [parent?, parent?, getElem?_adopt_new]
  cases g.nodes[n]? <;> rfl

variable {f g}

/-- The nodes of either forest list nodes of the same forest. -/
theorem mem_children_adopt (formed : f.WellFormed) {k n : Nat} :
    n ∈ (f.adopt g).children k ↔ n < f.size ∧ n ∈ f.children k ∨
      ∃ k' n' : Nat, k = k' + f.size ∧ n = n' + f.size ∧ n' ∈ g.children k' := by
  by_cases old : k < f.size
  · rw [children_adopt_old f g old]
    refine ⟨fun listed => .inl ⟨formed.inside listed, listed⟩, fun either => ?_⟩
    rcases either with ⟨-, listed⟩ | ⟨k', n', rfl, -⟩
    · exact listed
    · omega
  · obtain ⟨k', rfl⟩ := Nat.exists_eq_add_of_le' (Nat.le_of_not_lt old)
    rw [children_adopt_new, List.mem_map, children_of_size_le (Nat.le_of_not_lt old)]
    simp only [List.not_mem_nil, and_false, false_or]
    constructor
    · rintro ⟨n', listed, rfl⟩
      exact ⟨k', n', rfl, rfl, listed⟩
    · rintro ⟨k'', n', same, rfl, listed⟩
      exact ⟨n', Nat.add_right_cancel same ▸ listed, rfl⟩

/-- So are those that they are above. -/
theorem above_adopt (formed : f.WellFormed) {a b : Nat} (above : (f.adopt g).Above a b) :
    f.Above a b ∨ ∃ a' b' : Nat, a = a' + f.size ∧ b = b' + f.size ∧ g.Above a' b' := by
  induction above with
  | single listed =>
      rcases (mem_children_adopt formed).1 listed with ⟨-, old⟩ | ⟨k, n, rfl, rfl, new⟩
      · exact .inl (.single old)
      · exact .inr ⟨k, n, rfl, rfl, .single new⟩
  | tail _ listed ih =>
      rcases (mem_children_adopt formed).1 listed, ih with
        ⟨⟨-, old⟩ | ⟨k, n, rfl, rfl, new⟩, above | ⟨a', b', rfl, same, above⟩⟩
      · exact .inl (above.tail old)
      · exact absurd (lt_size_of_mem_children old) (same ▸ Nat.not_lt.2 (Nat.le_add_left ..))
      · exact absurd (formed.inside_of_above above) (Nat.not_lt.2 (Nat.le_add_left ..))
      · obtain rfl := Nat.add_right_cancel same
        exact .inr ⟨a', n, rfl, rfl, above.tail new⟩

/-- Two well-formed forests are one together. -/
theorem WellFormed.adopt (formed : f.WellFormed) (other : g.WellFormed) :
    (f.adopt g).WellFormed where
  distinct k := by
    by_cases old : k < f.size
    · rw [children_adopt_old f g old]
      exact formed.distinct k
    · obtain ⟨k', rfl⟩ := Nat.exists_eq_add_of_le' (Nat.le_of_not_lt old)
      rw [children_adopt_new]
      exact (other.distinct k').map fun _ _ => Nat.add_right_cancel
  linked {k n} := by
    rw [mem_children_adopt formed]
    by_cases old : n < f.size
    · rw [parent?_adopt_old f g old, ← formed.linked]
      refine ⟨fun either => ?_, fun listed => .inl ⟨old, listed⟩⟩
      rcases either with ⟨-, listed⟩ | ⟨k', n', -, rfl, -⟩
      · exact listed
      · exact absurd old (Nat.not_lt.2 (Nat.le_add_left ..))
    · obtain ⟨n', rfl⟩ := Nat.exists_eq_add_of_le' (Nat.le_of_not_lt old)
      rw [parent?_adopt_new, Option.map_eq_some_iff]
      constructor
      · rintro (⟨less, -⟩ | ⟨k', n'', rfl, same, listed⟩)
        · exact absurd less old
        · exact ⟨k', other.linked.1 (Nat.add_right_cancel same ▸ listed), rfl⟩
      · rintro ⟨k', link, rfl⟩
        exact .inr ⟨k', n', rfl, rfl, other.linked.2 link⟩
  acyclic n circle := by
    rcases above_adopt formed circle with old | ⟨a, b, rfl, same, new⟩
    · exact formed.acyclic n old
    · exact other.acyclic a (Nat.add_right_cancel same ▸ new)

end Adopting

end LiveTemplates.Forest
