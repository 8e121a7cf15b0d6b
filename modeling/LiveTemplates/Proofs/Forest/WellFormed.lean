/-
# LiveTemplates.Proofs.Forest.WellFormed -- forests whose links agree

Each node knows its parent, and each parent lists its children.  The two are kept apart, and can
disagree.  In a well-formed forest they agree: a node is listed once by its parent, and by no
other node, and none is above itself.

* `Forest.Above`: a node is listed by another one, or by one below it;
* `Forest.WellFormed`: the links agree, and lead to no node twice;
* `Forest.WellFormed.of_ascending`: they do so if they agree where they are, and children have
  higher numbers than their parents;
* `Forest.under`: the nodes below a node, of which there are fewer below a child;
* `Forest.WellFormed.induct`: what carries over from children to parents holds of all nodes;
* `Forest.WellFormed.one_above`: of two nodes above a third, one is above the other.
-/
import LiveTemplates.Proofs.Forest.Growth
import Mathlib.Data.Finset.Card
import Mathlib.Data.Finset.Filter
import Mathlib.Data.Finset.Range
import Mathlib.Logic.Relation

namespace LiveTemplates.Forest

set_option autoImplicit false

theorem lt_size_of_mem_children {f : Forest} {k n : NodeId} (member : n ∈ f.children k) :
    k < f.size := by
  cases here : f.nodes[k]? with
  | none => simp [children, here] at member
  | some node => exact lt_size_of_getElem? here

theorem lt_size_of_parent? {f : Forest} {k n : NodeId} (link : f.parent? n = some k) :
    n < f.size := by
  cases here : f.nodes[n]? with
  | none => simp [parent?, here] at link
  | some node => exact lt_size_of_getElem? here

/-- Numbers without a node have no links. -/
theorem children_of_size_le {f : Forest} {k : NodeId} (outside : f.size ≤ k) :
    f.children k = [] := by
  rw [children, Array.getElem?_eq_none outside]
  rfl

theorem parent?_of_size_le {f : Forest} {n : NodeId} (outside : f.size ≤ n) :
    f.parent? n = none := by
  rw [parent?, Array.getElem?_eq_none outside]
  rfl

/-- A node is listed by a node, or by one below it. -/
abbrev Above (f : Forest) : NodeId → NodeId → Prop :=
  Relation.TransGen fun n m => m ∈ f.children n

/-- A node is another one, or above it. -/
abbrev Over (f : Forest) : NodeId → NodeId → Prop :=
  Relation.ReflTransGen fun n m => m ∈ f.children n

/-- Each node is listed by the node that its link leads to and by no other, and only once; none
is above itself. -/
structure WellFormed (f : Forest) : Prop where
  distinct : ∀ k, (f.children k).Nodup
  linked : ∀ {k n}, n ∈ f.children k ↔ f.parent? n = some k
  acyclic : ∀ n, ¬ f.Above n n

/-- Where all children have higher numbers than their parents, it is enough to look at the nodes
that there are. -/
theorem WellFormed.of_ascending {f : Forest} (distinct : ∀ k < f.size, (f.children k).Nodup)
    (listed : ∀ k < f.size, ∀ n ∈ f.children k, k < n ∧ f.parent? n = some k)
    (linked : ∀ n < f.size, ∀ k ∈ f.parent? n, n ∈ f.children k) : f.WellFormed := by
  have down {k n : NodeId} (member : n ∈ f.children k) : k < n ∧ f.parent? n = some k :=
    listed k (lt_size_of_mem_children member) n member
  refine ⟨fun k => ?_, ⟨fun member => (down member).2, fun link => ?_⟩, fun n circle => ?_⟩
  · by_cases inside : k < f.size
    · exact distinct k inside
    · rw [children_of_size_le (Nat.le_of_not_lt inside)]
      exact List.nodup_nil
  · exact linked _ (lt_size_of_parent? link) _ link
  · have climbs {a b : NodeId} (above : f.Above a b) : a < b := by
      induction above with
      | single listed => exact (down listed).1
      | tail _ listed less => exact Nat.lt_trans less (down listed).1
    exact Nat.lt_irrefl n (climbs circle)

open Classical in
/-- The nodes below a node. -/
noncomputable def under (f : Forest) (n : NodeId) : Finset NodeId :=
  (Finset.range f.size).filter (f.Above n)

theorem mem_under {f : Forest} {n m : NodeId} : m ∈ f.under n ↔ m < f.size ∧ f.Above n m := by
  simp [under]

theorem card_under_le (f : Forest) (n : NodeId) : (f.under n).card ≤ f.size := by
  have within : f.under n ⊆ Finset.range f.size := fun m member =>
    Finset.mem_range.2 (mem_under.1 member).1
  simpa using Finset.card_le_card within

namespace WellFormed

variable {f : Forest} (formed : f.WellFormed)

include formed

/-- Only nodes are listed that there are. -/
theorem inside {k n : NodeId} (member : n ∈ f.children k) : n < f.size :=
  lt_size_of_parent? (formed.linked.1 member)

theorem unique {k l n : NodeId} (here : n ∈ f.children k) (there : n ∈ f.children l) : k = l :=
  Option.some.inj ((formed.linked.1 here).symm.trans (formed.linked.1 there))

theorem inside_of_above {n m : NodeId} (above : f.Above n m) : m < f.size := by
  obtain ⟨k, -, member⟩ := Relation.TransGen.tail'_iff.1 above
  exact formed.inside member

/-- A child of a node is above no node that this one is below. -/
theorem not_above {n m : NodeId} (above : f.Above n m) : ¬ f.Over m n :=
  fun back => formed.acyclic n (above.trans_left back)

/-- A node has a parent below all other nodes above it. -/
theorem over_parent {a n p : NodeId} (above : f.Above a n) (listed : n ∈ f.children p) :
    f.Over a p := by
  obtain ⟨k, leads, member⟩ := Relation.TransGen.tail'_iff.1 above
  exact formed.unique member listed ▸ leads

/-- Of two nodes above a third, or one of them the third, one is above the other. -/
theorem one_above {a b n : NodeId} (first : f.Over a n) (second : f.Over b n) :
    f.Over a b ∨ f.Over b a := by
  induction second with
  | refl => exact .inl first
  | tail leads listed ih =>
      rcases Relation.ReflTransGen.cases_tail first with rfl | ⟨k, above, member⟩
      · exact .inr (leads.tail listed)
      · exact ih (formed.unique member listed ▸ above)

/-- Fewer nodes are below a child than below its parent, which has the child besides. -/
theorem under_lt {k m : NodeId} (member : m ∈ f.children k) :
    (f.under m).card < (f.under k).card := by
  refine Finset.card_lt_card ((Finset.ssubset_iff_of_subset fun a also => ?_).2 ⟨m, ?_, ?_⟩)
  · obtain ⟨within, above⟩ := mem_under.1 also
    exact mem_under.2 ⟨within, .head member above⟩
  · exact mem_under.2 ⟨formed.inside member, .single member⟩
  · exact fun also => formed.acyclic m (mem_under.1 also).2

/-- What carries over from the children of each node to the node holds of all nodes. -/
theorem induct {P : NodeId → Prop} (step : ∀ n, (∀ m ∈ f.children n, P m) → P n) (n : NodeId) :
    P n := by
  induction count : (f.under n).card using Nat.strong_induction_on generalizing n with
  | h _ ih => exact step n fun m member => ih _ (count ▸ formed.under_lt member) m rfl

end WellFormed

end LiveTemplates.Forest
