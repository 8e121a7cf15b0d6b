/-
# LiveTemplates.Proofs.Forest.Walking -- walks meet the nodes in document order

A walk keeps the nodes that it has yet to meet on a stack.  It meets the node on top, and
the children take its place, the first of them on top.  In a well-formed forest this comes to an
end, and meets what the recursion over the tree meets: each node in front of those below it, and
all that is below a child in front of the next child.

* `Forest.preorder`: the nodes of a tree by recursion (`Forest.WellFormed.preorder_eq`), each once
  (`Forest.WellFormed.nodup_preorder`);
* `Forest.Turn`: one turn of a walk, on a stack that grows at its end; `Forest.OrdersAll.turns`:
  turn by turn it meets the nodes of trees and leaves what is on the stack below;
* `Forest.WellFormed.walkFrom_eq`: the walk meets them all within its bound;
* `Forest.WellFormed.walks_preorder`: so the elements below a node are in document order, those
  with a tag among them, and texts are joined in document order.
-/
import LiveTemplates.Proofs.Forest.Reserve
import LiveTemplates.Proofs.Forest.WellFormed

namespace LiveTemplates.Forest

set_option autoImplicit false

/-! ## Document order -/

/-- The nodes of the tree at a node down to a depth, each in front of those below it. -/
def preorderTo (f : Forest) : Nat → NodeId → List NodeId
  | 0, n => [n]
  | depth + 1, n => n :: (f.children n).flatMap (f.preorderTo depth)

/-- The nodes of the tree at a node, each in front of those below it. -/
def preorder (f : Forest) (n : NodeId) : List NodeId :=
  f.preorderTo f.size n

/-- The nodes below a node, in document order. -/
def orderBelow (f : Forest) (n : NodeId) : List NodeId :=
  (f.children n).flatMap f.preorder

namespace WellFormed

variable {f : Forest} (formed : f.WellFormed)

include formed

/-- No tree is deeper than the number of nodes below its root. -/
theorem preorderTo_eq {depth : Nat} {n : NodeId} (enough : (f.under n).card ≤ depth) :
    f.preorderTo depth n = n :: (f.children n).flatMap (f.preorderTo depth) := by
  induction depth generalizing n with
  | zero =>
      have leaf : f.children n = [] := by
        refine List.eq_nil_iff_forall_not_mem.2 fun m member => ?_
        have fewer := formed.under_lt member
        omega
      rw [leaf]
      rfl
  | succ depth ih =>
      rw [preorderTo]
      refine congrArg (n :: ·) (List.flatMap_congr fun m member => ?_)
      have fewer := formed.under_lt member
      exact ih (by omega)

/-- The recursion that is the document order. -/
theorem preorder_eq (n : NodeId) : f.preorder n = n :: f.orderBelow n :=
  formed.preorderTo_eq (f.card_under_le n)

theorem mem_preorder {n m : NodeId} : m ∈ f.preorder n ↔ f.Over n m := by
  induction n using formed.induct with
  | step n ih =>
      rw [formed.preorder_eq, List.mem_cons, orderBelow, List.mem_flatMap, eq_comm]
      have steps := or_congr (Iff.refl (n = m)) (exists_congr fun k => and_congr_right (ih k))
      have leads : f.Over n m ↔ n = m ∨ ∃ k, k ∈ f.children n ∧ f.Over k m :=
        Relation.ReflTransGen.cases_head_iff
      exact steps.trans leads.symm

/-- The nodes below a node are those that it is above. -/
theorem mem_orderBelow {n m : NodeId} : m ∈ f.orderBelow n ↔ f.Above n m := by
  simp only [orderBelow, List.mem_flatMap, formed.mem_preorder, Relation.TransGen.head'_iff]

/-- No node is in two trees, and none is twice in one. -/
theorem nodup_preorder (n : NodeId) : (f.preorder n).Nodup := by
  induction n using formed.induct with
  | step n ih =>
      rw [formed.preorder_eq, List.nodup_cons, formed.mem_orderBelow]
      refine ⟨formed.acyclic n, List.nodup_flatMap.2 ⟨ih, ?_⟩⟩
      refine (formed.distinct n).imp_of_mem fun {a b} first second other m one two => ?_
      have circle {x y : NodeId} (x_listed : x ∈ f.children n) (y_listed : y ∈ f.children n)
          (apart : x ≠ y) : ¬ f.Over x y := by
        intro leads
        have above := (Relation.reflTransGen_iff_eq_or_transGen.1 leads).resolve_left apart.symm
        exact formed.not_above (.single x_listed) (formed.over_parent above y_listed)
      have both := formed.one_above (formed.mem_preorder.1 one) (formed.mem_preorder.1 two)
      rcases both with leads | leads
      · exact circle first second other leads
      · exact circle second first other.symm leads

theorem nodup_orderBelow (n : NodeId) : (f.orderBelow n).Nodup := by
  have all := formed.nodup_preorder n
  rw [formed.preorder_eq] at all
  exact (List.nodup_cons.1 all).2

theorem length_orderBelow (n : NodeId) : (f.orderBelow n).length ≤ f.size := by
  have within : f.orderBelow n ⊆ List.range f.size := fun m member =>
    List.mem_range.2 (formed.inside_of_above (formed.mem_orderBelow.1 member))
  simpa using ((formed.nodup_orderBelow n).subperm within).length_le

/-! ## Walks -/

theorem orders (n : NodeId) : f.Orders n (f.preorder n) := by
  induction n using formed.induct with
  | step n ih =>
      rw [formed.preorder_eq, orderBelow]
      refine .node ?_
      generalize f.children n = roots at ih
      induction roots with
      | nil => exact .nil
      | cons m rest all =>
          obtain ⟨first, others⟩ := List.forall_mem_cons.1 ih
          exact .cons first (all others)

end WellFormed

/-- One turn of a walk, with the nodes that it has met: the last node on the stack is met, and the
children take its place, the first of them last. -/
inductive Turn (f : Forest) : List NodeId × List NodeId → List NodeId × List NodeId → Prop
  | meet (stack met : List NodeId) (n : NodeId) :
      Turn f (stack ++ [n], met) (stack ++ (f.children n).reverse, met ++ [n])

/-- A walk has no choice. -/
theorem Turn.unique {f : Forest} {s t r : List NodeId × List NodeId} (one : f.Turn s t)
    (other : f.Turn s r) : t = r := by
  obtain ⟨stack, met, n⟩ := one
  generalize start : (stack ++ [n], met) = s at other
  obtain ⟨stack', met', n'⟩ := other
  obtain ⟨same, rfl⟩ := Prod.mk.inj start
  obtain ⟨rfl, rfl⟩ := List.append_singleton_inj.1 same
  rfl

/-- It is over when the stack is empty. -/
theorem not_turn_nil {f : Forest} {met : List NodeId} {t : List NodeId × List NodeId} :
    ¬ f.Turn ([], met) t := by
  intro turn
  generalize start : (([], met) : List NodeId × List NodeId) = s at turn
  obtain ⟨stack, met', n⟩ := turn
  exact List.append_ne_nil_of_right_ne_nil stack (List.cons_ne_nil n []) (Prod.mk.inj start).1.symm

/-- Turn by turn a walk meets the nodes of trees in document order, and leaves what is on the
stack below. -/
theorem OrdersAll.turns {f : Forest} {roots order : List NodeId} (orders : OrdersAll f roots order)
    (stack met : List NodeId) : Relation.ReflTransGen f.Turn (stack ++ roots.reverse, met)
      (stack, met ++ order) := by
  -- the order gets shorter with each turn, while the roots may get more
  induction count : order.length using Nat.strong_induction_on
    generalizing roots order stack met with
  | h _ ih =>
      cases orders with
      | nil => simpa using Relation.ReflTransGen.refl
      | @cons n rest first later here there =>
          cases here with
          | @node _ ns below =>
              have shorter : (ns ++ later).length < (n :: ns ++ later).length := by simp
              have rest' := ih _ (count ▸ shorter) (below.append there) stack (met ++ [n]) rfl
              have turn := Turn.meet (f := f) (stack ++ rest.reverse) met n
              rw [List.append_assoc, List.append_assoc, ← List.reverse_cons,
                ← List.reverse_append] at turn
              refine .head turn ?_
              simpa using rest'

namespace WellFormed

variable {f : Forest} (formed : f.WellFormed)

include formed

/-- The bound of a walk is never met. -/
theorem walkFrom_eq (root : NodeId) {fuel : Nat} (enough : f.size ≤ fuel) :
    f.walkFrom fuel (f.children root) = f.orderBelow root := by
  have orders := formed.orders root
  rw [formed.preorder_eq] at orders
  cases orders with
  | node below => exact below.walkFrom (Nat.le_trans (formed.length_orderBelow root) enough)

theorem nodesFrom_eq (root : NodeId) : f.nodesFrom root = f.preorder root := by
  rw [nodesFrom, formed.preorder_eq, walkFrom, List.append_nil,
    formed.walkFrom_eq root (Nat.le_refl _)]

theorem elementsBelow_eq (root : NodeId) :
    f.elementsBelow root = (f.orderBelow root).filter fun n => (f.data n).isElement := by
  rw [elementsBelow, formed.walkFrom_eq root (Nat.le_refl _)]

/-- A walk below a node comes to an end, and meets the nodes below it in document order.  So the
elements below it are in document order, each once, those with a tag are among them in the same
order, the first of them comes first, and texts are joined in document order, that of the node
first. -/
theorem walks_preorder (root : NodeId) :
    (∀ n, f.preorder n = n :: (f.children n).flatMap f.preorder) ∧
    Relation.ReflTransGen f.Turn ((f.children root).reverse, []) ([], f.orderBelow root) ∧
    (∀ fuel, f.size ≤ fuel → f.walkFrom fuel (f.children root) = f.orderBelow root) ∧
    f.elementsBelow root = (f.orderBelow root).filter (fun n => (f.data n).isElement) ∧
    (f.elementsBelow root).Nodup ∧
    (∀ n, n ∈ f.elementsBelow root ↔ f.Above root n ∧ (f.data n).isElement) ∧
    (∀ tag, f.elementsByTag root tag =
      (f.elementsBelow root).filter fun n => (f.data n).tag? = some (Text.uppercase tag)) ∧
    (∀ tag, (f.elementsByTag root tag).head? =
      (f.orderBelow root).find? fun n => (f.data n).tag? = some (Text.uppercase tag)) ∧
    f.textContent root = String.join ((f.preorder root).filterMap fun n => (f.data n).text?) := by
  have orders := formed.orders root
  have turns : Relation.ReflTransGen f.Turn ((f.children root).reverse, [])
      ([], f.orderBelow root) := by
    rw [formed.preorder_eq] at orders
    cases orders with
    | node below => simpa using below.turns [] []
  have tagged (tag : String) : f.elementsByTag root tag =
      (f.orderBelow root).filter fun n => (f.data n).tag? = some (Text.uppercase tag) := by
    rw [formed.preorder_eq] at orders
    exact orders.elementsByTag (formed.nodup_orderBelow root) (fun n member =>
      formed.inside_of_above (formed.mem_orderBelow.1 member)) tag
  have elements := formed.elementsBelow_eq root
  refine ⟨formed.preorder_eq, turns, fun _ => formed.walkFrom_eq root, elements, ?_, fun n => ?_,
    fun _ => rfl, fun tag => ?_, ?_⟩
  · rw [elements]
    exact (formed.nodup_orderBelow root).filter _
  · rw [elements, List.mem_filter, formed.mem_orderBelow]
  · rw [tagged, List.head?_filter]
  · rw [textContent, formed.nodesFrom_eq]

end WellFormed

/-- Two paragraphs in a document; in the first, behind a text, a comment has an element below
it. -/
def nested : Forest where
  nodes := #[{ data := .document, children := [1, 5] },
    { data := .element .html "p" [], parent := some 0, children := [2, 3] },
    { data := .text "one", parent := some 1 },
    { data := .comment "two", parent := some 1, children := [4] },
    { data := .element .html "b" [], parent := some 3 },
    { data := .element .html "p" [], parent := some 0, children := [6] },
    { data := .text "three", parent := some 5 }]

/-- Its elements, its paragraphs and its text. -/
theorem walks_preorder_nested : nested.WellFormed ∧ nested.orderBelow 0 = [1, 2, 3, 4, 5, 6] ∧
    nested.elementsBelow 0 = [1, 4, 5] ∧ nested.elementsByTag 0 "p" = [1, 5] ∧
    (nested.elementsByTag 0 "p").head? = some 1 ∧ nested.textContent 0 = "onethree" := by
  have formed : nested.WellFormed := .of_ascending (by decide) (by decide) (by decide)
  have order : nested.orderBelow 0 = [1, 2, 3, 4, 5, 6] := by decide
  obtain ⟨recursion, -, -, elements, -, -, tagged, first, text⟩ := formed.walks_preorder 0
  have found : nested.elementsBelow 0 = [1, 4, 5] := by rw [elements, order]; decide
  refine ⟨formed, order, found, ?_, ?_, ?_⟩
  · rw [tagged, found]
    decide
  · rw [first, order]
    decide
  · rw [text, recursion]
    decide

end LiveTemplates.Forest
