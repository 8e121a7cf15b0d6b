/-
# LiveTemplates.Proofs.Node.Addresses -- two ways through a tree

Reading a template meets its elements in document order, each in front of what is below
it.  Copying it completes the nodes in another order, each behind what is below it.  Of
two different addresses either one is left of the other or one is above the other, and
only the latter makes a difference:

* `Tree.elementsBelow_ahead`: elements are met in document order, so no address twice;
* `Tree.filter_elementsBelow`: the element at an address is the node there;
* `Tree.completed_done`: nodes are completed in their order, so no address twice, and each
  node of the tree is (`Tree.mem_completed`);
* `Address.eq_iff_apart`: both orders are the same for some nodes if and only if none of
  these is above another.
-/
import LiveTemplates.Node
import Mathlib.Data.List.Perm.Basic
import Mathlib.Data.List.Perm.Subperm
import Mathlib.Data.List.Nodup

namespace LiveTemplates

set_option autoImplicit false

namespace Address

/-- An address parts from another at a node, to an earlier child. -/
inductive LeftOf : List Nat → List Nat → Prop
  | part {i j : Nat} (less : i < j) (a b : List Nat) : LeftOf (i :: a) (j :: b)
  | down (i : Nat) {a b : List Nat} (left : LeftOf a b) : LeftOf (i :: a) (i :: b)

/-- The node at an address is somewhere above the node at another. -/
def Above (a b : List Nat) : Prop :=
  a <+: b ∧ a ≠ b

/-- A node is met in front of another. -/
def Ahead (a b : List Nat) : Prop :=
  LeftOf a b ∨ Above a b

/-- A node is completed in front of another. -/
def Done (a b : List Nat) : Prop :=
  LeftOf a b ∨ Above b a

variable {a b : List Nat}

theorem LeftOf.not_prefix (left : LeftOf a b) : ¬ a <+: b := by
  induction left with
  | part less => simp only [List.cons_prefix_cons]; omega
  | down _ _ ih => simpa using ih

theorem LeftOf.not_prefixed (left : LeftOf a b) : ¬ b <+: a := by
  induction left with
  | part less => simp only [List.cons_prefix_cons]; omega
  | down _ _ ih => simpa using ih

theorem LeftOf.asymm (left : LeftOf a b) : ¬ LeftOf b a := by
  induction left with
  | part less =>
      rintro (more | _)
      all_goals omega
  | down _ left ih =>
      rintro (more | ⟨_, right⟩)
      · omega
      · exact ih right

theorem Above.cons (i : Nat) (above : Above a b) : Above (i :: a) (i :: b) :=
  ⟨List.cons_prefix_cons.2 ⟨rfl, above.1⟩, fun same => above.2 (List.cons.inj same).2⟩

theorem Above.asymm (above : Above a b) : ¬ Above b a :=
  fun below => above.2 (above.1.eq_of_length_le below.1.length_le)

theorem Ahead.cons (i : Nat) : Ahead a b → Ahead (i :: a) (i :: b) :=
  Or.imp (.down i) (.cons i)

theorem Done.cons (i : Nat) : Done a b → Done (i :: a) (i :: b) :=
  Or.imp (.down i) (.cons i)

theorem Ahead.ne (ahead : Ahead a b) : a ≠ b := by
  rintro rfl
  rcases ahead with left | above
  · exact left.asymm left
  · exact above.2 rfl

theorem Done.ne (done : Done a b) : a ≠ b := by
  rintro rfl
  rcases done with left | above
  · exact left.asymm left
  · exact above.2 rfl

/-- Some nodes, as they are met and as they are completed: these are the same list if and
only if none of the nodes is above another. -/
theorem eq_iff_apart {met completed : List (List Nat)} (ahead : met.Pairwise Ahead)
    (done : completed.Pairwise Done) (perm : completed.Perm met) :
    completed = met ↔ ∀ a ∈ met, ∀ b ∈ met, ¬ Above a b := by
  constructor
  · rintro rfl a inside b also above
    -- such a pair would be ordered in both ways
    have both := ahead.and done
    let Comes (x y : List Nat) : Prop := x ≠ y → Ahead x y ∧ Done x y ∨ Ahead y x ∧ Done y x
    have comes : Comes a b :=
      List.Pairwise.forall_of_forall_of_flip (R := Comes) (fun _ _ no => absurd rfl no)
        (both.imp fun pair _ => Or.inl pair) (both.imp fun pair _ => Or.inr pair) inside also
    rcases comes above.2 with ⟨-, left | below⟩ | ⟨left | below, -⟩
    · exact left.not_prefix above.1
    · exact above.asymm below
    · exact left.not_prefixed above.1
    · exact above.asymm below
  · intro apart
    have flat {xs : List (List Nat)} {R : List Nat → List Nat → Prop} (sorted : xs.Pairwise R)
        (subset : xs ⊆ met) (either : ∀ a b, R a b → LeftOf a b ∨ Above a b ∨ Above b a) :
        xs.Pairwise LeftOf := by
      refine sorted.imp_of_mem fun inside also related => ?_
      rcases either _ _ related with left | above | below
      · exact left
      · exact absurd above (apart _ (subset inside) _ (subset also))
      · exact absurd below (apart _ (subset also) _ (subset inside))
    refine perm.eq_of_pairwise (fun a b _ _ left right => absurd right left.asymm)
      (flat done perm.subset fun a b => Or.imp_right .inr)
      (flat ahead (List.Subset.refl _) fun a b => Or.imp_right .inl)

end Address

namespace Tree

open Address

/-- The node at an address below the node at another. -/
theorem at?_append (t : Tree) (a b : List Nat) :
    t.at? (a ++ b) = (t.at? a).bind (·.at? b) := by
  induction a generalizing t with
  | nil => simp [at?]
  | cons i a ih =>
      obtain ⟨d, ts⟩ := t
      simp only [List.cons_append, at?]
      cases ts[i]? with
      | none => rfl
      | some t => exact ih t

/-! ## Elements in document order -/

/-- The elements of trees are below them. -/
theorem exists_of_mem_elementsAmong : ∀ {i : Nat} {ts : List Tree} {x : List Nat × NodeData},
    x ∈ elementsAmong i ts → ∃ j a, x.1 = j :: a ∧ i ≤ j
  | _, [], _, member => by simp [elementsAmong] at member
  | i, node d ts :: rest, x, member => by
      simp only [elementsAmong, List.mem_append, List.mem_map] at member
      rcases member with (own | ⟨y, -, rfl⟩) | later
      · split at own
        · exact ⟨i, [], by simp [List.mem_singleton.1 own], Nat.le_refl _⟩
        · cases own
      · exact ⟨i, y.1, rfl, Nat.le_refl _⟩
      · obtain ⟨j, a, same, more⟩ := exists_of_mem_elementsAmong later
        exact ⟨j, a, same, by omega⟩

theorem elementsAmong_ahead : ∀ (i : Nat) (ts : List Tree),
    ((elementsAmong i ts).map (·.1)).Pairwise Ahead
  | _, [] => by simp [elementsAmong]
  | i, node d ts :: rest => by
      simp only [elementsAmong, List.map_append, List.map_map, List.pairwise_append]
      refine ⟨⟨?_, ?_, ?_⟩, elementsAmong_ahead (i + 1) rest, ?_⟩
      · split <;> simp
      · have below := elementsAmong_ahead 0 ts
        rw [List.pairwise_map] at below ⊢
        exact below.imp fun ahead => ahead.cons i
      · intro a own b below
        obtain ⟨x, inside, rfl⟩ := List.mem_map.1 below
        obtain ⟨j, c, same, -⟩ := exists_of_mem_elementsAmong inside
        have root : a = [i] := by
          split at own
          · simpa using own
          · simp at own
        rw [root]
        exact .inr ⟨by simp, by simp [same]⟩
      · intro a first b second
        obtain ⟨y, after, rfl⟩ := List.mem_map.1 second
        obtain ⟨j, c, same, more⟩ := exists_of_mem_elementsAmong after
        have here : ∃ c, a = i :: c := by
          rcases List.mem_append.1 first with own | below
          · split at own
            · exact ⟨[], by simpa using own⟩
            · simp at own
          · obtain ⟨x, -, rfl⟩ := List.mem_map.1 below
            exact ⟨x.1, rfl⟩
        obtain ⟨c', rfl⟩ := here
        rw [same]
        exact .inl (.part (by omega) _ _)

/-- Elements are met in document order. -/
theorem elementsBelow_ahead (t : Tree) : (t.elementsBelow.map (·.1)).Pairwise Ahead :=
  elementsAmong_ahead 0 t.children

/-- The tree at an address below some trees, of which the first has the given index. -/
def among? (i : Nat) (ts : List Tree) : List Nat → Option Tree
  | [] => none
  | j :: a => if i ≤ j then (ts[j - i]?).bind (·.at? a) else none

theorem among?_nil (i : Nat) (a : List Nat) : among? i [] a = none := by
  cases a <;> simp [among?]

theorem among?_root (i : Nat) (ts : List Tree) : among? i ts [] = none := rfl

theorem among?_self (i : Nat) (t : Tree) (ts : List Tree) (a : List Nat) :
    among? i (t :: ts) (i :: a) = t.at? a := by
  simp [among?]

theorem among?_earlier {i j : Nat} (less : j < i) (ts : List Tree) (a : List Nat) :
    among? i ts (j :: a) = none := by
  rw [among?, if_neg (by omega)]

theorem among?_other {i j : Nat} (different : j ≠ i) (t : Tree) (ts : List Tree) (a : List Nat) :
    among? i (t :: ts) (j :: a) = among? (i + 1) ts (j :: a) := by
  rcases Nat.lt_or_gt_of_ne different with less | more
  · rw [among?_earlier less, among?_earlier (by omega)]
  · rw [among?, among?, if_pos (by omega), if_pos (by omega),
      show j - i = (j - (i + 1)) + 1 by omega, List.getElem?_cons_succ]

theorem at?_cons (t : Tree) (j : Nat) (a : List Nat) :
    t.at? (j :: a) = among? 0 t.children (j :: a) := by
  obtain ⟨d, ts⟩ := t
  simp only [at?, among?, children, Nat.zero_le, if_true, Nat.sub_zero]
  cases ts[j]? <;> rfl

/-- A tree as the element at an address, if it is an element. -/
def elementAt (a : List Nat) : Option Tree → List (List Nat × NodeData)
  | some (node d _) => if d.isElement then [(a, d)] else []
  | none => []

theorem map_elementAt (i : Nat) (a : List Nat) (t : Option Tree) :
    (elementAt a t).map (fun (address, d) => (i :: address, d)) = elementAt (i :: a) t := by
  rcases t with _ | ⟨d, ts⟩
  · rfl
  · simp only [elementAt]
    split <;> rfl

theorem filter_elementsAmong : ∀ (i : Nat) (ts : List Tree) (a : List Nat),
    (elementsAmong i ts).filter (·.1 = a) = elementAt a (among? i ts a)
  | _, [], a => by simp [elementsAmong, among?_nil, elementAt]
  | i, ts, [] => by
      refine List.filter_eq_nil_iff.2 fun x member => ?_
      obtain ⟨j, a, same, -⟩ := exists_of_mem_elementsAmong member
      simp [same]
  | i, node d ts :: rest, j :: a => by
      have later := filter_elementsAmong (i + 1) rest (j :: a)
      simp only [elementsAmong, List.filter_append, List.filter_map, later]
      by_cases same : j = i
      · subst same
        have below : List.filter ((fun x => decide (x.1 = j :: a)) ∘
            fun (x : List Nat × NodeData) => (j :: x.1, x.2)) (elementsAmong 0 ts) =
              elementAt a (among? 0 ts a) := by
          rw [← filter_elementsAmong 0 ts a]
          exact List.filter_congr fun x _ => by simp
        rw [below, map_elementAt, among?_earlier (Nat.lt_succ_self j), among?_self]
        cases a with
        | nil =>
            simp only [among?_root, at?, elementAt]
            split <;> simp
        | cons k a =>
            have above : List.filter (fun x => decide (x.1 = j :: k :: a))
                (if d.isElement = true then [([j], d)] else []) = [] := by
              split <;> simp
            rw [above, at?_cons, children]
            simp [elementAt]
      · have own : List.filter (fun x => decide (x.1 = j :: a))
            (if d.isElement = true then [([i], d)] else []) = [] := by
          split <;> simp [Ne.symm same]
        have below : List.filter ((fun x => decide (x.1 = j :: a)) ∘
            fun (x : List Nat × NodeData) => (i :: x.1, x.2)) (elementsAmong 0 ts) = [] :=
          List.filter_eq_nil_iff.2 fun x _ => by simp [Ne.symm same]
        rw [own, below, among?_other same]
        rfl

/-- The element at an address is the node there. -/
theorem filter_elementsBelow (t : Tree) (j : Nat) (a : List Nat) :
    t.elementsBelow.filter (·.1 = j :: a) = elementAt (j :: a) (t.at? (j :: a)) := by
  rw [elementsBelow, filter_elementsAmong, at?_cons]

/-! ## Nodes in the order in which they are completed -/

mutual

/-- The addresses of the nodes of a tree, each behind those below it. -/
def completed : Tree → List (List Nat)
  | node _ ts => completedAmong 0 ts ++ [[]]

/-- The addresses of the nodes of several trees, of which the first has the given index. -/
def completedAmong : Nat → List Tree → List (List Nat)
  | _, [] => []
  | i, t :: ts => t.completed.map (i :: ·) ++ completedAmong (i + 1) ts

end

/-- The addresses of the nodes below the root. -/
def completedBelow (t : Tree) : List (List Nat) :=
  completedAmong 0 t.children

mutual

theorem mem_completed : ∀ (t : Tree) (a : List Nat), a ∈ t.completed ↔ (t.at? a).isSome
  | node d ts, [] => by simp [completed, at?]
  | node d ts, j :: a => by
      simp [completed, mem_completedAmong 0 ts (j :: a), at?_cons, children]

theorem mem_completedAmong : ∀ (i : Nat) (ts : List Tree) (a : List Nat),
    a ∈ completedAmong i ts ↔ (among? i ts a).isSome
  | _, [], a => by simp [completedAmong, among?_nil]
  | i, t :: ts, [] => by simp [completedAmong, among?_root, mem_completedAmong (i + 1) ts []]
  | i, t :: ts, j :: a => by
      simp only [completedAmong, List.mem_append, List.mem_map, List.cons.injEq,
        mem_completedAmong (i + 1) ts (j :: a)]
      by_cases same : j = i
      · subst same
        simp [among?_self, among?_earlier, mem_completed t a]
      · simp [among?_other same, Ne.symm same]

end

mutual

theorem completed_done : ∀ t : Tree, t.completed.Pairwise Done
  | node d ts => by
      simp only [completed, List.pairwise_append, completedAmong_done 0 ts,
        List.pairwise_singleton, true_and, List.mem_singleton, forall_eq]
      intro a inside
      refine .inr ⟨List.nil_prefix, ?_⟩
      rintro rfl
      simp [mem_completedAmong, among?] at inside

theorem completedAmong_done : ∀ (i : Nat) (ts : List Tree), (completedAmong i ts).Pairwise Done
  | _, [] => by simp [completedAmong]
  | i, t :: ts => by
      simp only [completedAmong, List.pairwise_append, List.pairwise_map,
        completedAmong_done (i + 1) ts, true_and]
      refine ⟨(completed_done t).imp fun done => done.cons i, ?_⟩
      intro a first b second
      obtain ⟨c, -, rfl⟩ := List.mem_map.1 first
      rw [mem_completedAmong] at second
      cases b with
      | nil => simp [among?] at second
      | cons j b =>
          refine .inl (.part ?_ _ _)
          by_contra less
          rw [among?, if_neg (by omega)] at second
          cases second

end

/-- Nodes are completed in their order. -/
theorem completedBelow_done (t : Tree) : t.completedBelow.Pairwise Done :=
  completedAmong_done 0 t.children

theorem mem_completedBelow (t : Tree) (a : List Nat) :
    a ∈ t.completedBelow ↔ a ≠ [] ∧ (t.at? a).isSome := by
  rw [completedBelow, mem_completedAmong]
  cases a with
  | nil => simp [among?]
  | cons j a => simp [at?_cons]

theorem isSome_at?_of_mem_elementsBelow {t : Tree} {x : List Nat × NodeData}
    (member : x ∈ t.elementsBelow) : x.1 ∈ t.completedBelow := by
  obtain ⟨j, a, same, -⟩ := exists_of_mem_elementsAmong member
  have here : x ∈ t.elementsBelow.filter (·.1 = j :: a) :=
    List.mem_filter.2 ⟨member, by simpa using same⟩
  rw [filter_elementsBelow] at here
  rw [mem_completedBelow, same]
  refine ⟨by simp, ?_⟩
  cases found : t.at? (j :: a) with
  | none => rw [found] at here; cases here
  | some s => rfl

end Tree

end LiveTemplates
