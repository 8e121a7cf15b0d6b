/-
# LiveTemplates.Proofs.Forest.Growth -- trees that are grown and moved

New nodes of a forest have numbers behind all others.  So a tree that is grown node by node
takes numbers in a row, and whatever happens elsewhere leaves it as it is.

* `Forest.Shows`: the tree at a node, with the numbers that its nodes may have, and the
  node's parent;
* `Forest.Grows`: a node has got another content and new children at its end, which show
  some trees, and all other old nodes are as they were;
* `Forest.Sprouts`: a new tree without a parent;
* `Forest.Sprouts.append`, `Forest.Grows.move`: a new tree is put at the end of a node's
  children, and the children of a new node are all moved there;
* `Forest.Grows.trees`: the new children show the trees as a snapshot does.
-/
import LiveTemplates.Proofs.Forest.Attributes
import Mathlib.Data.List.Basic

namespace LiveTemplates.Forest

set_option autoImplicit false

/-! ## Single nodes -/

theorem getElem?_modify (f : Forest) (n : Nat) (change : Node → Node) (k : Nat) :
    (f.modify n change).nodes[k]? =
      if k = n then (f.nodes[k]?).map change else f.nodes[k]? := by
  simp only [modify, Array.getElem?_modify, eq_comm (a := n)]

@[simp] theorem size_modify (f : Forest) (n : Nat) (change : Node → Node) :
    (f.modify n change).size = f.size := by
  simp [modify, size]

theorem lt_size_of_getElem? {f : Forest} {n : Nat} {node : Node}
    (here : f.nodes[n]? = some node) : n < f.size :=
  (Array.getElem?_eq_some_iff.1 here).1

theorem size_add (f : Forest) (d : NodeData) : (f.add d).2.size = f.size + 1 := by
  simp [add, size]

theorem getElem?_add (f : Forest) (d : NodeData) (k : Nat) :
    (f.add d).2.nodes[k]? = if k = f.size then some { data := d } else f.nodes[k]? := by
  simp only [add, size, Array.getElem?_push]
  rfl

/-- A node without a parent is put at the end of another's children. -/
theorem getElem?_append {f : Forest} {parent child : Nat} (loose : f.parent? child = none)
    (k : Nat) (apart : parent ≠ child) : (f.append parent child).nodes[k]? =
      if k = parent then
        (f.nodes[k]?).map fun node => { node with children := node.children ++ [child] }
      else if k = child then (f.nodes[k]?).map fun node => { node with parent := some parent }
      else f.nodes[k]? := by
  rw [append, detach, loose]
  simp only [setParent, getElem?_modify]
  split
  case isTrue same => rw [if_neg (by rw [same]; exact apart)]
  case isFalse => rfl

theorem size_detach (f : Forest) (n : Nat) : (f.detach n).size = f.size := by
  unfold detach
  split
  · rfl
  · simp [setParent, unlist]

theorem size_append (f : Forest) (parent child : Nat) :
    (f.append parent child).size = f.size := by
  simp [append, setParent, size_detach]

theorem size_appendAll (parent : Nat) : ∀ (ns : List Nat) (f : Forest),
    (f.appendAll parent ns).size = f.size
  | [], _ => rfl
  | n :: rest, f => by
      have first : ((f.setParent n none).append parent n).size = f.size := by
        rw [size_append, setParent, size_modify]
      exact (size_appendAll parent rest _).trans first

theorem size_moveChildren (f : Forest) (source target : Nat) :
    (f.moveChildren source target).2.size = f.size := by
  rw [moveChildren, size_appendAll, clear, size_modify]

/-! ## Trees -/

mutual

/-- The tree at a node whose parent is known.  All its nodes have numbers within bounds, and
each comes in front of those below it. -/
inductive Shows (f : Forest) : Nat → Nat → Option Nat → Nat → Tree → Prop
  | node {low high : Nat} {parent : Option Nat} {n : Nat} {d : NodeData}
      {ns : List Nat} {ts : List Tree} (new : low ≤ n) (here : f.nodes[n]? = some ⟨d, parent, ns⟩)
      (below : ShowsAll f (n + 1) high n ns ts) : Shows f low high parent n (.node d ts)

/-- The trees at the children of a node, each behind the last one. -/
inductive ShowsAll (f : Forest) : Nat → Nat → Nat → List Nat → List Tree → Prop
  | nil {low high : Nat} (parent : Nat) (bounds : low ≤ high) : ShowsAll f low high parent [] []
  | cons {low mid high : Nat} {parent n : Nat} {t : Tree} {ns : List Nat}
      {ts : List Tree} (first : Shows f low mid (some parent) n t)
      (later : ShowsAll f mid high parent ns ts) : ShowsAll f low high parent (n :: ns) (t :: ts)

end

mutual

theorem Shows.room {f : Forest} : ∀ {t : Tree} {low high : Nat} {parent : Option Nat}
    {n : Nat}, Shows f low high parent n t → low + t.preorder.length ≤ high
  | .node d ts, low, high, parent, n, .node new here below => by
      have := below.room
      simp only [Tree.preorder, List.length_cons]
      omega

theorem ShowsAll.room {f : Forest} : ∀ {ts : List Tree} {low high : Nat} {parent : Nat}
    {ns : List Nat}, ShowsAll f low high parent ns ts →
      low + (Tree.preorderAll ts).length ≤ high
  | [], low, high, parent, _, .nil _ bounds => by simpa [Tree.preorderAll] using bounds
  | t :: ts, low, high, parent, _, .cons first later => by
      have := first.room
      have := later.room
      simp only [Tree.preorderAll, List.length_append]
      omega

end

mutual

/-- What happens to other nodes makes no difference. -/
theorem Shows.keep {f g : Forest} : ∀ {t : Tree} {low high : Nat} {parent : Option Nat}
    {n : Nat}, (∀ k, low ≤ k → k < high → g.nodes[k]? = f.nodes[k]?) →
      Shows f low high parent n t → Shows g low high parent n t
  | .node d ts, low, high, parent, n, same, .node new here below => by
      have bounds := below.room
      refine .node new ?_ (below.keep fun k more less => same k (by omega) less)
      rw [same n new (by omega), here]

theorem ShowsAll.keep {f g : Forest} : ∀ {ts : List Tree} {low high : Nat} {parent : Nat}
    {ns : List Nat}, (∀ k, low ≤ k → k < high → g.nodes[k]? = f.nodes[k]?) →
      ShowsAll f low high parent ns ts → ShowsAll g low high parent ns ts
  | [], low, high, parent, _, same, .nil _ bounds => .nil _ bounds
  | t :: ts, low, high, parent, _, same, .cons first later => by
      have := first.room
      have := later.room
      refine .cons (first.keep fun k more less => same k more (by omega))
        (later.keep fun k more less => same k (by omega) less)

end

theorem Shows.lower {f : Forest} {low low' high : Nat} {parent : Option Nat} {n : Nat}
    {t : Tree} (shows : Shows f low high parent n t) (less : low' ≤ low) :
    Shows f low' high parent n t := by
  cases shows with
  | node new here below => exact .node (Nat.le_trans less new) here below

theorem ShowsAll.lower {f : Forest} {low low' high : Nat} {parent : Nat} {ns : List Nat}
    {ts : List Tree} (shows : ShowsAll f low high parent ns ts) (less : low' ≤ low) :
    ShowsAll f low' high parent ns ts := by
  cases shows with
  | nil _ bounds => exact .nil _ (Nat.le_trans less bounds)
  | cons first later => exact .cons (first.lower less) later

theorem ShowsAll.append {f : Forest} {low mid high : Nat} {parent : Nat}
    {ns ms : List Nat} {ts us : List Tree} (first : ShowsAll f low mid parent ns ts)
    (second : ShowsAll f mid high parent ms us) :
    ShowsAll f low high parent (ns ++ ms) (ts ++ us) := by
  induction ns generalizing low ts with
  | nil =>
      cases first with
      | nil _ bounds => exact second.lower bounds
  | cons n ns ih =>
      cases first with
      | cons one rest => exact .cons one (ih rest)

/-- A node that shows a tree and gets another parent still shows it. -/
theorem Shows.adopted {f g : Forest} {low high : Nat} {parent new : Option Nat} {n : Nat}
    {t : Tree} (shows : Shows f low high parent n t)
    (own : g.nodes[n]? = (f.nodes[n]?).map fun node => { node with parent := new })
    (others : ∀ k, low ≤ k → k < high → k ≠ n → g.nodes[k]? = f.nodes[k]?) :
    Shows g low high new n t := by
  cases shows with
  | node first here below =>
      refine .node first (by rw [own, here]; rfl) (below.keep fun k more less => ?_)
      exact others k (by omega) less (by omega)

mutual

/-- A snapshot of a node that shows a tree is this tree, if it is deep enough. -/
theorem Shows.treeTo {f : Forest} : ∀ {t : Tree} {low high : Nat} {parent : Option Nat}
    {n : Nat} {depth : Nat}, Shows f low high parent n t →
      t.preorder.length ≤ depth + 1 → f.treeTo depth n = t
  | .node d ts, low, high, parent, n, depth, @Shows.node _ _ _ _ _ _ ns _ new here below, enough => by
      simp only [Tree.preorder, List.length_cons] at enough
      have own : f.data n = d ∧ f.children n = ns := by simp [data, children, here]
      cases depth with
      | zero =>
          have none : ts = [] := by
            cases ts with
            | nil => rfl
            | cons t ts =>
                obtain ⟨e, us⟩ := t
                simp only [Tree.preorderAll, Tree.preorder, List.cons_append,
                  List.length_cons] at enough
                omega
          rw [Forest.treeTo, own.1, none]
      | succ depth => rw [Forest.treeTo, own.1, own.2, below.treeTo (by omega)]

theorem ShowsAll.treeTo {f : Forest} : ∀ {ts : List Tree} {low high : Nat} {parent : Nat}
    {ns : List Nat} {depth : Nat}, ShowsAll f low high parent ns ts →
      (Tree.preorderAll ts).length ≤ depth + 1 → ns.map (f.treeTo depth) = ts
  | [], _, _, _, _, _, .nil _ _, _ => rfl
  | t :: ts, _, _, _, _, depth, .cons first later, enough => by
      simp only [Tree.preorderAll, List.length_append] at enough
      rw [List.map_cons, first.treeTo (by omega), later.treeTo (by omega)]

end

/-! ## Growing -/

/-- Some node that had one content has another one, and new children at its end that show
trees.  All other old nodes are as they were, and all new nodes have new numbers. -/
structure Grows (f g : Forest) (host : Nat) (d d' : NodeData) (ns : List Nat)
    (ts : List Tree) : Prop where
  grown : ∀ parent children, f.nodes[host]? = some ⟨d, parent, children⟩ →
    g.nodes[host]? = some ⟨d', parent, children ++ ns⟩
  other : ∀ k, k < f.size → k ≠ host → g.nodes[k]? = f.nodes[k]?
  shown : ShowsAll g f.size g.size host ns ts

/-- There is a new tree without a parent, and all old nodes are as they were. -/
structure Sprouts (f g : Forest) (n : Nat) (t : Tree) : Prop where
  old : ∀ k, k < f.size → g.nodes[k]? = f.nodes[k]?
  shown : Shows g f.size g.size none n t

namespace Grows

variable {f g h : Forest} {host : Nat} {d d' d'' : NodeData} {ns ms : List Nat}
  {ts us : List Tree}

theorem size (grows : Grows f g host d d' ns ts) : f.size ≤ g.size := by
  have := grows.shown.room
  omega

theorem refl (f : Forest) (host : Nat) (d : NodeData) : Grows f f host d d [] [] where
  grown _ _ here := by rw [here, List.append_nil]
  other _ _ _ := rfl
  shown := .nil _ (Nat.le_refl _)

theorem trans (first : Grows f g host d d' ns ts) (second : Grows g h host d' d'' ms us)
    (hosted : host < f.size) : Grows f h host d d'' (ns ++ ms) (ts ++ us) where
  grown parent children here := by
    rw [second.grown _ _ (first.grown _ _ here), List.append_assoc]
  other k old away := by
    rw [second.other k (Nat.lt_of_lt_of_le old first.size) away, first.other k old away]
  shown := by
    refine (first.shown.keep fun k more less => second.other k less ?_).append second.shown
    rintro rfl
    exact absurd hosted (Nat.not_lt.2 more)

/-- Giving an attribute a value. -/
theorem setAttr (f : Forest) (host : Nat) (d : NodeData) (name value : String) :
    Grows f (f.setAttr host name value).2 host d (d.setAttr name value) [] [] where
  grown parent children here := by
    rw [Forest.setAttr, getElem?_modify, if_pos rfl, here, List.append_nil]
    rfl
  other k _ away := by rw [Forest.setAttr, getElem?_modify, if_neg away]
  shown := .nil _ (by simp [Forest.setAttr])

end Grows

/-- A new node that has been grown is the root of a new tree. -/
theorem Grows.sprouts {f g : Forest} {d d' : NodeData} {ns : List Nat} {ts : List Tree}
    (grows : Grows (f.add d).2 g f.size d d' ns ts) : Sprouts f g f.size (.node d' ts) := by
  have here : (f.add d).2.nodes[f.size]? = some { data := d } := by
    rw [getElem?_add, if_pos rfl]
  have shown := grows.shown
  rw [size_add] at shown
  refine ⟨fun k old => ?_, .node (Nat.le_refl _) (grows.grown _ _ here) shown⟩
  have away : k ≠ f.size := Nat.ne_of_lt old
  rw [grows.other k (by rw [size_add]; exact Nat.lt_succ_of_lt old) away, getElem?_add,
    if_neg away]

/-- A new tree without a parent is put at the end of the children of an old node. -/
theorem Sprouts.append {f g : Forest} {n parent : Nat} {t : Tree} (sprouts : Sprouts f g n t)
    (hosted : parent < f.size) (d : NodeData) :
    Grows f (g.append parent n) parent d d [n] [t] := by
  obtain ⟨low, loose⟩ : f.size ≤ n ∧ g.parent? n = none := by
    cases sprouts.shown with
    | node new here below => exact ⟨new, by rw [parent?, here]; rfl⟩
  have apart : parent ≠ n := by omega
  refine ⟨fun above children here => ?_, fun k old away => ?_, ?_⟩
  · rw [getElem?_append loose _ apart, if_pos rfl, sprouts.old _ hosted, here]
    rfl
  · rw [getElem?_append loose _ apart, if_neg away, if_neg (by omega), sprouts.old k old]
  · rw [size_append]
    refine .cons (sprouts.shown.adopted ?_ fun k more _ away => ?_) (.nil _ (Nat.le_refl _))
    · rw [getElem?_append loose _ apart, if_neg (Ne.symm apart), if_pos rfl]
    · rw [getElem?_append loose _ apart, if_neg (by omega), if_neg away]

/-! ## Moving -/

/-- The children of a node are moved, one by one, to the end of the children of an older
node. -/
theorem appendAll_shows {f : Forest} {low high : Nat} {parent host : Nat} {ns : List Nat}
    {ts : List Tree} (shows : ShowsAll f low high parent ns ts) (hosted : host < low) :
    (f.appendAll host ns).size = f.size ∧
      ShowsAll (f.appendAll host ns) low high host ns ts ∧
      (f.appendAll host ns).nodes[host]? =
        (f.nodes[host]?).map (fun node => { node with children := node.children ++ ns }) ∧
      ∀ k, k ≠ host → ¬ (low ≤ k ∧ k < high) → (f.appendAll host ns).nodes[k]? = f.nodes[k]? := by
  induction ns generalizing f low ts with
  | nil =>
      cases shows with
      | nil _ bounds => exact ⟨rfl, .nil _ bounds, by simp [appendAll], fun _ _ _ => rfl⟩
  | cons n ns ih =>
      cases shows with
      | @cons _ mid _ _ _ t _ ts first later =>
          have last := first.room
          have more := later.room
          obtain ⟨new, inside⟩ : low ≤ n ∧ n < mid := by
            cases first with
            | node new _ below =>
                have := below.room
                exact ⟨new, by omega⟩
          have apart : host ≠ n := by omega
          let g := (f.setParent n none).append host n
          have loose : (f.setParent n none).parent? n = none := by
            rw [parent?, setParent, getElem?_modify, if_pos rfl]
            cases f.nodes[n]? <;> rfl
          have size : g.size = f.size := by
            rw [size_append, setParent, size_modify]
          have there (k : Nat) : g.nodes[k]? =
              if k = host then
                (f.nodes[k]?).map fun node => { node with children := node.children ++ [n] }
              else if k = n then (f.nodes[k]?).map fun node => { node with parent := some host }
              else f.nodes[k]? := by
            rw [getElem?_append loose _ apart, setParent, getElem?_modify]
            split
            case isTrue same => rw [if_neg (by rw [same]; exact apart)]
            case isFalse =>
              split
              · cases f.nodes[k]? <;> rfl
              · rfl
          have others (k : Nat) (away : k ≠ host) (other : k ≠ n) :
              g.nodes[k]? = f.nodes[k]? := by
            rw [there, if_neg away, if_neg other]
          have moved : Shows g low mid (some host) n t := by
            refine first.adopted (by rw [there, if_neg (Ne.symm apart), if_pos rfl])
              fun k more _ other => others k ?_ other
            omega
          have rest : ShowsAll g mid high parent ns ts := by
            refine later.keep fun k more _ => others k ?_ ?_
            · omega
            · omega
          obtain ⟨size', shown, grown, kept⟩ := ih rest (by omega)
          refine ⟨size'.trans size, .cons (moved.keep fun k more less => ?_) shown, ?_, ?_⟩
          · refine kept k ?_ (by omega)
            omega
          · refine grown.trans ?_
            rw [there, if_pos rfl]
            cases f.nodes[host]? <;> simp
          · intro k away outside
            refine (kept k away (by omega)).trans (others k away ?_)
            rintro rfl
            exact outside ⟨new, by omega⟩

/-- Trees that were grown below a new node are moved to the end of the children of an old
node. -/
theorem Grows.move {f g : Forest} {d d' : NodeData} {ns : List Nat} {ts : List Tree}
    (grows : Grows (f.add d).2 g f.size d d' ns ts) {host : Nat} (hosted : host < f.size)
    (e : NodeData) : (g.moveChildren f.size host).1 = ns ∧
      Grows f (g.moveChildren f.size host).2 host e e ns ts := by
  have fresh : (f.add d).2.nodes[f.size]? = some { data := d } := by
    rw [getElem?_add, if_pos rfl]
  have top := grows.grown _ _ fresh
  have children : g.children f.size = ns := by simp [Forest.children, top]
  have size := grows.size
  rw [size_add] at size
  have cleared : ShowsAll (g.clear f.size) (f.size + 1) g.size f.size ns ts := by
    have shown := grows.shown
    rw [size_add] at shown
    refine shown.keep fun k more less => ?_
    rw [clear, getElem?_modify, if_neg]
    omega
  obtain ⟨same, shown, grown, kept⟩ := appendAll_shows cleared (Nat.lt_succ_of_lt hosted)
  have before (k : Nat) (old : k < f.size) : (g.clear f.size).nodes[k]? = f.nodes[k]? := by
    have away : k ≠ f.size := Nat.ne_of_lt old
    rw [clear, getElem?_modify, if_neg away, grows.other k ?_ away, getElem?_add, if_neg away]
    rw [size_add]
    exact Nat.lt_succ_of_lt old
  have last : ((g.clear f.size).appendAll host ns).size = g.size := by
    rw [same, clear, size_modify]
  rw [moveChildren, children]
  refine ⟨rfl, ⟨fun parent old here => ?_, fun k old away => ?_, ?_⟩⟩
  · rw [grown, before host hosted, here]
    rfl
  · rw [kept k away ?_, before k old]
    exact fun bounds => absurd old (Nat.not_lt.2 (Nat.le_trans (Nat.le_succ _) bounds.1))
  · rw [last]
    exact shown.lower (Nat.le_succ _)

/-- The new children show the trees as a snapshot does. -/
theorem Grows.trees {f g : Forest} {host : Nat} {d d' : NodeData} {ns : List Nat}
    {ts : List Tree} (grows : Grows f g host d d' ns ts) : ns.map g.tree = ts := by
  have := grows.shown.room
  exact grows.shown.treeTo (by omega)

/-- The new children are new nodes with that parent. -/
theorem ShowsAll.listed {f : Forest} {low high : Nat} {parent : Nat} {ns : List Nat}
    {ts : List Tree} (shows : ShowsAll f low high parent ns ts) :
    ∀ n ∈ ns, low ≤ n ∧ f.parent? n = some parent := by
  induction ns generalizing low ts with
  | nil => nofun
  | cons n ns ih =>
      cases shows with
      | cons first later =>
          have less := first.room
          cases first with
          | node new here _ =>
              refine List.forall_mem_cons.2 ⟨⟨new, by simp [parent?, here]⟩, fun m inside => ?_⟩
              obtain ⟨more, above⟩ := ih later m inside
              exact ⟨by omega, above⟩

theorem Grows.listed {f g : Forest} {host : Nat} {d d' : NodeData} {ns : List Nat}
    {ts : List Tree} (grows : Grows f g host d d' ns ts) :
    ∀ n ∈ ns, f.size ≤ n ∧ g.parent? n = some host :=
  grows.shown.listed

/-- What a snapshot of the host sees. -/
theorem Grows.host {f g : Forest} {host : Nat} {d : NodeData} {ns : List Nat}
    {ts : List Tree} (grows : Grows f g host (f.data host) d ns ts) (hosted : host < f.size) :
    g.children host = f.children host ++ ns ∧ g.data host = d ∧
      g.parent? host = f.parent? host := by
  obtain ⟨node, here⟩ : ∃ node, f.nodes[host]? = some node :=
    ⟨_, Array.getElem?_eq_getElem hosted⟩
  have own : f.data host = node.data := by simp [data, here]
  have after := grows.grown node.parent node.children (by rw [here, own])
  simp [children, data, parent?, after, here]

end LiveTemplates.Forest
