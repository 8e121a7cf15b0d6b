/-
# LiveTemplates.Proofs.Template.Planting -- templates among the nodes of a forest

A template is a tree by itself.  It can be planted: its nodes are then nodes of the forest that
the document and the copies are in, where whoever has one of their numbers could change them.

* `Forest.sow`: a tree becomes new nodes of a forest (`Forest.sow_sprouts`);
* `Forest.below?`: the node at an address below a node.  Where a node shows a tree there is one
  for each address of the tree (`Forest.Shows.below?`), and no two addresses have the same
  (`Forest.Shows.below?_injective`);
* `Plant`: a blueprint whose template has been planted, with the numbers of its nodes;
* `Plant.Stands`: it is as it was planted.
-/
import LiveTemplates.Proofs.Blueprint.Made
import LiveTemplates.Proofs.Forest.Reserve
import LiveTemplates.Proofs.Forest.WellFormed
import LiveTemplates.Proofs.Node.Addresses

namespace LiveTemplates

set_option autoImplicit false

namespace Forest

/-! ## Sowing -/

mutual

/-- Adds the nodes of a tree; gives the number of the root. -/
def sow : Tree → Forest → NodeId × Forest
  | .node d ts, f =>
    let (n, f) := f.add d
    (n, sowAll n ts f)

/-- Adds the nodes of trees, and puts them at the end of the children of a node. -/
def sowAll (parent : NodeId) : List Tree → Forest → Forest
  | [], f => f
  | t :: ts, f =>
    let (n, f) := sow t f
    sowAll parent ts (f.append parent n)

end

theorem fst_sow (t : Tree) (f : Forest) : (sow t f).1 = f.size := by
  cases t
  rw [sow]
  rfl

mutual

/-- A new tree comes up. -/
theorem sow_sprouts : ∀ (t : Tree) (f : Forest), Sprouts f (sow t f).2 f.size t
  | .node d ts, f => by
      have inside : f.size < (f.add d).2.size := by simp [size_add]
      obtain ⟨ns, grows⟩ := sowAll_grows ts (f := (f.add d).2) inside
      rw [sow]
      exact (grows d).sprouts

theorem sowAll_grows : ∀ (ts : List Tree) {f : Forest} {parent : NodeId}, parent < f.size →
    ∃ ns, ∀ e, Grows f (sowAll parent ts f) parent e e ns ts
  | [], f, parent, _ => by
      rw [sowAll]
      exact ⟨[], .refl f parent⟩
  | t :: ts, f, parent, inside => by
      have first := (sow_sprouts t f).append inside
      obtain ⟨ns, later⟩ := sowAll_grows ts (Nat.lt_of_lt_of_le inside (first .document).size)
      rw [sowAll, show sow t f = (f.size, (sow t f).2) from Prod.ext (fst_sow t f) rfl]
      exact ⟨f.size :: ns, fun e => (first e).trans (later e) inside⟩

end

theorem size_sow (t : Tree) (f : Forest) : f.size < (sow t f).2.size := by
  have room := (sow_sprouts t f).shown.room
  have some : 0 < t.preorder.length := by
    cases t
    simp [Tree.preorder]
  omega

/-- Listing a node below another, if both are some nodes or both are others. -/
theorem Lists.append {D : NodeId → Prop} {f : Forest} (lists : f.Lists D) {parent child : NodeId}
    (loose : f.parent? child = none) (other : parent ≠ child) (inside : child < f.size)
    (alike : D child ↔ D parent) : (f.append parent child).Lists D := by
  intro k n member
  rw [children, getElem?_append loose k other] at member
  rw [size_append]
  have before : n ∈ f.children k ∨ k = parent ∧ n = child := by
    cases here : f.nodes[k]? with
    | none => simp [here] at member
    | some node =>
        simp only [here, Option.map_some] at member
        split at member
        case isTrue same =>
          subst same
          simpa [children, here] using member
        case isFalse =>
          split at member <;> simpa [children, here] using Or.inl member
  rcases before with old | ⟨rfl, rfl⟩
  · exact lists k n old
  · exact ⟨inside, alike⟩

mutual

/-- New nodes are listed by new nodes. -/
theorem sow_lists {D : NodeId → Prop} : ∀ (t : Tree) {f : Forest}, (∀ n, f.size ≤ n → D n) →
    f.Lists D → (sow t f).2.Lists D
  | .node d ts, f, new, lists => by
      have inside : f.size < (f.add d).2.size := by simp [size_add]
      rw [sow]
      refine sowAll_lists ts inside (new _ (Nat.le_refl _))
        (fun n more => new n (Nat.le_trans (Nat.le_of_lt inside) more)) fun k n member => ?_
      rw [children, getElem?_add] at member
      split at member
      · cases member
      · have old := lists k n member
        exact ⟨Nat.lt_trans old.1 inside, old.2⟩

theorem sowAll_lists {D : NodeId → Prop} : ∀ (ts : List Tree) {f : Forest} {parent : NodeId},
    parent < f.size → D parent → (∀ n, f.size ≤ n → D n) → f.Lists D →
      (sowAll parent ts f).Lists D
  | [], f, parent, _, _, _, lists => by
      rw [sowAll]
      exact lists
  | t :: ts, f, parent, inside, above, new, lists => by
      have sprouts := sow_sprouts t f
      have size := size_sow t f
      have loose : (sow t f).2.parent? f.size = none := by
        cases sprouts.shown with
        | node _ here _ => rw [parent?, here]; rfl
      have first := (sow_lists t new lists).append loose (Nat.ne_of_lt inside) size
        (iff_of_true (new _ (Nat.le_refl _)) above)
      have grown : ((sow t f).2.append parent f.size).size = (sow t f).2.size := size_append _ _ _
      rw [sowAll, show sow t f = (f.size, (sow t f).2) from Prod.ext (fst_sow t f) rfl]
      refine sowAll_lists ts ?_ above (fun n more => new n ?_) first
      · rw [grown]
        exact Nat.lt_trans inside size
      · rw [grown] at more
        exact Nat.le_trans (Nat.le_of_lt size) more

end

/-- If some nodes are all the nodes of some trees, they are so together with a new tree. -/
theorem Closed.sow {D : NodeId → Prop} {f : Forest} (closed : f.Closed D) (t : Tree) :
    (sow t f).2.Closed fun n => D n ∨ f.size ≤ n ∧ n < (Forest.sow t f).2.size := by
  have size := size_sow t f
  have lists : (Forest.sow t f).2.Lists fun n => D n ∨ f.size ≤ n := by
    refine sow_lists t (fun n => .inr) fun k n member => ?_
    have old := closed.listed k n member
    have inside : k < f.size := lt_size_of_mem_children member
    refine ⟨old.1, ?_⟩
    rw [or_iff_left (Nat.not_le.2 old.1), or_iff_left (Nat.not_le.2 inside)]
    exact old.2
  refine ⟨fun n member => ?_, fun k n member => ?_⟩
  · rcases member with old | new
    · exact Nat.lt_trans (closed.inside n old) size
    · exact new.2
  · obtain ⟨inside, alike⟩ := lists k n member
    have above : k < (Forest.sow t f).2.size := lt_size_of_mem_children member
    exact ⟨inside, by simpa [inside, above] using alike⟩

/-! ## Addresses -/

/-- The node at an address below a node. -/
def below? (f : Forest) : NodeId → List Nat → Option NodeId
  | n, [] => some n
  | n, i :: address => (f.children n)[i]?.bind fun m => f.below? m address

theorem below?_append (f : Forest) (n : NodeId) (a b : List Nat) :
    f.below? n (a ++ b) = (f.below? n a).bind fun m => f.below? m b := by
  induction a generalizing n with
  | nil => rfl
  | cons i a ih =>
      rw [List.cons_append, below?, below?, Option.bind_assoc]
      exact congrArg _ (funext fun m => ih m)

theorem above_of_below? {f : Forest} {i : Nat} {address : List Nat} {n m : NodeId}
    (found : f.below? n (i :: address) = some m) : f.Above n m := by
  induction address generalizing n i with
  | nil =>
      obtain ⟨k, listed, same⟩ := Option.bind_eq_some_iff.1 found
      cases same
      exact .single (List.mem_of_getElem? listed)
  | cons j address ih =>
      obtain ⟨k, listed, below⟩ := Option.bind_eq_some_iff.1 found
      exact .head (List.mem_of_getElem? listed) (ih below)

variable {f g : Forest} {low high : Nat} {parent : Option Nat} {n m : Nat} {t s : Tree}

theorem Shows.bounds (shows : Shows f low high parent n t) : low ≤ n ∧ n < high := by
  cases shows with
  | node new here below =>
      have := below.room
      exact ⟨new, by omega⟩

theorem Shows.children (shows : Shows f low high parent n t) :
    ShowsAll f (n + 1) high n (f.children n) t.children ∧ f.data n = t.data := by
  cases shows with
  | @node _ _ _ _ d ns ts new here below =>
      have own : f.data n = d ∧ f.children n = ns := by simp [Forest.data, Forest.children, here]
      rw [own.1, own.2]
      exact ⟨below, rfl⟩

/-- The trees at the children of a node are shown one behind the other. -/
theorem ShowsAll.getElem? {parent : Nat} {ns : List Nat} {ts : List Tree}
    (shows : ShowsAll f low high parent ns ts) {i : Nat} (here : ns[i]? = some n) :
    ∃ t low' mid, ts[i]? = some t ∧ Shows f low' mid (some parent) n t ∧ low ≤ low' ∧
      mid ≤ high ∧ ∀ j m, i < j → ns[j]? = some m → mid ≤ m := by
  induction ns generalizing low ts i with
  | nil => cases here
  | cons k ns ih =>
      cases shows with
      | @cons _ mid _ _ _ t _ ts first later =>
          have room := later.room
          cases i with
          | zero =>
              cases here
              refine ⟨t, low, mid, rfl, first, Nat.le_refl _, by omega, fun j m less there => ?_⟩
              obtain ⟨j, rfl⟩ := Nat.exists_eq_succ_of_ne_zero (Nat.ne_of_gt less)
              exact (later.listed m (List.mem_of_getElem? there)).1
          | succ i =>
              obtain ⟨t', low', mid', found, shown, more, less, apart⟩ := ih later here
              have room := first.room
              refine ⟨t', low', mid', found, shown, by omega, less, fun j m above there => ?_⟩
              cases j with
              | zero => omega
              | succ j => exact apart j m (by omega) there

theorem ShowsAll.at {parent : Nat} {ns : List Nat} {ts : List Tree}
    (shows : ShowsAll f low high parent ns ts) {i : Nat} (here : ts[i]? = some t) :
    ∃ n low' high', ns[i]? = some n ∧ Shows f low' high' (some parent) n t ∧ low ≤ low' ∧
      high' ≤ high := by
  induction ns generalizing low ts i with
  | nil =>
      cases shows
      cases here
  | cons k ns ih =>
      cases shows with
      | @cons _ mid _ _ _ _ _ _ first later =>
          have room := later.room
          have room' := first.room
          cases i with
          | zero =>
              cases here
              exact ⟨k, low, mid, rfl, first, Nat.le_refl _, by omega⟩
          | succ i =>
              obtain ⟨n, low', high', found, shown, more, less⟩ := ih later here
              exact ⟨n, low', high', found, shown, by omega, less⟩

/-- Where a node shows a tree, there is a node at each address of the tree, and it shows the tree
there. -/
theorem Shows.below? (shows : Shows f low high parent n t) {address : List Nat}
    (found : t.at? address = some s) : ∃ m low' high' parent', f.below? n address = some m ∧
      Shows f low' high' parent' m s ∧ low ≤ low' ∧ high' ≤ high := by
  induction address generalizing n low high parent t with
  | nil =>
      cases found
      exact ⟨n, low, high, parent, rfl, shows, Nat.le_refl _, Nat.le_refl _⟩
  | cons i address ih =>
      obtain ⟨d, ts⟩ := t
      rw [Tree.at?] at found
      cases branch : ts[i]? with
      | none => simp [branch] at found
      | some u =>
          simp only [branch] at found
          obtain ⟨k, low', high', listed, shown, more, less⟩ := shows.children.1.at branch
          obtain ⟨m, low'', high'', above, below, last, more', less'⟩ := ih shown found
          have bounds := shows.bounds
          exact ⟨m, low'', high'', above, Option.bind_eq_some_iff.2 ⟨k, listed, below⟩, last,
            by omega, by omega⟩

/-- What is at an address below a node comes behind it. -/
theorem Shows.below?_bounds (shows : Shows f low high parent n t) {address : List Nat}
    (found : f.below? n address = some m) : m < high ∧ (address = [] ∨ n < m) := by
  induction address generalizing n low high parent t with
  | nil =>
      cases found
      exact ⟨shows.bounds.2, .inl rfl⟩
  | cons i address ih =>
      obtain ⟨k, listed, below⟩ := Option.bind_eq_some_iff.1 found
      obtain ⟨u, low', mid, -, shown, more, less, -⟩ := shows.children.1.getElem? listed
      obtain ⟨last, first⟩ := ih shown below
      have bounds := shown.bounds
      refine ⟨by omega, .inr ?_⟩
      rcases first with rfl | first
      · cases below
        omega
      · omega

/-- No two addresses have the same node. -/
theorem Shows.below?_injective (shows : Shows f low high parent n t) {a b : List Nat}
    (one : f.below? n a = some m) (other : f.below? n b = some m) : a = b := by
  induction a generalizing n low high parent t b with
  | nil =>
      cases one
      rcases (shows.below?_bounds other).2 with rfl | less
      · rfl
      · omega
  | cons i a ih =>
      cases b with
      | nil =>
          cases other
          rcases (shows.below?_bounds one).2 with same | less
          · cases same
          · omega
      | cons j b =>
          obtain ⟨k, listed, below⟩ := Option.bind_eq_some_iff.1 one
          obtain ⟨l, listed', below'⟩ := Option.bind_eq_some_iff.1 other
          obtain ⟨u, low', mid, -, shown, -, -, apart⟩ := shows.children.1.getElem? listed
          obtain ⟨u', low'', mid', -, shown', -, -, apart'⟩ := shows.children.1.getElem? listed'
          have bounds := shown.below?_bounds below
          have bounds' := shown'.below?_bounds below'
          have first := shown.bounds
          have second := shown'.bounds
          rcases Nat.lt_trichotomy i j with less | rfl | more
          · have := apart j l less listed'
            rcases bounds'.2 with rfl | behind
            · cases below'
              omega
            · omega
          · cases listed.symm.trans listed'
            rw [ih shown below below']
          · have := apart' i k more listed
            rcases bounds.2 with rfl | behind
            · cases below
              omega
            · omega

/-- What happens to other nodes makes no difference. -/
theorem Shows.below?_keep (shows : Shows f low high parent n t)
    (same : ∀ k, low ≤ k → k < high → g.nodes[k]? = f.nodes[k]?) (address : List Nat) :
    g.below? n address = f.below? n address := by
  induction address generalizing n low high parent t with
  | nil => rfl
  | cons i address ih =>
      have bounds := shows.bounds
      have own := children_of_getElem? (same n bounds.1 bounds.2)
      rw [Forest.below?, Forest.below?, own]
      cases listed : (f.children n)[i]? with
      | none => rfl
      | some k =>
          obtain ⟨u, low', mid, -, shown, more, less, -⟩ := shows.children.1.getElem? listed
          exact ih shown fun k above below => same k (by omega) (by omega)

end Forest

/-! ## Plants -/

/-- A blueprint whose template has been planted.  The numbers of its nodes run from the root to a
bound; the handles of nodes of the template, by their addresses, are fixed. -/
structure Plant where
  blueprint : Blueprint
  root : Nat
  bound : Nat
  node : List Nat → Option NodeId

namespace Plant

/-- The nodes of a plant. -/
def Has (p : Plant) (n : Nat) : Prop :=
  p.root ≤ n ∧ n < p.bound

/-- The template is there, and its handles lead to its nodes. -/
structure Stands (p : Plant) (f : Forest) : Prop where
  shown : f.Shows p.root p.bound none p.root p.blueprint.template.root
  node : ∀ address, f.below? p.root address = p.node address

/-- A blueprint with its template as new nodes of a forest. -/
def new (b : Blueprint) (f : Forest) : Plant :=
  let g := (f.sow b.template.root).2
  ⟨b, f.size, g.size, fun address => g.below? f.size address⟩

theorem stands_new (b : Blueprint) (f : Forest) :
    (new b f).Stands (f.sow b.template.root).2 :=
  ⟨(Forest.sow_sprouts _ f).shown, fun _ => rfl⟩

namespace Stands

variable {p : Plant} {f g : Forest} (stands : p.Stands f)

include stands

/-- What happens to other nodes makes no difference. -/
theorem stays (same : ∀ n, p.Has n → g.nodes[n]? = f.nodes[n]?) : p.Stands g := by
  have kept (k : NodeId) (more : p.root ≤ k) (less : k < p.bound) : g.nodes[k]? = f.nodes[k]? :=
    same k ⟨more, less⟩
  refine ⟨stands.shown.keep kept, fun address => ?_⟩
  rw [stands.shown.below?_keep kept, stands.node]

/-- The handle at an address of the template leads to a node of the plant. -/
theorem handle {address : List Nat} {s : Tree}
    (found : p.blueprint.template.root.at? address = some s) :
    ∃ n, p.node address = some n ∧ p.Has n ∧ f.below? p.root address = some n := by
  obtain ⟨n, low, high, parent, here, shown, more, less⟩ := stands.shown.below? found
  have bounds := shown.bounds
  exact ⟨n, stands.node address ▸ here,
    ⟨Nat.le_trans more bounds.1, Nat.lt_of_lt_of_le bounds.2 less⟩, here⟩

/-- The handles at two addresses are different. -/
theorem handle_injective {a b : List Nat} {n : NodeId} (one : p.node a = some n)
    (other : p.node b = some n) : a = b :=
  stands.shown.below?_injective ((stands.node a).trans one) ((stands.node b).trans other)

end Stands

end Plant

/-- An element below the root of a tree is at an address of the tree, which is not that of the
root. -/
theorem Tree.at?_of_mem_elementsBelow {t : Tree} {element : List Nat × NodeData}
    (member : element ∈ t.elementsBelow) :
    ∃ i address s, element.1 = i :: address ∧ t.at? element.1 = some s := by
  obtain ⟨i, address, same, -⟩ := exists_of_mem_elementsAmong member
  refine ⟨i, address, ?_⟩
  have here : element ∈ t.elementsBelow.filter (·.1 = i :: address) :=
    List.mem_filter.2 ⟨member, decide_eq_true same⟩
  rw [filter_elementsBelow] at here
  cases found : t.at? (i :: address) with
  | none =>
      rw [found] at here
      cases here
  | some s => exact ⟨s, same, same ▸ found⟩

/-- The places of the bindings and of the components inside. -/
def Blueprint.spots (b : Blueprint) : List Spot :=
  b.bindings.map (·.1) ++ b.children.map (·.1)

/-- The bindings and the components of a blueprint are at addresses below the root of its
template. -/
theorem Blueprint.Made.spot {b : Blueprint} (made : b.Made) {spot : Spot}
    (member : spot ∈ b.spots) :
    ∃ i address s, spot.address = i :: address ∧ b.template.root.at? spot.address = some s := by
  have place : spot ∈ b.template.root.elementsBelow.map Scan.spotOf := by
    rcases List.mem_append.1 member with binding | child
    · rw [made.bindings, Scan.bindingsOn, List.map_flatMap] at binding
      obtain ⟨element, inside, here⟩ := List.mem_flatMap.1 binding
      obtain ⟨_, pair, rfl⟩ := List.mem_map.1 here
      obtain ⟨_, -, rfl⟩ := List.mem_map.1 pair
      exact List.mem_map.2 ⟨element, inside, rfl⟩
    · exact made.places.subset child
  obtain ⟨element, inside, rfl⟩ := List.mem_map.1 place
  exact Tree.at?_of_mem_elementsBelow inside

/-- The handle of a binding or of a component inside leads below the root. -/
theorem Plant.Stands.spot {p : Plant} {f : Forest} (stands : p.Stands f)
    (made : p.blueprint.Made) {spot : Spot} (member : spot ∈ p.blueprint.spots) :
    ∃ n, p.node spot.address = some n ∧ p.Has n ∧ f.Above p.root n := by
  obtain ⟨i, address, s, same, found⟩ := made.spot member
  obtain ⟨n, handle, has, below⟩ := stands.handle found
  rw [same] at below
  exact ⟨n, handle, has, Forest.above_of_below? below⟩

end LiveTemplates
