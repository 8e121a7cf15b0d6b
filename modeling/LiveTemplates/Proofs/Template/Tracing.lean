/-
# LiveTemplates.Proofs.Template.Tracing -- attaching from a planted template

Attaching copies a template that is a tree by itself.  It can as well be done with a planted
one: each node is read from the forest at the moment at which it is copied, and the bindings and
components are looked up under the handle of the node that was copied.  As long as nobody
touches the template this makes no difference.

* `Wiring.copyFrom`, `Blueprint.attachFrom`: copying and attaching from planted templates;
* `Blueprint.Planted`: the templates of a blueprint and of those inside are planted;
* `Blueprint.Planted.attachFrom`: attaching from them does what attaching does.
-/
import LiveTemplates.Proofs.Instance.Confinement
import LiveTemplates.Proofs.Template.Planting

namespace LiveTemplates

set_option autoImplicit false

variable {σ ω : Type}

/-! ## Copying from the forest -/

namespace Wiring

/-- Copies nodes, one by one, to the end of the children of a node. -/
def copyEach (copy : NodeId → ω → Run σ (NodeId × ω)) (parent : NodeId) (sources : List NodeId)
    (s : ω) : Run σ ω :=
  sources.foldlM (fun s source => do
    let (live, s) ← copy source s
    modify fun world => { world with forest := world.forest.append parent live }
    return s) s

/-- Copies a node with all below it, down to a depth, and wires each copy when it is complete, for
the node that was copied. -/
def copyFrom (wire : NodeId → NodeId → ω → Run σ ω) : Nat → NodeId → ω → Run σ (NodeId × ω)
  | 0, _, _ => failure
  | depth + 1, source, s => do
    let live ← Run.onForest fun f => f.add (f.data source)
    let sources := (← get).forest.children source
    let s ← copyEach (copyFrom wire depth) live sources s
    return (live, ← wire source live s)

end Wiring

/-- Wires a copy of a node of a planted template: attaches the bindings with a handle to the
node, and mounts the components with one. -/
def Plant.wire (u : UserCode σ) (z : Zone) (p : Plant) (o : ObjectId)
    (parts : List (Spot × Mounting σ)) (source live : NodeId) (s : Wiring) : Run σ Wiring := do
  let s ← (p.blueprint.bindings.filter (p.node ·.1.address = some source)).foldlM
    (fun s (_, b) => do return s.add (← b.attach u live o z)) s
  (parts.filter (p.node ·.1.address = some source)).foldlM
    (fun s (_, mount) => do return { s with children := s.children ++ [← mount live] }) s

namespace Blueprint

/-- All that is done before the copies are moved to the host, with a planted template. -/
def growFrom (u : UserCode σ) (z : Zone) (p : Plant)
    (parts : List ObjectId → List (Spot × Mounting σ)) (o : ObjectId) :
    Run σ (List ObjectId × Nat × NodeId × Wiring) := do
  let childObjects ← p.blueprint.constructChildren u
  let serial ← Run.fresh
  let fragment ← Run.onForest (·.add .document)
  let f := (← get).forest
  let s ← Wiring.copyEach (Wiring.copyFrom (p.wire u z o (parts childObjects)) f.size) fragment
    (f.children p.root) {}
  return (childObjects, serial, fragment, s)

mutual

/-- Mounts a blueprint from planted templates. -/
def mountFrom (u : UserCode σ) (z : Zone) (plot : Blueprint → Plant) :
    Blueprint → ObjectId → Mounting σ
  | mk compiler cls template bindings children warnings, object, host =>
    let b := mk compiler cls template bindings children warnings
    growFrom u z (plot b) (mountingsFrom u z plot children) object >>= b.settle z object host

/-- The ways in which the children of a blueprint are mounted from planted templates. -/
def mountingsFrom (u : UserCode σ) (z : Zone) (plot : Blueprint → Plant) :
    List (Spot × Blueprint) → List ObjectId → List (Spot × Mounting σ)
  | [], _ => []
  | (spot, b) :: rest, o :: os => (spot, mountFrom u z plot b o) :: mountingsFrom u z plot rest os
  | (spot, b) :: rest, [] =>
    (spot, fun live => do mountFrom u z plot b (← Run.construct u b.cls) live)
      :: mountingsFrom u z plot rest []

end

/-- Makes an instance of a blueprint, with a new object, at the end of a host, from planted
templates. -/
def attachFrom (u : UserCode σ) (plot : Blueprint → Plant) (b : Blueprint) (host : NodeId)
    (z : Zone) : Run σ Instance :=
  Run.holding z do
    let object ← Run.construct u b.cls
    b.mountFrom u z plot object host

end Blueprint

/-! ## No difference -/

theorem Run.bind_congr {α β : Type} {x y : Run σ α} {f g : α → Run σ β} {w : World σ}
    (first : x.run w = y.run w)
    (later : ∀ a v, y.run w = some (a, v) → (f a).run v = (g a).run v) :
    (x >>= f).run w = (y >>= g).run w := by
  rw [StateT.run_bind, StateT.run_bind, first]
  cases ran : y.run w with
  | none => rfl
  | some r => exact later r.1 r.2 ran

namespace World

variable {D : NodeId → Prop} {I : World σ → Prop} (guards : Guards D I)

/-- A plant of which all nodes are some of those that are left alone. -/
structure Tended (D : NodeId → Prop) (p : Plant) (w : World σ) : Prop where
  stands : p.Stands w.forest
  within : ∀ n, p.Has n → D n

theorem Tended.later {p : Plant} {w v : World σ} (tended : Tended D p w) (later : w.Stays D v) :
    Tended D p v :=
  ⟨tended.stands.stays fun n has => later.same n (tended.within n has), tended.within⟩

/-- The handles at the addresses of the children of a node are its children. -/
theorem Tended.child {p : Plant} {w : World σ} (tended : Tended D p w) {address : List Nat}
    {source : NodeId} (handle : p.node address = some source) (j : Nat) :
    p.node (address ++ [j]) = (w.forest.children source)[j]? := by
  have here := (tended.stands.node address).trans handle
  rw [← tended.stands.node, Forest.below?_append, here, Option.bind_some, Forest.below?]
  cases (w.forest.children source)[j]? <;> rfl

/-- Wiring for a node of a plant does what wiring for its address does, which spares the nodes
that are left alone. -/
structure Follows (D : NodeId → Prop) (I : World σ → Prop) (p : Plant) (Q : ω → World σ → Prop)
    (wireFrom : NodeId → NodeId → ω → Run σ ω) (wire : List Nat → NodeId → ω → Run σ ω) :
    Prop where
  stable : ∀ {s w v}, w.Stays D v → Q s w → Q s v
  spares : ∀ address {live s w}, w.forest.Free D live → Q s w →
    During D I w (wire address live s) Q
  same : ∀ {address source live s w}, I w → Tended D p w → p.node address = some source →
    w.forest.Free D live → Q s w → (wireFrom source live s).run w = (wire address live s).run w

/-- There are as many nodes as numbers of a plant. -/
theorem Tended.room {p : Plant} {w : World σ} (tended : Tended D p w)
    (closed : w.forest.Closed D) : p.bound ≤ w.forest.size := by
  have bounds := tended.stands.shown.bounds
  have last : p.bound - 1 < w.forest.size :=
    closed.inside _ (tended.within _ (by constructor <;> omega))
  omega

section Copying

variable {p : Plant} {Q : ω → World σ → Prop} {wireFrom : NodeId → NodeId → ω → Run σ ω}
  {wire : List Nat → NodeId → ω → Run σ ω}

theorem Tended.keep {w v : World σ} (tended : Tended D p w) (later : w.Stays D v) {low high : Nat}
    (more : p.root ≤ low) (less : high ≤ p.bound) (k : Nat) (above : low ≤ k) (below : k < high) :
    v.forest.nodes[k]? = w.forest.nodes[k]? :=
  later.same k (tended.within k ⟨Nat.le_trans more above, Nat.lt_of_lt_of_le below less⟩)

include guards

mutual

/-- Copying a node of a planted template is copying the tree there. -/
theorem copyFrom_eq (follows : Follows D I p Q wireFrom wire) :
    ∀ (t : Tree) {address : List Nat} {source : NodeId} {s : ω} {w : World σ} {depth low high : Nat}
      {parent : Option Nat}, t.preorder.length ≤ depth →
      w.forest.Shows low high parent source t → p.root ≤ low → high ≤ p.bound →
      p.node address = some source → I w → Tended D p w → Q s w →
        (Wiring.copyFrom wireFrom depth source s).run w = (Wiring.copy wire address t s).run w
  | .node d ts, _, _, _, _, 0, _, _, _, enough, _, _, _, _, _, _, _ => by
      simp [Tree.preorder] at enough
  | .node d ts, address, source, s, w, depth + 1, low, high, parent, enough, shows, more, less,
      handle, holds, tended, start => by
      have enough : (Tree.preorderAll ts).length ≤ depth := by
        simpa [Tree.preorder] using enough
      have bounds := shows.bounds
      obtain ⟨below, data⟩ := shows.children
      rw [Wiring.copyFrom, Wiring.copy]
      have added : (Run.onForest fun f => f.add (f.data source) : Run σ NodeId).run w =
          (Run.onForest (·.add d)).run w := by
        rw [Run.run_onForest, Run.run_onForest, data]
        rfl
      refine Run.bind_congr added fun live v ran => ?_
      obtain ⟨holds₁, later, here⟩ := During.add guards d holds live v ran
      have tended₁ := tended.later later
      have same := Forest.children_of_getElem? (tended.keep later more less source bounds.1 bounds.2)
      have below : v.forest.ShowsAll (source + 1) high source (v.forest.children source) ts :=
        same ▸ below.keep fun k above under =>
          tended.keep later more less k (Nat.le_trans bounds.1 (Nat.le_of_succ_le above)) under
      have handles (j : Nat) : p.node (address ++ [0 + j]) = (v.forest.children source)[j]? := by
        rw [Nat.zero_add, tended₁.child handle]
      have copied := copyEach_eq follows ts enough below
        (Nat.le_trans more (Nat.le_succ_of_le bounds.1)) less handles here holds₁ tended₁
        (follows.stable later start)
      show StateT.run (Wiring.copyEach (Wiring.copyFrom wireFrom depth) live
        (v.forest.children source) s >>= fun s => do return (live, ← wireFrom source live s)) v = _
      refine Run.bind_congr copied fun s x ran => ?_
      obtain ⟨holds₂, later', wired⟩ := During.copyAll guards (Q := Q) follows.stable follows.spares
        address 0 ts here (follows.stable later start) holds₁ s x ran
      exact Run.bind_congr (follows.same holds₂ (tended₁.later later') handle
        (here.later later'.size) wired) fun _ _ _ => rfl

theorem copyEach_eq (follows : Follows D I p Q wireFrom wire) :
    ∀ (ts : List Tree) {address : List Nat} {i : Nat} {ns : List Nat} {live : NodeId} {s : ω}
      {w : World σ} {depth low high source : Nat},
      (Tree.preorderAll ts).length ≤ depth → w.forest.ShowsAll low high source ns ts →
      p.root ≤ low → high ≤ p.bound → (∀ j, p.node (address ++ [i + j]) = ns[j]?) →
      w.forest.Free D live → I w → Tended D p w → Q s w →
        (Wiring.copyEach (Wiring.copyFrom wireFrom depth) live ns s).run w =
          (Wiring.copyAll wire live address i ts s).run w
  | [], _, _, _, _, _, _, _, _, _, _, _, .nil _ _, _, _, _, _, _, _, _ => by
      rw [Wiring.copyAll]
      rfl
  | t :: ts, address, i, _, live, s, w, depth, low, high, source, enough,
      @Forest.ShowsAll.cons _ _ mid _ _ n _ ns _ first rest, more, less, handles, here, holds,
      tended, start => by
      have room := first.room
      have room' := rest.room
      have enough' : t.preorder.length ≤ depth ∧ (Tree.preorderAll ts).length ≤ depth := by
        simp only [Tree.preorderAll, List.length_append] at enough
        omega
      have middle : low ≤ mid := by omega
      have last : mid ≤ high := by omega
      have copied := copyFrom_eq follows t enough'.1 first more (Nat.le_trans last less) (handles 0)
        holds tended start
      rw [Wiring.copyAll, Wiring.copyEach, List.foldlM_cons, bind_assoc]
      refine Run.bind_congr copied fun r v ran => ?_
      obtain ⟨holds₁, later, free, wired⟩ := During.copy guards (Q := Q) follows.stable follows.spares
        (address ++ [i]) t start holds r v ran
      have here := here.later later.size
      simp only [bind_assoc, pure_bind]
      refine Run.bind_congr rfl fun _ x ran => ?_
      obtain ⟨holds₂, later', -⟩ := During.append guards here free holds₁ _ x ran
      have both := later.trans later'
      refine copyEach_eq follows ts enough'.2 (rest.keep fun k above under => ?_)
        (Nat.le_trans more middle) less (fun j => ?_) (here.later later'.size) holds₂
        (tended.later both) (follows.stable later' wired)
      · exact tended.keep both (Nat.le_trans more middle) less k above under
      · rw [Nat.add_assoc, Nat.add_comm 1 j]
        exact handles (j + 1)

end

end Copying

end World

/-! ## Mounting -/

/-- The template of a blueprint is planted on the plot for it, and so are those of the blueprints
inside of it, among nodes that are left alone. -/
def Blueprint.Planted (D : NodeId → Prop) (plot : Blueprint → Plant) (b : Blueprint)
    (w : World σ) : Prop :=
  ∀ d, Relation.ReflTransGen Blueprint.Contains b d →
    (plot d).blueprint = d ∧ World.Tended D (plot d) w

namespace Blueprint.Planted

open World

variable {D : NodeId → Prop} {I : World σ → Prop} {plot : Blueprint → Plant} {b : Blueprint}
  {w v : World σ}

theorem later (planted : b.Planted D plot w) (later : w.Stays D v) : b.Planted D plot v :=
  fun d inside => have ⟨own, tended⟩ := planted d inside
    ⟨own, tended.later later⟩

theorem child (planted : b.Planted D plot w) {child : Spot × Blueprint}
    (member : child ∈ b.children) : child.2.Planted D plot w :=
  fun d inside => planted d (.head ⟨child.1, member⟩ inside)

/-- Mounting does the same from planted templates. -/
def Alike (D : NodeId → Prop) (I : World σ → Prop) (planted : World σ → Prop)
    (one other : Spot × Mounting σ) : Prop :=
  one.1 = other.1 ∧ ∀ {w live}, I w → planted w → w.forest.Free D live →
    (one.2 live).run w = (other.2 live).run w

/-- Steps over components that are mounted alike. -/
theorem foldlM_alike {planted : World σ → Prop}
    (stays : ∀ {w v}, planted w → World.Stays D w v → planted v)
    {parts others : List (Spot × Mounting σ)} {live : NodeId}
    (alike : List.Forall₂ (Alike D I planted) parts others)
    (spares : ∀ part ∈ others, ∀ {w live}, w.forest.Free D live →
      During D I w (part.2 live) (Instance.Free D)) (s : Wiring) {w : World σ} (holds : I w)
    (here : w.forest.Free D live) (stands : planted w) :
    (parts.foldlM (fun (s : Wiring) ((_, mount) : Spot × Mounting σ) => do
      return { s with children := s.children ++ [← mount live] }) s).run w =
    (others.foldlM (fun (s : Wiring) ((_, mount) : Spot × Mounting σ) => do
      return { s with children := s.children ++ [← mount live] }) s).run w := by
  induction alike generalizing s w with
  | nil => rfl
  | cons one _ ih =>
      obtain ⟨first, rest⟩ := List.forall_mem_cons.1 spares
      simp only [List.foldlM_cons, bind_assoc, pure_bind]
      refine Run.bind_congr (one.2 holds stands here) fun i v ran => ?_
      obtain ⟨holds₁, later, -⟩ := first here holds i v ran
      exact ih rest _ holds₁ (here.later later.size) (stays stands later)

variable (guards : Guards D I) {u : UserCode σ}
  (aloof : ∀ o method args, Keeps (Spares D I) (u.call o method args)) {z : Zone}

include guards aloof

/-- Wiring for a node of the plant of a blueprint does what wiring for its address does. -/
theorem follows (o : ObjectId) {objects : List ObjectId} {parts : List (Spot × Mounting σ)}
    (own : (plot b).blueprint = b)
    (alike : List.Forall₂ (Alike D I (b.Planted D plot)) parts
      (mountings u z b.children objects)) :
    Follows D I (plot b) (fun (s : Wiring) w => s.Free D w ∧ b.Planted D plot w)
      ((plot b).wire u z o parts) (b.wire u z o objects) where
  stable later both := ⟨both.1.later later, both.2.later later⟩
  spares address {live s w} here both :=
    (During.wire guards aloof (During.mountings guards aloof z b.children objects) address here
      both.1).imp fun s v later wired => ⟨wired, both.2.later later⟩
  same {address source live s w} holds tended handle here both := by
    have key (spot : Spot) :
        ((plot b).node spot.address = some source) = (spot.address = address) :=
      propext ⟨fun found => tended.stands.handle_injective found handle, fun same => same ▸ handle⟩
    have spares := During.mountings guards aloof z b.children objects
    rw [Plant.wire, own]
    simp only [key]
    refine Run.bind_congr rfl fun s v ran => ?_
    obtain ⟨holds₁, later, -⟩ :=
      During.wireBindings guards aloof z o b.bindings address here both.1 holds s v ran
    have filtered := List.rel_filter (R := Alike D I (b.Planted D plot))
      (p := (·.1.address = address)) (q := (·.1.address = address))
      (fun _ _ same => by simp [same.1]) alike
    exact foldlM_alike Planted.later filtered
      (fun part member => spares part (List.mem_of_mem_filter member)) s holds₁
      (here.later later.size) (both.2.later later)

/-- What is done before the copies are moved is the same from a planted template. -/
theorem growFrom (o : ObjectId) {parts : List ObjectId → List (Spot × Mounting σ)}
    (alike : ∀ objects, List.Forall₂ (Alike D I (b.Planted D plot)) (parts objects)
      (mountings u z b.children objects)) (holds : I w) (planted : b.Planted D plot w) :
    (Blueprint.growFrom u z (plot b) parts o).run w = (b.grow u z o).run w := by
  have own := (planted b .refl).1
  rw [Blueprint.growFrom, grow, own]
  refine Run.bind_congr rfl fun objects w₁ ran => ?_
  obtain ⟨holds, later, -⟩ := During.constructAll guards u _ holds objects w₁ ran
  refine Run.bind_congr rfl fun serial w₂ ran => ?_
  obtain ⟨holds, later', -⟩ := During.fresh guards holds serial w₂ ran
  refine Run.bind_congr rfl fun fragment v ran => ?_
  obtain ⟨holds, later'', here⟩ := During.add guards .document holds fragment v ran
  have planted := planted.later (later.trans (later'.trans later''))
  have tended := (planted b .refl).2
  obtain ⟨below, -⟩ := tended.stands.shown.children
  rw [own] at below
  show StateT.run (Wiring.copyEach (Wiring.copyFrom ((plot b).wire u z o (parts objects))
    v.forest.size) fragment (v.forest.children (plot b).root) {} >>= fun s => do
      return (objects, serial, fragment, s)) v = _
  have handles (j : Nat) :
      (plot b).node ([] ++ [0 + j]) = (v.forest.children (plot b).root)[j]? := by
    rw [Nat.zero_add, tended.child (tended.stands.node []).symm]
  have enough := tended.room (guards.closed holds)
  have unwired : Wiring.Free D {} v := ⟨List.forall_mem_nil _, List.forall_mem_nil _⟩
  refine Run.bind_congr (copyEach_eq guards (follows guards aloof o own (alike objects)) _
    (Nat.le_trans (Nat.le_of_add_left_le below.room) enough) below (Nat.le_succ _) (Nat.le_refl _)
    handles here holds tended ⟨unwired, planted⟩) fun _ _ _ => rfl

omit aloof in
mutual

/-- Mounting a blueprint does the same from planted templates. -/
theorem mountFrom (aloof : ∀ o method args, Keeps (Spares D I) (u.call o method args)) :
    ∀ (b : Blueprint) (o : ObjectId) {host : NodeId} {w : World σ}, I w → b.Planted D plot w →
      w.forest.Free D host → (b.mountFrom u z plot o host).run w = (b.mount u z o host).run w
  | .mk compiler cls template bindings children warnings, o, host, w, holds, planted, hosted => by
      let b := Blueprint.mk compiler cls template bindings children warnings
      rw [mount_grow, Blueprint.mountFrom]
      have alike (objects : List ObjectId) : List.Forall₂ (Alike D I (b.Planted D plot))
          (Blueprint.mountingsFrom u z plot children objects)
          (mountings u z children objects) :=
        mountingsFrom aloof children objects fun child member _ planted => planted.child member
      exact Run.bind_congr (growFrom guards aloof o alike holds planted) fun _ _ _ => rfl

theorem mountingsFrom (aloof : ∀ o method args, Keeps (Spares D I) (u.call o method args)) :
    ∀ (children : List (Spot × Blueprint)) (objects : List ObjectId) {planted : World σ → Prop},
      (∀ child ∈ children, ∀ w, planted w → child.2.Planted D plot w) →
        List.Forall₂ (Alike D I planted) (Blueprint.mountingsFrom u z plot children objects)
          (mountings u z children objects)
  | [], objects, _, _ => by
      rw [mountings, Blueprint.mountingsFrom]
      exact .nil
  | (spot, b) :: rest, [], planted, inside => by
      obtain ⟨first, others⟩ := List.forall_mem_cons.1 inside
      rw [mountings, Blueprint.mountingsFrom]
      refine .cons ⟨rfl, fun {w live} holds here free => ?_⟩ (mountingsFrom aloof rest [] others)
      refine Run.bind_congr rfl fun o v ran => ?_
      obtain ⟨holds, later, -⟩ := During.construct guards u b.cls holds o v ran
      exact mountFrom aloof b o holds ((first w here).later later) (free.later later.size)
  | (spot, b) :: rest, o :: objects, planted, inside => by
      obtain ⟨first, others⟩ := List.forall_mem_cons.1 inside
      rw [mountings, Blueprint.mountingsFrom]
      exact .cons ⟨rfl, fun holds here free => mountFrom aloof b o holds (first _ here) free⟩
        (mountingsFrom aloof rest objects others)

end

/-- Attaching from planted templates does what attaching does, as long as the methods of the
objects leave the templates alone. -/
theorem attachFrom (holds : I w) (planted : b.Planted D plot w) {host : NodeId}
    (hosted : w.forest.Free D host) :
    (b.attachFrom u plot host z).run w = (b.attach u host z).run w := by
  have before := Agrees.intro w w.target w.busy (z :: w.pins) w.serial w.user
  rw [Blueprint.attachFrom, attach, Run.run_holding, Run.run_holding]
  refine congrArg (Option.map _) (Run.bind_congr rfl fun o v ran => ?_)
  obtain ⟨holds, later, -⟩ := During.construct guards u b.cls (guards.agrees holds before) o v ran
  have later := before.stays.trans later
  exact mountFrom guards aloof b o holds (planted.later later) (hosted.later later.size)

end Blueprint.Planted

end LiveTemplates
