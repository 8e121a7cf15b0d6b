/-
# LiveTemplates.Proofs.World.Woods -- trees that the user cannot get at

Whoever has a node gets at all nodes of its tree, and at no others.  So the copies that attaching
makes are out of reach until they are moved to the host, whatever the user's own code does in
between, and the host is not below one of them.

* `World.Wooded`: the nodes are a well-formed forest, and the user knows only nodes that there are;
* `World.Hides`: some nodes are all the nodes of some trees, and the user knows none of them;
* `World.Roams`: the nodes go on to be a forest, and what was hidden still is.  Evaluations, ticks
  and dispatches see to this if the user's own code does (`World.Roams.hosts`);
* `World.Works`: so it is but for the tree of one node, which may get new nodes, and is hidden if it
  was.
-/
import LiveTemplates.Proofs.Forest.Moving
import LiveTemplates.Proofs.Forest.Reserve
import LiveTemplates.Proofs.World.Activity

namespace LiveTemplates

set_option autoImplicit false

/-! ## Whole trees -/

namespace Forest

variable {D E : NodeId → Prop} {f g : Forest}

/-- The same nodes are listed. -/
theorem Closed.congr (closed : f.Closed D) (size : f.size ≤ g.size)
    (children : ∀ k, g.children k = f.children k) : g.Closed D where
  inside n member := Nat.lt_of_lt_of_le (closed.inside n member) size
  listed k n member := by
    have before := closed.listed k n (children k ▸ member)
    exact ⟨Nat.lt_of_lt_of_le before.1 size, before.2⟩

theorem Closed.either (closed : f.Closed D) (also : f.Closed E) : f.Closed fun n => D n ∨ E n where
  inside n := Or.rec (closed.inside n) (also.inside n)
  listed k n member :=
    ⟨(closed.listed k n member).1,
      or_congr (closed.listed k n member).2 (also.listed k n member).2⟩

/-- Nodes are moved among these nodes or among others. -/
theorem Closed.moves (closed : f.Closed D) {moved : List NodeId} {t : Option NodeId}
    (moves : f.Moves g moved t) (alike : ∀ p ∈ t, ∀ m ∈ moved, m < f.size ∧ (D m ↔ D p)) :
    g.Closed D where
  inside n member := moves.size ▸ closed.inside n member
  listed k n member := by
    rw [moves.children, List.mem_append] at member
    rw [moves.size]
    rcases member with old | new
    · exact closed.listed k n (List.mem_of_mem_filter old)
    · split at new
      case isTrue onto => exact alike k onto n new
      case isFalse => cases new

/-- A node that is added is a tree of its own. -/
theorem Closed.new (formed : f.WellFormed) (d : NodeData) :
    (f.add d).2.Closed fun n => n = f.size where
  inside n member := by
    rw [member, size_add]
    exact Nat.lt_succ_self _
  listed k n member := by
    rw [children, getElem?_add] at member
    split at member
    · cases member
    · have inside : n < f.size := formed.inside member
      have above : k < f.size := lt_size_of_mem_children member
      refine ⟨?_, iff_of_false (Nat.ne_of_lt inside) (Nat.ne_of_lt above)⟩
      rw [size_add]
      exact Nat.lt_succ_of_lt inside

/-- The nodes of another forest are taken in. -/
theorem Closed.adopt (closed : f.Closed D) (formed : f.WellFormed) (also : g.WellFormed) :
    (f.adopt g).Closed D where
  inside n member := size_adopt f g ▸ Nat.lt_add_right _ (closed.inside n member)
  listed k n member := by
    rw [size_adopt]
    rcases (mem_children_adopt formed).1 member with ⟨inside, old⟩ | ⟨k', n', rfl, rfl, new⟩
    · exact ⟨Nat.lt_add_right _ inside, (closed.listed k n old).2⟩
    · have away (m : Nat) : ¬ D (m + f.size) := fun member =>
        Nat.not_lt.2 (Nat.le_add_left ..) (closed.inside _ member)
      refine ⟨?_, iff_of_false (away n') (away k')⟩
      rw [Nat.add_comm]
      exact Nat.add_lt_add_left (also.inside new) _

/-- Either both or none of two nodes are among them, if one is above the other. -/
theorem Closed.not_over (closed : f.Closed D) {n m : NodeId} (leads : f.Over n m) : D n ↔ D m := by
  induction leads with
  | refl => exact Iff.rfl
  | tail _ listed ih => exact ih.trans (closed.listed _ _ listed).2.symm

end Forest

variable {σ : Type} {knows : σ → NodeId → Prop}

namespace World

/-! ## Hidden trees -/

/-- The nodes are a well-formed forest, and the user knows only nodes that there are. -/
structure Wooded (knows : σ → NodeId → Prop) (w : World σ) : Prop where
  formed : w.forest.WellFormed
  known : ∀ n, knows w.user n → n < w.forest.size

/-- Some nodes are all the nodes of some trees, and the user knows none of them. -/
structure Hides (knows : σ → NodeId → Prop) (D : NodeId → Prop) (w : World σ) : Prop where
  closed : w.forest.Closed D
  unknown : ∀ n, D n → ¬ knows w.user n

/-- The nodes go on to be a forest, none is gone, and what was hidden still is. -/
def Roams (knows : σ → NodeId → Prop) (w v : World σ) : Prop :=
  w.Wooded knows → v.Wooded knows ∧ w.forest.size ≤ v.forest.size ∧
    ∀ D, w.Hides knows D → v.Hides knows D

/-- So it is but for the trees that a node is in: these may have got new nodes. -/
def Works (knows : σ → NodeId → Prop) (h : NodeId) (w v : World σ) : Prop :=
  w.Wooded knows → h < w.forest.size → v.Wooded knows ∧ w.forest.size ≤ v.forest.size ∧
    (∀ D, w.Hides knows D → ¬ D h → v.Hides knows D) ∧
    ∀ P, w.Hides knows P → P h → ∃ P' : NodeId → Prop, v.Hides knows P' ∧ (∀ n, P n → P' n) ∧
      ∀ n, P' n → P n ∨ w.forest.size ≤ n

variable {D E : NodeId → Prop} {h : NodeId} {w v x : World σ}

theorem Hides.either (hides : w.Hides knows D) (also : w.Hides knows E) :
    w.Hides knows fun n => D n ∨ E n :=
  ⟨hides.closed.either also.closed, fun n => Or.rec (hides.unknown n) (also.unknown n)⟩

namespace Roams

/-- The nodes are the same, and the user knows no more of them. -/
theorem quiet (forest : v.forest = w.forest) (user : ∀ n, knows v.user n → knows w.user n) :
    w.Roams knows v := by
  intro wooded
  refine ⟨⟨forest ▸ wooded.formed, fun n known => ?_⟩, Nat.le_of_eq (congrArg _ forest.symm),
    fun D hides => ⟨forest ▸ hides.closed, fun n member known => ?_⟩⟩
  · rw [forest]
    exact wooded.known n (user n known)
  · exact hides.unknown n member (user n known)

/-- The nodes have changed, and the user knows no more of them. -/
theorem onForest {f : Forest} (formed : w.forest.WellFormed → f.WellFormed)
    (size : w.forest.size ≤ f.size)
    (closed : w.Wooded knows → ∀ D, w.Hides knows D → f.Closed D) :
    w.Roams knows { w with forest := f } := by
  intro wooded
  refine ⟨⟨formed wooded.formed, fun n known => ?_⟩, size, fun D hides => ⟨?_, hides.unknown⟩⟩
  · exact Nat.lt_of_lt_of_le (wooded.known n known) size
  · exact closed wooded D hides

theorem refl (w : World σ) : w.Roams knows w :=
  quiet rfl fun _ => id

theorem trans ⦃w v x : World σ⦄ (first : w.Roams knows v) (second : v.Roams knows x) :
    w.Roams knows x := by
  intro wooded
  obtain ⟨between, size, hides⟩ := first wooded
  obtain ⟨after, size', hides'⟩ := second between
  exact ⟨after, Nat.le_trans size size', fun D hidden => hides' D (hides D hidden)⟩

theorem add (w : World σ) (d : NodeData) :
    w.Roams knows { w with forest := (w.forest.add d).2 } := by
  refine onForest (fun formed => formed.add d) (by simp [Forest.size_add])
    fun wooded D hides => ?_
  obtain ⟨closed, -, -⟩ := Forest.Leaves.add w.forest d hides.closed
  exact closed

theorem setAttr (w : World σ) (n : NodeId) (name value : String) :
    w.Roams knows { w with forest := (w.forest.setAttr n name value).2 } := by
  refine onForest (fun formed => formed.setAttr n name value) (by simp [Forest.setAttr])
    fun wooded D hides => ?_
  let change (node : Node) : Node := { node with data := node.data.setAttr name value }
  exact hides.closed.congr (by simp [Forest.setAttr])
    fun k => Forest.children_modify change k fun _ => rfl

/-- Taking a node off another one shows no hidden tree. -/
theorem remove (w : World σ) (parent child : NodeId) :
    w.Roams knows { w with forest := (w.forest.remove parent child).2 } := by
  intro wooded
  rcases wooded.formed.remove_moves parent child with ⟨same, -⟩ | ⟨g, same, -, moves⟩
  · exact quiet (congrArg Prod.snd same) (fun _ => id) wooded
  · refine onForest (fun formed => formed.remove parent child) ?_ (fun _ D hides => ?_) wooded
    · rw [same]
      exact Nat.le_of_eq moves.size.symm
    · rw [same]
      exact hides.closed.moves moves nofun

/-- What spares all hidden trees spares those that a node is not in. -/
theorem works (roams : w.Roams knows v) (h : NodeId) : w.Works knows h v := by
  intro wooded _
  obtain ⟨after, size, hides⟩ := roams wooded
  exact ⟨after, size, fun D hidden _ => hides D hidden,
    fun P hidden _ => ⟨P, hides P hidden, fun _ => id, fun _ => .inl⟩⟩

end Roams

namespace Works

theorem trans ⦃w v x : World σ⦄ (first : w.Works knows h v) (second : v.Works knows h x) :
    w.Works knows h x := by
  intro wooded inside
  obtain ⟨between, size, others, own⟩ := first wooded inside
  obtain ⟨after, size', others', own'⟩ := second between (Nat.lt_of_lt_of_le inside size)
  refine ⟨after, Nat.le_trans size size', fun D hides away => others' D (others D hides away) away,
    fun P hides here => ?_⟩
  obtain ⟨P', hides₁, more, new⟩ := own P hides here
  obtain ⟨P'', hides₂, more', new'⟩ := own' P' hides₁ (more h here)
  refine ⟨P'', hides₂, fun n member => more' n (more n member), fun n member => ?_⟩
  rcases new' n member with old | late
  · exact new n old
  · exact .inr (Nat.le_trans size late)

/-- Working on a node that the user knows spares all hidden trees. -/
theorem roams (works : w.Works knows h v) (known : knows w.user h) : w.Roams knows v := by
  intro wooded
  obtain ⟨after, size, others, -⟩ := works wooded (wooded.known h known)
  exact ⟨after, size, fun D hides => others D hides fun member => hides.unknown h member known⟩

end Works

end World

/-! ## The user's own code -/

/-- Reading, writing, constructing and reporting get at no nodes. -/
structure UserCode.Secluded (knows : σ → NodeId → Prop) (u : UserCode σ) : Prop where
  get : ∀ o member s n, knows (u.get o member s).2 n → knows s n
  set : ∀ o member v s n, knows (u.set o member v s).2 n → knows s n
  construct : ∀ c o s n, knows (u.construct c o s) n → knows s n
  notice : ∀ notice s n, knows (u.notice notice s) n → knows s n

namespace World

variable {u : UserCode σ} (secluded : u.Secluded knows)

include secluded

/-- Evaluations, ticks and dispatches spare hidden trees. -/
theorem Roams.hosts : Hosts u (Roams knows) where
  trans := Roams.trans
  minor {w _} step := by
    cases step with
    | same => exact .refl w
    | read o member => exact .quiet rfl (secluded.get o member w.user)
    | write o member v => exact .quiet rfl (secluded.set o member v w.user)
    | report n => exact .quiet rfl (secluded.notice n w.user)
    | hold pins => exact .quiet rfl fun _ => id
    | count z => exact .quiet rfl fun _ => id
  borrowed w v o during := by
    have before : w.Roams knows { w with busy := o :: w.busy } := .quiet rfl fun _ => id
    have after : v.Roams knows { v with busy := v.busy.erase o } := .quiet rfl fun _ => id
    exact before.trans (during.trans after)
  shows := Roams.setAttr

/-- So they do if they work on a node. -/
theorem Works.bears (h : NodeId) : Bears u (Works knows h) where
  trans := Works.trans
  minor step := ((Roams.hosts secluded).minor step).works h
  borrowed w v o during := by
    have before : w.Roams knows { w with busy := o :: w.busy } := .quiet rfl fun _ => id
    have after : v.Roams knows { v with busy := v.busy.erase o } := .quiet rfl fun _ => id
    exact (before.works h).trans (during.trans (after.works h))

end World

end LiveTemplates
