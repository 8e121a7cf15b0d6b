/-
# LiveTemplates.Proofs.Instance.Grafting -- attaching makes no circle of nodes

Copies are new nodes, and nobody gets at them while they are wired.  So a copy is not above the
copy that it is put below, and no copy is above the host that all of them are moved to in the end,
even if the user's own code changes the tree in between.

* `World.Raises`: a new tree has come up, and is hidden;
* `World.Raises.append`, `World.Raises.move`: it is put below an older node, or its root's children
  are, and no circle comes of it;
* `World.Works.copy`, `World.Works.mount`, `World.Works.attach`: so attaching only works on the
  host, and the nodes are a well-formed forest still.
-/
import LiveTemplates.Proofs.Instance.Mounting
import LiveTemplates.Proofs.World.Woods

namespace LiveTemplates

set_option autoImplicit false

variable {σ : Type} {knows : σ → NodeId → Prop}

namespace World

/-- Hidden trees are spared, and a node is in a new tree that is hidden. -/
def Raises (knows : σ → NodeId → Prop) (n : NodeId) (w v : World σ) : Prop :=
  w.Roams knows v ∧ (w.Wooded knows → ∃ T : NodeId → Prop, v.Hides knows T ∧ T n ∧
    ∀ m, T m → w.forest.size ≤ m)

namespace Raises

variable {n parent host : NodeId} {w v x : World σ}

/-- A new node. -/
theorem add (w : World σ) (d : NodeData) :
    w.Raises knows w.forest.size { w with forest := (w.forest.add d).2 } := by
  refine ⟨.add w d, fun wooded => ⟨fun m => m = w.forest.size, ⟨.new wooded.formed d, ?_⟩, rfl, ?_⟩⟩
  · rintro m rfl known
    exact Nat.lt_irrefl _ (wooded.known _ known)
  · exact fun m same => Nat.le_of_eq same.symm

theorem behind (first : w.Roams knows v) (raises : v.Raises knows n x) : w.Raises knows n x := by
  refine ⟨first.trans raises.1, fun wooded => ?_⟩
  obtain ⟨between, size, -⟩ := first wooded
  obtain ⟨T, hides, here, new⟩ := raises.2 between
  exact ⟨T, hides, here, fun m member => Nat.le_trans size (new m member)⟩

/-- Working on it is not seen from outside. -/
theorem works (raises : w.Raises knows n v) (works : v.Works knows n x) : w.Raises knows n x := by
  have both (wooded : w.Wooded knows) := works (raises.1 wooded).1
  refine ⟨fun wooded => ?_, fun wooded => ?_⟩
  all_goals
    obtain ⟨between, size, hides⟩ := raises.1 wooded
    obtain ⟨T, hidden, here, new⟩ := raises.2 wooded
    obtain ⟨after, size', others, own⟩ := works between (hidden.closed.inside n here)
  · refine ⟨after, Nat.le_trans size size', fun D before => ?_⟩
    refine others D (hides D before) fun member => ?_
    exact Nat.not_lt.2 (new n here) (before.closed.inside n member)
  · obtain ⟨T', hidden', more, later⟩ := own T hidden here
    refine ⟨T', hidden', more n here, fun m member => ?_⟩
    exact (later m member).elim (new m) (Nat.le_trans size)

/-- Nodes of the new tree go below an older node. -/
theorem puts (raises : w.Raises knows n v) (moved : List NodeId) {g : Forest}
    (within : ∀ D, v.forest.Closed D → ∀ m ∈ moved, D m ↔ D n)
    (moves : v.Wooded knows → parent < v.forest.size → n < v.forest.size →
      ¬ v.forest.Over n parent → v.forest.Moves g moved (some parent) ∧ g.WellFormed) :
    w.Works knows parent { v with forest := g } := by
  intro wooded old
  obtain ⟨between, size, hides⟩ := raises.1 wooded
  obtain ⟨T, hidden, here, new⟩ := raises.2 wooded
  have apart : ¬ v.forest.Over n parent := fun leads =>
    Nat.not_lt.2 (new parent ((hidden.closed.not_over leads).1 here)) old
  obtain ⟨moves, formed⟩ := moves between (Nat.lt_of_lt_of_le old size)
    (hidden.closed.inside n here) apart
  have inside (m : NodeId) (member : m ∈ moved) : m < v.forest.size :=
    hidden.closed.inside m ((within T hidden.closed m member).2 here)
  refine ⟨⟨formed, moves.size ▸ between.known⟩, moves.size ▸ size, fun D before away => ?_,
    fun P before parented => ?_⟩
  · have later := hides D before
    refine ⟨later.closed.moves moves ?_, later.unknown⟩
    rintro p onto m member
    obtain rfl : parent = p := Option.some.inj onto
    refine ⟨inside m member, (within D later.closed m member).trans (iff_of_false ?_ away)⟩
    exact fun also => Nat.not_lt.2 (new n here) (before.closed.inside n also)
  · have both := (hides P before).either hidden
    refine ⟨_, ⟨both.closed.moves moves ?_, both.unknown⟩, fun m => .inl,
      fun m => .imp_right (new m)⟩
    rintro p onto m member
    obtain rfl : parent = p := Option.some.inj onto
    have raised : T m := (within T hidden.closed m member).2 here
    exact ⟨inside m member, iff_of_true (.inr raised) (.inl parented)⟩

/-- The new tree goes below an older node. -/
theorem append (raises : w.Raises knows n v) :
    w.Works knows parent { v with forest := v.forest.append parent n } := by
  refine raises.puts [n] (fun D _ m member => ?_) fun between there fresh apart =>
    ⟨between.formed.append_moves there fresh, between.formed.append there fresh apart⟩
  rw [List.mem_singleton.1 member]

/-- The children of its root go below an older node. -/
theorem move (raises : w.Raises knows n v) :
    w.Works knows host { v with forest := (v.forest.moveChildren n host).2 } := by
  refine raises.puts (v.forest.children n)
    (fun D closed m member => (closed.listed n m member).2) fun between there _ apart => ?_
  obtain ⟨g, same, moves⟩ := between.formed.moveChildren_moves n there
  rw [same]
  have formed := between.formed.moveChildren there fun above => apart above.to_reflTransGen
  rw [same] at formed
  exact ⟨moves, formed⟩

end Raises

end World

/-! ## Attaching -/

/-- Steps in a row keep to a relation if each of them does. -/
theorem Keeps.inRow {u : UserCode σ} {R : World σ → World σ → Prop} (bears : Bears u R) {α β : Type}
    {f : β → α → Run σ β} (xs : List α) (start : β) (each : ∀ b, ∀ a ∈ xs, Keeps R (f b a)) :
    Keeps R (xs.foldlM f start) := by
  induction xs generalizing start with
  | nil => exact .pure bears start
  | cons x rest ih =>
      obtain ⟨first, others⟩ : (∀ b, Keeps R (f b x)) ∧ ∀ b, ∀ a ∈ rest, Keeps R (f b a) :=
        ⟨fun b => each b x List.mem_cons_self, fun b a member =>
          each b a (List.mem_cons_of_mem _ member)⟩
      rw [List.foldlM_cons]
      exact .bind bears.trans (first start) fun b => ih b others

namespace World.Works

/-- The nodes are the same, and the user knows no more of them. -/
theorem quiet {h : NodeId} {w v : World σ} (forest : v.forest = w.forest)
    (user : ∀ n, knows v.user n → knows w.user n) : w.Works knows h v :=
  (Roams.quiet forest user).works h

theorem of_roams {α : Type} {x : Run σ α} (roams : Keeps (Roams knows) x) (h : NodeId) :
    Keeps (Works knows h) x :=
  fun w a v ran => (roams w a v ran).works h

/-! ### Copying -/

section Copying

variable {ω : Type} {wire : List Nat → NodeId → ω → Run σ ω}
  (each : ∀ address live s, Keeps (Works knows live) (wire address live s))

include each

set_option linter.unusedSectionVars false in
mutual

/-- The copy of a tree is a new tree, if wiring a copy works on this alone. -/
theorem copy : ∀ (address : List Nat) (t : Tree) {s : ω} {r : NodeId × ω} {w v : World σ},
    (Wiring.copy wire address t s).run w = some (r, v) → w.Raises knows r.1 v
  | address, .node d ts, s, r, w, v, ran => by
      rw [Wiring.copy] at ran
      obtain ⟨live, w₁, added, ran⟩ := Run.bind_eq_some.1 ran
      obtain ⟨s₁, w₂, copied, ran⟩ := Run.bind_eq_some.1 ran
      obtain ⟨s₂, w₃, wired, last⟩ := Run.bind_eq_some.1 ran
      obtain ⟨rfl, rfl⟩ := Run.pure_eq_some.1 last
      obtain ⟨rfl, rfl⟩ := Prod.mk.inj (Option.some.inj added)
      have below := copyAll _ address 0 ts _ _ _ _ copied
      exact ((Raises.add w d).works below).works (each _ _ _ _ _ _ wired)

theorem copyAll : ∀ (parent : NodeId) (address : List Nat) (i : Nat) (ts : List Tree) (s : ω),
    Keeps (Works knows parent) (Wiring.copyAll wire parent address i ts s)
  | parent, _, _, [], s => by
      rw [Wiring.copyAll]
      exact .total (fun _ => rfl) fun w => (Roams.refl w).works parent
  | parent, address, i, t :: ts, s => by
      intro w s' v ran
      rw [Wiring.copyAll] at ran
      obtain ⟨r, w₁, copied, ran⟩ := Run.bind_eq_some.1 ran
      obtain ⟨_, w₂, appended, ran⟩ := Run.bind_eq_some.1 ran
      obtain ⟨-, rfl⟩ := Prod.mk.inj (Option.some.inj appended)
      exact (copy _ t copied).append.trans (copyAll parent address (i + 1) ts _ _ _ _ ran)

end

end Copying

/-! ### Mounting -/

variable {u : UserCode σ} (secluded : u.Secluded knows)

include secluded

theorem construct (c : ClassRef) : Keeps (Roams knows) (Run.construct u c) :=
  .total (fun _ => rfl) fun w => .quiet rfl (secluded.construct c w.serial w.user)

theorem constructAll (cs : List ClassRef) : Keeps (Roams knows) (cs.mapM (Run.construct u)) := by
  induction cs with
  | nil => exact .total (fun _ => rfl) Roams.refl
  | cons c rest ih =>
      rw [List.mapM_cons]
      exact .bind Roams.trans (construct secluded c) fun _ => .bind Roams.trans ih fun _ =>
        .total (fun _ => rfl) Roams.refl

variable (call : ∀ o method args, Keeps (Roams knows) (u.call o method args))

include call

/-- Attaching a binding works on its node. -/
theorem binding (b : Binding) (live : NodeId) (o : ObjectId) (z : Zone) :
    Keeps (Works knows live) (b.attach u live o z) := by
  have bears := bears secluded live
  unfold Binding.attach
  cases b.expression with
  | error e => exact .bind bears.trans (.notice bears _) fun _ => .pure bears _
  | ok e =>
      cases b.kind with
      | input =>
          refine .bind bears.trans (.bind bears.trans ?_ fun tick => ?_) fun _ => .pure bears _
          · exact .total (fun _ => rfl) fun w => quiet rfl fun _ => id
          · have shown := Keeps.refreshBound bears
              (fun o method args w a v ran => (call o method args w a v ran).works live)
              (fun w text => (Roams.setAttr w live b.name text).works live) e o
            refine .bind bears.trans shown fun r => ?_
            cases r with
            | error e => exact .bind bears.trans (.notice bears _) fun _ => .pure bears _
            | ok _ => exact .pure bears _
      | output =>
          refine .bind bears.trans (.bind bears.trans ?_ fun serial => ?_) fun _ => .pure bears _
          · exact .total Run.run_fresh fun w => quiet rfl fun _ => id
          · refine .bind bears.trans (.total (fun _ => rfl) fun w => ?_) fun _ => .pure bears _
            have registered := addWrapped_registered z ⟨live, b.name, .bound serial b.name e o⟩ w
            exact quiet registered.forest (registered.user ▸ fun _ => id)

/-- Wiring a copy works on it, if mounting the components inside works on their hosts. -/
theorem wire {z : Zone} {b : Blueprint} {o : ObjectId} {objects : List ObjectId}
    (inside : ∀ part ∈ Blueprint.mountings u z b.children objects, ∀ live,
      Keeps (Works knows live) (part.2 live)) (address : List Nat) (live : NodeId) (s : Wiring) :
    Keeps (Works knows live) (b.wire u z o objects address live s) := by
  have bears := bears secluded live
  refine .bind bears.trans (.inRow bears _ s fun s part _ => ?_) fun s =>
    .inRow bears _ s fun s part member => ?_
  · exact .bind bears.trans (binding secluded call part.2 live o z) fun _ => .pure bears _
  · exact .bind bears.trans (inside part (List.mem_of_mem_filter member) live) fun _ =>
      .pure bears _

set_option linter.unusedSectionVars false in
mutual

/-- Mounting a blueprint works on the host. -/
theorem mount (z : Zone) : ∀ (b : Blueprint) (o : ObjectId) (host : NodeId),
    Keeps (Works knows host) (b.mount u z o host)
  | .mk compiler cls template bindings children warnings, o, host => by
      intro w i v ran
      rw [Blueprint.mount_eq] at ran
      obtain ⟨objects, w₁, constructed, ran⟩ := Run.bind_eq_some.1 ran
      obtain ⟨serial, w₂, counted, ran⟩ := Run.bind_eq_some.1 ran
      obtain ⟨fragment, w₃, added, ran⟩ := Run.bind_eq_some.1 ran
      obtain ⟨s, w₄, copied, ran⟩ := Run.bind_eq_some.1 ran
      obtain ⟨mounted, w₅, moved, ran⟩ := Run.bind_eq_some.1 ran
      obtain ⟨_, w₆, listed, last⟩ := Run.bind_eq_some.1 ran
      obtain ⟨-, rfl⟩ := Run.pure_eq_some.1 last
      obtain ⟨-, rfl⟩ := Prod.mk.inj (Option.some.inj counted)
      obtain ⟨rfl, rfl⟩ := Prod.mk.inj (Option.some.inj added)
      obtain ⟨-, rfl⟩ := Prod.mk.inj (Option.some.inj moved)
      obtain ⟨-, rfl⟩ := Prod.mk.inj (Option.some.inj listed)
      have first : w.Roams knows { w₁ with serial := w₁.serial + 1 } :=
        (constructAll secluded _ w objects w₁ constructed).trans (.quiet rfl fun _ => id)
      have wired := copyAll (fun address live s => wire secluded call
        (mountings z children objects) address live s) _ _ _ _ _ _ _ _ copied
      have raised := ((Raises.add _ .document).works wired).behind first
      exact raised.move.trans (quiet rfl fun _ => id)

theorem mountings (z : Zone) : ∀ (children : List (Spot × Blueprint)) (objects : List ObjectId),
    ∀ part ∈ Blueprint.mountings u z children objects, ∀ live,
      Keeps (Works knows live) (part.2 live)
  | [], _ => nofun
  | (spot, b) :: rest, [] => by
      rw [Blueprint.mountings]
      refine List.forall_mem_cons.2 ⟨fun live => ?_, mountings z rest []⟩
      exact .bind trans (of_roams (construct secluded b.cls) live) fun o => mount z b o live
  | (spot, b) :: rest, o :: objects => by
      rw [Blueprint.mountings]
      exact List.forall_mem_cons.2 ⟨fun live => mount z b o live, mountings z rest objects⟩

end

/-- Attaching an instance works on the host. -/
theorem attach (b : Blueprint) (host : NodeId) (z : Zone) :
    Keeps (Works knows host) (b.attach u host z) := by
  have bears := bears secluded host
  exact .holding bears z (.bind trans (of_roams (construct secluded b.cls) host) fun o =>
    mount secluded call z b o host)

end World.Works

end LiveTemplates
