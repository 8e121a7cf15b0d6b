/-
# LiveTemplates.Proofs.Instance.Confinement -- what attaching leaves alone

Attaching works on the copies that it makes, and on the host in the end.  Nothing is done to
any other node, and no refresh, listener or instance refers to one.  So some trees that the
host is none of stay as they are, and with them what holds of them and of the nodes that are
referred to.

* `World.Stays`: some nodes are as they were;
* `World.Guards`: what holds of worlds, and goes on to hold whatever is done to other nodes;
* `World.Spares`: it goes on to hold, and these nodes are as they were.  Evaluations see to
  this, if the methods of objects do (`World.Guards.bears`);
* `World.During.grow`: so does all that attaching does before the copies are moved to the host;
* `World.During.attach`: so does attaching, if the host is none of these nodes.
-/
import LiveTemplates.Proofs.Forest.Reserve
import LiveTemplates.Proofs.Instance.Lineup

namespace LiveTemplates

set_option autoImplicit false

variable {σ : Type}

namespace World

/-! ## Leaving nodes alone -/

/-- Some nodes are as they were, no node is gone, and the document is where it was. -/
structure Stays (D : NodeId → Prop) (w v : World σ) : Prop where
  document : v.document = w.document
  size : w.forest.size ≤ v.forest.size
  same : ∀ n, D n → v.forest.nodes[n]? = w.forest.nodes[n]?

/-- Nodes, and what is registered, are the same in two worlds. -/
structure Agrees (w v : World σ) : Prop where
  document : v.document = w.document
  forest : v.forest = w.forest
  dispatchers : v.dispatchers = w.dispatchers
  attached : v.attached = w.attached
  registries : ∀ z, { v.zone z with ticks := 0 } = { w.zone z with ticks := 0 }

/-- Something holds of worlds in which some nodes are all the nodes of some trees, and goes on to
hold whatever is done to other nodes, and whatever is registered that refers to others. -/
structure Guards (D : NodeId → Prop) (I : World σ → Prop) : Prop where
  closed : ∀ {w}, I w → w.forest.Closed D
  agrees : ∀ {w v}, I w → w.Agrees v → I v
  forest : ∀ {w f}, I w → w.forest.Leaves D f → I { w with forest := f }
  refresh : ∀ {w n}, I w → w.forest.Free D n → ∀ z attr e o,
    I (w.addRefresh z (.bound n attr e o)).2
  wrapped : ∀ {w n}, I w → w.forest.Free D n → ∀ z event h, I (addWrapped z ⟨n, event, h⟩ w)
  enroll : ∀ {w r}, I w → (∀ l ∈ r.listeners, w.forest.Free D l.node) →
    (∀ n ∈ r.mounted, w.forest.Free D n) →
      ∀ serial, I { w with attached := (serial, r) :: w.attached }

/-- It goes on to hold, and the nodes are as they were. -/
def Spares (D : NodeId → Prop) (I : World σ → Prop) (w v : World σ) : Prop :=
  I w → I v ∧ w.Stays D v

/-- From a world on, an activity spares the nodes, and what it gives has a property. -/
def During (D : NodeId → Prop) (I : World σ → Prop) (w : World σ) {α : Type} (x : Run σ α)
    (Q : α → World σ → Prop) : Prop :=
  I w → ∀ a v, x.run w = some (a, v) → I v ∧ w.Stays D v ∧ Q a v

section Keeping

variable {D : NodeId → Prop} {I : World σ → Prop} {w v x : World σ}

theorem Stays.trans (first : w.Stays D v) (second : v.Stays D x) : w.Stays D x where
  document := second.document.trans first.document
  size := Nat.le_trans first.size second.size
  same n member := (second.same n member).trans (first.same n member)

theorem Agrees.stays (agrees : w.Agrees v) : w.Stays D v :=
  ⟨agrees.document, Nat.le_of_eq (congrArg _ agrees.forest.symm), fun _ _ => by rw [agrees.forest]⟩

/-- A world with other objects, numbers, zones that are held, or objects that are busy. -/
theorem Agrees.intro (w : World σ) (target : Target) (busy : List ObjectId) (pins : List Zone)
    (serial : Nat) (user : σ) : w.Agrees
      { w with target := target, busy := busy, pins := pins, serial := serial, user := user } :=
  ⟨rfl, rfl, rfl, rfl, fun _ => rfl⟩

/-- What is done to the nodes of a world. -/
theorem Guards.leaves (guards : Guards D I) {f : Forest} (leaves : w.forest.Leaves D f)
    (holds : I w) : I { w with forest := f } ∧ w.Stays D { w with forest := f } :=
  have ⟨_, size, same⟩ := leaves (guards.closed holds)
  ⟨guards.forest holds leaves, rfl, size, same⟩

theorem Spares.trans (first : Spares D I w v) (second : Spares D I v x) : Spares D I w x :=
  fun holds =>
    have ⟨holds₁, stays⟩ := first holds
    have ⟨holds₂, stays'⟩ := second holds₁
    ⟨holds₂, stays.trans stays'⟩

/-- Evaluations spare the nodes. -/
theorem Guards.bears (guards : Guards D I) (u : UserCode σ) : Bears u (Spares D I) where
  trans _ _ _ := Spares.trans
  minor {w _} step holds := by
    have agrees {v : World σ} (agrees : w.Agrees v) : I v ∧ w.Stays D v :=
      ⟨guards.agrees holds agrees, agrees.stays⟩
    cases step with
    | count z => exact agrees ⟨rfl, rfl, rfl, rfl, World.ticks_onZone w z⟩
    | _ => exact agrees (.intro _ _ _ _ _ _)
  borrowed w v o during holds := by
    have before := Agrees.intro w w.target (o :: w.busy) w.pins w.serial w.user
    have after := Agrees.intro v v.target (v.busy.erase o) v.pins v.serial v.user
    obtain ⟨between, stays⟩ := during (guards.agrees holds before)
    exact ⟨guards.agrees between after, before.stays.trans (stays.trans after.stays)⟩

end Keeping

namespace During

variable {D : NodeId → Prop} {I : World σ → Prop} {w : World σ}

theorem total {α : Type} {x : Run σ α} {Q : α → World σ → Prop} {g : World σ → α × World σ}
    (run : ∀ w, x.run w = some (g w)) (spares : I w → I (g w).2 ∧ w.Stays D (g w).2)
    (here : I w → Q (g w).1 (g w).2) : During D I w x Q := by
  intro holds a v ran
  rw [run, Option.some.injEq] at ran
  have both := spares holds
  have property := here holds
  rw [ran] at both property
  exact ⟨both.1, both.2, property⟩

theorem bind {α β : Type} {x : Run σ α} {f : α → Run σ β} {Q : α → World σ → Prop}
    {R : β → World σ → Prop} (first : During D I w x Q)
    (later : ∀ a v, w.Stays D v → Q a v → During D I v (f a) R) : During D I w (x >>= f) R := by
  intro holds b y ran
  obtain ⟨a, v, one, other⟩ := Run.bind_eq_some.1 ran
  obtain ⟨holds₁, stays, here⟩ := first holds a v one
  obtain ⟨holds₂, stays', there⟩ := later a v stays here holds₁ b y other
  exact ⟨holds₂, stays.trans stays', there⟩

theorem imp {α : Type} {x : Run σ α} {Q R : α → World σ → Prop} (during : During D I w x Q)
    (weaker : ∀ a v, w.Stays D v → Q a v → R a v) : During D I w x R := by
  intro holds a v ran
  obtain ⟨holds₁, stays, here⟩ := during holds a v ran
  exact ⟨holds₁, stays, weaker a v stays here⟩

theorem of_keeps {α : Type} {x : Run σ α} (keeps : Keeps (Spares D I) x) :
    During D I w x fun _ _ => True :=
  fun holds a v ran => have ⟨holds₁, stays⟩ := keeps w a v ran holds
    ⟨holds₁, stays, trivial⟩

theorem keeps {α : Type} {x : Run σ α} {Q : α → World σ → Prop}
    (during : ∀ w, During D I w x Q) : Keeps (Spares D I) x :=
  fun w a v ran holds => have ⟨holds₁, stays, _⟩ := during w holds a v ran
    ⟨holds₁, stays⟩

theorem pure {α : Type} {a : α} {Q : α → World σ → Prop} (here : Q a w) :
    During D I w (pure a) Q :=
  total (fun _ => rfl) (fun holds => ⟨holds, (Agrees.intro w _ _ _ _ _).stays⟩) fun _ => here

theorem foldlM {α β : Type} {f : β → α → Run σ β} {Q : β → World σ → Prop} (as : List α) {start : β}
    (first : Q start w) (each : ∀ b v, w.Stays D v → Q b v → ∀ a ∈ as, During D I v (f b a) Q) :
    During D I w (as.foldlM f start) Q := by
  induction as generalizing start w with
  | nil => exact pure first
  | cons a rest ih =>
      rw [List.foldlM_cons]
      have stays : w.Stays D w := (Agrees.intro w _ _ _ _ _).stays
      refine (each start w stays first a List.mem_cons_self).bind fun b v later next =>
        ih next fun b x more here c member =>
          each b x (later.trans more) here c (List.mem_cons_of_mem _ member)

variable (guards : Guards D I)

include guards

theorem agreeing {α : Type} {x : Run σ α} {g : World σ → α × World σ}
    (run : ∀ w, x.run w = some (g w)) (agrees : w.Agrees (g w).2) :
    During D I w x fun _ _ => True :=
  total run (fun holds => ⟨guards.agrees holds agrees, agrees.stays⟩) fun _ => trivial

theorem notice (u : UserCode σ) (n : Notice) : During D I w (Run.notice u n) fun _ _ => True :=
  agreeing guards (Run.run_notice u n) (.intro _ _ _ _ _ _)

theorem fresh : During D I w (Run.fresh : Run σ Nat) fun _ _ => True :=
  agreeing guards Run.run_fresh (.intro _ _ _ _ _ _)

theorem construct (u : UserCode σ) (c : ClassRef) :
    During D I w (Run.construct u c) fun _ _ => True :=
  agreeing guards (fun _ => rfl) (.intro _ _ _ _ _ _)

theorem constructAll (u : UserCode σ) (cs : List ClassRef) :
    During D I w (cs.mapM (Run.construct u)) fun _ _ => True := by
  induction cs generalizing w with
  | nil => exact pure trivial
  | cons c rest ih =>
      rw [List.mapM_cons]
      exact (construct guards u c).bind fun _ _ _ _ => ih.bind fun _ _ _ _ => pure trivial

/-- A new node is none of the nodes. -/
theorem add (d : NodeData) :
    During D I w (Run.onForest (·.add d)) fun n v => v.forest.Free D n :=
  total (Run.run_onForest _) (guards.leaves (.add w.forest d)) fun holds =>
    (guards.closed holds).free_size (by simp [Forest.size_add])

/-- Another node is put below another. -/
theorem append {parent live : NodeId} (above : w.forest.Free D parent)
    (below : w.forest.Free D live) :
    During D I w (modify fun w => { w with forest := w.forest.append parent live })
      fun _ _ => True :=
  total (fun _ => rfl) (guards.leaves (.append above.away below)) fun _ => trivial

/-- The children of another node are moved below another. -/
theorem move {fragment host : NodeId} (off : w.forest.Free D fragment)
    (onto : w.forest.Free D host) :
    During D I w (Run.onForest (·.moveChildren fragment host))
      fun mounted v => ∀ n ∈ mounted, v.forest.Free D n := by
  have leaves := Forest.Leaves.moveChildren off.away onto.away w.forest
  refine total (Run.run_onForest _) (guards.leaves leaves) fun holds n member => ?_
  have closed := guards.closed holds
  obtain ⟨-, size, -⟩ := leaves closed
  exact (closed.free_children off.away n member).later size

/-! ## Wiring -/

variable {u : UserCode σ} (aloof : ∀ o method args, Keeps (Spares D I) (u.call o method args))

include aloof

/-- Attaching a binding to another node. -/
theorem binding (z : Zone) (b : Binding) {live : NodeId} (here : w.forest.Free D live)
    (o : ObjectId) : During D I w (b.attach u live o z) fun a _ =>
      ∀ l, a = some (.listener l) → l.node = live := by
  unfold Binding.attach
  cases b.expression with
  | error e => exact (notice guards u _).bind fun _ _ _ _ => pure nofun
  | ok e =>
      cases b.kind with
      | input =>
          refine bind (Q := fun _ _ => True) ?_ fun _ _ _ _ => pure nofun
          have registered : During D I w
              (modifyGet (·.addRefresh z (.bound live b.name e o)) : Run σ Nat) fun _ _ => True :=
            total (fun _ => rfl) (fun holds => ⟨guards.refresh holds here z b.name e o,
              rfl, Nat.le_refl _, fun _ _ => rfl⟩) fun _ => trivial
          refine registered.bind fun tick v later _ => ?_
          have shows := Keeps.refreshBound (guards.bears u) aloof
            (fun w text => guards.leaves (.setAttr here.away w.forest b.name text)) e o
          refine (of_keeps shows).bind fun r v later _ => ?_
          cases r with
          | error e => exact (notice guards u _).bind fun _ _ _ _ => pure trivial
          | ok _ => exact pure trivial
      | output =>
          refine bind (Q := fun l _ => l.node = live) ?_ fun l _ _ same => pure ?_
          · refine (fresh guards).bind fun serial v later _ => ?_
            have registered := World.addWrapped_registered z ⟨live, b.name, .bound serial b.name e o⟩ v
            refine bind (Q := fun _ _ => True) ?_ fun _ _ _ _ => pure rfl
            refine total (fun _ => rfl) (fun holds => ⟨?_, registered.document,
              Nat.le_of_eq (congrArg _ registered.forest.symm), fun _ _ => ?_⟩) fun _ => trivial
            · exact guards.wrapped holds (here.later later.size) z b.name _
            · exact congrArg (fun f : Forest => f.nodes[_]?) registered.forest
          · intro l' also
            cases also
            exact same

/-! ## Copying -/

section Copying

variable {ω : Type} {wire : List Nat → NodeId → ω → Run σ ω} {Q : ω → World σ → Prop}

omit aloof in
mutual

/-- The copy of a tree is another node, if each copy is wired so. -/
theorem copy (stable : ∀ {s w v}, w.Stays D v → Q s w → Q s v)
    (each : ∀ address {live s w}, w.forest.Free D live → Q s w →
      During D I w (wire address live s) Q) :
    ∀ (address : List Nat) (t : Tree) {s : ω} {w : World σ}, Q s w →
      During D I w (Wiring.copy wire address t s) fun r v => v.forest.Free D r.1 ∧ Q r.2 v
  | address, .node d ts, s, w, start => by
      rw [Wiring.copy]
      refine (add guards d).bind fun live w₁ later here => ?_
      refine (copyAll stable each address 0 ts here (stable later start)).bind
        fun s w₂ later below => ?_
      have here := here.later later.size
      refine (each address here below).bind fun s w₃ later wired => ?_
      exact pure ⟨here.later later.size, wired⟩

theorem copyAll (stable : ∀ {s w v}, w.Stays D v → Q s w → Q s v)
    (each : ∀ address {live s w}, w.forest.Free D live → Q s w →
      During D I w (wire address live s) Q) :
    ∀ (address : List Nat) (i : Nat) (ts : List Tree) {parent : NodeId} {s : ω} {w : World σ},
      w.forest.Free D parent → Q s w →
        During D I w (Wiring.copyAll wire parent address i ts s) Q
  | _, _, [], _, _, _, _, start => by
      rw [Wiring.copyAll]
      exact pure start
  | address, i, t :: ts, parent, s, w, above, start => by
      rw [Wiring.copyAll]
      refine (copy stable each (address ++ [i]) t start).bind fun r w₁ later first => ?_
      have above := above.later later.size
      refine (append guards above first.1).bind fun _ w₂ more _ => ?_
      exact copyAll stable each address (i + 1) ts (above.later more.size) (stable more first.2)

end

end Copying

end During

end World

/-! ## Mounting -/

/-- What is wired up refers to other nodes. -/
structure Wiring.Free (D : NodeId → Prop) (s : Wiring) (w : World σ) : Prop where
  listeners : ∀ l ∈ s.listeners, w.forest.Free D l.node
  hosts : ∀ i ∈ Instance.allOf s.children, w.forest.Free D i.host

/-- The host of an instance is another node, and so are those of the instances inside. -/
def Instance.Free (D : NodeId → Prop) (i : Instance) (w : World σ) : Prop :=
  ∀ j ∈ i.all, w.forest.Free D j.host

theorem Wiring.Free.later {D : NodeId → Prop} {s : Wiring} {w v : World σ} (later : w.Stays D v)
    (free : s.Free D w) : s.Free D v :=
  ⟨fun l member => (free.listeners l member).later later.size,
    fun i member => (free.hosts i member).later later.size⟩

theorem Instance.Free.later {D : NodeId → Prop} {i : Instance} {w v : World σ}
    (later : w.Stays D v) (free : i.Free D w) : i.Free D v :=
  fun j member => (free j member).later later.size

namespace World.During

variable {D : NodeId → Prop} {I : World σ → Prop} {w : World σ} (guards : Guards D I)
  {u : UserCode σ} (aloof : ∀ o method args, Keeps (Spares D I) (u.call o method args))

include guards aloof

/-- Attaching the bindings of an element to its copy. -/
theorem wireBindings (z : Zone) (o : ObjectId) (bindings : List (Spot × Binding))
    (address : List Nat) {live : NodeId} {s : Wiring} (here : w.forest.Free D live)
    (wired : s.Free D w) :
    During D I w (Wiring.wireBindings u z o bindings address live s) (Wiring.Free D) := by
  let Q (s : Wiring) (w : World σ) : Prop := w.forest.Free D live ∧ s.Free D w
  refine (foldlM (Q := Q) _ ⟨here, wired⟩ ?_).imp fun _ _ _ both => both.2
  intro s v later ⟨here, wired⟩ part _
  refine (binding guards aloof z part.2 here o).bind fun a v later attached => pure ?_
  have wired := wired.later later
  refine ⟨here.later later.size, ?_⟩
  rcases a with _ | tick | l
  · exact wired
  · exact ⟨wired.listeners, wired.hosts⟩
  · refine ⟨fun l' member => ?_, wired.hosts⟩
    rcases List.mem_append.1 member with old | new
    · exact wired.listeners l' old
    · rw [List.mem_singleton.1 new, attached l rfl]
      exact here.later later.size

omit guards aloof in
/-- Mounting the components of an element on its copy, if each is mounted so. -/
theorem wireChildren {parts : List (Spot × Mounting σ)}
    (inside : ∀ part ∈ parts, ∀ {w live}, w.forest.Free D live →
      During D I w (part.2 live) (Instance.Free D))
    (address : List Nat) {live : NodeId} {s : Wiring} (here : w.forest.Free D live)
    (wired : s.Free D w) :
    During D I w (Wiring.wireChildren parts address live s) (Wiring.Free D) := by
  let Q (s : Wiring) (w : World σ) : Prop := w.forest.Free D live ∧ s.Free D w
  refine (foldlM (Q := Q) _ ⟨here, wired⟩ ?_).imp fun _ _ _ both => both.2
  intro s v later ⟨here, wired⟩ part member
  refine (inside part (List.mem_of_mem_filter member) here).bind fun i v later mounted => pure ?_
  have wired := wired.later later
  refine ⟨here.later later.size, wired.listeners, fun j below => ?_⟩
  rw [Instance.allOf_eq, List.flatMap_append, ← Instance.allOf_eq, List.flatMap_singleton] at below
  exact (List.mem_append.1 below).elim (wired.hosts j) (mounted j)

/-- Wiring a copy, if the components inside are mounted so. -/
theorem wire {z : Zone} {b : Blueprint} {o : ObjectId} {objects : List ObjectId}
    (inside : ∀ part ∈ Blueprint.mountings u z b.children objects, ∀ {w live},
      w.forest.Free D live → During D I w (part.2 live) (Instance.Free D))
    (address : List Nat) {live : NodeId} {s : Wiring} {w : World σ} (here : w.forest.Free D live)
    (wired : s.Free D w) :
    During D I w (b.wire u z o objects address live s) (Wiring.Free D) :=
  (wireBindings guards aloof z o b.bindings address here wired).bind fun _ _ later wired =>
    wireChildren inside address (here.later later.size) wired

/-- What is done before the copies are moved to the host, if the components inside are mounted
so. -/
theorem grow {z : Zone} {b : Blueprint} (o : ObjectId)
    (inside : ∀ objects, ∀ part ∈ Blueprint.mountings u z b.children objects, ∀ {w live},
      w.forest.Free D live → During D I w (part.2 live) (Instance.Free D)) :
    During D I w (b.grow u z o) fun r v => v.forest.Free D r.2.2.1 ∧ r.2.2.2.Free D v := by
  refine (constructAll guards u _).bind fun objects _ _ _ => ?_
  refine (fresh guards).bind fun serial _ _ _ => ?_
  refine (add guards .document).bind fun fragment _ _ here => ?_
  refine bind (Q := Wiring.Free D) ?_ fun s v later wired =>
    pure ⟨here.later later.size, wired⟩
  exact copyAll guards (Q := Wiring.Free D) Wiring.Free.later
    (fun address {_ _ _} => wire guards aloof (inside objects) address) [] 0 _ here ⟨nofun, nofun⟩

omit aloof in
/-- The copies are moved to a host. -/
theorem settle (z : Zone) (b : Blueprint) (o : ObjectId) {host : NodeId}
    (hosted : w.forest.Free D host) {r : List ObjectId × Nat × NodeId × Wiring}
    (fragment : w.forest.Free D r.2.2.1) (wired : r.2.2.2.Free D w) :
    During D I w (b.settle z o host r) (Instance.Free D) := by
  refine (move guards fragment hosted).bind fun mounted v later moved => ?_
  have wired := wired.later later
  refine bind (Q := fun _ _ => True) ?_ fun _ x more _ => pure ?_
  · exact total (fun _ => rfl) (fun holds => ⟨guards.enroll holds wired.listeners moved r.2.1,
      rfl, Nat.le_refl _, fun _ _ => rfl⟩) fun _ => trivial
  · have wired := wired.later more
    rw [Instance.Free, Instance.all]
    exact List.forall_mem_cons.2 ⟨hosted.later (later.trans more).size, wired.hosts⟩

omit aloof in
mutual

/-- Mounting a blueprint, and the blueprints inside of it. -/
theorem mount (aloof : ∀ o method args, Keeps (Spares D I) (u.call o method args)) (z : Zone) :
    ∀ (b : Blueprint) (o : ObjectId) {host : NodeId} {w : World σ}, w.forest.Free D host →
      During D I w (b.mount u z o host) (Instance.Free D)
  | .mk compiler cls template bindings children warnings, o, host, w, hosted => by
      rw [Blueprint.mount_grow]
      refine (grow guards aloof o (mountings aloof z children)).bind fun r v later grown => ?_
      exact settle guards z _ o (hosted.later later.size) grown.1 grown.2

theorem mountings (aloof : ∀ o method args, Keeps (Spares D I) (u.call o method args))
    (z : Zone) : ∀ (children : List (Spot × Blueprint)) (objects : List ObjectId),
    ∀ part ∈ Blueprint.mountings u z children objects, ∀ {w live}, w.forest.Free D live →
      During D I w (part.2 live) (Instance.Free D)
  | [], _ => nofun
  | (spot, b) :: rest, [] => by
      rw [Blueprint.mountings]
      refine List.forall_mem_cons.2 ⟨fun {w live} here => ?_, mountings aloof z rest []⟩
      exact (construct guards u b.cls).bind fun o v later _ =>
        mount aloof z b o (here.later later.size)
  | (spot, b) :: rest, o :: objects => by
      rw [Blueprint.mountings]
      exact List.forall_mem_cons.2
        ⟨fun here => mount aloof z b o here, mountings aloof z rest objects⟩

end

/-- Attaching an instance of a blueprint. -/
theorem attach (z : Zone) (b : Blueprint) {host : NodeId} (hosted : w.forest.Free D host) :
    During D I w (b.attach u host z) (Instance.Free D) := by
  have work : ∀ {w : World σ}, w.forest.Free D host →
      During D I w (Run.construct u b.cls >>= fun o => b.mount u z o host) (Instance.Free D) :=
    fun hosted => (construct guards u b.cls).bind fun o v later _ =>
      mount guards aloof z b o (hosted.later later.size)
  intro holds i v ran
  rw [Blueprint.attach, Run.run_holding] at ran
  obtain ⟨⟨j, x⟩, during, same⟩ := Option.map_eq_some_iff.1 ran
  obtain ⟨rfl, rfl⟩ := Prod.mk.inj same
  have before := Agrees.intro w w.target w.busy (z :: w.pins) w.serial w.user
  have after := Agrees.intro x x.target x.busy x.pins.tail x.serial x.user
  obtain ⟨between, stays, free⟩ :=
    work (w := { w with pins := z :: w.pins }) hosted (guards.agrees holds before) j x during
  exact ⟨guards.agrees between after, before.stays.trans (stays.trans after.stays), free⟩

end World.During

end LiveTemplates
