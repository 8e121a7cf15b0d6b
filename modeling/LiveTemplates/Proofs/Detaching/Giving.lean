/-
# LiveTemplates.Proofs.Detaching.Giving -- what is given out for a blueprint

Attaching a blueprint gives out numbers one after the other, for refreshes, for outputs, and for
instances.  A relation between worlds may tell what becomes of an account meanwhile.  If it does so
for each thing that is registered, and lets evaluations pass, then it does so for the whole.

* `Gives`: a relation tells what is given out by single steps;
* `Gives.binding`, `Gives.wires`: so it does for a binding, and for wiring copies;
* `Gives.attach`: so it does for a blueprint, for which in the end the new instance is given out
  and those inside of it.
-/
import LiveTemplates.Proofs.Detaching.Accounts
import LiveTemplates.Proofs.Instance.Lineup

namespace LiveTemplates

set_option autoImplicit false

variable {σ : Type}

/-- A relation between worlds tells what was given out between them, for all that attaching to a
zone does by itself. -/
structure Gives (u : UserCode σ) (z : Zone) (G : Account → World σ → World σ → Prop) : Prop where
  hosts : Hosts u (G {})
  append : ∀ {a b : Account} {w v x : World σ}, G a w v → G b v x → G (a.append b) w x
  construct : ∀ (c : ClassRef) (w : World σ),
    G {} w { w with serial := w.serial + 1, user := u.construct c w.serial w.user }
  forest : ∀ (w : World σ) (f : Forest), G {} w { w with forest := f }
  addRefresh : ∀ (w : World σ) (r : Refresh),
    G { ticks := [(z.id, (w.addRefresh z r).1)] } w (w.addRefresh z r).2
  addWrapped : ∀ (w : World σ) {l : Listener}, l.handler.wrapper? = none →
    l.handler.number? = some w.serial →
      G { listeners := [(z, l)] } w (World.addWrapped z l { w with serial := w.serial + 1 })
  reserve : ∀ w : World σ, G { serials := [w.serial] } w { w with serial := w.serial + 1 }
  /-- What was given out is recorded for an instance. -/
  enroll : ∀ {w v : World σ} {b : Blueprint} {o : ObjectId} {os : List ObjectId} {host : NodeId}
    {serial : Nat} {children : List Instance} (r : Registrations) (f : Forest),
    G { ticks := r.ticks.map (z.id, ·)
        listeners := r.listeners.map (z, ·)
        serials := [serial]
        instances := Instance.allOf children } w v →
      G { instances := (Instance.mk serial b o os host z children).all } w
        { v with forest := f, attached := (serial, r) :: v.attached }

/-- What is given out for a binding. -/
def Account.ofAttachment (z : Zone) (a : Option Attachment) : Account where
  ticks := (Attachment.tick? a).toList.map (z.id, ·)
  listeners := (Attachment.listener? a).toList.map (z, ·)

namespace Gives

variable {u : UserCode σ} {z : Zone} {G : Account → World σ → World σ → Prop} (gives : Gives u z G)

include gives

theorem trans {a : Account} {w v x : World σ} (first : G {} w v) (second : G a v x) : G a w x := by
  have both := gives.append first second
  rwa [show Account.append {} a = a from rfl] at both

theorem constructed {c : ClassRef} {o : ObjectId} {w v : World σ}
    (ran : (Run.construct u c).run w = some (o, v)) : G {} w v := by
  obtain ⟨-, rfl⟩ := Prod.mk.inj (Option.some.inj ran)
  exact gives.construct c w

theorem constructedAll {cs : List ClassRef} {os : List ObjectId} {w v : World σ}
    (ran : (cs.mapM (Run.construct u)).run w = some (os, v)) : G {} w v := by
  induction cs generalizing os w with
  | nil =>
      obtain ⟨-, rfl⟩ := Run.pure_eq_some.1 ran
      exact gives.hosts.minor .same
  | cons c rest ih =>
      rw [List.mapM_cons] at ran
      obtain ⟨o, w₁, one, ran⟩ := Run.bind_eq_some.1 ran
      obtain ⟨os', w₂, others, last⟩ := Run.bind_eq_some.1 ran
      obtain ⟨-, rfl⟩ := Run.pure_eq_some.1 last
      exact gives.trans (gives.constructed one) (ih others)

/-! ## Bindings -/

theorem output {b : Binding} {e : Expression} {live : NodeId} {o : ObjectId} {w v : World σ}
    {l : Listener} (ran : (b.attachOutput e live o z).run w = some (l, v)) :
    G (.ofAttachment z (some (.listener l))) w v := by
  obtain ⟨_, w₁, counted, later⟩ := Run.bind_eq_some.1 ran
  obtain ⟨rfl, rfl⟩ := Prod.mk.inj (Option.some.inj counted)
  obtain ⟨_, w₂, added, last⟩ := Run.bind_eq_some.1 later
  obtain ⟨-, rfl⟩ := Prod.mk.inj (Option.some.inj added)
  obtain ⟨rfl, rfl⟩ := Run.pure_eq_some.1 last
  exact gives.addWrapped w rfl rfl

variable (call : ∀ o method args, Keeps (G {}) (u.call o method args))

include call

theorem input {b : Binding} {e : Expression} {live : NodeId} {o : ObjectId} {w v : World σ}
    {tick : Nat} (ran : (b.attachInput u e live o z).run w = some (tick, v)) :
    G (.ofAttachment z (some (.refresh tick))) w v := by
  have bears := gives.hosts.toBears
  obtain ⟨_, w₁, added, later⟩ := Run.bind_eq_some.1 ran
  obtain ⟨rfl, rfl⟩ := Prod.mk.inj (Option.some.inj added)
  obtain ⟨r, w₂, shown, later⟩ := Run.bind_eq_some.1 later
  have shows := Keeps.refreshBound bears call (fun w => gives.hosts.shows w live b.name) e o _ _ _
    shown
  let refresh := Refresh.bound live b.name e o
  have rest : G {} w₂ v ∧ tick = (w.addRefresh z refresh).1 := by
    cases r with
    | error e =>
        obtain ⟨_, w₃, noticed, last⟩ := Run.bind_eq_some.1 later
        obtain ⟨rfl, rfl⟩ := Run.pure_eq_some.1 last
        exact ⟨Keeps.notice bears _ _ _ _ noticed, rfl⟩
    | ok _ =>
        obtain ⟨rfl, rfl⟩ := Run.pure_eq_some.1 later
        exact ⟨bears.minor .same, rfl⟩
  obtain ⟨rest, rfl⟩ := rest
  have whole := gives.append (gives.addRefresh w refresh) (gives.trans shows rest)
  rwa [Account.append_nothing] at whole

/-- What is given out when a binding is attached. -/
theorem binding {b : Binding} {live : NodeId} {o : ObjectId} {w v : World σ} {a : Option Attachment}
    (ran : (b.attach u live o z).run w = some (a, v)) : G (.ofAttachment z a) w v := by
  unfold Binding.attach at ran
  cases compiled : b.expression with
  | error e =>
      rw [compiled] at ran
      obtain ⟨_, w₁, noticed, last⟩ := Run.bind_eq_some.1 ran
      obtain ⟨rfl, rfl⟩ := Run.pure_eq_some.1 last
      exact Keeps.notice gives.hosts.toBears _ _ _ _ noticed
  | ok e =>
      rw [compiled] at ran
      cases kind : b.kind with
      | input =>
          rw [kind] at ran
          obtain ⟨tick, v', attached, last⟩ := Run.bind_eq_some.1 ran
          obtain ⟨rfl, rfl⟩ := Run.pure_eq_some.1 last
          exact input gives call attached
      | output =>
          rw [kind] at ran
          obtain ⟨l, v', attached, last⟩ := Run.bind_eq_some.1 ran
          obtain ⟨rfl, rfl⟩ := Run.pure_eq_some.1 last
          exact output gives attached

/-- What is given out when the bindings of an element are attached. -/
theorem bindings {live : NodeId} {o : ObjectId} {bs : List (Spot × Binding)}
    {new : List (Option Attachment)} {w v : World σ}
    (row : Run.Row (bs.map fun b => b.2.attach u live o z) w new v) :
    G { ticks := (new.filterMap Attachment.tick?).map (z.id, ·)
        listeners := (new.filterMap Attachment.listener?).map (z, ·) } w v := by
  induction bs generalizing new w with
  | nil =>
      cases row
      exact gives.hosts.minor .same
  | cons b bs ih =>
      cases row with
      | @cons _ _ a as _ _ _ first later =>
          have whole := gives.append (binding gives call first) (ih later)
          have ticks : (a :: as).filterMap Attachment.tick? =
              (Attachment.tick? a).toList ++ as.filterMap Attachment.tick? := by
            rw [List.filterMap_cons]
            cases Attachment.tick? a <;> rfl
          have listeners : (a :: as).filterMap Attachment.listener? =
              (Attachment.listener? a).toList ++ as.filterMap Attachment.listener? := by
            rw [List.filterMap_cons]
            cases Attachment.listener? a <;> rfl
          rw [ticks, listeners, List.map_append, List.map_append]
          exact whole

/-! ## Instances -/

omit call in
/-- What is given out when components are mounted one after the other. -/
theorem row {xs : List (Run σ Instance)} {new : List Instance} {w v : World σ}
    (each : ∀ x ∈ xs, ∀ {w c v}, x.run w = some (c, v) → G { instances := c.all } w v)
    (row : Run.Row xs w new v) : G { instances := Instance.allOf new } w v := by
  induction row with
  | nil w => exact gives.hosts.minor .same
  | cons first _ ih =>
      rw [Instance.allOf]
      exact gives.append (each _ List.mem_cons_self first)
        (ih fun x member => each x (List.mem_cons_of_mem _ member))

/-- What is given out when copies are wired: what their bindings have registered, and the instances
that are mounted on them. -/
theorem wires {b : Blueprint} {o : ObjectId} {childObjects : List ObjectId}
    {places : List (List Nat × NodeId)} {s t : Wiring} {w v : World σ}
    (each : ∀ part ∈ Blueprint.mountings u z b.children childObjects, ∀ live {w c v},
      (part.2 live).run w = some (c, v) → G { instances := c.all } w v)
    (wires : Wires (b.wire u z o childObjects) places s w t v) :
    ∃ (ticks : List Nat) (listeners : List Listener) (new : List Instance),
      t.ticks = s.ticks ++ ticks ∧ t.listeners = s.listeners ++ listeners ∧
      t.children = s.children ++ new ∧ G
        { ticks := ticks.map (z.id, ·)
          listeners := listeners.map (z, ·)
          instances := Instance.allOf new } w v := by
  induction wires with
  | done s w => exact ⟨[], [], [], by simp, by simp, by simp, gives.hosts.minor .same⟩
  | @grow places s t w v forest _ ih =>
      obtain ⟨ticks, listeners, new, more, more', children, later⟩ := ih
      exact ⟨ticks, listeners, new, more, more', children, gives.trans (gives.forest w forest) later⟩
  | @step address live places r s t w v x wired _ ih =>
      obtain ⟨r', w₁, bound, mounted⟩ := Run.bind_eq_some.1 wired
      obtain ⟨attached, rfl, one⟩ := Wiring.wireBindings_row bound
      obtain ⟨made, rfl, other⟩ := Wiring.wireChildren_row mounted
      obtain ⟨children', ticks', listeners'⟩ := Wiring.foldl_add attached r
      have both := gives.append (bindings gives call one) <| row gives (fun x member => by
        obtain ⟨part, inside, rfl⟩ := List.mem_map.1 member
        exact each part (List.mem_of_mem_filter inside) live) other
      obtain ⟨ticks, listeners, new, more, more', children, rest⟩ := ih
      refine ⟨attached.filterMap Attachment.tick? ++ ticks,
        attached.filterMap Attachment.listener? ++ listeners, made ++ new, ?_, ?_, ?_, ?_⟩
      · rw [more, ticks', List.append_assoc]
      · rw [more', listeners', List.append_assoc]
      · rw [children, children', List.append_assoc]
      · have whole := gives.append both rest
        simp only [Account.append, List.append_nil, List.nil_append, Instance.allOf_eq,
          ← List.map_append, ← List.flatMap_append] at whole
        rwa [Instance.allOf_eq]

set_option linter.unusedSectionVars false in
mutual

/-- What is given out when a blueprint is mounted are the new instance and all inside of it. -/
theorem mount : ∀ (b : Blueprint) {o : ObjectId} {host : NodeId} {w v : World σ} {i : Instance},
    (b.mount u z o host).run w = some (i, v) → G { instances := i.all } w v
  | .mk compiler cls template bindings children warnings, o, host, w, v, i, ran => by
      obtain ⟨places, mounts⟩ := Blueprint.mount_mounts ran
      cases mounts with
      | @intro childObjects s _ w₁ x constructed _ addresses wired mounted forest =>
          let b : Blueprint := .mk compiler cls template bindings children warnings
          obtain ⟨ticks, listeners, new, more, more', inner, rest⟩ :=
            wires gives call (b := b) (mountings children childObjects) wired
          obtain rfl : s.ticks = ticks := more
          obtain rfl : s.listeners = listeners := more'
          obtain rfl : s.children = new := inner
          exact gives.enroll ⟨s.ticks, s.listeners, mounted⟩ forest
            (gives.trans (gives.constructedAll constructed) (gives.append (gives.reserve w₁) rest))

theorem mountings : ∀ (children : List (Spot × Blueprint)) (objects : List ObjectId),
    ∀ part ∈ Blueprint.mountings u z children objects, ∀ live {w c v},
      (part.2 live).run w = some (c, v) → G { instances := c.all } w v
  | [], _ => nofun
  | (spot, b) :: rest, [] => by
      intro part member live w c v ran
      rw [Blueprint.mountings] at member
      rcases List.mem_cons.1 member with rfl | later
      · obtain ⟨o, w₁, constructed, ran⟩ := Run.bind_eq_some.1 ran
        exact gives.trans (gives.constructed constructed) (mount b ran)
      · exact mountings rest [] part later live ran
  | (spot, b) :: rest, o :: objects => by
      intro part member live w c v ran
      rw [Blueprint.mountings] at member
      rcases List.mem_cons.1 member with rfl | later
      · exact mount b ran
      · exact mountings rest objects part later live ran

end

/-- What is given out when a blueprint is attached are the new instance and all inside of it. -/
theorem attach {b : Blueprint} {host : NodeId} {w v : World σ} {i : Instance}
    (ran : (b.attach u host z).run w = some (i, v)) : G { instances := i.all } w v := by
  obtain ⟨x, mounted, rfl⟩ := Blueprint.attach_mount ran
  have held : G {} w { w with pins := z :: w.pins } := gives.hosts.minor (.hold (z :: w.pins))
  have made := gives.construct b.cls { w with pins := z :: w.pins }
  have whole := gives.append (gives.trans held (gives.trans made (mount gives call b mounted)))
    (gives.hosts.minor (.hold x.pins.tail))
  rwa [Account.append_nothing] at whole

end Gives

end LiveTemplates
