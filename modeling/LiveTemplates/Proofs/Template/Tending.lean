/-
# LiveTemplates.Proofs.Template.Tending -- nothing refers to a template

A refresh shows values on a node, a listener waits for events on one, and an instance knows the
nodes that it has mounted.  If some nodes are all the nodes of some trees, and none of them is
referred to in any of these ways, then ticks, dispatches and detaching work on other nodes only,
and refer to no more nodes than before.

* `World.Refers`: something that is registered refers to a node;
* `World.Apart`: some nodes are all the nodes of some trees, and nothing refers to one of them;
* `World.Apart.guards`: so it goes on to be whatever is done to other nodes;
* `World.Apart.tick`, `World.Apart.dispatch`, `World.Apart.detach`: ticks, dispatches and
  detaching spare the nodes.
-/
import LiveTemplates.Proofs.Instance.Confinement
import LiveTemplates.Proofs.World.Shedding

namespace LiveTemplates

set_option autoImplicit false

variable {σ : Type}

/-- The node on which a refresh shows a value. -/
def Refresh.node? : Refresh → Option NodeId
  | .named _ => none
  | .bound node .. => some node

namespace World

/-- Something that is registered refers to a node. -/
inductive Refers (w : World σ) : NodeId → Prop
  | refresh {z : Zone} {entry : Nat × Refresh} {n : NodeId}
      (registered : entry ∈ (w.zone z).refreshes) (shows : entry.2.node? = some n) : Refers w n
  | wrapper {z : Zone} {r : Wrapper} (registered : r ∈ (w.zone z).wrappers) : Refers w r.inner.node
  | listener {d : Nat} {l : Listener} (registered : l ∈ w.listeners d) : Refers w l.node
  | owned {entry : Nat × Registrations} {l : Listener} (attached : entry ∈ w.attached)
      (listed : l ∈ entry.2.listeners) : Refers w l.node
  | mounted {entry : Nat × Registrations} {n : NodeId} (attached : entry ∈ w.attached)
      (listed : n ∈ entry.2.mounted) : Refers w n

/-- Some nodes are all the nodes of some trees, and only others are referred to. -/
structure Apart (D : NodeId → Prop) (w : World σ) : Prop where
  closed : w.forest.Closed D
  refers : ∀ n, w.Refers n → w.forest.Free D n

/-! ## What is referred to -/

section Referring

variable {D : NodeId → Prop} {P : NodeId → Prop} {w v x : World σ} {m : NodeId}

/-- What is referred to was so before, or by something new. -/
theorem Refers.imp (refers : v.Refers m)
    (refreshes : ∀ z, ∀ entry ∈ (v.zone z).refreshes,
      entry ∈ (w.zone z).refreshes ∨ ∀ n, entry.2.node? = some n → P n)
    (wrappers : ∀ z, ∀ r ∈ (v.zone z).wrappers, r ∈ (w.zone z).wrappers ∨ P r.inner.node)
    (listeners : ∀ d, ∀ l ∈ v.listeners d, l ∈ w.listeners d ∨ P l.node)
    (attached : ∀ entry ∈ v.attached, entry ∈ w.attached ∨
      (∀ l ∈ entry.2.listeners, P l.node) ∧ ∀ n ∈ entry.2.mounted, P n) : w.Refers m ∨ P m := by
  cases refers with
  | refresh registered shows =>
      exact (refreshes _ _ registered).imp (.refresh · shows) fun new => new m shows
  | wrapper registered => exact (wrappers _ _ registered).imp_left .wrapper
  | listener registered => exact (listeners _ _ registered).imp_left .listener
  | owned member listed =>
      exact (attached _ member).imp (.owned · listed) fun new => new.1 _ listed
  | mounted member listed =>
      exact (attached _ member).imp (.mounted · listed) fun new => new.2 _ listed

theorem Refers.mono (refers : v.Refers m)
    (refreshes : ∀ z, (v.zone z).refreshes ⊆ (w.zone z).refreshes)
    (wrappers : ∀ z, (v.zone z).wrappers ⊆ (w.zone z).wrappers)
    (listeners : ∀ d, v.listeners d ⊆ w.listeners d) (attached : v.attached ⊆ w.attached) :
    w.Refers m :=
  (refers.imp (P := fun _ => False) (fun z _ member => .inl (refreshes z member))
    (fun z _ member => .inl (wrappers z member)) (fun d _ member => .inl (listeners d member))
    fun _ member => .inl (attached member)).resolve_right not_false

/-- The nodes, numbers and the user's own state make no difference. -/
theorem Refers.congr (refers : v.Refers m) (zones : v.zones = w.zones)
    (dispatchers : v.dispatchers = w.dispatchers) (attached : v.attached ⊆ w.attached) :
    w.Refers m := by
  refine refers.mono (fun z => ?_) (fun z => ?_) (fun d => ?_) attached
  · rw [zone, zones]
    exact List.Subset.refl _
  · rw [zone, zones]
    exact List.Subset.refl _
  · rw [World.listeners, dispatchers]
    exact List.Subset.refl _

/-- A change of what a zone has registered. -/
theorem Refers.onZone {z : Zone} {f : ZoneState → ZoneState} (refers : (w.onZone z f).Refers m)
    (refreshes : ∀ s, ∀ entry ∈ (f s).refreshes,
      entry ∈ s.refreshes ∨ ∀ n, entry.2.node? = some n → P n)
    (wrappers : ∀ s, ∀ r ∈ (f s).wrappers, r ∈ s.wrappers ∨ P r.inner.node) :
    w.Refers m ∨ P m := by
  refine refers.imp (fun z' entry registered => ?_) (fun z' r registered => ?_)
    (fun _ _ => .inl) fun _ => .inl
  · rw [zone_onZone] at registered
    split at registered
    · exact refreshes _ entry registered
    · exact .inl registered
  · rw [zone_onZone] at registered
    split at registered
    · exact wrappers _ r registered
    · exact .inl registered

theorem Refers.onListeners {d : Nat} {f : List Listener → List Listener}
    (refers : (w.onListeners d f).Refers m) (listeners : ∀ ls, ∀ l ∈ f ls, l ∈ ls ∨ P l.node) :
    w.Refers m ∨ P m := by
  refine refers.imp (fun _ _ => .inl) (fun _ _ => .inl) (fun e l registered => ?_) fun _ => .inl
  simp only [World.listeners, World.onListeners, Array.getElem?_modify] at registered ⊢
  split at registered
  · cases here : w.dispatchers[e]? with
    | none => simp [here] at registered
    | some ls => exact listeners ls l (by simpa [here] using registered)
  · exact .inl registered

mutual

/-- Registering a listener only adds references to its node. -/
theorem Refers.addListener : ∀ (t : Target) (l : Listener) {w : World σ} {m : NodeId},
    (World.addListener t l w).Refers m → w.Refers m ∨ m = l.node
  | .dispatcher d, l, w, m, refers => by
      refine refers.onListeners (P := (· = l.node)) fun ls l' member => ?_
      exact (List.mem_append.1 member).imp_right fun new => by rw [List.mem_singleton.1 new]
  | .zone z, l, w, m, refers => addWrapped z l refers

theorem Refers.addWrapped : ∀ (z : Zone) (l : Listener) {w : World σ} {m : NodeId},
    (World.addWrapped z l w).Refers m → w.Refers m ∨ m = l.node
  | .mk id behind, l, w, m, refers => by
      rcases addListener behind _ refers with before | same
      · refine (before.onZone (P := (· = l.node)) (fun _ _ => .inl) fun s r member => ?_).imp_left
          (·.congr rfl rfl (List.Subset.refl _))
        exact (List.mem_append.1 member).imp_right fun new => by rw [List.mem_singleton.1 new]
      · exact .inr same

end

/-! ## What is done to other nodes -/

theorem Apart.leaves (apart : w.Apart D) (leaves : w.forest.Leaves D v.forest)
    (known : ∀ m, v.Refers m → w.Refers m ∨ w.forest.Free D m) : v.Apart D := by
  obtain ⟨closed, size, -⟩ := leaves apart.closed
  refine ⟨closed, fun m refers => ?_⟩
  rcases known m refers with old | free
  · exact (apart.refers m old).later size
  · exact free.later size

theorem Apart.registers (apart : w.Apart D) (forest : v.forest = w.forest)
    (known : ∀ m, v.Refers m → w.Refers m ∨ w.forest.Free D m) : v.Apart D :=
  apart.leaves (by rw [forest]; exact .refl w.forest) known

/-- Whatever is done to other nodes, and whatever is registered that refers to others. -/
theorem Apart.guards (D : NodeId → Prop) : Guards D (Apart (σ := σ) D) where
  closed := Apart.closed
  agrees {w v} apart agrees := by
    refine apart.registers agrees.forest fun m refers => .inl ?_
    refine refers.mono (fun z => ?_) (fun z => ?_) (fun d => ?_) (agrees.attached ▸ .refl _)
    · exact (List.Perm.of_eq (congrArg ZoneState.refreshes (agrees.registries z))).subset
    · exact (List.Perm.of_eq (congrArg ZoneState.wrappers (agrees.registries z))).subset
    · rw [listeners, agrees.dispatchers]
      exact .refl _
  forest apart leaves :=
    apart.leaves leaves fun m refers => .inl (refers.congr rfl rfl (List.Subset.refl _))
  refresh {w n} apart free z attr e o := by
    refine apart.registers rfl fun m refers => ?_
    refine refers.onZone (fun s entry member => ?_) fun s r => .inl
    refine (List.mem_append.1 member).imp_right fun new n' shows => ?_
    rw [List.mem_singleton.1 new] at shows
    exact Option.some.inj shows ▸ free
  wrapped {w n} apart free z event h := by
    refine apart.registers (addWrapped_registered z _ w).forest fun m refers => ?_
    refine (Refers.addWrapped z ⟨n, event, h⟩ refers).imp_right fun same => ?_
    rw [same]
    exact free
  enroll {w r} apart listeners mounted serial := by
    refine apart.registers rfl fun m refers => ?_
    refine refers.imp (fun _ _ => .inl) (fun _ _ => .inl) (fun _ _ => .inl) fun entry member => ?_
    refine (List.mem_cons.1 member).symm.imp_right fun new => ?_
    rw [new]
    exact ⟨listeners, mounted⟩

end Referring

/-! ## Ticks and dispatches -/

namespace Apart

variable {D : NodeId → Prop} {u : UserCode σ} (user : u.Keeps (Spares D (Apart D)))

include user

/-- Running a refresh of another node. -/
theorem refresh {r : Refresh} (away : ∀ n, r.node? = some n → ¬ D n) :
    Keeps (Spares D (Apart D)) (r.run u) := by
  cases r with
  | named name => exact user.refresh name
  | bound node attr value o =>
      refine Keeps.refreshBound ((guards D).bears u) user.call (fun w text => ?_) value o
      exact (guards D).leaves (.setAttr (away node rfl) w.forest attr text)

/-- A tick shows values on other nodes. -/
theorem tick (z : Zone) : Keeps (Spares D (Apart D)) (z.tick u) := by
  have bears := (guards D).bears u
  refine Keeps.holding bears z (During.keeps (Q := fun _ _ => True) fun w holds a v ran => ?_)
  have away : ∀ entry ∈ (w.zone z).refreshes, ∀ n, entry.2.node? = some n → ¬ D n :=
    fun entry registered n shows => (holds.refers n (.refresh registered shows)).away
  have during : During D (Apart D) w (do
      modify (·.onZone z fun s => { s with ticks := s.ticks + 1 })
      (w.zone z).refreshes.foldlM (TickReport.add u) {}) fun _ _ => True := by
    refine During.bind (Q := fun _ _ => True) ?_ fun _ _ _ _ => ?_
    · exact During.of_keeps (Keeps.minor bears (fun _ => rfl) fun _ => .count z)
    · exact During.foldlM _ trivial fun report _ _ _ entry registered =>
        During.of_keeps (Keeps.counted bears (refresh user (away entry registered)) report)
  exact during holds a v ran

theorem dispatch (d : Nat) (node : NodeId) (event : String) :
    Keeps (Spares D (Apart D)) (LiveTemplates.dispatch u d node event) :=
  Keeps.dispatch user ((guards D).bears u) (tick user) d node event

end Apart

/-! ## Detaching -/

section Detaching

variable {D : NodeId → Prop} {w v x : World σ}

/-- What is taken back refers to no more nodes, and changes none. -/
theorem Sheds.spares (sheds : w.Sheds v) : Spares D (Apart D) w v := by
  intro apart
  have known (m : NodeId) (refers : v.Refers m) : w.Refers m :=
    refers.mono sheds.refreshes sheds.wrappers sheds.listeners sheds.attached
  refine ⟨apart.registers sheds.forest fun m refers => .inl (known m refers),
    sheds.document, Nat.le_of_eq (congrArg _ sheds.forest.symm), fun n _ => ?_⟩
  rw [sheds.forest]

namespace Apart

/-- Taking back registrations spares the nodes, if none of them was mounted. -/
theorem takeBack (w : World σ) (z : Zone) (host : NodeId) {r : Registrations}
    (away : ∀ n ∈ r.mounted, ¬ D n) : Spares D (Apart D) w (w.takeBack z host r) := by
  have mounted (ns : List NodeId) (away : ∀ n ∈ ns, ¬ D n) (w : World σ) : Spares D (Apart D) w
      (ns.foldl (fun w n => { w with forest := (w.forest.remove host n).2 }) w) := by
    induction ns generalizing w with
    | nil => exact (Sheds.refl w).spares
    | cons n ns ih =>
        obtain ⟨first, others⟩ := List.forall_mem_cons.1 away
        exact Spares.trans ((guards D).leaves (.remove first w.forest host)) (ih others _)
  exact (Sheds.registered w z r).spares.trans (mounted r.mounted away _)

mutual

/-- Detaching an instance spares the nodes. -/
theorem detach : ∀ (i : Instance) (w : World σ), Spares D (Apart D) w (i.detach w)
  | .mk serial _ _ _ host z children, w => by
      intro apart
      rw [Instance.detach]
      cases found : w.registrations? serial with
      | none => exact (Sheds.refl w).spares apart
      | some r =>
          have member : (serial, r) ∈ w.attached := by
            obtain ⟨front, back, parts, -⟩ := List.lookup_eq_some_iff.1 found
            simp [parts]
          have away : ∀ n ∈ r.mounted, ¬ D n := fun n listed =>
            (apart.refers n (.mounted member listed)).away
          exact (Spares.trans (Sheds.forget w serial).spares
            (Spares.trans (detachAll children _) (takeBack _ z host away))) apart

theorem detachAll : ∀ (is : List Instance) (w : World σ),
    Spares D (Apart D) w (Instance.detachAll is w)
  | [], w => (Sheds.refl w).spares
  | i :: rest, w => Spares.trans (detach i w) (detachAll rest _)

end

end Apart

end Detaching

end World

end LiveTemplates
