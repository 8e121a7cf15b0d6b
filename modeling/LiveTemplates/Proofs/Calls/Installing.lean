/-
# LiveTemplates.Proofs.Calls.Installing -- mounting fits an instance

When a blueprint is mounted, its template is copied below a fragment, each copy is wired, and the
copies are moved to the host.  The clones are found where they were: only their way up is another.

* `Instance.Fitted.of_copies`: an instance is fitted when the copies of its template are;
* `Tells.wires`: wiring a copy fits what is on it, if mounting the children fits these;
* `Tells.mounts`: mounting a blueprint fits an instance.
-/
import LiveTemplates.Proofs.Calls.Furnishing

namespace LiveTemplates

set_option autoImplicit false

variable {σ : Type}

/-! ## Moving the copies to the host -/

section Moving

variable {b : Blueprint} {o : ObjectId} {z : Zone} {host : Nat} {objects : List ObjectId}
  {ns : List NodeId} {places : List (List Nat × NodeId)} {wiring : Wiring} {n : Nat} {s : σ}
  {w v x : World σ} {es : List (Episode σ)}

/-- The world in which the template is copied: objects were made, a number was given out, and a
fragment was added. -/
def World.opened (w : World σ) (n : Nat) (s : σ) : World σ :=
  { w with serial := n + 1, user := s, forest := (w.forest.add .document).2 }

/-- The world in which the copies are on the host, and the instance is attached. -/
def World.closed (x : World σ) (n : Nat) (wiring : Wiring) (fragment host : NodeId) : World σ :=
  { x with
    forest := (x.forest.moveChildren fragment host).2
    attached := (n, ⟨wiring.ticks, wiring.listeners, (x.forest.moveChildren fragment host).1⟩) ::
      x.attached }

theorem World.registrations?_closed (x : World σ) (n : Nat) (wiring : Wiring)
    (fragment host : NodeId) {m : Nat} (other : m ≠ n) :
    (x.closed n wiring fragment host).registrations? m = x.registrations? m := by
  have apart : (m == n) = false := beq_eq_false_iff_ne.2 other
  simp [registrations?, closed, List.lookup_cons, apart]

/-- Moving the copies to the host keeps the clones. -/
theorem World.lasts_closed {ts : List Tree} (wiring : Wiring) (hosted : host < w.forest.size)
    (grows : ∀ d, (w.opened n s).forest.Grows x.forest w.forest.size d d ns ts) :
    x.Lasts (n + 1) (w.forest.size + 1) (x.closed n wiring w.forest.size host) := by
  have opened : (w.opened n s).forest.size = w.forest.size + 1 := Forest.size_add w.forest .document
  have listed := (grows .document).listed
  have fresh : (w.opened n s).forest.nodes[w.forest.size]? = some { data := .document } := by
    show (w.forest.add .document).2.nodes[w.forest.size]? = _
    rw [Forest.getElem?_add, if_pos rfl]
  have children : x.forest.children w.forest.size = ns := by
    simp [Forest.children, (grows .document).grown _ _ fresh]
  refine ⟨Nat.le_refl _, fun m more _ => ?_, .moveChildren fun m member => ?_⟩
  · exact x.registrations?_closed n wiring w.forest.size host (Nat.ne_of_gt more)
  · rw [children] at member
    have new := (listed m member).1
    rintro rfl
    omega

/-- An instance is fitted when the copies of its template are. -/
theorem Instance.Fitted.of_copies (made : b.Made) (hosted : host < w.forest.size)
    (later : w.serial ≤ n)
    (copies : CopiesAll (b.Wires o z) b.template.root [] 0 b.template.root.children w.forest.size {}
      wiring ns places (w.opened n s) es x) :
    (Instance.mk n b o objects host z wiring.children).Fitted z b host w
      [.mk (.mount (.mk n b o objects host z wiring.children)) w
        (x.closed n wiring w.forest.size host) es] (x.closed n wiring w.forest.size host) := by
  let i := Instance.mk n b o objects host z wiring.children
  let last := x.closed n wiring w.forest.size host
  obtain ⟨new, children, furnished⟩ := copies.plants.furnished copies.distinct
  rw [List.nil_append] at children
  obtain ⟨ts, grows⟩ := copies.grows
  have moved (d : NodeData) := (grows .document).move (f := w.forest) hosted d
  have lasts : x.Lasts (n + 1) (w.forest.size + 1) last := World.lasts_closed wiring hosted grows
  have opened : (w.opened n s).forest.size = w.forest.size + 1 := Forest.size_add w.forest .document
  have registered : last.registrations? n = some ⟨wiring.ticks, wiring.listeners, ns⟩ := by
    simp [World.registrations?, last, World.closed, (moved .document).1]
  have addresses : places.map (·.1) = b.template.root.completedBelow := by
    rw [copies.addresses]
    exact List.map_id _
  have clones : ∀ p ∈ places, last.forest.IsClone (w.forest.size + 1) ns b.template.root p.1 p.2 := by
    intro p member
    obtain ⟨⟨k, rest, m, same, listed, reaches⟩, resembles⟩ := copies.clones p member
    rw [List.nil_append, Nat.zero_add] at same
    have clone : x.forest.IsClone (w.forest.size + 1) ns b.template.root p.1 p.2 :=
      ⟨⟨k, rest, m, same, listed, opened ▸ reaches⟩, resembles⟩
    exact clone.mends lasts.forest
  have clone_eq : ∀ p ∈ places, last.clone? i p.1 = some p.2 := by
    intro p member
    show (last.registrations? n).bind _ = _
    rw [registered, Option.bind_some]
    exact (clones p member).descendFrom_eq
  have inside : ∀ c ∈ new, ∀ j ∈ c.all, j.Stands (n + 1) (w.forest.size + 1) x := by
    intro c member j within
    have stands := furnished.stands c member j within
    rwa [opened] at stands
  have given : n < x.serial := furnished.lasts.later
  refine ⟨rfl, rfl, .mount i ?_, ⟨?_, fun m _ less => ?_, ?_⟩, ⟨ns, ts, fun d => (moved d).2⟩,
    fun j within => ?_, ?_⟩
  · have before : Lays z w [] (w.opened n s) := .of_zones rfl rfl
    have behind : Lays z x [] last := .of_zones rfl rfl
    have all := Lays.chains z (Lays.chains z before furnished.lays) behind
    rwa [List.append_nil] at all
  · exact Nat.le_trans later (Nat.le_of_lt given)
  · have other : m ≠ n := Nat.ne_of_lt (Nat.lt_of_lt_of_le less later)
    rw [x.registrations?_closed n wiring w.forest.size host other]
    exact furnished.lasts.registrations m (Nat.zero_le _)
      (Nat.lt_succ_of_lt (Nat.lt_of_lt_of_le less later))
  · exact Forest.Dresses.mends ⟨[], _, _, fun d => (moved d).2⟩
  · rw [Instance.all_eq, Instance.inside, Instance.allOf_eq] at within
    rcases List.mem_cons.1 within with rfl | below
    · refine ⟨made, later, given, ⟨_, registered, fun address member => ?_⟩, ?_, ?_⟩
      · obtain ⟨p, place, rfl⟩ := List.mem_map.1 (show address ∈ places.map (·.1) from
          addresses ▸ member)
        exact ⟨p.2, (clones p place).lower (Nat.le_succ _)⟩
      · have each : b.template.root.completedBelow.map (last.clone? i) =
            (places.map (·.2)).map some := by
          rw [← addresses, List.map_map, List.map_map]
          exact List.map_congr_left clone_eq
        show (b.template.root.completedBelow.map (last.clone? i)).Nodup
        rw [each]
        exact copies.distinct.map (Option.some_injective _)
      · have ordered : List.Forall₂ (fun child c => ∃ live, (child.1.address, live) ∈ places ∧
            c.blueprint = child.2 ∧ c.host = live)
            (Address.inOrder (places.map (·.1)) (·.1.address) b.children) new :=
          Address.forall₂_inOrder (R := fun (child : Spot × Blueprint) live (c : Instance) =>
            c.blueprint = child.2 ∧ c.host = live) furnished.housed
        rw [addresses, ← children] at ordered
        refine ordered.imp ?_
        rintro child c ⟨live, place, blueprint, on⟩
        exact ⟨blueprint, on ▸ clone_eq _ place⟩
    · obtain ⟨c, member, within⟩ := List.mem_flatMap.1 below
      rw [show (Instance.mk n b o objects host z wiring.children).children = new from children] at member
      exact ((inside c member j within).lasts lasts).lower
        (Nat.le_trans later (Nat.le_succ n)) (Nat.le_succ _)
  · rw [Episode.fittings_mount, Instance.fittings_eq, furnished.fittings]
    show _ :: _ = _ :: b.template.root.completedBelow.flatMap _
    rw [← addresses, List.flatMap_map]
    congr 1
    refine List.flatMap_congr fun p member => ?_
    have below : p.1 ≠ [] := by
      have there : p.1 ∈ b.template.root.completedBelow :=
        addresses ▸ List.mem_map_of_mem member
      exact ((b.template.root.mem_completedBelow p.1).1 there).1
    have same : (new.filter (·.host = p.2)).flatMap (·.fittings x.clone?) =
        (new.filter (·.host = p.2)).flatMap (·.fittings last.clone?) :=
      List.flatMap_congr fun c found =>
        (Instance.fittings_lasts (inside c (List.mem_of_mem_filter found)) lasts).symm
    rw [made.bindingsAt_eq below, clone_eq p member, same]
    show _ = _ ++ (wiring.children.filter _).flatMap _
    rw [children]
    rfl

end Moving

/-! ## Wiring a copy -/

/-- What is done with each copy when a blueprint is mounted, and what is told of it. -/
def Told.wire (u : UserCode σ) (t : Teller σ) (z : Zone) (b : Blueprint) (o : ObjectId)
    (objects : List ObjectId) (address : List Nat) (live : NodeId) (s : Wiring) :
    Told σ Wiring := do
  let s ← wireBindings u t z o b.bindings address live s
  wireChildren (mountings u t z b.children objects) address live s

theorem Told.mount_eq (u : UserCode σ) (t : Teller σ) (z : Zone) (b : Blueprint) (o : ObjectId)
    (host : NodeId) :
    Told.mount u t z b o host = calling .mount (do
      let objects ← plain (b.constructChildren u)
      let serial ← plain Run.fresh
      let fragment ← plain (Run.onForest (·.add .document))
      let s ← copyAll (Told.wire u t z b o objects) fragment [] 0 b.template.root.children {}
      let mounted ← plain (Run.onForest (·.moveChildren fragment host))
      plain (modify fun world =>
        { world with attached := (serial, ⟨s.ticks, s.listeners, mounted⟩) :: world.attached })
      return .mk serial b o objects host z s.children) := by
  cases b
  rw [mount]
  rfl

/-- Where each child has an object, it is mounted for that. -/
theorem Told.mountings_eq {u : UserCode σ} {t : Teller σ} {z : Zone} :
    ∀ {children : List (Spot × Blueprint)} {objects : List ObjectId},
      children.length ≤ objects.length → Told.mountings u t z children objects =
        (children.zip objects).map fun p => (p.1.1, Told.mount u t z p.1.2 p.2)
  | [], objects, _ => by cases objects <;> simp [mountings]
  | (spot, b) :: rest, [], few => by simp at few
  | (spot, b) :: rest, o :: objects, enough => by
      rw [mountings, mountings_eq (by simpa using enough)]
      rfl

namespace Tells

variable {c : Code σ} {depth : Nat} {z : Zone} {b : Blueprint}

/-- The bindings on a node are attached, if the methods that they call stay out of the
framework. -/
theorem wireBindings (allows : ∀ p ∈ b.bindings, p.2.Allows (Refresh.Inward c)) (o : ObjectId)
    (address : List Nat) (live : NodeId) (s : Wiring) :
    Tells (fun r w es v => r.children = s.children ∧ (live < w.forest.size →
        BindsAll ((b.bindings.filter (·.1.address = address)).map (·.2)) live o z w es v))
      (Wiring.wireBindings (c.user depth) z o b.bindings address live s)
      (Told.wireBindings (c.user depth) (c.teller depth) z o b.bindings address live s) := by
  unfold Wiring.wireBindings Told.wireBindings
  have allows : ∀ p ∈ b.bindings.filter (·.1.address = address), p.2.Allows (Refresh.Inward c) :=
    fun p member => allows p (List.mem_of_mem_filter member)
  generalize b.bindings.filter (·.1.address = address) = ps at allows
  induction ps generalizing s with
  | nil => exact pure fun w => ⟨rfl, fun _ => .nil live o z w⟩
  | cons p ps ih =>
      obtain ⟨own, others⟩ := List.forall_mem_cons.1 allows
      rw [List.foldlM_cons, List.foldlM_cons]
      refine bind (bind (binds own depth live o z) (fun a => value (s.add a))
        (S := fun r w es v => r.children = s.children ∧ p.2.Binds live o z w es v) ?_)
        (fun r => ih r others) ?_
      · rintro a r w es v _ _ binds ⟨rfl, rfl, rfl⟩
        rw [List.append_nil]
        exact ⟨(Wiring.foldl_add [a] s).1, binds⟩
      · rintro r q w es v fs x ⟨same, binds⟩ ⟨same', all⟩
        refine ⟨same'.trans same, fun inside => .cons binds inside (all ?_)⟩
        exact Nat.lt_of_lt_of_le inside (binds.lasts inside).forest.size

/-- The children of a blueprint are mounted on a node, if mounting them fits instances. -/
theorem wireChildren {objects : List ObjectId} (enough : b.children.length ≤ objects.length)
    (mounts : ∀ child ∈ b.children, ∀ o host, Tells
      (fun i w es v => host < w.forest.size → i.Fitted z child.2 host w es v)
      (child.2.mount (c.user depth) z o host)
      (Told.mount (c.user depth) (c.teller depth) z child.2 o host))
    (address : List Nat) (live : NodeId) (s : Wiring) :
    Tells (fun r w es v => ∃ new, r.children = s.children ++ new ∧ (live < w.forest.size →
        Houses (b.children.filter (·.1.address = address)) live z new w es v))
      (Wiring.wireChildren (Blueprint.mountings (c.user depth) z b.children objects) address live s)
      (Told.wireChildren (Told.mountings (c.user depth) (c.teller depth) z b.children objects)
        address live s) := by
  have spots : b.children.filter (·.1.address = address) =
      ((b.children.zip objects).filter (·.1.1.address = address)).map (·.1) := by
    conv => lhs; rw [← List.map_fst_zip enough, List.filter_map]
    rfl
  rw [Wiring.wireChildren, Told.wireChildren, Blueprint.mountings_eq enough,
    Told.mountings_eq enough, List.filter_map, List.filter_map, spots]
  have mounts : ∀ p ∈ (b.children.zip objects).filter (·.1.1.address = address), ∀ host, Tells
      (fun i w es v => host < w.forest.size → i.Fitted z p.1.2 host w es v)
      (p.1.2.mount (c.user depth) z p.2 host)
      (Told.mount (c.user depth) (c.teller depth) z p.1.2 p.2 host) :=
    fun p member => mounts p.1 (List.of_mem_zip (List.mem_of_mem_filter member)).1 p.2
  show Tells _ (List.foldlM _ _ (((b.children.zip objects).filter (·.1.1.address = address)).map _))
    (List.foldlM _ _ (((b.children.zip objects).filter (·.1.1.address = address)).map _))
  generalize (b.children.zip objects).filter (·.1.1.address = address) = ps at mounts
  induction ps generalizing s with
  | nil => exact pure fun w => ⟨[], (List.append_nil _).symm, fun _ => .nil live z w⟩
  | cons p ps ih =>
      obtain ⟨own, others⟩ := List.forall_mem_cons.1 mounts
      simp only [List.map_cons, List.foldlM_cons]
      refine bind (bind (own live) (fun i => value { s with children := s.children ++ [i] })
        (S := fun r w es v => ∃ i, r.children = s.children ++ [i] ∧
          (live < w.forest.size → i.Fitted z p.1.2 live w es v)) ?_) (fun r => ih r others) ?_
      · rintro i r w es v _ _ fitted ⟨rfl, rfl, rfl⟩
        rw [List.append_nil]
        exact ⟨i, rfl, fitted⟩
      · rintro r q w es v fs x ⟨i, same, fitted⟩ ⟨new, same', houses⟩
        refine ⟨i :: new, by rw [same', same, List.append_assoc]; rfl, fun inside => ?_⟩
        have one := fitted inside
        exact .cons one inside (houses (Nat.lt_of_lt_of_le inside one.lasts.forest.size))

/-- Wiring a copy fits what is on it. -/
theorem wires (allows : ∀ p ∈ b.bindings, p.2.Allows (Refresh.Inward c)) {objects : List ObjectId}
    (enough : b.children.length ≤ objects.length)
    (mounts : ∀ child ∈ b.children, ∀ o host, Tells
      (fun i w es v => host < w.forest.size → i.Fitted z child.2 host w es v)
      (child.2.mount (c.user depth) z o host)
      (Told.mount (c.user depth) (c.teller depth) z child.2 o host))
    (o : ObjectId) (address : List Nat) (live : NodeId) (r : Wiring) :
    Tells (b.Wires o z address live r) (b.wire (c.user depth) z o objects address live r)
      (Told.wire (c.user depth) (c.teller depth) z b o objects address live r) := by
  refine bind (wireBindings allows o address live r)
    (fun s => wireChildren enough mounts address live s) ?_
  rintro s q w es v fs x ⟨same, binds⟩ ⟨new, same', houses⟩
  refine ⟨new, by rw [same', same], fun inside => ?_⟩
  have bound := binds inside
  exact .intro bound inside (houses (Nat.lt_of_lt_of_le inside bound.lasts.forest.size))

/-- Moving the copies to the host, and listing the instance. -/
theorem closes (b : Blueprint) (o : ObjectId) (z : Zone) (host : NodeId) (objects : List ObjectId)
    (n : Nat) (fragment : NodeId) (s : Wiring) :
    Tells (fun (i : Instance) (w : World σ) es v => i = .mk n b o objects host z s.children ∧ es = [] ∧
        v = w.closed n s fragment host)
      (do
        let mounted ← Run.onForest (·.moveChildren fragment host)
        modify fun w => { w with attached := (n, ⟨s.ticks, s.listeners, mounted⟩) :: w.attached }
        return .mk n b o objects host z s.children)
      (do
        let mounted ← Told.plain (Run.onForest (·.moveChildren fragment host))
        Told.plain (modify fun w =>
          { w with attached := (n, ⟨s.ticks, s.listeners, mounted⟩) :: w.attached })
        return .mk n b o objects host z s.children) := by
  refine bind (step (Run.run_onForest _)) (fun mounted => bind (step fun _ => rfl) (fun _ => value _)
    (S := fun (i : Instance) w es v => i = .mk n b o objects host z s.children ∧ es = [] ∧
      v = { w with attached := (n, ⟨s.ticks, s.listeners, mounted⟩) :: w.attached }) ?_) ?_
  · rintro _ i w _ _ _ _ ⟨-, rfl, rfl⟩ ⟨rfl, rfl, rfl⟩
    exact ⟨rfl, rfl, rfl⟩
  · rintro mounted i w _ _ _ _ ⟨rfl, rfl, rfl⟩ ⟨rfl, rfl, rfl⟩
    exact ⟨rfl, rfl, rfl⟩

/-- Mounting a blueprint copies its template and closes with the copies, if wiring them fits what is
on them. -/
theorem copies {objects : List ObjectId} {o : ObjectId}
    (wires : ∀ address live r, Tells (b.Wires o z address live r)
      (b.wire (c.user depth) z o objects address live r)
      (Told.wire (c.user depth) (c.teller depth) z b o objects address live r)) (host : NodeId) :
    Tells (fun (i : Instance) w es v => ∃ s ns places x, i = .mk w.serial b o objects host z s.children ∧
        CopiesAll (b.Wires o z) b.template.root [] 0 b.template.root.children w.forest.size {} s ns
          places (w.opened w.serial w.user) es x ∧ v = x.closed w.serial s w.forest.size host)
      (do
        let serial ← Run.fresh
        let fragment ← Run.onForest (·.add .document)
        let s ← Wiring.copyAll (b.wire (c.user depth) z o objects) fragment [] 0
          b.template.root.children {}
        let mounted ← Run.onForest (·.moveChildren fragment host)
        modify fun w =>
          { w with attached := (serial, ⟨s.ticks, s.listeners, mounted⟩) :: w.attached }
        return .mk serial b o objects host z s.children)
      (do
        let serial ← Told.plain Run.fresh
        let fragment ← Told.plain (Run.onForest (·.add .document))
        let s ← Told.copyAll (Told.wire (c.user depth) (c.teller depth) z b o objects) fragment [] 0
          b.template.root.children {}
        let mounted ← Told.plain (Run.onForest (·.moveChildren fragment host))
        Told.plain (modify fun w =>
          { w with attached := (serial, ⟨s.ticks, s.listeners, mounted⟩) :: w.attached })
        return .mk serial b o objects host z s.children) := by
  have top : b.template.root.at? [] =
      some (.node b.template.root.data b.template.root.children) := by
    cases b.template.root
    rfl
  have dresses {address : List Nat} {live : Nat} {r s : Wiring} {w v : World σ}
      {es : List (Episode σ)} (wired : b.Wires o z address live r s w es v)
      (inside : live < w.forest.size) : w.forest.Dresses v.forest live := by
    obtain ⟨_, -, furnishes⟩ := wired
    exact (furnishes inside).dresses
  refine bind (step Run.run_fresh) (fun n => bind (step (Run.run_onForest _)) (fun fragment =>
    bind (copyAll_plants wires dresses _ top (i := 0) rfl fragment {}) (fun s =>
      closes b o z host objects n fragment s)
        (S := fun (i : Instance) w es v => fragment < w.forest.size → ∃ s ns places x,
          i = .mk n b o objects host z s.children ∧
          CopiesAll (b.Wires o z) b.template.root [] 0 b.template.root.children fragment {} s ns
            places w es x ∧ v = x.closed n s fragment host) ?_)
      (S := fun (i : Instance) w es v => ∃ s ns places x, i = .mk n b o objects host z s.children ∧
        CopiesAll (b.Wires o z) b.template.root [] 0 b.template.root.children w.forest.size {} s ns
          places { w with forest := (w.forest.add .document).2 } es x ∧
        v = x.closed n s w.forest.size host) ?_) ?_
  · rintro s i w es x _ _ copies ⟨rfl, rfl, rfl⟩ inside
    obtain ⟨ns, places, copies⟩ := copies inside
    rw [List.append_nil]
    exact ⟨s, ns, places, x, rfl, copies, rfl⟩
  · rintro _ i w _ _ es v ⟨rfl, rfl, rfl⟩ copies
    have inside : w.forest.size < (w.forest.add .document).2.size :=
      Forest.size_add w.forest .document ▸ Nat.lt_succ_self _
    exact copies inside
  · rintro _ i w _ _ es v ⟨rfl, rfl, rfl⟩ copies
    exact copies

/-- Mounting a blueprint fits an instance, if the methods that its inputs call stay out of the
framework. -/
theorem mounts (made : b.Made) (allows : b.Allows (Refresh.Inward c)) (o : ObjectId)
    (host : NodeId) :
    Tells (fun i w es v => host < w.forest.size → i.Fitted z b host w es v)
      (b.mount (c.user depth) z o host)
      (Told.mount (c.user depth) (c.teller depth) z b o host) := by
  induction made generalizing o host with
  | @intro b bindings places tagged single within ih =>
      have made : b.Made := .intro bindings places tagged single within
      have inner : ∀ child ∈ b.children, ∀ o host, Tells
          (fun i w es v => host < w.forest.size → i.Fitted z child.2 host w es v)
          (child.2.mount (c.user depth) z o host)
          (Told.mount (c.user depth) (c.teller depth) z child.2 o host) :=
        fun child member => ih child member (allows.child member)
      have constructs : Tells (fun objects w es v => b.children.length ≤ objects.length ∧
          es = [] ∧ ∃ n s, w.serial ≤ n ∧ v = { w with serial := n, user := s })
          (b.constructChildren (c.user depth))
          (Told.plain (b.constructChildren (c.user depth))) := by
        refine (step (Run.run_mapM_construct (c.user depth) _)).imp ?_
        rintro objects w _ _ ⟨rfl, rfl, rfl⟩
        refine ⟨?_, rfl, _, _, Nat.le_add_right _ _, rfl⟩
        simp [made.constructedClasses, Blueprint.childClasses]
      rw [Blueprint.mount_eq, Told.mount_eq]
      refine calling (bind_of (C := fun objects => b.children.length ≤ objects.length) constructs
        (fun _ _ _ _ made => made.1)
        (fun objects enough => copies (wires (allows b .refl) enough inner o) host)
        (S := fun (i : Instance) w es v => ∃ objects n s wiring ns places x, w.serial ≤ n ∧
          i = .mk n b o objects host z wiring.children ∧
          CopiesAll (b.Wires o z) b.template.root [] 0 b.template.root.children w.forest.size {}
            wiring ns places (w.opened n s) es x ∧
          v = x.closed n wiring w.forest.size host) ?_) ?_
      · rintro objects i w _ _ es v ⟨-, rfl, n, s, later, rfl⟩ ⟨wiring, ns, places, x, rfl, copies, rfl⟩
        exact ⟨objects, n, s, wiring, ns, places, x, later, rfl, copies, rfl⟩
      · rintro i w es v - ⟨objects, n, s, wiring, ns, places, x, later, rfl, copies, rfl⟩ hosted
        exact .of_copies made hosted later copies

end Tells

end LiveTemplates
