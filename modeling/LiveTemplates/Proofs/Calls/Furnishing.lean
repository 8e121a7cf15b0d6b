/-
# LiveTemplates.Proofs.Calls.Furnishing -- instances are fitted node by node

An instance is fitted as the copies of the nodes of its template are completed: at each copy first
its bindings, in the order of the attributes, and then the instance of the component that takes
its place, with all that is fitted inside of that one.

* `Instance.fittings`: what is fitted in an instance, in this order, as the template and the nodes
  that were mounted for it tell;
* `Instance.Stands`: an instance is mounted, each node of its template has its clone, and the
  instances inside are on the clones of their elements; `Instance.Stands.lasts`: so it stays;
* `Furnishes`, `Furnished`: what is fitted on one copy, and on all copies in a row;
* `Tells.fits`: mounting a blueprint fits an instance, and tells it in this order.
-/
import LiveTemplates.Proofs.Calls.Fitting
import LiveTemplates.Proofs.Instance.Lineup

namespace LiveTemplates

set_option autoImplicit false

variable {σ : Type}

/-! ## What is to be fitted -/

/-- The bindings on a node of a template, in the order of its attributes. -/
def Tree.bindingsAt (t : Tree) (address : List Nat) : List Binding :=
  (t.at? address).elim [] fun s => Binding.among s.data.attrs

namespace Instance

mutual

/-- What is fitted in an instance: itself, and behind this, from node to node of its template as
these are completed, the bindings on the clone of the node, and the instances on it. -/
def fittings (clone : Instance → List Nat → Option NodeId) : Instance → List Fitting
  | mk serial b o os host z children =>
    .mount (mk serial b o os host z children) ::
      b.template.root.completedBelow.flatMap fun address =>
        (clone (mk serial b o os host z children) address).elim [] fun live =>
          (b.template.root.bindingsAt address).flatMap (·.fitting live o) ++
            fittingsOn clone live children

/-- What is fitted in those instances that are on a node. -/
def fittingsOn (clone : Instance → List Nat → Option NodeId) (live : NodeId) :
    List Instance → List Fitting
  | [] => []
  | i :: rest => (if i.host = live then i.fittings clone else []) ++ fittingsOn clone live rest

end

theorem fittingsOn_eq (clone : Instance → List Nat → Option NodeId) (live : NodeId)
    (is : List Instance) :
    fittingsOn clone live is = (is.filter (·.host = live)).flatMap (·.fittings clone) := by
  induction is with
  | nil => rfl
  | cons i rest ih =>
      rw [fittingsOn, ih]
      by_cases here : i.host = live
      · rw [if_pos here, List.filter_cons_of_pos (by simpa using here), List.flatMap_cons]
      · rw [if_neg here, List.filter_cons_of_neg (by simpa using here), List.nil_append]

theorem fittings_eq (clone : Instance → List Nat → Option NodeId) (i : Instance) :
    i.fittings clone = .mount i :: i.blueprint.template.root.completedBelow.flatMap fun address =>
      (clone i address).elim [] fun live =>
        (i.blueprint.template.root.bindingsAt address).flatMap (·.fitting live i.object) ++
          (i.children.filter (·.host = live)).flatMap (·.fittings clone) := by
  obtain ⟨serial, b, o, os, host, z, children⟩ := i
  rw [fittings]
  simp only [fittingsOn_eq]
  rfl

mutual

/-- Only the clones of the nodes of the templates matter. -/
theorem fittings_congr {clone clone' : Instance → List Nat → Option NodeId} : ∀ i : Instance,
    (∀ j ∈ i.all, ∀ address ∈ j.blueprint.template.root.completedBelow,
      clone j address = clone' j address) → i.fittings clone = i.fittings clone'
  | mk serial b o os host z children, same => by
      have own := same _ (by rw [all]; exact List.mem_cons_self)
      rw [fittings, fittings]
      congr 1
      refine List.flatMap_congr fun address member => ?_
      rw [own address member]
      congr
      funext live
      rw [fittingsOn_congr live children fun j inside => same j (by
        rw [all]; exact List.mem_cons_of_mem _ inside)]

theorem fittingsOn_congr {clone clone' : Instance → List Nat → Option NodeId} (live : NodeId) :
    ∀ is : List Instance, (∀ j ∈ allOf is, ∀ address ∈ j.blueprint.template.root.completedBelow,
      clone j address = clone' j address) → fittingsOn clone live is = fittingsOn clone' live is
  | [], _ => rfl
  | i :: rest, same => by
      rw [allOf] at same
      rw [fittingsOn, fittingsOn,
        fittings_congr i fun j inside => same j (List.mem_append_left _ inside),
        fittingsOn_congr live rest fun j inside => same j (List.mem_append_right _ inside)]

end

end Instance

namespace Blueprint.Made

variable {b : Blueprint} (made : b.Made)

include made

/-- The bindings of a blueprint are those on the nodes of its template. -/
theorem bindingsAt_eq {address : List Nat} (below : address ≠ []) :
    (b.bindings.filter (·.1.address = address)).map (·.2) =
      b.template.root.bindingsAt address := by
  obtain ⟨k, rest, rfl⟩ := List.exists_cons_of_ne_nil below
  have own (element : List Nat × NodeData) :
      ((Binding.among element.2.attrs).map (Scan.spotOf element, ·)).filter
          (·.1.address = k :: rest) =
        if element.1 = k :: rest then (Binding.among element.2.attrs).map (Scan.spotOf element, ·)
        else [] := by
    rw [List.filter_map]
    split
    case isTrue same => simp [Scan.spotOf, Function.comp_def, same]
    case isFalse other => simp [Scan.spotOf, Function.comp_def, other]
  have elements : (b.template.root.elementsBelow.flatMap fun element =>
      if element.1 = k :: rest then (Binding.among element.2.attrs).map (Scan.spotOf element, ·)
      else []) =
      (b.template.root.elementsBelow.filter (·.1 = k :: rest)).flatMap fun element =>
        (Binding.among element.2.attrs).map (Scan.spotOf element, ·) := by
    induction b.template.root.elementsBelow with
    | nil => rfl
    | cons element others ih =>
        rw [List.flatMap_cons, ih]
        by_cases same : element.1 = k :: rest
        · rw [if_pos same, List.filter_cons_of_pos (by simpa using same), List.flatMap_cons]
        · rw [if_neg same, List.filter_cons_of_neg (by simpa using same), List.nil_append]
  rw [made.bindings, Scan.bindingsOn, List.filter_flatMap, List.flatMap_congr fun e _ => own e,
    elements, Tree.filter_elementsBelow, Tree.bindingsAt]
  cases b.template.root.at? (k :: rest) with
  | none => rfl
  | some s =>
      obtain ⟨d, ts⟩ := s
      cases d <;> simp [Tree.elementAt, Tree.data, NodeData.isElement, NodeData.attrs,
        Binding.among, Binding.gather]

end Blueprint.Made

/-! ## Instances that stand -/

/-- An instance was mounted, under a number from some number on: each node of its template has its
clone among the nodes from some number on, each another one, and the instances inside are on the
clones of their elements, in the order in which these are completed. -/
structure Instance.Stands (i : Instance) (first low : Nat) (w : World σ) : Prop where
  made : i.blueprint.Made
  new : first ≤ i.serial
  given : i.serial < w.serial
  clones : ∃ r, w.registrations? i.serial = some r ∧
    ∀ address ∈ i.blueprint.template.root.completedBelow,
      ∃ m, w.forest.IsClone low r.mounted i.blueprint.template.root address m
  distinct : (i.blueprint.template.root.completedBelow.map (w.clone? i)).Nodup
  children : List.Forall₂ (fun child c => c.blueprint = child.2 ∧
      w.clone? i child.1.address = some c.host)
    (Address.inOrder i.blueprint.template.root.completedBelow (·.1.address) i.blueprint.children)
    i.children

namespace Instance.Stands

variable {i : Instance} {first low first' low' : Nat} {w v : World σ}

theorem lower (stands : i.Stands first low w) (less : first' ≤ first) (under : low' ≤ low) :
    i.Stands first' low' w := by
  obtain ⟨r, registered, clones⟩ := stands.clones
  refine { stands with new := Nat.le_trans less stands.new, clones := ⟨r, registered, ?_⟩ }
  intro address member
  obtain ⟨m, clone⟩ := clones address member
  exact ⟨m, clone.lower under⟩

/-- The clones are the same as long as the registrations last. -/
theorem clone?_eq (stands : i.Stands first low w) (lasts : w.Lasts first low v) :
    ∀ address ∈ i.blueprint.template.root.completedBelow, v.clone? i address = w.clone? i address := by
  intro address member
  obtain ⟨r, registered, clones⟩ := stands.clones
  obtain ⟨m, clone⟩ := clones address member
  have registered' := (lasts.registrations _ stands.new stands.given).trans registered
  rw [World.clone?, World.clone?, registered, registered', Option.bind_some, Option.bind_some,
    clone.descendFrom_eq, (clone.mends lasts.forest).descendFrom_eq]

theorem lasts (stands : i.Stands first low w) (lasts : w.Lasts first low v) :
    i.Stands first low v := by
  have same := stands.clone?_eq lasts
  obtain ⟨made, new, given, ⟨r, registered, clones⟩, distinct, children⟩ := stands
  refine ⟨made, new, Nat.lt_of_lt_of_le given lasts.later, ⟨r, ?_, fun address member => ?_⟩, ?_, ?_⟩
  · rw [lasts.registrations _ new given, registered]
  · obtain ⟨m, clone⟩ := clones address member
    exact ⟨m, clone.mends lasts.forest⟩
  · rwa [List.map_congr_left same]
  · have inside := made.inOrder_children_perm.subset
    refine ((List.forall₂_and_left _ _).2 ⟨fun child member => inside member, children⟩).imp ?_
    rintro child c ⟨member, blueprint, clone⟩
    exact ⟨blueprint, (same _ (made.children_completed member)).trans clone⟩

end Instance.Stands

/-- So what is fitted in an instance is the same as long as the registrations of all instances
inside of it last. -/
theorem Instance.fittings_lasts {i : Instance} {first low : Nat} {w v : World σ}
    (stands : ∀ j ∈ i.all, j.Stands first low w) (lasts : w.Lasts first low v) :
    i.fittings v.clone? = i.fittings w.clone? :=
  fittings_congr i fun j inside => (stands j inside).clone?_eq lasts

/-! ## Fitting a copy -/

/-- Bindings have been attached to a live node, one after the other. -/
structure BindsAll (bs : List Binding) (live : NodeId) (o : ObjectId) (z : Zone) (w : World σ)
    (es : List (Episode σ)) (v : World σ) : Prop where
  lays : Lays z w es v
  fittings : Episode.fittings es = bs.flatMap (·.fitting live o)
  lasts : w.Lasts 0 0 v
  dresses : w.forest.Dresses v.forest live

/-- Instances have been mounted on a live node, one after the other. -/
structure Houses (children : List (Spot × Blueprint)) (live : NodeId) (z : Zone)
    (new : List Instance) (w : World σ) (es : List (Episode σ)) (v : World σ) : Prop where
  lays : Lays z w es v
  lasts : w.Lasts 0 0 v
  dresses : w.forest.Dresses v.forest live
  housed : List.Forall₂ (fun child c => c.blueprint = child.2 ∧ c.host = live) children new
  stands : ∀ c ∈ new, ∀ j ∈ c.all, j.Stands w.serial w.forest.size v
  fittings : Episode.fittings es = new.flatMap (·.fittings v.clone?)

/-- An instance has been mounted. -/
structure Instance.Fitted (i : Instance) (z : Zone) (b : Blueprint) (host : NodeId) (w : World σ)
    (es : List (Episode σ)) (v : World σ) : Prop where
  blueprint_eq : i.blueprint = b
  host_eq : i.host = host
  lays : Lays z w es v
  lasts : w.Lasts 0 0 v
  grows : ∃ ns ts, ∀ d, w.forest.Grows v.forest host d d ns ts
  stands : ∀ j ∈ i.all, j.Stands w.serial w.forest.size v
  fittings : Episode.fittings es = i.fittings v.clone?

/-- A copy has been wired: its bindings were attached, and the instances were mounted on it. -/
structure Furnishes (b : Blueprint) (o : ObjectId) (z : Zone) (address : List Nat) (live : NodeId)
    (new : List Instance) (w : World σ) (es : List (Episode σ)) (v : World σ) : Prop where
  lays : Lays z w es v
  lasts : w.Lasts 0 0 v
  dresses : w.forest.Dresses v.forest live
  housed : List.Forall₂ (fun child c => c.blueprint = child.2 ∧ c.host = live)
    (b.children.filter (·.1.address = address)) new
  stands : ∀ c ∈ new, ∀ j ∈ c.all, j.Stands w.serial w.forest.size v
  fittings : Episode.fittings es =
    ((b.bindings.filter (·.1.address = address)).map (·.2)).flatMap (·.fitting live o) ++
      new.flatMap (·.fittings v.clone?)

section

variable {z : Zone} {live : Nat} {o : ObjectId} {w v x : World σ} {es fs : List (Episode σ)}

theorem BindsAll.nil (live : NodeId) (o : ObjectId) (z : Zone) (w : World σ) :
    BindsAll [] live o z w [] w :=
  ⟨.of_zones rfl rfl, rfl, .refl 0 0 w, .refl _ _⟩

theorem BindsAll.cons {b : Binding} {bs : List Binding} (one : b.Binds live o z w es v)
    (inside : live < w.forest.size) (others : BindsAll bs live o z v fs x) :
    BindsAll (b :: bs) live o z w (es ++ fs) x where
  lays := .chains z one.lays others.lays
  fittings := by rw [Episode.fittings_append, one.fittings, others.fittings, List.flatMap_cons]
  lasts := (one.lasts inside).trans others.lasts
  dresses := (one.dresses inside).trans others.dresses inside

theorem Houses.nil (live : NodeId) (z : Zone) (w : World σ) : Houses [] live z [] w [] w :=
  ⟨.of_zones rfl rfl, .refl 0 0 w, .refl _ _, .nil, nofun, rfl⟩

theorem Houses.cons {child : Spot × Blueprint} {children : List (Spot × Blueprint)} {c : Instance}
    {new : List Instance} (one : c.Fitted z child.2 live w es v) (inside : live < w.forest.size)
    (others : Houses children live z new v fs x) :
    Houses (child :: children) live z (c :: new) w (es ++ fs) x where
  lays := .chains z one.lays others.lays
  lasts := one.lasts.trans others.lasts
  dresses := by
    obtain ⟨ns, ts, grows⟩ := one.grows
    have first : w.forest.Dresses v.forest live := ⟨[], ns, ts, grows⟩
    exact first.trans others.dresses inside
  housed := .cons ⟨one.blueprint_eq, one.host_eq⟩ others.housed
  stands := by
    refine List.forall_mem_cons.2 ⟨fun j within => ?_, fun c member j within => ?_⟩
    · exact (one.stands j within).lasts (others.lasts.raise (Nat.zero_le _) (Nat.zero_le _))
    · exact (others.stands c member j within).lower one.lasts.later one.lasts.forest.size
  fittings := by
    rw [Episode.fittings_append, one.fittings, others.fittings, List.flatMap_cons,
      Instance.fittings_lasts one.stands (others.lasts.raise (Nat.zero_le _) (Nat.zero_le _))]

theorem Furnishes.intro {b : Blueprint} {address : List Nat} {new : List Instance}
    (bound : BindsAll ((b.bindings.filter (·.1.address = address)).map (·.2)) live o z w es v)
    (inside : live < w.forest.size)
    (houses : Houses (b.children.filter (·.1.address = address)) live z new v fs x) :
    Furnishes b o z address live new w (es ++ fs) x where
  lays := .chains z bound.lays houses.lays
  lasts := bound.lasts.trans houses.lasts
  dresses := bound.dresses.trans houses.dresses inside
  housed := houses.housed
  stands c member j within :=
    (houses.stands c member j within).lower bound.lasts.later bound.lasts.forest.size
  fittings := by rw [Episode.fittings_append, bound.fittings, houses.fittings]

end

/-! ## Fitting all copies -/

/-- The copies of the nodes of a template have been wired one after the other. -/
structure Furnished (b : Blueprint) (o : ObjectId) (z : Zone) (places : List (List Nat × NodeId))
    (new : List Instance) (w : World σ) (es : List (Episode σ)) (v : World σ) : Prop where
  lays : Lays z w es v
  lasts : w.Lasts 0 0 v
  housed : List.Forall₂ (fun seat c => c.blueprint = seat.1.2 ∧ c.host = seat.2)
    (places.flatMap fun p => (b.children.filter (·.1.address = p.1)).map (·, p.2)) new
  stands : ∀ c ∈ new, ∀ j ∈ c.all, j.Stands w.serial w.forest.size v
  fittings : Episode.fittings es = places.flatMap fun p =>
    ((b.bindings.filter (·.1.address = p.1)).map (·.2)).flatMap (·.fitting p.2 o) ++
      (new.filter (·.host = p.2)).flatMap (·.fittings v.clone?)

namespace Furnished

variable {b : Blueprint} {o : ObjectId} {z : Zone} {places : List (List Nat × NodeId)}
  {new : List Instance} {w v x : World σ} {es fs : List (Episode σ)}

theorem nil (b : Blueprint) (o : ObjectId) (z : Zone) (w : World σ) :
    Furnished b o z [] [] w [] w :=
  ⟨.of_zones rfl rfl, .refl 0 0 w, .nil, nofun, rfl⟩

/-- The instances inside are on the copies. -/
theorem hosts (furnished : Furnished b o z places new w es v) :
    ∀ c ∈ new, c.host ∈ places.map (·.2) := by
  intro c member
  obtain ⟨seat, inside, -, same⟩ := exists_left_of_forall₂ furnished.housed member
  obtain ⟨p, place, here⟩ := List.mem_flatMap.1 inside
  obtain ⟨_, -, rfl⟩ := List.mem_map.1 here
  rw [same]
  exact List.mem_map_of_mem place

/-- Nodes are mended before the copies are wired. -/
theorem grow {forest : Forest} (mends : w.forest.Mends 0 forest)
    (later : Furnished b o z places new { w with forest := forest } es v) :
    Furnished b o z places new w es v where
  lays :=
    have changed : Lays z w [] { w with forest := forest } := .of_zones rfl rfl
    .chains z changed later.lays
  lasts := .trans (.of_attached (v := { w with forest := forest }) (Nat.le_refl _) rfl mends) later.lasts
  housed := later.housed
  stands c member j within := (later.stands c member j within).lower (Nat.le_refl _) mends.size
  fittings := later.fittings

/-- One copy is wired before the others, which are on other nodes. -/
theorem step {address : List Nat} {live : NodeId} {first : List Instance}
    (one : Furnishes b o z address live first w es v) (apart : live ∉ places.map (·.2))
    (later : Furnished b o z places new v fs x) :
    Furnished b o z ((address, live) :: places) (first ++ new) w (es ++ fs) x where
  lays := .chains z one.lays later.lays
  lasts := one.lasts.trans later.lasts
  housed := by
    rw [List.flatMap_cons]
    exact List.rel_append (List.forall₂_map_left_iff.2 one.housed) later.housed
  stands c member j within := by
    rcases List.mem_append.1 member with here | there
    · exact (one.stands c here j within).lasts (later.lasts.raise (Nat.zero_le _) (Nat.zero_le _))
    · exact (later.stands c there j within).lower one.lasts.later one.lasts.forest.size
  fittings := by
    have on : ∀ c ∈ first, c.host = live := fun c member => by
      obtain ⟨_, -, -, same⟩ := exists_left_of_forall₂ one.housed member
      exact same
    have own : (first ++ new).filter (·.host = live) = first := by
      have others : new.filter (·.host = live) = [] := by
        refine List.filter_eq_nil_iff.2 fun c member => ?_
        simpa using fun same : c.host = live => apart (same ▸ later.hosts c member)
      rw [List.filter_append, others, List.append_nil]
      exact List.filter_eq_self.2 fun c member => decide_eq_true (on c member)
    have rest (p : List Nat × NodeId) (member : p ∈ places) :
        (first ++ new).filter (·.host = p.2) = new.filter (·.host = p.2) := by
      have none : first.filter (·.host = p.2) = [] := by
        refine List.filter_eq_nil_iff.2 fun c inside => ?_
        rw [decide_eq_true_eq, on c inside]
        exact fun same => apart (same ▸ List.mem_map_of_mem member)
      rw [List.filter_append, none, List.nil_append]
    have same : first.flatMap (·.fittings v.clone?) = first.flatMap (·.fittings x.clone?) :=
      List.flatMap_congr fun c member => (Instance.fittings_lasts (one.stands c member)
        (later.lasts.raise (Nat.zero_le _) (Nat.zero_le _))).symm
    rw [Episode.fittings_append, one.fittings, later.fittings, List.flatMap_cons, own, same]
    congr 1
    exact List.flatMap_congr fun p member => by rw [rest p member]

end Furnished

/-- What is known of wiring a copy, while a blueprint is mounted. -/
def Blueprint.Wires (b : Blueprint) (o : ObjectId) (z : Zone) : WiredUp σ Wiring :=
  fun address live r s w es v => ∃ new, s.children = r.children ++ new ∧
    (live < w.forest.size → Furnishes b o z address live new w es v)

theorem Plants.furnished {b : Blueprint} {o : ObjectId} {z : Zone}
    {places : List (List Nat × NodeId)} {r s : Wiring} {w v : World σ} {es : List (Episode σ)}
    (plants : Plants (b.Wires o z) places r w es s v) (distinct : (places.map (·.2)).Nodup) :
    ∃ new, s.children = r.children ++ new ∧ Furnished b o z places new w es v := by
  induction plants with
  | done s w => exact ⟨[], (List.append_nil _).symm, .nil b o z w⟩
  | grow mends _ ih =>
      obtain ⟨new, same, furnished⟩ := ih distinct
      exact ⟨new, same, furnished.grow mends⟩
  | step inside wired _ ih =>
      obtain ⟨apart, distinct⟩ := List.nodup_cons.1 distinct
      obtain ⟨first, same, furnishes⟩ := wired
      obtain ⟨new, same', furnished⟩ := ih distinct
      refine ⟨first ++ new, ?_, .step (furnishes inside) apart furnished⟩
      rw [same', same, List.append_assoc]

end LiveTemplates
