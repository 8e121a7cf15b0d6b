/-
# LiveTemplates.Proofs.Template.Nursery -- templates are never touched

Compilers make blueprints, of which the templates are planted in the world in which instances
are attached, do their work and are detached again.  The user's own code does what it likes, as
long as it does not touch the templates itself (`Nursery.Aloof`).

* `Nursery.Step`, `Nursery.Runs`: one thing after the other is done in a world;
* `Nursery.Tidy`: the templates stand, and nothing refers to one of their nodes;
* `Nursery.Step.keeps`: so it goes on to be, and the nodes of the templates are as they were;
* `Nursery.templates_intact`: whatever is done from a world without templates on, all templates
  are as they were when they were planted, nothing refers to one, what the bindings and components
  of a blueprint are looked up by is below the root of its own template, and attaching could as
  well read the nodes that it copies from the planted templates.
-/
import LiveTemplates.Proofs.Document.Starting
import LiveTemplates.Proofs.Template.Tending
import LiveTemplates.Proofs.Template.Tracing

namespace LiveTemplates

set_option autoImplicit false

variable {σ : Type}

/-- The blueprints that a compiler has got on top of those that it had. -/
def Compiler.added (k k' : Compiler) : List (String × Blueprint) :=
  k'.blueprints.drop k.blueprints.length

theorem Compiler.blueprints_added (k : Compiler) (calls : List (Catalog × ClassRef)) :
    (k.after calls).blueprints = k.blueprints ++ k.added (k.after calls) :=
  (List.prefix_iff_eq_append.1 (advance_after k calls).grown).symm

/-- A world with the compilers that are in use, the templates that are planted in it, and the
instances that were attached in it. -/
structure Nursery (σ : Type) where
  world : World σ
  compilers : List Compiler := []
  plants : List Plant := []
  instances : List Instance := []

namespace Nursery

/-- Is it a node of a template? -/
def Template (s : Nursery σ) (n : NodeId) : Prop :=
  ∃ p ∈ s.plants, p.Has n

/-- Is the template of a blueprint planted? -/
def Holds (s : Nursery σ) (b : Blueprint) : Prop :=
  ∃ p ∈ s.plants, p.blueprint = b

/-- Plants a template. -/
def plant (s : Nursery σ) (b : Blueprint) : Nursery σ :=
  { s with
    world := { s.world with forest := (s.world.forest.sow b.template.root).2 }
    plants := s.plants ++ [.new b s.world.forest] }

/-- One thing that can be done: a new compiler; compiling a class; attaching an instance to a
node that is none of a template; a tick, a dispatch, detaching; something of the user's own that
does not touch the templates. -/
inductive Step (u : UserCode σ) (s : Nursery σ) : Nursery σ → Prop
  | founded (serial : Nat) (options : CompileOptions) :
      Step u s { s with compilers := s.compilers ++ [{ serial, options }] }
  | compiled {front back : List Compiler} {k k' : Compiler} {catalog : Catalog} {c : ClassRef}
      {outcome : Except ConfigurationError Blueprint} {v : World σ}
      (known : s.compilers = front ++ k :: back)
      (ran : (Run.compiling u k (Compiler.compile catalog c)).run s.world =
        some ((outcome, k'), v)) :
      Step u s (((k.added k').map (·.2)).foldl plant { s with world := v, compilers := front ++ k' :: back })
  | attached {b : Blueprint} {host : NodeId} {z : Zone} {i : Instance} {v : World σ}
      (planted : s.Holds b) (outside : s.world.forest.Free s.Template host)
      (ran : (b.attach u host z).run s.world = some (i, v)) :
      Step u s { s with world := v, instances := s.instances ++ [i] }
  | ticked {z : Zone} {report : TickReport} {v : World σ}
      (ran : (z.tick u).run s.world = some (report, v)) : Step u s { s with world := v }
  | dispatched {d : Nat} {node : NodeId} {event : String} {count : Nat} {v : World σ}
      (ran : (dispatch u d node event).run s.world = some (count, v)) :
      Step u s { s with world := v }
  | detached (i : Instance) : Step u s { s with world := i.detach s.world }
  | acted {α : Type} {x : Run σ α} {a : α} {v : World σ}
      (aloof : Keeps (World.Spares s.Template (World.Apart s.Template)) x)
      (ran : x.run s.world = some (a, v)) : Step u s { s with world := v }

/-- The user's own code does not touch the templates itself. -/
def Aloof (u : UserCode σ) (s : Nursery σ) : Prop :=
  u.Keeps (World.Spares s.Template (World.Apart s.Template))

/-- One thing after the other is done. -/
def Runs (u : UserCode σ) : Nursery σ → Nursery σ → Prop :=
  Relation.ReflTransGen fun s t => s.Aloof u ∧ s.Step u t

/-- Nothing has been planted or attached in a world. -/
abbrev bare (w : World σ) : Nursery σ :=
  { world := w }

/-! ## Templates that stand -/

/-- The templates stand, and nothing refers to one of their nodes. -/
structure Rooted (s : Nursery σ) : Prop where
  apart : s.world.Apart s.Template
  stands : ∀ p ∈ s.plants, p.Stands s.world.forest
  instances : ∀ i ∈ s.instances, i.Free s.Template s.world

/-- Moreover they are those of all that the compilers have made, each in some history. -/
structure Tidy (s : Nursery σ) : Prop extends Rooted s where
  made : ∀ k ∈ s.compilers, ∃ serial options calls,
    k = Compiler.after { serial, options } calls
  planted : ∀ k ∈ s.compilers, ∀ entry ∈ k.blueprints, s.Holds entry.2
  registered : ∀ p ∈ s.plants, ∃ k ∈ s.compilers, k.find? p.blueprint.cls = some p.blueprint

/-- The templates are as they were, and no other node has become one of theirs. -/
structure Keeping (s t : Nursery σ) : Prop where
  plants : s.plants <+: t.plants
  same : ∀ n, s.Template n → t.world.forest.nodes[n]? = s.world.forest.nodes[n]?
  free : ∀ n, s.world.forest.Free s.Template n → t.world.forest.Free t.Template n

variable {s t r : Nursery σ}

theorem Template.mono (plants : s.plants <+: t.plants) {n : NodeId} (has : s.Template n) :
    t.Template n := by
  obtain ⟨p, member, has⟩ := has
  exact ⟨p, plants.subset member, has⟩

theorem Holds.mono (plants : s.plants <+: t.plants) {b : Blueprint} (holds : s.Holds b) :
    t.Holds b := by
  obtain ⟨p, member, own⟩ := holds
  exact ⟨p, plants.subset member, own⟩

theorem compilers_plantAll (bs : List Blueprint) (s : Nursery σ) :
    (bs.foldl plant s).compilers = s.compilers := by
  induction bs generalizing s with
  | nil => rfl
  | cons b rest ih => exact ih (s.plant b)

theorem template_congr (plants : t.plants = s.plants) : t.Template = s.Template := by
  funext n
  rw [Template, Template, plants]

theorem template_plant (s : Nursery σ) (b : Blueprint) : (s.plant b).Template =
    fun n => s.Template n ∨ s.world.forest.size ≤ n ∧ n < (s.plant b).world.forest.size := by
  funext n
  simp [Template, plant, Plant.Has, Plant.new, or_and_right, exists_or]

namespace Keeping

theorem refl (s : Nursery σ) : s.Keeping s :=
  ⟨List.prefix_rfl, fun _ _ => rfl, fun _ => id⟩

theorem trans (first : s.Keeping t) (second : t.Keeping r) : s.Keeping r where
  plants := first.plants.trans second.plants
  same n has := (second.same n (has.mono first.plants)).trans (first.same n has)
  free n free := second.free n (first.free n free)

end Keeping

namespace Rooted

variable (rooted : s.Rooted)

include rooted

/-- What is done leaves the templates alone, if they are spared. -/
theorem moves (plants : t.plants = s.plants)
    (spares : World.Spares s.Template (World.Apart s.Template) s.world t.world)
    (instances : ∀ i ∈ t.instances, i ∈ s.instances ∨ i.Free s.Template t.world) :
    t.Rooted ∧ s.Keeping t := by
  obtain ⟨apart, stays⟩ := spares rooted.apart
  have template := template_congr plants
  refine ⟨⟨template ▸ apart, fun p member => ?_, fun i member => ?_⟩,
    plants ▸ List.prefix_rfl, stays.same, fun n free => template ▸ free.later stays.size⟩
  · rw [plants] at member
    exact (rooted.stands p member).stays fun n has => stays.same n ⟨p, member, has⟩
  · rw [template]
    exact (instances i member).elim (fun old => (rooted.instances i old).later stays) id

/-- Planting one more template leaves the others alone. -/
theorem plant (b : Blueprint) : (s.plant b).Rooted ∧ s.Keeping (s.plant b) := by
  have sprouts := Forest.sow_sprouts b.template.root s.world.forest
  have size := Forest.size_sow b.template.root s.world.forest
  have same (n : NodeId) (has : s.Template n) :
      (s.plant b).world.forest.nodes[n]? = s.world.forest.nodes[n]? :=
    sprouts.old n (rooted.apart.closed.inside n has)
  have free {n : NodeId} (free : s.world.forest.Free s.Template n) :
      (s.plant b).world.forest.Free (s.plant b).Template n := by
    rw [template_plant]
    refine ⟨Nat.lt_trans free.inside size, not_or.2 ⟨free.away, fun new => ?_⟩⟩
    exact Nat.not_le.2 free.inside new.1
  refine ⟨⟨⟨?_, fun n refers => ?_⟩, fun p member => ?_, fun i member j inside => ?_⟩,
    List.prefix_append _ _, same, fun n => free⟩
  · rw [template_plant]
    exact rooted.apart.closed.sow b.template.root
  · exact free (rooted.apart.refers n (refers.congr rfl rfl (List.Subset.refl _)))
  · rcases List.mem_append.1 member with old | new
    · exact (rooted.stands p old).stays fun n has => same n ⟨p, old, has⟩
    · rw [List.mem_singleton.1 new]
      exact Plant.stands_new b s.world.forest
  · exact free (rooted.instances i member j inside)

/-- Planting templates, one after the other. -/
theorem plantAll (bs : List Blueprint) : (bs.foldl Nursery.plant s).Rooted ∧
    s.Keeping (bs.foldl Nursery.plant s) ∧
    (∀ p ∈ (bs.foldl Nursery.plant s).plants, p ∈ s.plants ∨ p.blueprint ∈ bs) ∧
    ∀ b ∈ bs, (bs.foldl Nursery.plant s).Holds b := by
  induction bs generalizing s with
  | nil => exact ⟨rooted, .refl s, fun _ => .inl, nofun⟩
  | cons b rest ih =>
      obtain ⟨rooted', keeping⟩ := rooted.plant b
      obtain ⟨last, later, known, holds⟩ := ih rooted'
      refine ⟨last, keeping.trans later, fun p member => ?_, fun d member => ?_⟩
      · rcases known p member with before | new
        · refine (List.mem_append.1 before).imp_right fun new => ?_
          rw [List.mem_singleton.1 new]
          exact List.mem_cons_self
        · exact .inr (List.mem_cons_of_mem _ new)
      · rcases List.mem_cons.1 member with rfl | other
        · refine Holds.mono later.plants ⟨.new d s.world.forest, ?_, rfl⟩
          exact List.mem_append_right _ List.mem_cons_self
        · exact holds d other

end Rooted

/-! ## Steps -/

theorem Tidy.moves (tidy : s.Tidy) (plants : t.plants = s.plants)
    (compilers : t.compilers = s.compilers)
    (spares : World.Spares s.Template (World.Apart s.Template) s.world t.world)
    (instances : ∀ i ∈ t.instances, i ∈ s.instances ∨ i.Free s.Template t.world) :
    t.Tidy ∧ s.Keeping t := by
  obtain ⟨rooted, keeping⟩ := tidy.toRooted.moves plants spares instances
  refine ⟨⟨rooted, ?_, ?_, ?_⟩, keeping⟩
  · rw [compilers]
    exact tidy.made
  · rw [compilers]
    exact fun k member entry kept => (tidy.planted k member entry kept).mono keeping.plants
  · rw [plants, compilers]
    exact tidy.registered

/-- Compiling plants what it adds. -/
theorem Tidy.compiled (tidy : s.Tidy) {u : UserCode σ} {front back : List Compiler}
    {k k' : Compiler} {catalog : Catalog} {c : ClassRef}
    {outcome : Except ConfigurationError Blueprint} {v : World σ}
    (known : s.compilers = front ++ k :: back)
    (ran : (Run.compiling u k (Compiler.compile catalog c)).run s.world =
      some ((outcome, k'), v)) :
    let t := ((k.added k').map (·.2)).foldl plant
      { s with world := v, compilers := front ++ k' :: back }
    t.Tidy ∧ s.Keeping t := by
  intro t
  rw [Run.run_compiling] at ran
  obtain ⟨same, rfl⟩ := Prod.mk.inj (Option.some.inj ran)
  have after : k' = k.after [(catalog, c)] := (Prod.mk.inj same).2.symm
  have own : k ∈ s.compilers := known ▸ List.mem_append_right _ List.mem_cons_self
  obtain ⟨serial, options, calls, made⟩ := tidy.made k own
  have history : k' = .after { serial, options } (calls ++ [(catalog, c)]) := by
    rw [after, made, Compiler.after_append]
  have blueprints : k'.blueprints = k.blueprints ++ k.added k' :=
    after ▸ k.blueprints_added [(catalog, c)]
  have layered : Layered k'.blueprints :=
    history ▸ Compiler.layered_after serial options (calls ++ [(catalog, c)])
  have others {x : Compiler} (member : x ∈ s.compilers) : x = k ∨ x ∈ front ++ k' :: back := by
    rw [known] at member
    simp only [List.mem_append, List.mem_cons] at member ⊢
    tauto
  have back_again {x : Compiler} (member : x ∈ front ++ k' :: back) :
      x ∈ s.compilers ∨ x = k' := by
    rw [known]
    simp only [List.mem_append, List.mem_cons] at member ⊢
    tauto
  have agrees := World.Agrees.intro s.world s.world.target s.world.busy s.world.pins
    s.world.serial (u.noticed (k.run (Compiler.compile catalog c)).2.2 s.world.user)
  obtain ⟨rooted, reported⟩ := tidy.toRooted.moves
    (t := { s with world := _, compilers := front ++ k' :: back }) rfl
    (fun apart => ⟨(World.Apart.guards s.Template).agrees apart agrees, agrees.stays⟩) fun _ => .inl
  obtain ⟨rooted, later, new, holds⟩ := rooted.plantAll ((k.added k').map (·.2))
  have compilers : t.compilers = front ++ k' :: back := compilers_plantAll _ _
  have keeping := reported.trans later
  refine ⟨⟨rooted, fun x member => ?_, fun x member entry kept => ?_, fun p member => ?_⟩, keeping⟩
  · rw [compilers] at member
    rcases back_again member with old | rfl
    · exact tidy.made x old
    · exact ⟨_, _, _, history⟩
  · rw [compilers] at member
    rcases back_again member with old | rfl
    · exact (tidy.planted x old entry kept).mono keeping.plants
    · rw [blueprints] at kept
      rcases List.mem_append.1 kept with old | added
      · exact (tidy.planted k own entry old).mono keeping.plants
      · exact holds _ (List.mem_map_of_mem added)
  · rw [compilers]
    have here : k' ∈ front ++ k' :: back := List.mem_append_right _ List.mem_cons_self
    rcases new p member with old | added
    · obtain ⟨x, inside, found⟩ := tidy.registered p old
      rcases others inside with rfl | still
      · refine ⟨k', here, ?_⟩
        rw [after]
        exact (Compiler.advance_after x [(catalog, c)]).find? found
      · exact ⟨x, still, found⟩
    · obtain ⟨entry, added, same⟩ := List.mem_map.1 added
      refine ⟨k', here, ?_⟩
      rw [← same]
      exact layered.listed (blueprints ▸ List.mem_append_right _ added)

/-- Whatever is done, the templates are as they were, and nothing refers to one of their nodes. -/
theorem Step.keeps {u : UserCode σ} (step : s.Step u t) (aloof : s.Aloof u) (tidy : s.Tidy) :
    t.Tidy ∧ s.Keeping t := by
  have guards := World.Apart.guards (σ := σ) s.Template
  cases step with
  | founded serial options =>
      have rooted := tidy.toRooted
      refine ⟨⟨⟨rooted.apart, rooted.stands, rooted.instances⟩, fun k member => ?_,
        fun k member => ?_, fun p member => ?_⟩, List.prefix_rfl, fun _ _ => rfl, fun _ => id⟩
      · rcases List.mem_append.1 member with old | new
        · exact tidy.made k old
        · exact ⟨serial, options, [], List.mem_singleton.1 new⟩
      · rcases List.mem_append.1 member with old | new
        · exact tidy.planted k old
        · rw [List.mem_singleton.1 new]
          exact nofun
      · obtain ⟨k, inside, found⟩ := tidy.registered p member
        exact ⟨k, List.mem_append_left _ inside, found⟩
  | compiled known ran => exact tidy.compiled known ran
  | @attached b host z i v planted outside ran =>
      obtain ⟨apart, stays, free⟩ :=
        World.During.attach guards aloof.call z b outside tidy.apart i v ran
      refine tidy.moves rfl rfl (fun _ => ⟨apart, stays⟩) fun j member => ?_
      refine (List.mem_append.1 member).imp_right fun new => ?_
      rw [List.mem_singleton.1 new]
      exact free
  | ticked ran => exact tidy.moves rfl rfl (World.Apart.tick aloof _ _ _ _ ran) fun _ => .inl
  | dispatched ran =>
      exact tidy.moves rfl rfl (World.Apart.dispatch aloof _ _ _ _ _ _ ran) fun _ => .inl
  | detached i => exact tidy.moves rfl rfl (World.Apart.detach i s.world) fun _ => .inl
  | acted spares ran => exact tidy.moves rfl rfl (spares _ _ _ ran) fun _ => .inl

/-- The same holds for one thing after the other. -/
theorem Runs.keeps {u : UserCode σ} (runs : s.Runs u t) (tidy : s.Tidy) :
    t.Tidy ∧ s.Keeping t := by
  induction runs with
  | refl => exact ⟨tidy, .refl s⟩
  | tail _ step ih =>
      obtain ⟨tidy, keeping⟩ := ih
      obtain ⟨tidy, later⟩ := step.2.keeps step.1 tidy
      exact ⟨tidy, keeping.trans later⟩

/-- Nothing is planted in a world as long as nothing has been done. -/
theorem tidy_bare {w : World σ} (sound : w.Apart fun _ => False) : (bare w).Tidy where
  apart := by
    have none : (bare w).Template = fun _ => False := by
      funext n
      simp [Template]
    rw [none]
    exact sound
  stands := nofun
  instances := nofun
  made := nofun
  planted := nofun
  registered := nofun

/-- What a compiler finds is planted. -/
theorem Tidy.found (tidy : s.Tidy) {k : Compiler} (known : k ∈ s.compilers) {c : ClassRef}
    {b : Blueprint} (found : k.find? c = some b) : s.Holds b := by
  obtain ⟨front, back, split, -⟩ := List.lookup_eq_some_iff.1 found
  refine tidy.planted k known (c.id, b) ?_
  rw [split]
  exact List.mem_append_right _ List.mem_cons_self

/-- The templates of all that is inside of a blueprint are planted, too. -/
theorem Tidy.inside (tidy : s.Tidy) {b d : Blueprint} (holds : s.Holds b)
    (within : Relation.ReflTransGen Blueprint.Contains b d) : s.Holds d := by
  obtain ⟨p, member, rfl⟩ := holds
  rcases Relation.reflTransGen_iff_eq_or_transGen.1 within with rfl | deeper
  · exact ⟨p, member, rfl⟩
  · obtain ⟨k, known, found⟩ := tidy.registered p member
    obtain ⟨serial, options, calls, rfl⟩ := tidy.made k known
    exact tidy.found known ((Compiler.layered_after serial options calls).inside found deeper)

/-! ## All templates -/

/-- A choice of a plant for each blueprint of which the template is planted. -/
def Plots (s : Nursery σ) (plot : Blueprint → Plant) : Prop :=
  ∀ b, s.Holds b → plot b ∈ s.plants ∧ (plot b).blueprint = b

/-- What holds of all templates, and is kept from one moment to another. -/
structure Intact (u : UserCode σ) (s t : Nursery σ) : Prop where
  /-- Whatever a compiler has made is planted. -/
  registered : ∀ k ∈ t.compilers, ∀ entry ∈ k.blueprints, t.Holds entry.2
  /-- No template is lost. -/
  plants : s.plants <+: t.plants
  /-- Its nodes are the same, with their texts, attributes, parents and children. -/
  same : ∀ n, s.Template n → t.world.forest.nodes[n]? = s.world.forest.nodes[n]?
  /-- They are the nodes of the tree that was compiled, and each handle leads to its own. -/
  stands : ∀ p ∈ t.plants, p.Stands t.world.forest
  /-- No refresh, listener or mounted list refers to one of them. -/
  refers : ∀ n, t.world.Refers n → ¬ t.Template n
  /-- None is a host. -/
  hosts : ∀ i ∈ t.instances, ∀ j ∈ i.all, ¬ t.Template j.host
  /-- The handles of bindings and components lead below the root of their own template. -/
  below : ∀ p ∈ t.plants, ∀ spot ∈ p.blueprint.spots, ∃ n, p.node spot.address = some n ∧
    p.Has n ∧ t.world.forest.Above p.root n
  /-- Attaching could as well read the nodes from the planted templates. -/
  traced : t.Aloof u → ∀ b plot host z, t.Holds b → t.Plots plot →
    t.world.forest.Free t.Template host →
      (b.attachFrom u plot host z).run t.world = (b.attach u host z).run t.world

/-- Templates are never touched: whatever is compiled, attached to hosts outside of the templates,
ticked, dispatched and detached, as long as the user's own code does not touch them itself. -/
theorem templates_intact {u : UserCode σ} {w : World σ} (sound : w.Apart fun _ => False)
    (first : (bare w).Runs u s) (later : s.Runs u t) : Intact u s t := by
  obtain ⟨tidy, -⟩ := first.keeps (tidy_bare sound)
  obtain ⟨tidy, keeping⟩ := later.keeps tidy
  refine ⟨tidy.planted, keeping.plants, keeping.same, tidy.stands,
    fun n refers => (tidy.apart.refers n refers).away,
    fun i member j inside => (tidy.instances i member j inside).away,
    fun p member spot place => ?_, fun aloof b plot host z holds plots outside => ?_⟩
  · obtain ⟨k, known, found⟩ := tidy.registered p member
    obtain ⟨serial, options, calls, rfl⟩ := tidy.made k known
    exact (tidy.stands p member).spot (Compiler.made_after found) place
  · refine Blueprint.Planted.attachFrom (World.Apart.guards t.Template) aloof.call tidy.apart
      (fun d within => ?_) outside
    obtain ⟨member, own⟩ := plots d (tidy.inside holds within)
    exact ⟨own, tidy.stands _ member, fun n has => ⟨_, member, has⟩⟩

/-- The templates of all that a new compiler makes for a class. -/
def sown (u : UserCode σ) (catalog : Catalog) (c : ClassRef) (w : World σ) : Nursery σ :=
  let k := Compiler.after { serial := 0 } [(catalog, c)]
  let reports := (Compiler.run { serial := 0 } (Compiler.compile catalog c)).2.2
  (k.blueprints.map (·.2)).foldl plant
    { world := { w with user := u.noticed reports w.user }, compilers := [k] }

theorem runs_sown {u : UserCode σ} (aloof : ∀ s, Aloof u s) (catalog : Catalog) (c : ClassRef)
    (w : World σ) : (bare w).Runs u (sown u catalog c w) := by
  have ran := Run.run_compiling u { serial := 0 } (Compiler.compile catalog c) w
  let founded : Nursery σ := { bare w with compilers := [{ serial := 0 }] }
  have known : founded.compilers = [] ++ { serial := 0 } :: [] := rfl
  have step := Step.compiled known ran
  exact .tail (.single ⟨aloof _, .founded 0 {}⟩) ⟨aloof _, step⟩

/-! ### Two instances, one after the other -/

namespace Seedlings

/-- All objects have one name, which is the user's own state. -/
def user : UserCode String where
  get _ member name := (if member = "name" then some (.text name) else none, name)
  set _ _ _ name := (.ok (), name)
  call _ _ _ := return .ok .undefined
  handler _ := return
  refresh _ := return .ok ()
  construct _ _ name := name
  notice _ name := name
  holds _ _ := true

def catalog : Catalog :=
  [("Outer", ⟨"<p [title]=name>Hello<in></in></p>", [⟨"In", true⟩]⟩),
    ("In", ⟨"<b (click)=name></b>", []⟩)]

def outer : ClassRef := ⟨"Outer", true⟩

def near : Zone := .mk 0 (.dispatcher 0)

/-- A document that is one element, and a zone. -/
def start : World String where
  forest := ⟨#[{ data := .element .html "div" [] }]⟩
  document := 0
  zones := #[{}]
  user := "first"

theorem sound : start.Apart fun _ => False where
  closed := by
    refine ⟨nofun, fun k n member => ?_⟩
    match k with
    | 0 => cases member
    | k + 1 => cases member
  refers n refers := by
    have none (z : Zone) : start.zone z = {} := by
      simp only [World.zone, start]
      cases z.id <;> rfl
    have silent (d : Nat) : start.listeners d = [] := by
      simp only [World.listeners, start]
      cases d <;> rfl
    cases refers with
    | @refresh z _ _ registered => simp [none z] at registered
    | @wrapper z _ registered => simp [none z] at registered
    | @listener d _ registered => simp [silent d] at registered
    | owned attached => cases attached
    | mounted attached => cases attached

theorem aloof (s : Nursery String) : s.Aloof user where
  handler _ := .total (fun _ => rfl) fun _ => (World.Sheds.refl _).spares
  refresh _ := .total (fun _ => rfl) fun _ => (World.Sheds.refl _).spares
  call _ _ _ := .total (fun _ => rfl) fun _ => (World.Sheds.refl _).spares

/-- The templates are planted behind the document. -/
theorem roots : (sown user catalog outer start).plants.map (·.root) = [1, 3] := by
  cbv

/-- An instance is attached, is given another name, ticks and reacts to a click; then another one
is attached, and the first is detached. -/
theorem played :
    (((Compiler.after { serial := 0 } [(catalog, outer)]).find? outer).bind fun b =>
      ((b.attach user 0 near).run (sown user catalog outer start).world).bind fun (i, w) =>
        ((near.tick user).run { w with user := "later" }).bind fun (_, w) =>
          ((dispatch user 0 12 "click").run w).bind fun (n, w) =>
            ((b.attach user 0 near).run w).map fun (_, w) =>
              (n, ((i.detach w).forest.children 0).map fun n =>
                ((i.detach w).forest.data n).attr? "title")) = some (1, [some "later"]) := by
  cbv

end Seedlings

open Seedlings in
/-- Two instances of a blueprint with another one inside, of which the first is gone in the end. -/
theorem templates_intact_seedlings : (start.Apart fun _ => False) ∧
    ∃ s t, (bare start).Runs user s ∧ s.Runs user t ∧ s.Intact user t ∧
      s.plants.map (·.root) = [1, 3] ∧
      (t.world.forest.children 0).map (fun n => (t.world.forest.data n).attr? "title") =
        [some "later"] := by
  have first := runs_sown aloof catalog outer start
  have known : Compiler.after { serial := 0 } [(catalog, outer)] ∈
      (sown user catalog outer start).compilers := by
    rw [sown, compilers_plantAll]
    exact List.mem_cons_self
  have roots := roots
  obtain ⟨b, found, rest⟩ := Option.bind_eq_some_iff.1 played
  -- how the templates were planted is not looked into any more
  generalize sown user catalog outer start = s at *
  obtain ⟨tidy, keeping⟩ := first.keeps (tidy_bare sound)
  have free := keeping.free 0 ⟨by decide, nofun⟩
  have holds := tidy.found known found
  clear known found
  obtain ⟨⟨i, w₁⟩, attached, rest⟩ := Option.bind_eq_some_iff.1 rest
  obtain ⟨⟨_, w₂⟩, ticked, rest⟩ := Option.bind_eq_some_iff.1 rest
  obtain ⟨⟨_, w₃⟩, clicked, rest⟩ := Option.bind_eq_some_iff.1 rest
  obtain ⟨⟨j, w₄⟩, again, same⟩ := Option.map_eq_some_iff.1 rest
  have renamed : Keeps (World.Spares s.Template (World.Apart s.Template))
      (Run.onUser fun _ : String => ((), "later")) :=
    .total (Run.run_onUser _) fun w apart => by
      have agrees := World.Agrees.intro w w.target w.busy w.pins w.serial "later"
      exact ⟨(World.Apart.guards _).agrees apart agrees, agrees.stays⟩
  have done : s.Runs user { s with world := w₃, instances := s.instances ++ [i] } :=
    .tail (.tail (.tail (.single ⟨aloof _, .attached holds free attached⟩)
      ⟨aloof _, .acted renamed (Run.run_onUser _ _)⟩) ⟨aloof _, .ticked ticked⟩)
      ⟨aloof _, .dispatched clicked⟩
  have later := (done.keeps tidy).2
  have more := done.tail ⟨aloof _, .attached (holds.mono later.plants) (later.free 0 free) again⟩
  have last := more.tail ⟨aloof _, .detached i⟩
  exact ⟨sound, _, _, first, last, templates_intact sound first last, roots,
    (Prod.mk.inj same).2⟩

end Nursery

end LiveTemplates
