/-
# LiveTemplates.Proofs.Instance.Population -- how many instances there are

Compiling comes to an end, and what it gives is finite: a blueprint nests no more blueprints
than its compiler keeps.  Attaching it makes one instance for the blueprint and one for each
use of a blueprint inside of it, and its manifest has one entry for each.

* `Blueprint.Made.peopled`: the instances inside are those of the blueprints inside;
* `Blueprint.Bounded`: what is finite about a blueprint;
* `Compiler.compile_terminates`: whatever was compiled before, compiling a class comes to an
  end, as do describing the blueprint and attaching it if no input calls a method.
-/
import LiveTemplates.Blueprint.Manifest
import LiveTemplates.Proofs.Blueprint.Depth
import LiveTemplates.Proofs.Instance.Halting
import LiveTemplates.Proofs.Instance.Lineup

namespace LiveTemplates

set_option autoImplicit false

variable {σ : Type}

/-! ## Counting blueprints -/

mutual

/-- How many manifests a manifest consists of. -/
def Manifest.size : Manifest → Nat
  | .mk _ _ _ children _ => 1 + sizeAll children

/-- How many manifests several of them consist of. -/
def Manifest.sizeAll : List Manifest → Nat
  | [] => 0
  | m :: rest => m.size + sizeAll rest

end

namespace Blueprint

theorem populationAll_eq (children : List (Spot × Blueprint)) :
    populationAll children = (children.map (·.2.population)).sum := by
  induction children with
  | nil => rfl
  | cons child rest ih => rw [populationAll, ih, List.map_cons, List.sum_cons]

/-- One for the blueprint itself, and those of its children. -/
theorem population_eq (b : Blueprint) :
    b.population = 1 + (b.children.map (·.2.population)).sum := by
  obtain ⟨compiler, cls, template, bindings, children, warnings⟩ := b
  rw [population, populationAll_eq]
  rfl

mutual

theorem length_all : ∀ b : Blueprint, b.all.length = b.population
  | mk _ _ _ _ children _ => by
      rw [all, population, List.length_cons, length_allOf children, Nat.add_comm]

theorem length_allOf : ∀ children : List (Spot × Blueprint),
    (allOf children).length = populationAll children
  | [] => rfl
  | (_, b) :: rest => by
      rw [allOf, populationAll, List.length_append, length_all b, length_allOf rest]

end

mutual

/-- A manifest has an entry for each blueprint. -/
theorem size_manifest : ∀ b : Blueprint, b.manifest.size = b.population
  | mk _ _ _ _ children _ => by
      rw [manifest, Manifest.size, population, sizeAll_manifests children]

theorem sizeAll_manifests : ∀ children : List (Spot × Blueprint),
    Manifest.sizeAll (manifests children) = populationAll children
  | [] => rfl
  | (_, b) :: rest => by
      rw [manifests, Manifest.sizeAll, populationAll, size_manifest b, sizeAll_manifests rest]

end

end Blueprint

/-! ## Counting instances -/

/-- Lists are permuted if they are put together of permuted ones. -/
theorem perm_flatMap_of_forall₂ {α β γ : Type} {f : α → List γ} {g : β → List γ} {xs : List α}
    {ys : List β} (each : List.Forall₂ (fun x y => (f x).Perm (g y)) xs ys) :
    (xs.flatMap f).Perm (ys.flatMap g) := by
  induction each with
  | nil => exact .refl _
  | cons first _ ih => exact first.append ih

/-- The instances inside of one that was mounted are those of the blueprints inside. -/
theorem Blueprint.Made.peopled {u : UserCode σ} {z : Zone} {b : Blueprint} {o : ObjectId}
    {host : NodeId} {w v : World σ} {i : Instance} (made : b.Made)
    (ran : (b.mount u z o host).run w = some (i, v)) : (i.all.map (·.blueprint)).Perm b.all := by
  induction made generalizing o host w i v with
  | @intro b bindings spots tagged single inside ih =>
      have made : b.Made := .intro bindings spots tagged single inside
      obtain ⟨places, mounts⟩ := mount_mounts ran
      have perm := made.inOrder_perm i.childObjects
      have lineup := (List.forall₂_and_left _ _).2
        ⟨fun child member => (List.of_mem_zip (perm.subset member)).1, mounts.lineup made⟩
      -- as the elements are completed, each instance has those of its own blueprint
      have each := lineup.imp (S := fun child c => child.1.2.all.Perm (c.all.map (·.blueprint)))
        fun child c ⟨member, _, _, _, _, ran⟩ => (ih child.1 member ran).symm
      have full : (b.children.zip i.childObjects).map (·.1) = b.children :=
        List.map_fst_zip (by rw [mounts.childObjects_eq made, List.length_range'])
      have below : (b.children.zip i.childObjects).flatMap (·.1.2.all) =
          b.children.flatMap (·.2.all) := by
        conv_rhs => rw [← full, List.flatMap_map]
      rw [Instance.all_eq, Instance.inside, Instance.allOf_eq, all_eq, List.map_cons,
        mounts.blueprint_eq, List.map_flatMap, ← below]
      exact ((perm_flatMap_of_forall₂ each).symm.trans (perm.flatMap_right _)).cons b

/-! ## Coming to an end -/

/-- A blueprint is finite, and so is all that is made of it: it nests a bounded number of
blueprints, it is counted by counting its children, its manifest has an entry for each use of a
blueprint, and there is an instance for each whenever it is attached, which comes to an end if no
input calls a method. -/
structure Blueprint.Bounded (b : Blueprint) (bound : Nat) : Prop where
  nested : b.height ≤ bound
  counted : b.population = 1 + (b.children.map (·.2.population)).sum
  described : b.manifest.size = b.population
  peopled : ∀ {σ : Type} (u : UserCode σ) host z w i v, (b.attach u host z).run w = some (i, v) →
    (i.all.map (·.blueprint)).Perm b.all ∧ i.all.length = b.population
  attached : b.CallFree → ∀ {σ : Type} (u : UserCode σ) host z w, ∃ i v,
    (b.attach u host z).run w = some (i, v)

/-- What a compiler keeps is finite. -/
theorem Blueprint.Made.bounded {b : Blueprint} (made : b.Made) {bound : Nat}
    (nested : b.height ≤ bound) : b.Bounded bound where
  nested := nested
  counted := b.population_eq
  described := b.size_manifest
  peopled u host z w i v ran := by
    obtain ⟨_, mounted, -⟩ := attach_mount ran
    have perm := made.peopled mounted
    exact ⟨perm, by rw [← length_all, ← perm.length_eq, List.length_map]⟩
  attached free _ u host z := free.attach_halts u host z

/-- Whatever was compiled before, with whatever options, compiling a class of whatever catalog
comes to an end, and the blueprint that it gives is finite. -/
theorem Compiler.compile_terminates (serial : Nat) (options : CompileOptions)
    (calls : List (Catalog × ClassRef)) (catalog : Catalog) (c : ClassRef) :
    Ends (after { serial, options } calls) catalog c ∧
      ∀ b k' notices,
        (after { serial, options } calls).run (compile catalog c) = (.ok b, k', notices) →
        b.Bounded k'.blueprints.length := by
  have idle := inProgress_after serial options calls
  refine ⟨ends idle catalog c, fun b k' notices run => ?_⟩
  have last := eq_after_concat run
  have found : k'.find? c = some b := by
    have compiled := (after_compile catalog c idle (layered_after serial options calls)).found b
    rw [run_eq, Prod.mk.injEq, Prod.mk.injEq] at run
    exact run.2.1 ▸ (compiled run.1).2
  have made : b.Made := made_after (last ▸ found)
  have layered : Layered k'.blueprints := last ▸ layered_after serial options _
  exact made.bounded (layered.height_le found)

/-! ### Two components inside of one, beside a cycle -/

namespace Crowd

/-- A component is used twice next to an input, and another class uses itself. -/
def catalog : Catalog :=
  [("Outer", ⟨"<p [title]=\"label\"></p><in></in><in></in>", [⟨"In", true⟩]⟩),
    ("Knot", ⟨"<knot></knot>", [⟨"Knot", true⟩]⟩)]

def outer : ClassRef := ⟨"Outer", true⟩

def knot : ClassRef := ⟨"Knot", true⟩

/-- A compiler at which compiling the other class was tried. -/
def compiler : Compiler :=
  Compiler.after { serial := 0 } [(catalog, knot)]

/-- What stands in the programs of the bindings of a blueprint and of those inside. -/
def programs (b : Blueprint) : List (Option (List Occurrence)) :=
  b.all.flatMap fun d => d.bindings.map fun binding =>
    binding.2.expression.toOption.map (·.program.occurrences)

set_option maxRecDepth 20000 in
theorem compiled : (compiler.run (Compiler.compile catalog outer)).1.toOption.map
    (fun b => (b.population, programs b)) = some (3, [some [.read "label"]]) := by
  cbv

/-- Where all programs read one member, no input calls a method. -/
theorem callFree {b : Blueprint} (read : programs b = [some [.read "label"]]) : b.CallFree := by
  intro d inside binding member _ e parsed method calls
  have listed : some e.program.occurrences ∈ programs b :=
    List.mem_flatMap.2 ⟨d, inside, List.mem_map.2 ⟨binding, member, by rw [parsed]; rfl⟩⟩
  rw [read, List.mem_singleton, Option.some.injEq] at listed
  rw [Program.Calls, listed] at calls
  simp at calls

end Crowd

/-- So it is where a class that uses itself failed before: the other one is compiled, and has
three instances. -/
theorem Compiler.compile_terminates_crowd :
    Ends Crowd.compiler Crowd.catalog Crowd.outer ∧ ∃ b k' notices,
      Crowd.compiler.run (compile Crowd.catalog Crowd.outer) = (.ok b, k', notices) ∧
        b.Bounded k'.blueprints.length ∧ b.population = 3 ∧
          ∃ i v, (b.attach .idle 0 Nesting.near).run Nesting.blank = some (i, v) ∧
            i.all.length = 3 := by
  obtain ⟨ends, finite⟩ :=
    compile_terminates 0 {} [(Crowd.catalog, Crowd.knot)] Crowd.catalog Crowd.outer
  refine ⟨ends, ?_⟩
  obtain ⟨b, made, same⟩ := Option.map_eq_some_iff.1 Crowd.compiled
  obtain ⟨three, read⟩ := Prod.mk.inj same
  rcases run : Crowd.compiler.run (compile Crowd.catalog Crowd.outer) with ⟨outcome, k', notices⟩
  rw [run] at made
  cases outcome with
  | error e => cases made
  | ok d =>
      obtain rfl : d = b := Option.some.inj made
      have bounded := finite d k' notices run
      obtain ⟨i, v, ran⟩ := bounded.attached (Crowd.callFree read) .idle 0 Nesting.near Nesting.blank
      exact ⟨d, k', notices, rfl, bounded, three, i, v, ran,
        (bounded.peopled _ _ _ _ _ _ ran).2.trans three⟩

end LiveTemplates
