/-
# LiveTemplates.Proofs.Blueprint.Uses -- which classes compile

A class uses another if this is the last that it declares for a tag, and its template has
an element with that tag (`Catalog.Uses`).  Whether a class compiles is a matter of what
it reaches in this graph:

* `Compiler.unfold_sound`: whatever a class that compiles reaches can be read, and is on
  no cycle;
* `Compiler.unfold_complete`: a class that reaches nothing else compiles;
* `Compiler.unfold_recursive`: a class that is reported to include itself does;
* `Compiler.unfold_trimmed`: declarations of classes that are not used make no
  difference (`Catalog.trimmed`).
-/
import LiveTemplates.Proofs.Blueprint.Unfolding

namespace LiveTemplates

set_option autoImplicit false

open Relation (ReflTransGen TransGen)

/-! ## The graph of classes -/

/-- The last class that another declares for a tag, if an element of the template of this
has that tag. -/
inductive Catalog.Uses (catalog : Catalog) (c d : ClassRef) : Prop
  | intro {m : Metadata} {t : Template} {before after : List ClassRef}
      {element : List Nat × NodeData} (declared : catalog.metadata c = .ok m)
      (parsed : Template.parse? m.template = some t)
      (listed : m.components = before ++ d :: after) (last : ∀ e ∈ after, e.tag ≠ d.tag)
      (member : element ∈ t.root.elementsBelow) (tagged : element.2.describe = d.tag)

/-- A class has a declaration, and a template that can be read. -/
def Catalog.Readable (catalog : Catalog) (c : ClassRef) : Prop :=
  ∃ m t, catalog.metadata c = .ok m ∧ Template.parse? m.template = some t

theorem Scan.classOf?_eq_some_iff {declared : List ClassRef} {tag : String} {d : ClassRef} :
    classOf? declared tag = some d ↔
      ∃ before after, declared = before ++ d :: after ∧ d.tag = tag ∧ ∀ e ∈ after, e.tag ≠ tag := by
  rw [classOf?, List.find?_eq_some_iff_append]
  constructor
  · rintro ⟨tagged, after, before, split, others⟩
    refine ⟨before.reverse, after.reverse, ?_, by simpa using tagged, ?_⟩
    · rw [← List.reverse_reverse declared, split]
      simp
    · intro e member
      simpa using others e (List.mem_reverse.1 member)
  · rintro ⟨before, after, rfl, tagged, others⟩
    refine ⟨by simpa using tagged, after.reverse, before.reverse, by simp, ?_⟩
    intro e member
    simpa using others e (List.mem_reverse.1 member)

namespace Catalog

variable {catalog : Catalog} {declares : String → Bool} {c d : ClassRef} {m : Metadata}
  {t : Template}

theorem uses_iff (declared : catalog.metadata c = .ok m)
    (parsed : Template.parse? m.template = some t) :
    catalog.Uses c d ↔ ∃ element ∈ t.root.elementsBelow,
      Scan.classOf? m.components element.2.describe = some d := by
  constructor
  · rintro ⟨declared', parsed', listed, last, member, tagged⟩
    cases declared.symm.trans declared'
    cases parsed.symm.trans parsed'
    refine ⟨_, member, Scan.classOf?_eq_some_iff.2 ⟨_, _, listed, tagged.symm, ?_⟩⟩
    rwa [tagged]
  · rintro ⟨element, member, matched⟩
    obtain ⟨before, after, listed, tagged, last⟩ := Scan.classOf?_eq_some_iff.1 matched
    rw [← tagged] at last
    exact .intro declared parsed listed last member tagged.symm

/-- A class that uses another has a declaration, which says how it refers to the other. -/
theorem Uses.matched (uses : catalog.Uses c d) :
    ∃ m tag, catalog.metadata c = .ok m ∧ Scan.classOf? m.components tag = some d := by
  obtain ⟨declared, parsed, listed, last, member, tagged⟩ := uses
  exact ⟨_, _, declared, Scan.classOf?_eq_some_iff.2 ⟨_, _, listed, rfl, last⟩⟩

theorem Uses.usual (uses : catalog.Uses c d) (regular : catalog.Regular declares) :
    d.declared = declares d.id := by
  obtain ⟨m, tag, declared, matched⟩ := uses.matched
  exact regular.used declared matched

theorem Uses.listed (uses : catalog.Uses c d) : c.id ∈ catalog.map (·.1) := by
  obtain ⟨m, tag, declared, matched⟩ := uses.matched
  exact Catalog.listed declared matched

end Catalog

/-! ## Usual options -/

namespace Scan

variable {f : ClassRef → Except ConfigurationError Blueprint} {owner : ClassRef}
  {declared : List ClassRef} {elements : List (List Nat × NodeData)}

/-- Where broken bindings are admitted, only classes that are used can fail. -/
theorem childrenOn_error {e : ConfigurationError}
    (failed : childrenOn f owner declared false elements = .error e) :
    ∃ element ∈ elements, ∃ d, classOf? declared element.2.describe = some d ∧
      f d = .error e := by
  induction elements with
  | nil => cases failed
  | cons element rest ih =>
      simp only [childrenOn, accept_lax] at failed
      cases place : placeOn f declared element with
      | error e' =>
          obtain rfl : e' = e := by simpa [place] using failed
          unfold placeOn at place
          cases matched : classOf? declared element.2.describe with
          | none => simp [matched] at place
          | some d =>
              refine ⟨element, by simp, d, matched, ?_⟩
              cases made : f d <;> simp_all [Except.map]
      | ok here =>
          simp only [place] at failed
          cases later : childrenOn f owner declared false rest with
          | ok more => simp [later, Except.map] at failed
          | error e' =>
              obtain rfl : e' = e := by simpa [later, Except.map] using failed
              obtain ⟨other, member, found⟩ := ih later
              exact ⟨other, List.mem_cons_of_mem _ member, found⟩

/-- All classes that are used have their blueprints where reading comes to its end. -/
theorem childrenOn_used {strict : Bool} {children : List (Spot × Blueprint)}
    (all : childrenOn f owner declared strict elements = .ok children) :
    ∀ element ∈ elements, ∀ d, classOf? declared element.2.describe = some d →
      ∃ b, f d = .ok b := by
  induction elements generalizing children with
  | nil => nofun
  | cons element rest ih =>
      obtain ⟨here, more, place, -, later, rfl⟩ := childrenOn_cons_eq_ok_iff.1 all
      intro other member d matched
      rcases List.mem_cons.1 member with rfl | member
      · rcases placeOn_eq_ok_iff.1 place with ⟨plain, -⟩ | ⟨d', b, matched', made, -⟩
        · cases plain.symm.trans matched
        · cases matched'.symm.trans matched
          exact ⟨b, made⟩
      · exact ih later other member d matched

end Scan

namespace Compiler

variable {catalog : Catalog} {serial : Nat}
  {f : ClassRef → Except ConfigurationError Blueprint} {c : ClassRef}

/-- With the usual options, a class is assembled if it can be read and all that it uses
is there. -/
theorem assemble_usual : (∃ b, assemble catalog {} serial f c = .ok b) ↔
    catalog.Readable c ∧ ∀ d, catalog.Uses c d → ∃ b, f d = .ok b := by
  constructor
  · rintro ⟨b, assembled⟩
    obtain ⟨m, t, children, warnings, declared, parsed, all, -, -⟩ := assemble_eq_ok.1 assembled
    refine ⟨⟨m, t, declared, parsed⟩, fun d uses => ?_⟩
    obtain ⟨element, member, matched⟩ := (Catalog.uses_iff declared parsed).1 uses
    exact Scan.childrenOn_used all element member d matched
  · rintro ⟨⟨m, t, declared, parsed⟩, used⟩
    cases all : Scan.childrenOn f c m.components false t.root.elementsBelow with
    | ok children =>
        exact ⟨_, assemble_eq_ok.2 ⟨m, t, children, _, declared, parsed, all, rfl, rfl⟩⟩
    | error e =>
        obtain ⟨element, member, d, matched, failed⟩ := Scan.childrenOn_error all
        obtain ⟨b, made⟩ := used d ((Catalog.uses_iff declared parsed).2 ⟨element, member, matched⟩)
        cases failed.symm.trans made

/-- With the usual options, a class is reported to include itself only by a class that is
used. -/
theorem assemble_recursive {n : String}
    (failed : assemble catalog {} serial f c = .error (.recursiveComponent n)) :
    ∃ d, catalog.Uses c d ∧ f d = .error (.recursiveComponent n) := by
  unfold assemble at failed
  cases declared : catalog.metadata c with
  | error e =>
      rw [declared] at failed
      obtain rfl : e = .recursiveComponent n := by simpa using failed
      unfold Catalog.metadata at declared
      split at declared <;> cases declared
  | ok m =>
      simp only [declared] at failed
      cases parsed : Template.parse? m.template with
      | none => simp [parsed] at failed
      | some t =>
          simp only [parsed] at failed
          cases all : Scan.childrenOn f c m.components false t.root.elementsBelow with
          | ok children => simp [all, Scan.verdict, Except.map, Except.bind] at failed
          | error e =>
              obtain rfl : e = .recursiveComponent n := by simpa [all, Except.bind] using failed
              obtain ⟨element, member, d, matched, inner⟩ := Scan.childrenOn_error all
              exact ⟨d, (Catalog.uses_iff declared parsed).2 ⟨element, member, matched⟩, inner⟩

/-! ## What a class reaches -/

variable {declares : String → Bool} {depth : Nat} {above : List ClassRef}

theorem any_same_iff : above.any c.same = true ↔ c.id ∈ above.map (·.id) := by
  simp only [ClassRef.same, List.any_eq_true, beq_iff_eq, List.mem_map]
  exact exists_congr fun a => and_congr_right fun _ => eq_comm

/-- With the usual options, a class unfolds if it is not among those around, can be read,
and all that it uses unfolds. -/
theorem unfold_usual : (∃ b, unfold catalog {} serial (depth + 1) above c = .ok b) ↔
    c.id ∉ above.map (·.id) ∧ catalog.Readable c ∧
      ∀ d, catalog.Uses c d → ∃ b, unfold catalog {} serial depth (above ++ [c]) d = .ok b := by
  rw [← any_same_iff, unfold]
  split
  case isTrue busy => simp [busy]
  case isFalse free =>
    rw [assemble_usual]
    exact ⟨fun assembled => ⟨free, assembled⟩, And.right⟩

/-- What is reached from a class that unfolds can be read, is not among the classes
around, and is on no cycle. -/
theorem unfold_sound (unfolded : ∃ b, unfold catalog {} serial depth above c = .ok b) :
    ∀ d, ReflTransGen catalog.Uses c d →
      catalog.Readable d ∧ d.id ∉ above.map (·.id) ∧ ¬ TransGen catalog.Uses d d := by
  induction depth generalizing above c with
  | zero => obtain ⟨_, ⟨⟩⟩ := unfolded
  | succ depth ih =>
      obtain ⟨outside, readable, used⟩ := unfold_usual.1 unfolded
      intro d reached
      rcases ReflTransGen.cases_head reached with rfl | ⟨x, uses, later⟩
      · refine ⟨readable, outside, fun cycle => ?_⟩
        -- a cycle comes back to the class while this is among the classes around
        obtain ⟨x, uses, back⟩ := TransGen.head'_iff.1 cycle
        exact (ih (used x uses) c back).2.1 (by simp)
      · obtain ⟨readable, outside, acyclic⟩ := ih (used x uses) d later
        refine ⟨readable, fun member => outside ?_, acyclic⟩
        rw [List.map_append]
        exact List.mem_append_left _ member

/-- Every class of some reaches a further one, and is referred to as usual. -/
def Around (catalog : Catalog) (declares : String → Bool) (above : List ClassRef)
    (c : ClassRef) : Prop :=
  ∀ a ∈ above, a.declared = declares a.id ∧ TransGen catalog.Uses a c

theorem Around.push {d : ClassRef} (around : Around catalog declares above c)
    (usual : c.declared = declares c.id) (uses : catalog.Uses c d) :
    Around catalog declares (above ++ [c]) d := by
  intro a member
  rcases List.mem_append.1 member with earlier | last
  · exact ⟨(around a earlier).1, (around a earlier).2.tail uses⟩
  · rw [List.mem_singleton.1 last]
    exact ⟨usual, .single uses⟩

/-- A class that is among those that reach it is on a cycle. -/
theorem Around.cycle (around : Around catalog declares above c)
    (usual : c.declared = declares c.id) (busy : c.id ∈ above.map (·.id)) :
    TransGen catalog.Uses c c := by
  obtain ⟨a, present, same⟩ := List.mem_map.1 busy
  obtain ⟨own, reaches⟩ := around a present
  obtain rfl := ClassRef.eq_of_usual same own usual
  exact reaches

/-- Inside of classes that reach it, a class unfolds if all that it reaches can be read
and is on no cycle. -/
theorem unfold_complete (regular : catalog.Regular declares) (room : Room catalog depth above)
    (around : Around catalog declares above c) (usual : c.declared = declares c.id)
    (good : ∀ d, ReflTransGen catalog.Uses c d →
      catalog.Readable d ∧ ¬ TransGen catalog.Uses d d) :
    ∃ b, unfold catalog {} serial depth above c = .ok b := by
  induction depth generalizing above c with
  | zero => exact room.not_zero.elim
  | succ depth ih =>
      have outside : c.id ∉ above.map (·.id) := fun busy =>
        (good c .refl).2 (around.cycle usual busy)
      refine unfold_usual.2 ⟨outside, (good c .refl).1, fun d uses => ?_⟩
      exact ih (room.push outside uses.listed) (around.push usual uses) (uses.usual regular)
        fun x later => good x (.head uses later)

/-- Inside of classes that reach it, a class fails for a class that includes itself only if
it reaches that class, and this is on a cycle. -/
theorem unfold_recursive (regular : catalog.Regular declares) (room : Room catalog depth above)
    (around : Around catalog declares above c) (usual : c.declared = declares c.id) {n : String}
    (failed : unfold catalog {} serial depth above c = .error (.recursiveComponent n)) :
    ∃ d, d.name = n ∧ ReflTransGen catalog.Uses c d ∧ TransGen catalog.Uses d d := by
  induction depth generalizing above c with
  | zero => exact room.not_zero.elim
  | succ depth ih =>
      rw [unfold] at failed
      split at failed
      case isTrue busy =>
        exact ⟨c, by simpa using failed, .refl, around.cycle usual (any_same_iff.1 busy)⟩
      case isFalse free =>
        rw [any_same_iff] at free
        obtain ⟨d, uses, inner⟩ := assemble_recursive failed
        obtain ⟨x, named, reached, cycle⟩ := ih (room.push free uses.listed)
          (around.push usual uses) (uses.usual regular) inner
        exact ⟨x, named, .head uses reached, cycle⟩

end Compiler

/-! ## Declarations without use -/

/-- Declarations without the classes whose tags no element of the template has. -/
def Metadata.trimmed (m : Metadata) : Metadata :=
  match Template.parse? m.template with
  | none => m
  | some t =>
    { m with components := m.components.filter fun d =>
        t.root.elementsBelow.any fun element => element.2.describe == d.tag }

/-- A catalog with all declarations trimmed. -/
def Catalog.trimmed (catalog : Catalog) : Catalog :=
  catalog.map fun (id, m) => (id, m.trimmed)

theorem Metadata.template_trimmed (m : Metadata) : m.trimmed.template = m.template := by
  unfold trimmed
  split <;> rfl

theorem Metadata.trimmed_of_nil (template : String) :
    trimmed { template } = { template } := by
  unfold trimmed
  cases Template.parse? template <;> rfl

theorem Metadata.components_trimmed {m : Metadata} {t : Template}
    (parsed : Template.parse? m.template = some t) :
    m.trimmed.components = m.components.filter fun d =>
      t.root.elementsBelow.any fun element => element.2.describe == d.tag := by
  rw [trimmed, parsed]

/-- The tags of the template stand for the same classes as before. -/
theorem Metadata.classOf?_trimmed {m : Metadata} {t : Template}
    (parsed : Template.parse? m.template = some t) {element : List Nat × NodeData}
    (member : element ∈ t.root.elementsBelow) :
    Scan.classOf? m.trimmed.components element.2.describe =
      Scan.classOf? m.components element.2.describe := by
  rw [components_trimmed parsed, Scan.classOf?, Scan.classOf?, ← List.filter_reverse,
    List.find?_filter]
  refine congrArg (List.find? · m.components.reverse) (funext fun d => ?_)
  by_cases same : d.tag = element.2.describe
  · have used : (t.root.elementsBelow.any fun other => other.2.describe == d.tag) = true :=
      List.any_eq_true.2 ⟨element, member, by simp [same]⟩
    simp [used]
  · simp [same]

theorem Catalog.metadata_trimmed (catalog : Catalog) (c : ClassRef) :
    catalog.trimmed.metadata c = (catalog.metadata c).map Metadata.trimmed := by
  have entry : catalog.trimmed.lookup c.id = (catalog.lookup c.id).map Metadata.trimmed := by
    induction catalog with
    | nil => rfl
    | cons first rest ih =>
        obtain ⟨id, m⟩ := first
        simp only [trimmed, List.map_cons, List.lookup_cons] at ih ⊢
        cases c.id == id
        · exact ih
        · rfl
  unfold metadata
  rw [entry]
  split
  · cases catalog.lookup c.id with
    | none => exact congrArg Except.ok (Metadata.trimmed_of_nil "").symm
    | some m => rfl
  · rfl

theorem Catalog.Regular.trimmed {catalog : Catalog} {declares : String → Bool}
    (regular : catalog.Regular declares) : catalog.trimmed.Regular declares := by
  intro entry member d used
  obtain ⟨⟨id, m⟩, present, rfl⟩ := List.mem_map.1 member
  refine regular _ present d ?_
  simp only [Metadata.trimmed] at used
  split at used
  · exact used
  · exact List.mem_of_mem_filter used

namespace Compiler

variable {catalog : Catalog} {declares : String → Bool} {serial : Nat}

/-- Declarations without use do not change where a class fails, and how. -/
theorem unfold_trimmed (catalog : Catalog) (serial depth : Nat) (above : List ClassRef)
    (c : ClassRef) :
    (unfold catalog.trimmed {} serial depth above c).map (fun _ => ()) =
      (unfold catalog {} serial depth above c).map (fun _ => ()) := by
  induction depth generalizing above c with
  | zero => rfl
  | succ depth ih =>
      rw [unfold, unfold]
      split
      · rfl
      · unfold assemble
        rw [Catalog.metadata_trimmed]
        cases declared : catalog.metadata c with
        | error e => rfl
        | ok m =>
            simp only [Except.map, Metadata.template_trimmed]
            cases parsed : Template.parse? m.template with
            | none => rfl
            | some t =>
                let plain := unfold catalog {} serial depth (above ++ [c])
                let trimmed := unfold catalog.trimmed {} serial depth (above ++ [c])
                have same : (Scan.childrenOn trimmed c m.trimmed.components false
                      t.root.elementsBelow).map (List.map fun _ => ()) =
                    (Scan.childrenOn plain c m.components false
                      t.root.elementsBelow).map (List.map fun _ => ()) :=
                  Scan.childrenOn_map (fun _ => ()) fun element member =>
                    Scan.placeOn_map (fun _ => ()) element
                      (Metadata.classOf?_trimmed parsed member) fun d _ => ih (above ++ [c]) d
                let finish (unused : List ClassRef) (children : List (Spot × Blueprint)) :=
                  (Scan.verdict c false unused).map
                    (Blueprint.mk serial c t (Scan.bindingsOn t.root.elementsBelow) children)
                exact map_bind_congr (k := finish _) same fun _ _ _ => by
                  simp [finish, Except.map, Scan.verdict]

/-- With the usual options, a class compiles on a new compiler exactly if all that it
reaches has a declaration and a readable template, and no cycle is reached.  A class that
is reported to include itself is reached and on a cycle; so declarations without use
change nothing about failures. -/
theorem compile_iff_acyclic (regular : catalog.Regular declares) (serial : Nat) {c : ClassRef}
    (usual : c.declared = declares c.id) :
    ((∃ b, (run { serial } (compile catalog c)).1 = .ok b) ↔
      ∀ d, ReflTransGen catalog.Uses c d →
        catalog.Readable d ∧ ¬ TransGen catalog.Uses d d) ∧
    (∀ n, (run { serial } (compile catalog c)).1 = .error (.recursiveComponent n) →
      ∃ d, d.name = n ∧ ReflTransGen catalog.Uses c d ∧ TransGen catalog.Uses d d) ∧
    ∀ e, (run { serial } (compile catalog.trimmed c)).1 = .error e ↔
      (run { serial } (compile catalog c)).1 = .error e := by
  have outcome {catalog : Catalog} (regular : catalog.Regular declares) :
      (run { serial } (compile catalog c)).1 =
        unfold catalog {} serial (depthBound catalog) [] c :=
    outcome_after serial {} [] regular nofun usual
  rw [outcome regular, outcome regular.trimmed]
  refine ⟨⟨fun unfolded d reached => ?_, fun good => ?_⟩, fun n failed => ?_, fun e => ?_⟩
  · obtain ⟨readable, -, acyclic⟩ := unfold_sound unfolded d reached
    exact ⟨readable, acyclic⟩
  · exact unfold_complete regular (Room.start catalog) nofun usual good
  · exact unfold_recursive regular (Room.start catalog) nofun usual failed
  · have same := unfold_trimmed catalog serial (depthBound catalog) [] c
    rw [show depthBound catalog.trimmed = depthBound catalog by
      simp [depthBound, Catalog.trimmed]]
    revert same
    cases unfold catalog.trimmed {} serial (depthBound catalog) [] c <;>
      cases unfold catalog {} serial (depthBound catalog) [] c <;>
      simp +contextual [Except.map]

/-- The premises hold where a class declares itself, and another one that it uses twice. -/
theorem compile_iff_acyclic_twice :
    let a : ClassRef := ⟨"Outer", true⟩
    let b : ClassRef := ⟨"Inner", true⟩
    let catalog : Catalog := [("Outer", ⟨"<inner></inner><inner></inner>", [a, b]⟩)]
    catalog.Regular (fun _ => true) ∧ a.declared = true ∧
      ((∃ made, (run { serial := 0 } (compile catalog a)).1 = .ok made) ↔
        ∀ d, ReflTransGen catalog.Uses a d →
          catalog.Readable d ∧ ¬ TransGen catalog.Uses d d) := by
  intro a b catalog
  have regular : catalog.Regular (fun _ => true) := by decide
  exact ⟨regular, rfl, (compile_iff_acyclic regular 0 rfl).1⟩

end Compiler

end LiveTemplates
