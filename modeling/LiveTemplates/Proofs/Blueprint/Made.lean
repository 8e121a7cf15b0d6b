/-
# LiveTemplates.Proofs.Blueprint.Made -- what a compiled blueprint looks like inside

A blueprint that a compiler keeps has the bindings on the elements of its template, and
its children take the place of some of these elements in document order.  One class
stands for one tag, and the tag of a class depends on nothing but its name.  So children
of one name are of one class, and the objects for the children are made by their classes.

* `Blueprint.Made`: this, for a blueprint and all blueprints inside of it;
* `Compiler.made_after`: it holds of every blueprint that a compiler ever keeps;
* `Blueprint.Made.constructedClasses`: each child gets an object, of its own class.
-/
import LiveTemplates.Proofs.Blueprint.Histories

namespace LiveTemplates

set_option autoImplicit false

/-- Bindings and children are on elements of the template, in document order; a tag has one
class; and so on inside. -/
inductive Blueprint.Made : Blueprint → Prop
  | intro {b : Blueprint}
      (bindings : b.bindings = Scan.bindingsOn b.template.root.elementsBelow)
      (places : (b.children.map (·.1)).Sublist (b.template.root.elementsBelow.map Scan.spotOf))
      (tagged : ∀ child ∈ b.children, child.2.cls.tag = child.1.tag)
      (single : ∀ child ∈ b.children, ∀ other ∈ b.children, child.1.tag = other.1.tag →
        child.2.cls = other.2.cls)
      (inside : ∀ child ∈ b.children, child.2.Made) : Made b

/-! ## The objects of the children -/

namespace Blueprint.Made

variable {b : Blueprint}

theorem bindings (made : b.Made) : b.bindings = Scan.bindingsOn b.template.root.elementsBelow := by
  cases made
  assumption

theorem places (made : b.Made) :
    (b.children.map (·.1)).Sublist (b.template.root.elementsBelow.map Scan.spotOf) := by
  cases made
  assumption

theorem inside (made : b.Made) {child : Spot × Blueprint} (member : child ∈ b.children) :
    child.2.Made := by
  cases made with
  | intro _ _ _ _ inside => exact inside child member

/-- Children of one name are of one class. -/
theorem named (made : b.Made) {c d : ClassRef} (first : c ∈ b.childClasses)
    (second : d ∈ b.childClasses) (same : c.name = d.name) : c = d := by
  cases made with
  | intro _ _ tagged single _ =>
      obtain ⟨child, inside, rfl⟩ := List.mem_map.1 first
      obtain ⟨other, also, rfl⟩ := List.mem_map.1 second
      refine single child inside other also ?_
      rw [← tagged child inside, ← tagged other also, ClassRef.tag, ClassRef.tag, same]

/-- A child is found by its name. -/
theorem classNamed? (made : b.Made) {c : ClassRef} (member : c ∈ b.childClasses) :
    b.classNamed? c.name = some c := by
  unfold Blueprint.classNamed?
  cases found : b.childClasses.reverse.find? (·.name = c.name) with
  | none =>
      have none := List.find?_eq_none.1 found c (List.mem_reverse.2 member)
      simp at none
  | some d =>
      have inside := List.mem_reverse.1 (List.mem_of_find?_eq_some found)
      have same : d.name = c.name := by simpa using List.find?_some found
      rw [made.named inside member same]

/-- Each child gets an object, of its own class. -/
theorem constructedClasses (made : b.Made) : b.constructedClasses = b.childClasses := by
  rw [Blueprint.constructedClasses, List.filterMap_map]
  calc b.childClasses.filterMap (b.classNamed? ∘ ClassRef.name)
      = b.childClasses.filterMap some :=
        List.filterMap_congr fun c member => made.classNamed? member
    _ = b.childClasses := List.filterMap_some

end Blueprint.Made

/-! ## What a compiler keeps -/

/-- All that is kept is under its own class, which has declarations, and is made as it
should be. -/
def Kept (w : Workshop) : Prop :=
  ∀ c b, w.compiler.find? c = some b → b.cls = ⟨c.id, true⟩ ∧ b.Made

theorem ClassRef.tag_mk (c : ClassRef) (declared : Bool) : tag ⟨c.id, declared⟩ = c.tag := rfl

theorem Scan.tag_of_classOf? {declared : List ClassRef} {tag : String} {c : ClassRef}
    (matched : classOf? declared tag = some c) : c.tag = tag := by
  simpa using List.find?_some matched

namespace Kept

open Compiling Compiler Scan

variable {w v : Workshop}

theorem keep (kept : Kept w) {b : Blueprint} (declared : b.cls.declared = true) (made : b.Made) :
    Kept (w.keep b) := by
  intro c d found
  rw [Workshop.find?_keep, Option.or_eq_some_iff] at found
  rcases found with old | ⟨-, new⟩
  · exact kept c d old
  · split at new
    case isTrue same =>
      obtain rfl := Option.some.inj new
      exact ⟨by rw [same, ← declared], made⟩
    case isFalse => cases new

/-- The children that are found on elements in order. -/
theorem reads {compile : ClassRef → Compiling Blueprint} {owner : ClassRef}
    {declared : List ClassRef} {strict : Bool} {elements : List (List Nat × NodeData)}
    {r : Except ConfigurationError (List (Spot × Blueprint))}
    (each : ∀ d w r v, Kept w → (compile d).exec w = (r, v) →
      Kept v ∧ ∀ b, r = .ok b → b.cls = ⟨d.id, true⟩ ∧ b.Made)
    (reads : Reads compile owner declared strict w elements r v) (kept : Kept w) :
    Kept v ∧ ∀ children, r = .ok children →
      (children.map (·.1)).Sublist (elements.map spotOf) ∧
        ∀ child ∈ children, child.2.Made ∧
          ∃ c, classOf? declared child.1.tag = some c ∧ child.2.cls = ⟨c.id, true⟩ := by
  have placed {w v : Workshop} {element : List Nat × NodeData}
      {r : Except ConfigurationError (List (Spot × Blueprint))}
      (places : Places compile declared w element r v) (kept : Kept w) :
      Kept v ∧ ∀ here, r = .ok here → (here.map (·.1)).Sublist [spotOf element] ∧
        ∀ child ∈ here, child.2.Made ∧
          ∃ c, classOf? declared child.1.tag = some c ∧ child.2.cls = ⟨c.id, true⟩ := by
    cases places with
    | plain =>
        refine ⟨kept, ?_⟩
        rintro _ ⟨⟩
        exact ⟨List.nil_sublist _, nofun⟩
    | @taken d r v matched compiled =>
        obtain ⟨kept, ok⟩ := each d w r v kept compiled
        refine ⟨kept, fun here same => ?_⟩
        cases r with
        | error e => cases same
        | ok b =>
            obtain ⟨cls, made⟩ := ok b rfl
            cases same
            refine ⟨List.Sublist.refl _, fun child member => ?_⟩
            cases List.mem_singleton.1 member
            exact ⟨made, d, matched, cls⟩
  induction reads with
  | done w =>
      refine ⟨kept, ?_⟩
      rintro _ ⟨⟩
      exact ⟨List.Sublist.refl _, nofun⟩
  | stopped places => exact ⟨(placed places kept).1, nofun⟩
  | refused places => exact ⟨(placed places kept).1, nofun⟩
  | @next w v u element rest here r places _ _ ih =>
      obtain ⟨kept, ok⟩ := placed places kept
      obtain ⟨spots, good⟩ := ok here rfl
      obtain ⟨kept, later⟩ := ih kept
      refine ⟨kept, fun children same => ?_⟩
      cases r with
      | error e => cases same
      | ok others =>
          cases same
          obtain ⟨more, also⟩ := later others rfl
          refine ⟨?_, fun child member => (List.mem_append.1 member).elim (good child) (also child)⟩
          rw [List.map_append]
          exact spots.append more

theorem makes {catalog : Catalog} {compile : ClassRef → Compiling Blueprint} {c : ClassRef}
    {r : Except ConfigurationError Blueprint}
    (each : ∀ d w r v, Kept w → (compile d).exec w = (r, v) →
      Kept v ∧ ∀ b, r = .ok b → b.cls = ⟨d.id, true⟩ ∧ b.Made)
    (makes : Makes catalog compile w c r v) (kept : Kept w) :
    Kept v ∧ ∀ b, r = .ok b → b.cls = ⟨c.id, true⟩ ∧ b.Made := by
  cases makes with
  | undeclared => exact ⟨kept, nofun⟩
  | unreadable => exact ⟨kept, nofun⟩
  | unread _ _ read => exact ⟨(reads (w := opened w c) each read kept).1, nofun⟩
  | unused _ _ read => exact ⟨(reads (w := opened w c) each read kept).1, nofun⟩
  | @made m t children warnings u declared _ read _ =>
      obtain ⟨kept, ok⟩ := reads (w := opened w c) each read kept
      obtain ⟨places, good⟩ := ok children rfl
      have known : c = ⟨c.id, true⟩ := by
        unfold Catalog.metadata at declared
        split at declared
        case isTrue yes => rw [← yes]
        case isFalse => cases declared
      have made : (Blueprint.mk u.compiler.serial c t (bindingsOn t.root.elementsBelow) children
          warnings).Made := by
        refine .intro rfl places (fun child member => ?_) (fun child member other also same => ?_)
          fun child member => (good child member).1
        · obtain ⟨-, d, matched, cls⟩ := good child member
          rw [cls, ClassRef.tag_mk, tag_of_classOf? matched]
        · obtain ⟨-, d, matched, cls⟩ := good child member
          obtain ⟨-, d', matched', cls'⟩ := good other also
          rw [same, matched', Option.some.injEq] at matched
          rw [cls, cls', matched]
      refine ⟨Kept.keep (w := u.leave.reporting _) kept (congrArg ClassRef.declared known) made, ?_⟩
      rintro _ ⟨⟩
      exact ⟨known, made⟩

theorem compileWithin (catalog : Catalog) (depth : Nat) (c : ClassRef)
    {r : Except ConfigurationError Blueprint} (kept : Kept w)
    (run : (Compiler.compileWithin catalog depth c).exec w = (r, v)) :
    Kept v ∧ ∀ b, r = .ok b → b.cls = ⟨c.id, true⟩ ∧ b.Made := by
  induction depth generalizing c w r v with
  | zero =>
      obtain ⟨rfl, rfl⟩ := Prod.mk.inj run
      exact ⟨kept, nofun⟩
  | succ depth ih =>
      rcases exec_obtain_cases catalog _ c w run with
        ⟨b, found, rfl, rfl⟩ | ⟨_, _, rfl, rfl⟩ | ⟨_, _, made⟩
      · refine ⟨kept, ?_⟩
        rintro _ ⟨⟩
        exact kept c b found
      · exact ⟨kept, nofun⟩
      · exact makes (fun d w r v kept run => ih d kept run) made kept

theorem after (serial : Nat) (options : CompileOptions) (calls : List (Catalog × ClassRef)) :
    Kept { compiler := Compiler.after { serial, options } calls } := by
  induction calls using List.reverseRecOn with
  | nil => exact nofun
  | append_singleton calls call ih =>
      rw [after_concat]
      exact (compileWithin call.1 (depthBound call.1) call.2
        (w := { compiler := Compiler.after { serial, options } calls }) ih rfl).1

end Kept

/-- Whatever was compiled before: each blueprint of a compiler is made as it should be. -/
theorem Compiler.made_after {serial : Nat} {options : CompileOptions}
    {calls : List (Catalog × ClassRef)} {c : ClassRef} {b : Blueprint}
    (found : (after { serial, options } calls).find? c = some b) : b.Made :=
  (Kept.after serial options calls c b found).2

end LiveTemplates
