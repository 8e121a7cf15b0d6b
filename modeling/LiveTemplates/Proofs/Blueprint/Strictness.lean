/-
# LiveTemplates.Proofs.Blueprint.Strictness -- what strict options change

Strict options turn what is otherwise a warning into a failure, and nothing else: a
blueprint that is made under strict options is the one that is made without them, and it
is made exactly if there would be nothing to warn of, in it or in what it contains.

* `Blueprint.Admitted`: there is nothing about a blueprint that the options forbid;
* `Scan.childrenOn_strict`: reading elements under strict options;
* `Compiler.unfold_strict`: what a class unfolds to under strict options is what it
  unfolds to without them, as long as all that this contains is admitted;
* `Compiler.strict_iff_admitted`: the same of compiling on new compilers.

Where a strict check fails depends on the order of reading, and a child that is refused
hides what is wrong behind it.  That plays no part here: the statements are about success,
and a run that succeeds has passed every check.
-/
import LiveTemplates.Proofs.Blueprint.Unfolding

namespace LiveTemplates

set_option autoImplicit false

open Relation (ReflTransGen)

/-- All bindings have programs. -/
def Binding.AllSound (bindings : List (Spot × Binding)) : Prop :=
  ∀ binding ∈ bindings, ∃ e, binding.2.expression = .ok e

/-- The options have nothing against a blueprint. -/
structure Blueprint.Admitted (o : CompileOptions) (b : Blueprint) : Prop where
  used : o.strictComponents = true → b.warnings = []
  sound : o.strictExpressions = true → Binding.AllSound b.bindings

namespace Scan

/-! ## The checks -/

/-- Strict reading admits the bindings that all have programs. -/
theorem accept_eq_ok_iff {owner : ClassRef} {strict : Bool} {bs : List Binding} :
    accept owner strict bs = .ok () ↔ (strict = true → ∀ b ∈ bs, ∃ e, b.expression = .ok e) := by
  cases strict with
  | false => simp [accept_lax]
  | true =>
      induction bs with
      | nil => simp [accept]
      | cons b rest ih =>
          cases sound : b.expression with
          | error e => simp [accept, sound]
          | ok e => simpa [accept, sound] using ih

/-- A strict verdict is the usual one, if this has nothing to say. -/
theorem verdict_eq_ok_iff {owner : ClassRef} {strict : Bool} {unused : List ClassRef}
    {warnings : List ConfigurationError} :
    verdict owner strict unused = .ok warnings ↔
      verdict owner false unused = .ok warnings ∧ (strict = true → warnings = []) := by
  cases strict with
  | false => simp
  | true =>
      cases unused with
      | nil => simp [verdict, eq_comm]
      | cons c rest =>
          have some : verdict owner false (c :: rest) = .ok warnings → warnings ≠ [] := by
            rintro ⟨⟩
            simp
          constructor
          · intro failed
            cases failed
          · rintro ⟨usual, none⟩
            exact absurd (none rfl) (some usual)

/-! ## Reading elements -/

variable {f f' : ClassRef → Except ConfigurationError Blueprint} {P : Blueprint → Prop}
  {owner : ClassRef} {declared : List ClassRef} {strict : Bool}

theorem placeOn_strict (each : ∀ d b, f d = .ok b ↔ f' d = .ok b ∧ P b)
    (element : List Nat × NodeData) (here : List (Spot × Blueprint)) :
    placeOn f declared element = .ok here ↔
      placeOn f' declared element = .ok here ∧ ∀ child ∈ here, P child.2 := by
  rw [placeOn_eq_ok_iff, placeOn_eq_ok_iff]
  constructor
  · rintro (⟨plain, rfl⟩ | ⟨d, b, matched, made, rfl⟩)
    · exact ⟨.inl ⟨plain, rfl⟩, nofun⟩
    · obtain ⟨made', good⟩ := (each d b).1 made
      exact ⟨.inr ⟨d, b, matched, made', rfl⟩, by simpa using good⟩
  · rintro ⟨⟨plain, rfl⟩ | ⟨d, b, matched, made, rfl⟩, good⟩
    · exact .inl ⟨plain, rfl⟩
    · exact .inr ⟨d, b, matched, (each d b).2 ⟨made, by simpa using good⟩, rfl⟩

/-- Where the classes that are used differ by a condition, reading differs by this condition
on all children, and by programs for all bindings if these are wanted. -/
theorem childrenOn_strict (each : ∀ d b, f d = .ok b ↔ f' d = .ok b ∧ P b)
    (elements : List (List Nat × NodeData)) (children : List (Spot × Blueprint)) :
    childrenOn f owner declared strict elements = .ok children ↔
      childrenOn f' owner declared false elements = .ok children ∧
        (∀ child ∈ children, P child.2) ∧
        (strict = true → Binding.AllSound (bindingsOn elements)) := by
  induction elements generalizing children with
  | nil =>
      constructor
      · rintro ⟨⟩
        exact ⟨rfl, nofun, fun _ => nofun⟩
      · exact fun reads => reads.1
  | cons element rest ih =>
      have split : Binding.AllSound (bindingsOn (element :: rest)) ↔
          (∀ b ∈ Binding.among element.2.attrs, ∃ e, b.expression = .ok e) ∧
            Binding.AllSound (bindingsOn rest) := by
        simp [Binding.AllSound, bindingsOn, or_imp, forall_and]
      rw [childrenOn_cons_eq_ok_iff, childrenOn_cons_eq_ok_iff, split]
      constructor
      · rintro ⟨here, more, place, admitted, later, rfl⟩
        obtain ⟨place, first⟩ := (placeOn_strict each element here).1 place
        obtain ⟨later, others, sound⟩ := (ih more).1 later
        refine ⟨⟨here, more, place, accept_lax _ _, later, rfl⟩, ?_, fun on => ?_⟩
        · intro child member
          rcases List.mem_append.1 member with member | member
          · exact first child member
          · exact others child member
        · exact ⟨accept_eq_ok_iff.1 admitted on, sound on⟩
      · rintro ⟨⟨here, more, place, -, later, rfl⟩, good, sound⟩
        have first : ∀ child ∈ here, P child.2 := fun child member =>
          good child (List.mem_append_left _ member)
        have others : ∀ child ∈ more, P child.2 := fun child member =>
          good child (List.mem_append_right _ member)
        have admitted : accept owner strict (Binding.among element.2.attrs) = .ok () :=
          accept_eq_ok_iff.2 fun on => (sound on).1
        refine ⟨here, more, (placeOn_strict each element here).2 ⟨place, first⟩, admitted, ?_, rfl⟩
        exact (ih more).2 ⟨later, others, fun on => (sound on).2⟩

end Scan

namespace Compiler

variable {catalog : Catalog} {declares : String → Bool} {o : CompileOptions} {serial : Nat}
  {f f' : ClassRef → Except ConfigurationError Blueprint} {P : Blueprint → Prop} {c : ClassRef}
  {b : Blueprint}

/-! ## Unfolding under strict options -/

theorem assemble_strict (each : ∀ d b, f d = .ok b ↔ f' d = .ok b ∧ P b) :
    assemble catalog o serial f c = .ok b ↔
      assemble catalog {} serial f' c = .ok b ∧ b.Admitted o ∧
        ∀ child ∈ b.children, P child.2 := by
  rw [assemble_eq_ok, assemble_eq_ok]
  constructor
  · rintro ⟨m, t, children, warnings, declared, parsed, all, judged, rfl⟩
    obtain ⟨all, good, sound⟩ := (Scan.childrenOn_strict each _ _).1 all
    obtain ⟨judged, silent⟩ := Scan.verdict_eq_ok_iff.1 judged
    exact ⟨⟨m, t, children, warnings, declared, parsed, all, judged, rfl⟩, ⟨silent, sound⟩, good⟩
  · rintro ⟨⟨m, t, children, warnings, declared, parsed, all, judged, rfl⟩, admitted, good⟩
    have all' := (Scan.childrenOn_strict each _ _).2 ⟨all, good, admitted.sound⟩
    have judged' := Scan.verdict_eq_ok_iff.2 ⟨judged, admitted.used⟩
    exact ⟨m, t, children, warnings, declared, parsed, all', judged', rfl⟩

/-- Under strict options a class unfolds to what it unfolds to without them, if the options
have nothing against this or anything that it contains. -/
theorem unfold_strict (catalog : Catalog) (o : CompileOptions) (serial depth : Nat)
    (above : List ClassRef) (c : ClassRef) (b : Blueprint) :
    unfold catalog o serial depth above c = .ok b ↔
      unfold catalog {} serial depth above c = .ok b ∧
        ∀ d, ReflTransGen Blueprint.Contains b d → d.Admitted o := by
  induction depth generalizing above c b with
  | zero => simp [unfold]
  | succ depth ih =>
      rw [unfold, unfold]
      split
      case isTrue busy => simp
      case isFalse free =>
        rw [assemble_strict (ih (above ++ [c]))]
        refine and_congr_right fun _ => ⟨?_, fun all => ⟨all b .refl, ?_⟩⟩
        · rintro ⟨own, inside⟩ d reached
          rcases ReflTransGen.cases_head reached with rfl | ⟨x, ⟨spot, member⟩, later⟩
          · exact own
          · exact inside (spot, x) member d later
        · rintro ⟨spot, x⟩ member d later
          exact all d (.head ⟨spot, member⟩ later)

/-! ## Compiling under strict options -/

/-- Whatever the options are, a class compiles on a new compiler exactly if it does so with
the usual ones and there is no warning about anything in what this makes, should unused
classes be errors, and no broken binding, should these be errors.  Where both compile, the
manifests are the same. -/
theorem strict_iff_admitted (regular : catalog.Regular declares) (serial serial' : Nat)
    (o : CompileOptions) {c : ClassRef} (usual : c.declared = declares c.id) :
    ((∃ b, (run { serial, options := o } (compile catalog c)).1 = .ok b) ↔
      ∃ b, (run { serial := serial' } (compile catalog c)).1 = .ok b ∧
        (o.strictComponents = true →
          ∀ d, ReflTransGen Blueprint.Contains b d → d.warnings = []) ∧
        (o.strictExpressions = true →
          ∀ d, ReflTransGen Blueprint.Contains b d →
            ∀ binding ∈ d.bindings, ∃ e, binding.2.expression = .ok e)) ∧
    ∀ b b', (run { serial, options := o } (compile catalog c)).1 = .ok b →
      (run { serial := serial' } (compile catalog c)).1 = .ok b' →
      b.manifest = b'.manifest := by
  have outcome (o : CompileOptions) (serial : Nat) :
      (run { serial, options := o } (compile catalog c)).1 =
        unfold catalog o serial (depthBound catalog) [] c :=
    outcome_after serial o [] regular nofun usual
  rw [outcome o, outcome {}]
  -- the number of the compiler is not seen: what `serial` makes, `serial'` makes as well
  have renumbered (serial serial' : Nat) {b : Blueprint}
      (made : unfold catalog o serial (depthBound catalog) [] c = .ok b) :
      ∃ b', unfold catalog o serial' (depthBound catalog) [] c = .ok b' ∧ b'.shown = b.shown := by
    have same : (unfold catalog o serial (depthBound catalog) [] c).map Blueprint.shown =
        (unfold catalog o serial' (depthBound catalog) [] c).map Blueprint.shown :=
      unfold_shown o serial serial' (depthBound catalog) [] c
    rw [made] at same
    cases made' : unfold catalog o serial' (depthBound catalog) [] c with
    | error e => simp [made', Except.map] at same
    | ok b' => exact ⟨b', rfl, by simpa [made', Except.map] using same.symm⟩
  refine ⟨⟨?_, ?_⟩, ?_⟩
  · rintro ⟨b, made⟩
    obtain ⟨b', made', -⟩ := renumbered serial serial' made
    obtain ⟨lax, admitted⟩ := (unfold_strict catalog o serial' _ [] c b').1 made'
    exact ⟨b', lax, fun on d reached => (admitted d reached).used on,
      fun on d reached => (admitted d reached).sound on⟩
  · rintro ⟨b', lax, silent, sound⟩
    have admitted : ∀ d, ReflTransGen Blueprint.Contains b' d → d.Admitted o := fun d reached =>
      ⟨fun on => silent on d reached, fun on => sound on d reached⟩
    have made' := (unfold_strict catalog o serial' _ [] c b').2 ⟨lax, admitted⟩
    obtain ⟨b, made, -⟩ := renumbered serial' serial made'
    exact ⟨b, made⟩
  · intro b b' made lax
    obtain ⟨b'', made'', same⟩ := renumbered serial serial' made
    have restricted := ((unfold_strict catalog o serial' _ [] c b'').1 made'').1
    obtain rfl : b'' = b' := by simpa [restricted] using lax
    exact (congrArg Prod.fst same).symm

/-- The premises hold where a class uses one of two that it declares, which has a broken
binding. -/
theorem strict_iff_admitted_broken :
    let a : ClassRef := ⟨"Outer", true⟩
    let b : ClassRef := ⟨"Inner", true⟩
    let catalog : Catalog :=
      [("Outer", ⟨"<inner></inner>", [b, ⟨"Spare", false⟩]⟩),
        ("Inner", ⟨"<p [title]=\"1 +\"></p>", []⟩)]
    let declares : String → Bool := (· != "Spare")
    catalog.Regular declares ∧ a.declared = declares a.id ∧
      ((∃ made, (run { serial := 0, options := ⟨true, true, true⟩ }
          (compile catalog a)).1 = .ok made) ↔
        ∃ made, (run { serial := 1 } (compile catalog a)).1 = .ok made ∧
          (true = true → ∀ d, ReflTransGen Blueprint.Contains made d → d.warnings = []) ∧
          (true = true → ∀ d, ReflTransGen Blueprint.Contains made d →
            ∀ binding ∈ d.bindings, ∃ e, binding.2.expression = .ok e)) := by
  intro a b catalog declares
  have regular : catalog.Regular declares := by decide
  have usual : a.declared = declares a.id := by decide
  exact ⟨regular, usual, (strict_iff_admitted regular 0 1 ⟨true, true, true⟩ usual).1⟩

end Compiler

end LiveTemplates
