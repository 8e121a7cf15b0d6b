/-
# LiveTemplates.Proofs.Blueprint.Shadowing -- which declared classes are called unused

What is used is kept by class, and what stands for an element is looked up by tag, where the last
declared class counts.  So a class is called unused not only if its tag does not appear in the
template, but also if another class with this tag is declared behind it.  Then the report that the
template never uses the tag is false if the tag appears.

* `Scan.absent`, `Scan.shadowed`: the two reasons for which a class is called unused;
* `Compiler.Reported`: all that a compilation says about unused classes has one of them;
* `Compiler.unused_exact`: what reading a template and compiling a class say about unused
  classes.  With one class for a tag at most, the first reason is the only one;
* `Compiler.namesake_called_unused`: a class that is called unused although its tag appears.
-/
import LiveTemplates.Proofs.Blueprint.Scanning

namespace LiveTemplates

set_option autoImplicit false

/-! ## Reasons -/

namespace Scan

/-- No element has the tag of a class. -/
def absent (elements : List (List Nat × NodeData)) (c : ClassRef) : Bool :=
  elements.all fun element => element.2.describe != c.tag

/-- Another class stands for the tag of a class. -/
def shadowed (declared : List ClassRef) (c : ClassRef) : Bool :=
  (lastOf declared c.tag).any fun d => !d.same c

/-- The declared classes that no element stands for, in the order of their declarations. -/
def idle (declared : List ClassRef) (elements : List (List Nat × NodeData)) : List ClassRef :=
  declared.filter fun c => absent elements c || shadowed declared c

variable {declared : List ClassRef} {elements : List (List Nat × NodeData)} {c : ClassRef}

/-- The class that stands for a tag has it. -/
theorem tag_of_lastOf {tag : String} {d : ClassRef} (last : lastOf declared tag = some d) :
    d ∈ declared ∧ d.tag = tag := by
  have member := List.mem_of_getLast? last
  simpa using member

/-- A class is met on elements if one of them stands for it. -/
theorem any_usedOn (used : List ClassRef) :
    (usedOn declared used elements).any c.same = true ↔ used.any c.same = true ∨
      ∃ element ∈ elements, ∃ d, lastOf declared element.2.describe = some d ∧ d.id = c.id := by
  induction elements generalizing used with
  | nil => simp [usedOn]
  | cons element rest ih =>
      rw [usedOn, List.foldl_cons, ← usedOn, ih, List.exists_mem_cons_iff, ← or_assoc]
      refine or_congr_left ?_
      rw [classOf?_eq_lastOf]
      cases lastOf declared element.2.describe with
      | none => simp
      | some d =>
          by_cases again : used.any d.same = true
          · simp only [again, if_true, Option.some.injEq, exists_eq_left', iff_self_or]
            intro same
            simpa [ClassRef.same, same] using again
          · simp only [again, Bool.false_eq_true, if_false, List.any_append, List.any_cons,
              List.any_nil, Bool.or_false, Bool.or_eq_true, Option.some.injEq, exists_eq_left',
              ClassRef.same, beq_iff_eq]
            exact or_congr_right eq_comm

/-- Elements stand for a declared class if its tag appears and no other class has taken it. -/
theorem any_usedOn_eq (listed : c ∈ declared) :
    (usedOn declared [] elements).any c.same = !(absent elements c || shadowed declared c) := by
  have some : (lastOf declared c.tag).isSome := by
    rw [isSome_lastOf, List.any_eq_true]
    exact ⟨c, listed, by simp⟩
  obtain ⟨last, found⟩ := Option.isSome_iff_exists.1 some
  have reasons : (!(absent elements c || shadowed declared c)) = true ↔
      (∃ element ∈ elements, element.2.describe = c.tag) ∧ last.id = c.id := by
    simp [absent, shadowed, found, ClassRef.same]
  rw [Bool.eq_iff_iff, any_usedOn, reasons]
  constructor
  · rintro (none | ⟨element, member, d, stands, same⟩)
    · cases none
    · have tag : c.tag = element.2.describe := by
        rw [← (tag_of_lastOf stands).2, ClassRef.tag, ClassRef.tag, ClassRef.name, ClassRef.name,
          same]
      obtain rfl : d = last := by simpa [← tag, found] using stands.symm
      exact ⟨⟨element, member, tag.symm⟩, same⟩
  · rintro ⟨⟨element, member, tag⟩, same⟩
    exact .inr ⟨element, member, last, tag ▸ found, same⟩

theorem filter_usedOn (declared : List ClassRef) (elements : List (List Nat × NodeData)) :
    (declared.filter fun c => !(usedOn declared [] elements).any c.same) =
      idle declared elements := by
  refine List.filter_congr fun c listed => ?_
  rw [any_usedOn_eq listed, Bool.not_not]

/-- Where one class at most is declared for each tag, a class is idle if its tag is absent. -/
theorem idle_of_distinct
    (distinct : ∀ c ∈ declared, ∀ d ∈ declared, c.tag = d.tag → c.id = d.id) :
    idle declared elements = declared.filter (absent elements) := by
  refine List.filter_congr fun c listed => ?_
  have single : shadowed declared c = false := by
    rw [shadowed]
    cases last : lastOf declared c.tag with
    | none => rfl
    | some d =>
        obtain ⟨member, tag⟩ := tag_of_lastOf last
        simp [ClassRef.same, distinct d member c listed tag]
  rw [single, Bool.or_false]

/-- Without a failure there is a warning of each unused class. -/
theorem verdict_ok {owner : ClassRef} {strict : Bool} {unused : List ClassRef}
    {warnings : List ConfigurationError} (judged : verdict owner strict unused = .ok warnings) :
    warnings = unused.map fun c => .unusedComponent owner.name c.name c.tag := by
  cases strict with
  | false => exact (Except.ok.inj judged).symm
  | true =>
      cases unused with
      | nil => exact (Except.ok.inj judged).symm
      | cons c rest => cases judged

/-- A failure is about an unused class. -/
theorem verdict_error {owner : ClassRef} {strict : Bool} {unused : List ClassRef}
    {e : ConfigurationError} (judged : verdict owner strict unused = .error e) :
    ∃ c ∈ unused, e = .unusedComponent owner.name c.name c.tag := by
  cases strict with
  | false => cases judged
  | true =>
      cases unused with
      | nil => cases judged
      | cons c rest => exact ⟨c, List.mem_cons_self, (Except.error.inj judged).symm⟩

theorem unused_not_mem_complaints (owner : ClassRef) (bs : List Binding)
    (e : ConfigurationError) : .unused e ∉ complaints owner bs := by
  induction bs with
  | nil => simp [complaints]
  | cons b rest ih => cases compiled : b.expression <;> simp [complaints, compiled, ih]

/-- What is wrong with bindings that are not admitted is never that a class is unused. -/
theorem accept_ne_unused {owner : ClassRef} {strict : Bool} {bs : List Binding}
    {e : ConfigurationError} (refused : accept owner strict bs = .error e)
    (parent name tag : String) : e ≠ .unusedComponent parent name tag := by
  induction bs with
  | nil => cases refused
  | cons b rest ih =>
      unfold accept at refused
      split at refused
      · exact ih refused
      · split at refused
        · cases refused
          simp
        · exact ih refused

end Scan

theorem Catalog.metadata_ne_unused {catalog : Catalog} {c : ClassRef} {e : ConfigurationError}
    (missing : catalog.metadata c = .error e) (parent name tag : String) :
    e ≠ .unusedComponent parent name tag := by
  unfold Catalog.metadata at missing
  split at missing
  · cases missing
  · cases missing
    simp

/-! ## Reports -/

namespace Compiler

/-- A class declares another one that no element of its template stands for; this is what is said
about it. -/
inductive Idle (catalog : Catalog) : ConfigurationError → Prop
  | intro {c d : ClassRef} {m : Metadata} {t : Template} (declared : catalog.metadata c = .ok m)
      (parsed : Template.parse? m.template = some t)
      (idle : d ∈ Scan.idle m.components t.root.elementsBelow) :
      Idle catalog (.unusedComponent c.name d.name d.tag)

/-- All that work has said about unused classes, as its failure or in reports, is said about
classes that no element stands for. -/
structure Reported {α : Type} (catalog : Catalog) (w : Workshop)
    (r : Except ConfigurationError α) (v : Workshop) : Prop where
  failed : ∀ owner name tag, r = .error (.unusedComponent owner name tag) →
    Idle catalog (.unusedComponent owner name tag)
  noticed : ∀ e, .unused e ∈ v.notices → .unused e ∈ w.notices ∨ Idle catalog e

section Work

open Scan

variable {α : Type} {catalog : Catalog} {compile : ClassRef → Compiling Blueprint}
  {owner : ClassRef} {declared : List ClassRef} {strict : Bool}
  {elements : List (List Nat × NodeData)} {w v u : Workshop}

theorem unusedIn_eq (m : Metadata) (t : Template) :
    unusedIn m t = idle m.components t.root.elementsBelow :=
  filter_usedOn m.components t.root.elementsBelow

namespace Reported

/-- Work that comes to its end says something in its reports only. -/
theorem ok (a : α) (noticed : ∀ e, .unused e ∈ v.notices → .unused e ∈ w.notices ∨ Idle catalog e) :
    Reported catalog w (.ok a) v :=
  ⟨by simp, noticed⟩

theorem refl (w : Workshop) (a : α) : Reported catalog w (.ok a) w :=
  .ok a fun _ => .inl

/-- Work behind other work has said what either has. -/
theorem trans {β : Type} {r : Except ConfigurationError α} {r' : Except ConfigurationError β}
    (first : Reported catalog w r v) (second : Reported catalog v r' u) :
    Reported catalog w r' u := by
  refine ⟨second.failed, fun e member => ?_⟩
  rcases second.noticed e member with earlier | idle
  · exact first.noticed e earlier
  · exact .inr idle

/-- Reports about something else. -/
theorem reporting (w : Workshop) (a : α) {ns : List Notice} (silent : ∀ e, .unused e ∉ ns) :
    Reported catalog w (.ok a) (w.reporting ns) := by
  refine .ok a fun e member => .inl ?_
  simpa [silent e] using member

/-- A failure behind some work. -/
theorem fails {β : Type} {r : Except ConfigurationError α} (first : Reported catalog w r v)
    {e : ConfigurationError} (said : ∀ owner name tag, e = .unusedComponent owner name tag →
      Idle catalog (.unusedComponent owner name tag)) :
    Reported catalog w (.error e : Except ConfigurationError β) v :=
  ⟨fun owner name tag same => said owner name tag (Except.error.inj same), first.noticed⟩

/-- A failure of another kind behind some work. -/
theorem breaks {β : Type} {r : Except ConfigurationError α} (first : Reported catalog w r v)
    {e : ConfigurationError} (other : ∀ owner name tag, e ≠ .unusedComponent owner name tag) :
    Reported catalog w (.error e : Except ConfigurationError β) v :=
  first.fails fun owner name tag same => absurd same (other owner name tag)

/-- The same failure of other work. -/
theorem failure {β : Type} {e : ConfigurationError}
    (reported : Reported catalog w (.error e : Except ConfigurationError α) v) :
    Reported catalog w (.error e : Except ConfigurationError β) v :=
  reported.fails fun owner name tag same =>
    reported.failed owner name tag (congrArg Except.error same)

theorem leave {r : Except ConfigurationError α} (reported : Reported catalog w r v) :
    Reported catalog w r v.leave :=
  ⟨reported.failed, reported.noticed⟩

theorem map {β : Type} (f : α → β) {r : Except ConfigurationError α}
    (reported : Reported catalog w r v) : Reported catalog w (r.map f) v := by
  cases r with
  | error e => exact reported.failure
  | ok a => exact .ok (f a) reported.noticed

end Reported

/-- Reading elements says nothing about unused classes but what compiling classes does. -/
theorem Reads.reported {r : Except ConfigurationError (List (Spot × Blueprint))}
    (each : ∀ d w r v, (compile d).exec w = (r, v) → Reported catalog w r v)
    (reads : Reads compile owner declared strict w elements r v) : Reported catalog w r v := by
  have placed {w v : Workshop} {element : List Nat × NodeData}
      {r : Except ConfigurationError (List (Spot × Blueprint))}
      (places : Places compile declared w element r v) : Reported catalog w r v := by
    cases places with
    | plain => exact .refl w []
    | taken _ compiled => exact (each _ _ _ _ compiled).map _
  induction reads with
  | done w => exact .refl w []
  | stopped places => exact placed places
  | refused places broken => exact (placed places).breaks (accept_ne_unused broken)
  | next places _ _ ih =>
      exact ((placed places).trans
        ((Reported.reporting _ () (unused_not_mem_complaints _ _)).trans ih)).map _

theorem Makes.reported {c : ClassRef} {r : Except ConfigurationError Blueprint}
    (each : ∀ d w r v, (compile d).exec w = (r, v) → Reported catalog w r v)
    (makes : Makes catalog compile w c r v) : Reported catalog w r v := by
  have opens : Reported catalog w (.ok ()) (opened w c) :=
    .ok () fun e member => .inl (by simpa [opened, Workshop.enter] using member)
  have idle {m : Metadata} {t : Template} (declared : catalog.metadata c = .ok m)
      (parsed : Template.parse? m.template = some t) {d : ClassRef} (unused : d ∈ unusedIn m t) :
      Idle catalog (.unusedComponent c.name d.name d.tag) :=
    .intro declared parsed (unusedIn_eq m t ▸ unused)
  cases makes with
  | undeclared missing =>
      exact (Reported.refl w ()).breaks (Catalog.metadata_ne_unused missing)
  | unreadable =>
      exact (Reported.reporting w () (by simp)).breaks (by simp)
  | unread _ _ read => exact (opens.trans (Reads.reported each read)).failure.leave
  | unused declared parsed read judged =>
      have reported := opens.trans (Reads.reported each read)
      obtain ⟨d, listed, rfl⟩ := verdict_error judged
      -- the class under review fails itself, with the first of its idle classes
      refine (reported.fails fun owner name tag same => ?_).leave
      rw [← same]
      exact idle declared parsed listed
  | made declared parsed read judged =>
      have reported := opens.trans (Reads.reported each read)
      obtain rfl := verdict_ok judged
      refine .ok _ fun e member => ?_
      rcases List.mem_append.1 member with warned | earlier
      · simp only [List.mem_reverse, List.mem_map, Notice.unused.injEq, exists_eq_right] at warned
        obtain ⟨d, listed, rfl⟩ := warned
        exact .inr (idle declared parsed listed)
      · exact reported.noticed e earlier

/-- Compiling a class says of no class that it is unused, if an element stands for it. -/
theorem reported_compileWithin (catalog : Catalog) (depth : Nat) (c : ClassRef) (w : Workshop)
    {r : Except ConfigurationError Blueprint} {v : Workshop}
    (run : (compileWithin catalog depth c).exec w = (r, v)) : Reported catalog w r v := by
  induction depth generalizing c w r v with
  | zero =>
      obtain ⟨rfl, rfl⟩ := Prod.mk.inj run
      exact (Reported.refl w ()).breaks (by simp)
  | succ depth ih =>
      rcases exec_obtain_cases catalog _ c w run with
        ⟨b, _, rfl, rfl⟩ | ⟨_, _, rfl, rfl⟩ | ⟨_, _, makes⟩
      · exact .refl _ b
      · exact (Reported.refl _ ()).breaks (by simp)
      · exact makes.reported fun d w r v run => ih d w run

/-- A blueprint that is made warns of the classes that no element stands for, in order. -/
theorem Makes.warnings {c : ClassRef} {b : Blueprint}
    (makes : Makes catalog compile w c (.ok b) v) :
    ∃ m, catalog.metadata c = .ok m ∧ Template.parse? m.template = some b.template ∧
      b.warnings = (idle m.components b.template.root.elementsBelow).map fun d =>
        .unusedComponent c.name d.name d.tag := by
  cases makes with
  | @made m t children warnings v declared parsed read judged =>
      refine ⟨m, declared, parsed, ?_⟩
      rw [unusedIn_eq] at judged
      exact verdict_ok judged

end Work

/-- Reading a template calls a declared class unused just if no element has its tag or another
class stands for this tag; where the tags of different classes are different, just if no element
has its tag.  Compiling a class says nothing else of any class, in a failure, in reports or in the
warnings of a new blueprint. -/
theorem unused_exact (catalog : Catalog) (depth : Nat) (w v : Workshop) :
    (∀ owner declared root s,
      (Scan.ofTree (compileWithin catalog depth) owner declared root).exec w = (.ok s, v) →
      (s.unused declared = declared.filter fun c =>
        Scan.absent root.elementsBelow c || Scan.shadowed declared c) ∧
      ((∀ c ∈ declared, ∀ d ∈ declared, c.tag = d.tag → c.id = d.id) →
        s.unused declared = declared.filter (Scan.absent root.elementsBelow))) ∧
    ∀ c r, (compileWithin catalog depth c).exec w = (r, v) →
      Reported catalog w r v ∧
      ∀ b, w.compiler.find? c = none → r = .ok b →
        ∃ m, catalog.metadata c = .ok m ∧ Template.parse? m.template = some b.template ∧
          b.warnings = (Scan.idle m.components b.template.root.elementsBelow).map fun d =>
            .unusedComponent c.name d.name d.tag := by
  constructor
  · intro owner declared root s run
    obtain ⟨r, u, -, outcome⟩ :=
      Scan.exec_ofTree (compileWithin catalog depth) owner declared root w
    have used : s.used = Scan.usedOn declared [] root.elementsBelow := by
      rw [run] at outcome
      cases r with
      | error e => cases outcome
      | ok children =>
          cases outcome
          rfl
    have unused : s.unused declared = Scan.idle declared root.elementsBelow := by
      rw [Scan.unused, used, Scan.filter_usedOn]
    exact ⟨unused, fun distinct => unused.trans (Scan.idle_of_distinct distinct)⟩
  · intro c r run
    refine ⟨reported_compileWithin catalog depth c w run, ?_⟩
    rintro b missing rfl
    cases depth with
    | zero => cases run
    | succ depth =>
        rcases exec_obtain_cases catalog _ c w run with
          ⟨_, found, _⟩ | ⟨_, _, failed, _⟩ | ⟨_, _, makes⟩
        · cases missing.symm.trans found
        · cases failed
        · exact makes.warnings

namespace Namesakes

open Scan.Namesakes (declared root scanned)

/-- A class that declares two classes of one name and uses this. -/
def catalog : Catalog :=
  [("Panel", ⟨"<label></label>", declared⟩)]

def panel : ClassRef := ⟨"Panel", true⟩

/-- A new compiler, for which unused classes are errors. -/
def strict : Workshop :=
  { compiler := { serial := 0, options := { strictComponents := true } } }

set_option maxRecDepth 20000 in
theorem scans : ∃ s v, scanned {} = (.ok s, v) ∧ s.unused declared = [⟨"Label", true⟩] := by
  refine Compiling.exists_ok ?_
  cbv

end Namesakes

/-- Of two classes with one tag the first is called unused. -/
theorem unused_exact_namesakes : ∃ s v, Scan.Namesakes.scanned {} = (.ok s, v) ∧
    s.unused Scan.Namesakes.declared = [⟨"Label", true⟩] ∧
      s.unused Scan.Namesakes.declared = Scan.Namesakes.declared.filter fun c =>
        Scan.absent Scan.Namesakes.root.elementsBelow c ||
          Scan.shadowed Scan.Namesakes.declared c := by
  obtain ⟨s, v, run, unused⟩ := Namesakes.scans
  exact ⟨s, v, run, unused, ((unused_exact [] 1 _ v).1 _ _ _ s run).1⟩

set_option maxRecDepth 20000 in
/-- It is called unused although its tag appears, and where unused classes are errors, the class
that declares it does not compile. -/
theorem namesake_called_unused :
    (∃ s v, Scan.Namesakes.scanned {} = (.ok s, v) ∧
      s.unused Scan.Namesakes.declared = [⟨"Label", true⟩]) ∧
    (∃ element ∈ Scan.Namesakes.root.elementsBelow,
      element.2.describe = ClassRef.tag ⟨"Label", true⟩) ∧
    ((compile Namesakes.catalog Namesakes.panel).exec Namesakes.strict).1 =
      .error (.unusedComponent "Panel" "Label" "LABEL") := by
  refine ⟨Namesakes.scans, ?_, ?_⟩
  · refine ⟨([0, 0], .element .html "label" []), ?_, by cbv⟩
    simp [Scan.Namesakes.root, Tree.elementsBelow, Tree.elementsAmong, Tree.children,
      NodeData.isElement]
  · cbv

end Compiler

end LiveTemplates
