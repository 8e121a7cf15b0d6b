/-
# LiveTemplates.Proofs.Blueprint.Unfolding -- compiling without a memory

A compiler that keeps no blueprints makes each one again wherever its tag is met.  What
it makes is a function of the declarations, of the options and of the classes around
(`Compiler.unfold`).  A compiler with a memory makes the same:

* `Faithful`: a kept blueprint is what its class is assembled to from those kept before;
* `Faithful.unfold`: so it is what its class unfolds to, around whatever classes that are
  not kept;
* `Compiler.outcome_compileWithin`: compiling gives what unfolding gives, and keeps the
  memory faithful, also where it fails;
* `Compiler.outcome_independent`: what was compiled before makes no difference.
-/
import LiveTemplates.Blueprint.Manifest
import LiveTemplates.Proofs.Blueprint.Histories

namespace LiveTemplates

set_option autoImplicit false

/-! ## Unfolding classes -/

namespace Scan

/-- What takes the place of an element, for given blueprints of classes. -/
def placeOn (f : ClassRef → Except ConfigurationError Blueprint) (declared : List ClassRef)
    (element : List Nat × NodeData) : Except ConfigurationError (List (Spot × Blueprint)) :=
  match classOf? declared element.2.describe with
  | none => .ok []
  | some d => (f d).map fun b => [(spotOf element, b)]

/-- What takes the places of elements, up to the first failure. -/
def childrenOn (f : ClassRef → Except ConfigurationError Blueprint) (owner : ClassRef)
    (declared : List ClassRef) (strict : Bool) :
    List (List Nat × NodeData) → Except ConfigurationError (List (Spot × Blueprint))
  | [] => .ok []
  | element :: rest =>
    match placeOn f declared element, accept owner strict (Binding.among element.2.attrs) with
    | .error e, _ => .error e
    | .ok _, .error e => .error e
    | .ok here, .ok () => (childrenOn f owner declared strict rest).map (here ++ ·)

end Scan

namespace Compiler

open Scan

/-- The blueprint of a class, for given blueprints of the classes that it uses. -/
def assemble (catalog : Catalog) (o : CompileOptions) (serial : Nat)
    (f : ClassRef → Except ConfigurationError Blueprint) (c : ClassRef) :
    Except ConfigurationError Blueprint :=
  match catalog.metadata c with
  | .error e => .error e
  | .ok m =>
    match Template.parse? m.template with
    | none => .error (.templateParse c.name Template.noBodyReason)
    | some t =>
      (childrenOn f c m.components o.strictExpressions t.root.elementsBelow).bind fun children =>
        (verdict c o.strictComponents (unusedIn m t)).map
          (.mk serial c t (bindingsOn t.root.elementsBelow) children)

/-- The blueprint of a class inside of other classes. -/
def unfold (catalog : Catalog) (o : CompileOptions) (serial : Nat) :
    Nat → List ClassRef → ClassRef → Except ConfigurationError Blueprint
  | 0, _, c => .error (.recursiveComponent c.name)
  | depth + 1, above, c =>
    if above.any c.same then .error (.recursiveComponent c.name)
    else assemble catalog o serial (unfold catalog o serial depth (above ++ [c])) c

end Compiler

namespace Scan

variable {f f' : ClassRef → Except ConfigurationError Blueprint} {owner : ClassRef}
  {declared declared' : List ClassRef} {strict : Bool} {elements : List (List Nat × NodeData)}

theorem placeOn_eq_ok_iff {element : List Nat × NodeData} {here : List (Spot × Blueprint)} :
    placeOn f declared element = .ok here ↔
      (classOf? declared element.2.describe = none ∧ here = []) ∨
      ∃ d b, classOf? declared element.2.describe = some d ∧ f d = .ok b ∧
        here = [(spotOf element, b)] := by
  unfold placeOn
  cases classOf? declared element.2.describe with
  | none => simp [eq_comm]
  | some d => cases made : f d <;> simp [made, Except.map, eq_comm]

/-- Reading comes to its end if it does so on the first element and on the others. -/
theorem childrenOn_cons_eq_ok_iff {element : List Nat × NodeData}
    {rest : List (List Nat × NodeData)} {children : List (Spot × Blueprint)} :
    childrenOn f owner declared strict (element :: rest) = .ok children ↔
      ∃ here more, placeOn f declared element = .ok here ∧
        accept owner strict (Binding.among element.2.attrs) = .ok () ∧
        childrenOn f owner declared strict rest = .ok more ∧ here ++ more = children := by
  rw [childrenOn]
  cases placeOn f declared element with
  | error e => simp
  | ok here =>
      cases accept owner strict (Binding.among element.2.attrs) with
      | error e => simp
      | ok _ => cases childrenOn f owner declared strict rest <;> simp [Except.map]

/-- Where all children are there, others that agree on these give the same. -/
theorem childrenOn_ok {children : List (Spot × Blueprint)}
    (all : childrenOn f owner declared strict elements = .ok children)
    (agree : ∀ d tag spot b, classOf? declared tag = some d → f d = .ok b →
      (spot, b) ∈ children → f' d = .ok b) :
    childrenOn f' owner declared strict elements = .ok children := by
  induction elements generalizing children with
  | nil => exact all
  | cons element rest ih =>
      obtain ⟨here, more, place, admitted, later, rfl⟩ := childrenOn_cons_eq_ok_iff.1 all
      have same : placeOn f' declared element = .ok here := by
        rcases placeOn_eq_ok_iff.1 place with plain | ⟨d, b, matched, made, rfl⟩
        · exact placeOn_eq_ok_iff.2 (.inl plain)
        · have made' := agree d _ (spotOf element) b matched made (by simp)
          exact placeOn_eq_ok_iff.2 (.inr ⟨d, b, matched, made', rfl⟩)
      have others := ih later fun d tag spot b matched made member =>
        agree d tag spot b matched made (List.mem_append_right _ member)
      exact childrenOn_cons_eq_ok_iff.2 ⟨here, more, same, admitted, others, rfl⟩

theorem placeOn_map {γ : Type} (g : Blueprint → γ) (element : List Nat × NodeData)
    (same : classOf? declared element.2.describe = classOf? declared' element.2.describe)
    (agree : ∀ d, classOf? declared element.2.describe = some d → (f d).map g = (f' d).map g) :
    (placeOn f declared element).map (List.map fun child => g child.2) =
      (placeOn f' declared' element).map (List.map fun child => g child.2) := by
  rw [placeOn, placeOn, ← same]
  cases matched : classOf? declared element.2.describe with
  | none => rfl
  | some d =>
      have seen := agree d matched
      cases made : f d <;> cases made' : f' d <;>
        simp_all [Except.map]

/-- What is seen of the children depends on what is seen of the blueprints. -/
theorem childrenOn_map {γ : Type} (g : Blueprint → γ)
    (agree : ∀ element ∈ elements,
      (placeOn f declared element).map (List.map fun child => g child.2) =
        (placeOn f' declared' element).map (List.map fun child => g child.2)) :
    (childrenOn f owner declared strict elements).map (List.map fun child => g child.2) =
      (childrenOn f' owner declared' strict elements).map (List.map fun child => g child.2) := by
  induction elements with
  | nil => rfl
  | cons element rest ih =>
      have first := agree element (by simp)
      have later := ih fun other member => agree other (List.mem_cons_of_mem _ member)
      simp only [childrenOn]
      cases place : placeOn f declared element <;> cases place' : placeOn f' declared' element <;>
        simp only [place, place', Except.map, reduceCtorEq, Except.error.injEq,
          Except.ok.injEq] at first
      · rw [first]
      · cases accept owner strict (Binding.among element.2.attrs) with
        | error e => rfl
        | ok _ =>
            revert later
            cases childrenOn f owner declared strict rest <;>
              cases childrenOn f' owner declared' strict rest <;>
              simp_all [Except.map]

end Scan

/-! ## What is read is what unfolds -/

section Work

open Compiling Compiler Scan

variable {compile : ClassRef → Compiling Blueprint}
  {f : ClassRef → Except ConfigurationError Blueprint}

/-- If compiling gives what `f` says and keeps to a condition, so does reading. -/
theorem Scan.Reads.outcome {owner : ClassRef} {declared : List ClassRef} {strict : Bool}
    {w v : Workshop} {elements : List (List Nat × NodeData)}
    {r : Except ConfigurationError (List (Spot × Blueprint))}
    {Before Behind : Workshop → Prop} (weaken : ∀ w, Before w → Behind w)
    (silent : ∀ w ns, ns.filterMap Notice.asked? = [] → Before w → Before (w.reporting ns))
    (each : ∀ d tag, classOf? declared tag = some d → ∀ w r v, Before w →
      (compile d).exec w = (r, v) → r = f d ∧ Behind v ∧ ∀ b, r = .ok b → Before v)
    (reads : Reads compile owner declared strict w elements r v) (before : Before w) :
    r = childrenOn f owner declared strict elements ∧ Behind v ∧
      ∀ children, r = .ok children → Before v := by
  have placed {w v : Workshop} {element : List Nat × NodeData}
      {r : Except ConfigurationError (List (Spot × Blueprint))}
      (places : Places compile declared w element r v) (before : Before w) :
      r = placeOn f declared element ∧ Behind v ∧ ∀ here, r = .ok here → Before v := by
    cases places with
    | plain unmatched => exact ⟨by rw [placeOn, unmatched], weaken _ before, fun _ _ => before⟩
    | @taken d r v matched compiled =>
        obtain ⟨rfl, behind, ok⟩ := each d _ matched w r v before compiled
        refine ⟨by rw [placeOn, matched], behind, fun here same => ?_⟩
        cases made : f d with
        | error e => simp [made, Except.map] at same
        | ok b => exact ok b made
  induction reads with
  | done w => exact ⟨rfl, weaken w before, fun _ _ => before⟩
  | stopped places =>
      obtain ⟨place, behind, -⟩ := placed places before
      exact ⟨by rw [childrenOn, ← place], behind, nofun⟩
  | refused places broken =>
      obtain ⟨place, behind, -⟩ := placed places before
      exact ⟨by rw [childrenOn, ← place, broken], behind, nofun⟩
  | @next w v u element rest here r places admitted later ih =>
      obtain ⟨place, -, ok⟩ := placed places before
      obtain ⟨rfl, behind, done⟩ := ih (silent _ _ (asked_complaints _ _) (ok here rfl))
      refine ⟨by rw [childrenOn, ← place, admitted], behind, fun children same => ?_⟩
      cases all : childrenOn f owner declared strict rest with
      | error e => simp [all, Except.map] at same
      | ok more => exact done more all

end Work

/-! ## Faithful memories -/

/-- Every class is referred to either always with its declaration or never. -/
def Catalog.Regular (catalog : Catalog) (declares : String → Bool) : Prop :=
  ∀ entry ∈ catalog, ∀ d ∈ entry.2.components, d.declared = declares d.id

theorem ClassRef.eq_of_usual {declares : String → Bool} {c d : ClassRef} (same : c.id = d.id)
    (one : c.declared = declares c.id) (other : d.declared = declares d.id) : c = d := by
  obtain ⟨id, declared⟩ := c
  obtain ⟨id', declared'⟩ := d
  obtain rfl : id = id' := same
  rw [ClassRef.mk.injEq]
  exact ⟨rfl, one.trans other.symm⟩

instance (catalog : Catalog) (declares : String → Bool) :
    Decidable (catalog.Regular declares) :=
  inferInstanceAs (Decidable (∀ entry ∈ catalog, ∀ d ∈ entry.2.components, _))

theorem Catalog.Regular.used {catalog : Catalog} {declares : String → Bool}
    (regular : catalog.Regular declares) {c d : ClassRef} {m : Metadata} {tag : String}
    (declared : catalog.metadata c = .ok m)
    (matched : Scan.classOf? m.components tag = some d) : d.declared = declares d.id := by
  have member := Scan.mem_of_classOf? matched
  unfold metadata at declared
  split at declared
  · cases entry : catalog.lookup c.id with
    | none =>
        rw [entry] at declared
        cases declared
        cases member
    | some m' =>
        rw [entry] at declared
        cases declared
        obtain ⟨before, after, rfl, -⟩ := List.lookup_eq_some_iff.1 entry
        exact regular (c.id, m') (by simp) d member
  · cases declared

namespace Compiler

/-- What is found in a memory; a class without a blueprint counts as a failure. -/
def among (kept : List (String × Blueprint)) (d : ClassRef) :
    Except ConfigurationError Blueprint :=
  match kept.lookup d.id with
  | some b => .ok b
  | none => .error (.recursiveComponent d.name)

theorem among_eq_ok {kept : List (String × Blueprint)} {d : ClassRef} {b : Blueprint} :
    among kept d = .ok b ↔ kept.lookup d.id = some b := by
  unfold among
  cases kept.lookup d.id <;> simp

variable {catalog : Catalog} {o : CompileOptions} {serial : Nat}
  {f f' : ClassRef → Except ConfigurationError Blueprint} {c : ClassRef} {b : Blueprint}

theorem assemble_eq_ok : assemble catalog o serial f c = .ok b ↔
    ∃ m t children warnings, catalog.metadata c = .ok m ∧ Template.parse? m.template = some t ∧
      Scan.childrenOn f c m.components o.strictExpressions t.root.elementsBelow = .ok children ∧
      Scan.verdict c o.strictComponents (unusedIn m t) = .ok warnings ∧
      .mk serial c t (Scan.bindingsOn t.root.elementsBelow) children warnings = b := by
  unfold assemble
  cases catalog.metadata c with
  | error e => simp
  | ok m =>
      cases parsed : Template.parse? m.template with
      | none => simp [parsed]
      | some t =>
          cases all : Scan.childrenOn f c m.components o.strictExpressions
              t.root.elementsBelow with
          | error e => simp [parsed, all, Except.bind]
          | ok children =>
              cases judged : Scan.verdict c o.strictComponents (unusedIn m t) <;>
                simp [parsed, all, judged, Except.map, Except.bind]

theorem cls_assemble (assembled : assemble catalog o serial f c = .ok b) : b.cls = c := by
  obtain ⟨m, t, children, warnings, -, -, -, -, rfl⟩ := assemble_eq_ok.1 assembled
  rfl

theorem cls_unfold {depth : Nat} {above : List ClassRef}
    (unfolded : unfold catalog o serial depth above c = .ok b) : b.cls = c := by
  cases depth with
  | zero => cases unfolded
  | succ depth =>
      simp only [unfold] at unfolded
      split at unfolded
      · cases unfolded
      · exact cls_assemble unfolded

/-- Where a blueprint is assembled, others that agree on its children assemble it too. -/
theorem assemble_ok (assembled : assemble catalog o serial f c = .ok b)
    (agree : ∀ m d tag spot child, catalog.metadata c = .ok m →
      Scan.classOf? m.components tag = some d → f d = .ok child →
      (spot, child) ∈ b.children → f' d = .ok child) :
    assemble catalog o serial f' c = .ok b := by
  obtain ⟨m, t, children, warnings, declared, parsed, all, judged, rfl⟩ :=
    assemble_eq_ok.1 assembled
  refine assemble_eq_ok.2 ⟨m, t, children, warnings, declared, parsed, ?_, judged, rfl⟩
  refine Scan.childrenOn_ok all fun d tag spot child matched made member => ?_
  exact agree m d tag spot child declared matched made member

end Compiler

open Compiler in
/-- Each blueprint is what its class is assembled to from those in front of it. -/
inductive Faithful (catalog : Catalog) (declares : String → Bool) (o : CompileOptions)
    (serial : Nat) : List (String × Blueprint) → Prop
  | nil : Faithful catalog declares o serial []
  | snoc {kept : List (String × Blueprint)} {b : Blueprint}
      (faithful : Faithful catalog declares o serial kept)
      (new : kept.lookup b.cls.id = none) (usual : b.cls.declared = declares b.cls.id)
      (assembled : assemble catalog o serial (among kept) b.cls = .ok b) :
      Faithful catalog declares o serial (kept ++ [(b.cls.id, b)])

section Memory

open Compiler

variable {catalog : Catalog} {declares : String → Bool} {o : CompileOptions} {serial : Nat}

/-- A kept blueprint is what its class unfolds to, around classes that are not kept. -/
theorem Faithful.unfold {kept : List (String × Blueprint)}
    (faithful : Faithful catalog declares o serial kept) (regular : catalog.Regular declares)
    {depth : Nat} {above : List ClassRef} {c : ClassRef} {b : Blueprint}
    (found : kept.lookup c.id = some b) (usual : c.declared = declares c.id)
    (room : Room catalog depth above) (outside : ∀ a ∈ above, kept.lookup a.id = none) :
    Compiler.unfold catalog o serial depth above c = .ok b := by
  induction faithful generalizing depth above c b with
  | nil => simp at found
  | @snoc kept new faithful fresh own assembled ih =>
      have before : ∀ a ∈ above, kept.lookup a.id = none ∧ a.id ≠ new.cls.id := by
        intro a member
        have := outside a member
        rw [Layered.lookup_snoc] at this
        simpa [Option.or_eq_none_iff] using this
      rcases Layered.lookup_snoc_eq_some.1 found with old | ⟨-, same, rfl⟩
      · exact ih old usual room fun a member => (before a member).1
      · obtain rfl := ClassRef.eq_of_usual same usual own
        cases depth with
        | zero => exact room.not_zero.elim
        | succ depth =>
            have idle : new.cls.id ∉ above.map (·.id) := by
              intro member
              obtain ⟨a, present, same⟩ := List.mem_map.1 member
              exact (before a present).2 same
            have free : above.any new.cls.same = false := by
              rw [List.any_eq_false]
              intro a member
              simpa [ClassRef.same] using Ne.symm (before a member).2
            rw [Compiler.unfold, if_neg (by simp [free])]
            refine assemble_ok assembled ?_
            intro m d tag spot child declared matched made _
            refine ih (among_eq_ok.1 made) (regular.used declared matched)
              (room.push idle (Catalog.listed declared matched)) ?_
            intro a member
            rcases List.mem_append.1 member with earlier | last
            · exact (before a earlier).1
            · rw [List.mem_singleton.1 last]
              exact fresh

/-- A steady workshop with a faithful memory, for given classes in progress. -/
structure Trusty (catalog : Catalog) (declares : String → Bool) (o : CompileOptions)
    (serial : Nat) (above : List ClassRef) (w : Workshop) : Prop where
  steady : Steady w
  options : w.compiler.options = o
  maker : w.compiler.serial = serial
  inProgress : w.compiler.inProgress = above
  faithful : Faithful catalog declares o serial w.compiler.blueprints

variable {above : List ClassRef} {w v : Workshop} {c : ClassRef}

theorem Trusty.reporting (trusty : Trusty catalog declares o serial above w) {ns : List Notice}
    (silent : ns.filterMap Notice.asked? = []) :
    Trusty catalog declares o serial above (w.reporting ns) :=
  ⟨trusty.steady.reporting silent, trusty.options, trusty.maker, trusty.inProgress,
    trusty.faithful⟩

theorem Trusty.opened (trusty : Trusty catalog declares o serial above w)
    (missing : w.compiler.find? c = none) (idle : w.compiler.isCompiling c = false) :
    Trusty catalog declares o serial (above ++ [c]) (Compiler.opened w c) :=
  ⟨trusty.steady.opened missing idle, trusty.options, trusty.maker,
    congrArg (· ++ [c]) trusty.inProgress, trusty.faithful⟩

theorem Trusty.advance (trusty : Trusty catalog declares o serial above w)
    (advance : Advance w v) (steady : Steady v)
    (faithful : Faithful catalog declares o serial v.compiler.blueprints) :
    Trusty catalog declares o serial above v :=
  ⟨steady, advance.options.trans trusty.options, advance.serial.trans trusty.maker,
    advance.inProgress.trans trusty.inProgress, faithful⟩

/-- If the classes that are used compile to what `f` says, a class is made to what it is
assembled to from these. -/
theorem Compiler.Makes.outcome {compile : ClassRef → Compiling Blueprint}
    {f : ClassRef → Except ConfigurationError Blueprint}
    {r : Except ConfigurationError Blueprint}
    (advance : ∀ d w r v, (compile d).exec w = (r, v) → Advance w v)
    (after : ∀ m d tag, catalog.metadata c = .ok m → Scan.classOf? m.components tag = some d →
      ∀ u r v, Steady u → u.compiler.inProgress = above ++ [c] →
        (compile d).exec u = (r, v) → After d r v)
    (each : ∀ m d tag, catalog.metadata c = .ok m → Scan.classOf? m.components tag = some d →
      ∀ u r v, Trusty catalog declares o serial (above ++ [c]) u → (compile d).exec u = (r, v) →
        r = f d ∧ Faithful catalog declares o serial v.compiler.blueprints)
    (named : ∀ d b, f d = .ok b → b.cls = d)
    (makes : Makes catalog compile w c r v)
    (trusty : Trusty catalog declares o serial above w) (usual : c.declared = declares c.id)
    (missing : w.compiler.find? c = none) (idle : w.compiler.isCompiling c = false) :
    r = assemble catalog o serial f c ∧
      Faithful catalog declares o serial v.compiler.blueprints := by
  have opened := trusty.opened missing idle
  have start : w.compiler.options = o := trusty.options
  have reads {m : Metadata} {v : Workshop} {elements : List (List Nat × NodeData)}
      {r : Except ConfigurationError (List (Spot × Blueprint))}
      (declared : catalog.metadata c = .ok m)
      (read : Scan.Reads compile c m.components w.compiler.options.strictExpressions
        (Compiler.opened w c) elements r v) :
      r = Scan.childrenOn f c m.components o.strictExpressions elements ∧
        Faithful catalog declares o serial v.compiler.blueprints ∧
        ∀ children, r = .ok children → Trusty catalog declares o serial (above ++ [c]) v := by
    rw [start] at read
    refine read.outcome (fun w trusty => trusty.faithful)
      (fun w ns silent trusty => trusty.reporting silent) ?_ opened
    intro d tag matched u r v trusty run
    obtain ⟨outcome, faithful⟩ := each m d tag declared matched u r v trusty run
    have ended := after m d tag declared matched u r v trusty.steady trusty.inProgress run
    exact ⟨outcome, faithful, fun b ok =>
      trusty.advance (advance d u r v run) (ended.found b ok).1 faithful⟩
  cases makes with
  | undeclared missing => exact ⟨by rw [assemble, missing], trusty.faithful⟩
  | unreadable declared unparsed =>
      exact ⟨by simp only [assemble, declared, unparsed], trusty.faithful⟩
  | unread declared parsed read =>
      obtain ⟨outcome, faithful, -⟩ := reads declared read
      exact ⟨by simp only [assemble, declared, parsed, ← outcome, Except.bind], faithful⟩
  | unused declared parsed read judged =>
      obtain ⟨outcome, faithful, ok⟩ := reads declared read
      rw [(ok _ rfl).options] at judged
      exact ⟨by simp only [assemble, declared, parsed, ← outcome, judged, Except.map, Except.bind],
        faithful⟩
  | @made m t children warnings u declared parsed read judged =>
      obtain ⟨outcome, faithful, ok⟩ := reads declared read
      have behind := ok _ rfl
      rw [behind.options] at judged
      rw [behind.maker]
      refine ⟨by simp only [assemble, declared, parsed, ← outcome, judged, Except.map, Except.bind],
        ?_⟩
      -- all children were kept while the template was read
      have kept : ∀ child ∈ children, u.compiler.find? child.2.cls = some child.2 :=
        ((read.after advance (after m · · declared) opened.steady opened.inProgress).2
          children rfl).2
      have lost : u.compiler.find? c = none :=
        behind.steady.pending c (by rw [behind.inProgress]; simp)
      have assembled : assemble catalog o serial (among u.compiler.blueprints) c =
          .ok (.mk serial c t (Scan.bindingsOn t.root.elementsBelow) children warnings) := by
        refine assemble_eq_ok.2 ⟨m, t, children, warnings, declared, parsed, ?_, judged, rfl⟩
        refine Scan.childrenOn_ok outcome.symm fun d tag spot b _ made member => ?_
        rw [among_eq_ok, ← named d b made]
        exact kept _ member
      exact .snoc faithful lost usual assembled

/-- Compiling gives what unfolding gives, and keeps the memory faithful. -/
theorem Compiler.outcome_compileWithin (regular : catalog.Regular declares) (depth : Nat)
    (c : ClassRef) (w : Workshop) {r : Except ConfigurationError Blueprint} {v : Workshop}
    (usual : c.declared = declares c.id) (trusty : Trusty catalog declares o serial above w)
    (room : Room catalog depth above) (run : (compileWithin catalog depth c).exec w = (r, v)) :
    r = unfold catalog o serial depth above c ∧
      Faithful catalog declares o serial v.compiler.blueprints := by
  induction depth generalizing above c w r v with
  | zero => exact room.not_zero.elim
  | succ depth ih =>
      rcases exec_obtain_cases catalog _ c w run with
        ⟨b, found, rfl, rfl⟩ | ⟨-, busy, rfl, rfl⟩ | ⟨missing, idle, makes⟩
      · refine ⟨(trusty.faithful.unfold regular found usual room ?_).symm, trusty.faithful⟩
        rw [← trusty.inProgress]
        exact trusty.steady.pending
      · refine ⟨?_, trusty.faithful⟩
        rw [isCompiling, trusty.inProgress] at busy
        rw [unfold, if_pos busy]
      · have free := idle
        rw [isCompiling, trusty.inProgress] at free
        rw [unfold, if_neg (by simp [free])]
        have inner : ∀ m d tag, catalog.metadata c = .ok m →
            Scan.classOf? m.components tag = some d → Room catalog depth (above ++ [c]) := by
          intro m d tag declared matched
          rw [isCompiling_eq_false_iff, trusty.inProgress] at idle
          exact room.push idle (Catalog.listed declared matched)
        refine makes.outcome (advance_compileWithin catalog depth) ?_ ?_
          (fun _ _ => cls_unfold) trusty usual missing idle
        · intro m d tag declared matched u r v steady progress run
          refine after_compileWithin catalog depth d u steady ?_ run
          rw [progress]
          exact inner m d tag declared matched
        · intro m d tag declared matched u r v trusty run
          exact ih d u (regular.used declared matched) trusty (inner m d tag declared matched) run

end Memory

/-! ## Histories make no difference -/

/-- What is told of a blueprint: its manifest, and its template. -/
def Blueprint.shown (b : Blueprint) : Manifest × Template :=
  (b.manifest, b.template)

theorem Blueprint.manifests_eq (children : List (Spot × Blueprint)) :
    Blueprint.manifests children = (children.map fun child => child.2.shown).map Prod.fst := by
  induction children with
  | nil => rfl
  | cons child rest ih => simp [Blueprint.manifests, ih, shown]

theorem Blueprint.shown_mk (serial : Nat) (c : ClassRef) (t : Template)
    (bindings : List (Spot × Binding)) (children : List (Spot × Blueprint))
    (warnings : List ConfigurationError) :
    (Blueprint.mk serial c t bindings children warnings).shown =
      (.mk c.name c.tag (bindings.map fun (spot, b) => .of spot b)
        ((children.map fun child => child.2.shown).map Prod.fst)
        (warnings.map (·.message)), t) := by
  rw [← manifests_eq]
  rfl

namespace Compiler

/-- What is seen of a result depends on what is seen of what it is made of. -/
theorem map_bind_congr {ε α β γ δ : Type} {x y : Except ε α} {k l : α → Except ε β} {g : α → γ}
    {h : β → δ} (same : x.map g = y.map g)
    (agree : ∀ a b, g a = g b → (k a).map h = (l b).map h) :
    (x.bind k).map h = (y.bind l).map h := by
  cases x <;> cases y <;>
    simp only [Except.map, reduceCtorEq, Except.error.injEq, Except.ok.injEq] at same
  · rw [same]
    rfl
  · exact agree _ _ same

variable {catalog : Catalog} {declares : String → Bool}

/-- What is told of a class depends on what is told of the classes that it uses. -/
theorem assemble_shown {o : CompileOptions} {serial serial' : Nat}
    {f f' : ClassRef → Except ConfigurationError Blueprint} (c : ClassRef)
    (agree : ∀ d, (f d).map Blueprint.shown = (f' d).map Blueprint.shown) :
    (assemble catalog o serial f c).map Blueprint.shown =
      (assemble catalog o serial' f' c).map Blueprint.shown := by
  unfold assemble
  cases catalog.metadata c with
  | error e => rfl
  | ok m =>
      cases parsed : Template.parse? m.template with
      | none => simp only [parsed]
      | some t =>
          have same : (Scan.childrenOn f c m.components o.strictExpressions
                t.root.elementsBelow).map (List.map fun child => child.2.shown) =
              (Scan.childrenOn f' c m.components o.strictExpressions
                t.root.elementsBelow).map (List.map fun child => child.2.shown) :=
            Scan.childrenOn_map Blueprint.shown fun element _ =>
              Scan.placeOn_map Blueprint.shown element rfl fun d _ => agree d
          simp only [parsed]
          let finish (serial : Nat) (children : List (Spot × Blueprint)) :=
            (Scan.verdict c o.strictComponents (unusedIn m t)).map
              (Blueprint.mk serial c t (Scan.bindingsOn t.root.elementsBelow) children)
          refine map_bind_congr (k := finish serial) same ?_
          intro children children' seen
          cases judged : Scan.verdict c o.strictComponents (unusedIn m t) with
          | error e => simp only [finish, judged, Except.map]
          | ok warnings =>
              simp only [finish, judged, Except.map, Blueprint.shown_mk, seen]

/-- What is told of a class does not depend on the number of the compiler. -/
theorem unfold_shown (o : CompileOptions) (serial serial' depth : Nat) (above : List ClassRef)
    (c : ClassRef) : (unfold catalog o serial depth above c).map Blueprint.shown =
      (unfold catalog o serial' depth above c).map Blueprint.shown := by
  induction depth generalizing above c with
  | zero => rfl
  | succ depth ih =>
      simp only [unfold]
      split
      · rfl
      · exact assemble_shown c (ih _)

section History

variable (serial : Nat) (options : CompileOptions) (calls : List ClassRef)

theorem trusty_after (regular : catalog.Regular declares)
    (usual : ∀ d ∈ calls, d.declared = declares d.id) :
    Trusty catalog declares options serial []
      { compiler := after { serial, options } (calls.map (catalog, ·)) } := by
  induction calls using List.reverseRecOn with
  | nil => exact ⟨steady_start rfl .nil, rfl, rfl, rfl, .nil⟩
  | append_singleton calls c ih =>
      have before := ih fun d member => usual d (List.mem_append_left _ member)
      have advance := advance_after { serial, options } ((calls ++ [c]).map (catalog, ·))
      refine ⟨steady_start (inProgress_after _ _ _) (layered_after _ _ _), advance.options,
        advance.serial, advance.inProgress, ?_⟩
      rw [List.map_append, List.map_singleton, after_concat]
      exact (outcome_compileWithin regular (depthBound catalog) c _ (usual c (by simp)) before
        (Room.start catalog) rfl).2

/-- Behind every history, compiling a class gives what it unfolds to. -/
theorem outcome_after (regular : catalog.Regular declares)
    (usual : ∀ d ∈ calls, d.declared = declares d.id) {c : ClassRef}
    (own : c.declared = declares c.id) :
    ((after { serial, options } (calls.map (catalog, ·))).run (compile catalog c)).1 =
      unfold catalog options serial (depthBound catalog) [] c :=
  (outcome_compileWithin regular (depthBound catalog) c _ own
    (trusty_after serial options calls regular usual) (Room.start catalog) rfl).1

end History

/-- Whatever a compiler was used for before, a class compiles to what it does on a new
compiler with the same options: to the same error, or to a blueprint with the same
manifest and the same template. -/
theorem outcome_independent (regular : catalog.Regular declares) (serial serial' : Nat)
    (options : CompileOptions) (calls : List ClassRef) (c : ClassRef)
    (usual : ∀ d ∈ c :: calls, d.declared = declares d.id) :
    ((after { serial, options } (calls.map (catalog, ·))).run (compile catalog c)).1.map
        Blueprint.shown =
      (Compiler.run { serial := serial', options } (compile catalog c)).1.map Blueprint.shown := by
  have own := usual c (by simp)
  have earlier : ∀ d ∈ calls, d.declared = declares d.id := fun d member =>
    usual d (List.mem_cons_of_mem _ member)
  rw [outcome_after serial options calls regular earlier own]
  rw [show Compiler.run { serial := serial', options } (compile catalog c) =
    (after { serial := serial', options } (([] : List ClassRef).map (catalog, ·))).run
      (compile catalog c) from rfl, outcome_after serial' options [] regular nofun own]
  exact unfold_shown options serial serial' _ _ c

/-- Two classes that use each other fail before and behind a class that uses neither. -/
theorem outcome_independent_knot :
    let a : ClassRef := ⟨"Left", true⟩
    let b : ClassRef := ⟨"Right", true⟩
    let catalog : Catalog :=
      [("Left", ⟨"<right></right>", [b]⟩), ("Right", ⟨"<left></left>", [a]⟩)]
    catalog.Regular (fun _ => true) ∧ (∀ d ∈ [a, b, ⟨"Plain", true⟩, b], d.declared = true) ∧
      ((after { serial := 0 } ([b, ⟨"Plain", true⟩, b].map (catalog, ·))).run
          (compile catalog a)).1.map Blueprint.shown =
        (Compiler.run { serial := 1 } (compile catalog a)).1.map Blueprint.shown := by
  intro a b catalog
  have regular : catalog.Regular (fun _ => true) := by decide
  have usual : ∀ d ∈ [a, b, ⟨"Plain", true⟩, b], d.declared = true := by decide
  exact ⟨regular, usual,
    outcome_independent regular 0 1 {} [b, ⟨"Plain", true⟩, b] a usual⟩

end Compiler

end LiveTemplates
