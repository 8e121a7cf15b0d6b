/-
# LiveTemplates.Proofs.Blueprint.Scanning -- what is found in a template, and in which order

Reading a template comes to points at which it can fail: on each element first the class that
stands in its place, should there be one, and then the bindings that are written on it.  It goes
on as long as points are passed, and fails with the first that is not.  If it comes to its end,
it has found a child for each element with the tag of a declared class and a binding for each
attribute that is written as one, and nothing else, in document order.

What happens at a point depends on what the compiler has made up to there.  So points are passed
from one workshop to the next.

* `Scan.points`: the points of elements in order;
* `Scan.Passed`, `Scan.Stops`: all of some points are passed, or one of them is the first to fail;
* `Compiler.registered`: a class that compiles has its blueprint in the compiler, whatever was
  in there before;
* `Scan.ofTree_finds`: what is found, and when and how reading fails.
-/
import LiveTemplates.Proofs.Blueprint.Registry
import Mathlib

namespace LiveTemplates

set_option autoImplicit false

/-- Work of whose result something is known has come to its end. -/
theorem Compiling.exists_ok {α β : Type} {x : Except ConfigurationError α × Workshop} {f : α → β}
    {b : β} (known : x.1.toOption.map f = some b) : ∃ a v, x = (.ok a, v) ∧ f a = b := by
  rcases x with ⟨e | a, v⟩
  · cases known
  · exact ⟨a, v, rfl, Option.some.inj known⟩

/-! ## Registered blueprints -/

section Registered

variable {compile : ClassRef → Compiling Blueprint} {c : ClassRef} {w v : Workshop}

/-- A class in progress without a blueprint has none behind the reading of elements either. -/
theorem Scan.Reads.unregistered {owner : ClassRef} {declared : List ClassRef} {strict : Bool}
    {elements : List (List Nat × NodeData)}
    {r : Except ConfigurationError (List (Spot × Blueprint))}
    (advance : ∀ d w r v, (compile d).exec w = (r, v) → Advance w v)
    (each : ∀ d w r v, (compile d).exec w = (r, v) → w.compiler.isCompiling c = true →
      w.compiler.find? c = none → v.compiler.find? c = none)
    (reads : Scan.Reads compile owner declared strict w elements r v)
    (busy : w.compiler.isCompiling c = true) (missing : w.compiler.find? c = none) :
    v.compiler.find? c = none := by
  have placed {w v : Workshop} {element : List Nat × NodeData}
      {r : Except ConfigurationError (List (Spot × Blueprint))}
      (places : Scan.Places compile declared w element r v)
      (busy : w.compiler.isCompiling c = true) (missing : w.compiler.find? c = none) :
      v.compiler.isCompiling c = true ∧ v.compiler.find? c = none := by
    cases places with
    | plain => exact ⟨busy, missing⟩
    | taken _ compiled =>
        refine ⟨?_, each _ _ _ _ compiled busy missing⟩
        rwa [Compiler.isCompiling, (advance _ _ _ _ compiled).inProgress]
  induction reads with
  | done => exact missing
  | stopped places => exact (placed places busy missing).2
  | refused places => exact (placed places busy missing).2
  | next places _ _ ih =>
      obtain ⟨busy, missing⟩ := placed places busy missing
      exact ih busy missing

namespace Compiler

/-- Compiling other classes makes no blueprint of a class in progress. -/
theorem unregistered (catalog : Catalog) (depth : Nat) (d : ClassRef)
    {r : Except ConfigurationError Blueprint}
    (run : (compileWithin catalog depth d).exec w = (r, v))
    (busy : w.compiler.isCompiling c = true) (missing : w.compiler.find? c = none) :
    v.compiler.find? c = none := by
  induction depth generalizing d w r v with
  | zero =>
      obtain ⟨rfl, rfl⟩ := Prod.mk.inj run
      exact missing
  | succ depth ih =>
      have read {m : Metadata} {r : Except ConfigurationError (List (Spot × Blueprint))}
          {elements : List (List Nat × NodeData)} {v : Workshop}
          (reads : Scan.Reads (compileWithin catalog depth) d m.components
            w.compiler.options.strictExpressions (opened w d) elements r v) :
          v.leave.compiler.find? c = none := by
        change v.compiler.find? c = none
        refine reads.unregistered (fun d w _ _ => advance_compileWithin catalog depth d w)
          (fun d _ _ _ run => ih d run) (c := c) ?_ missing
        rw [isCompiling_iff] at busy ⊢
        simp only [opened, Workshop.inProgress_enter, List.map_append]
        exact List.mem_append_left _ busy
      rcases exec_obtain_cases catalog _ d w run with
        ⟨_, _, _, rfl⟩ | ⟨_, _, _, rfl⟩ | ⟨_, idle, makes⟩
      · exact missing
      · exact missing
      · cases makes with
        | undeclared => exact missing
        | unreadable => exact missing
        | unread _ _ reads => exact read reads
        | unused _ _ reads => exact read reads
        | @made m t children warnings u _ _ reads =>
            -- the class that is made was idle, the one in question is not
            have other : c.id ≠ d.id := by
              rw [isCompiling_iff] at busy
              rw [isCompiling_eq_false_iff] at idle
              exact fun same => idle (same ▸ busy)
            refine (Workshop.find?_keep _ _ c).trans ?_
            rw [Option.or_eq_none_iff]
            exact ⟨read reads, if_neg other⟩

/-- A class that compiles has its blueprint in the compiler. -/
theorem registered (catalog : Catalog) (depth : Nat) (c : ClassRef) {b : Blueprint}
    (run : (compileWithin catalog depth c).exec w = (.ok b, v)) : v.compiler.find? c = some b := by
  cases depth with
  | zero => cases run
  | succ depth =>
      rcases exec_obtain_cases catalog _ c w run with
        ⟨b', found, same, rfl⟩ | ⟨_, _, failed, _⟩ | ⟨missing, idle, makes⟩
      · cases same
        exact found
      · cases failed
      · cases makes with
        | @made m t children warnings u _ _ reads =>
            -- the class was in progress meanwhile, so nothing else was kept for it
            have lost : u.compiler.find? c = none :=
              reads.unregistered (fun d w _ _ => advance_compileWithin catalog depth d w)
                (fun d _ _ _ run => unregistered catalog depth d run)
                (by rw [isCompiling_iff]; simp [opened]) missing
            refine (Workshop.find?_keep _ _ c).trans ?_
            rw [show (u.leave.reporting _).compiler.find? c = none from lost, Option.none_or]
            exact if_pos rfl

end Compiler

end Registered

/-! ## Points -/

namespace Scan

/-- The last declared class with a tag. -/
def lastOf (declared : List ClassRef) (tag : String) : Option ClassRef :=
  (declared.filter (·.tag = tag)).getLast?

theorem classOf?_eq_lastOf (declared : List ClassRef) (tag : String) :
    classOf? declared tag = lastOf declared tag := by
  rw [classOf?, lastOf, ← List.head?_filter, List.filter_reverse, List.head?_reverse]

/-- An element stands for a class if a declared class has its tag. -/
theorem isSome_lastOf (declared : List ClassRef) (tag : String) :
    (lastOf declared tag).isSome = declared.any (·.tag = tag) := by
  rw [← classOf?_eq_lastOf, classOf?, Bool.eq_iff_iff]
  simp

/-- What reading can fail at: a class in the place of an element, or a binding on one. -/
inductive Point where
  | child (c : ClassRef)
  | binding (b : Binding)

/-- The points of an element; the class comes first. -/
def pointsOn (declared : List ClassRef) (element : List Nat × NodeData) : List Point :=
  (lastOf declared element.2.describe).toList.map .child ++
    (Binding.among element.2.attrs).map .binding

/-- The points of elements in order. -/
def points (declared : List ClassRef) (elements : List (List Nat × NodeData)) : List Point :=
  elements.flatMap (pointsOn declared)

section Points

variable (compile : ClassRef → Compiling Blueprint) (owner : ClassRef) (strict : Bool)

/-- A point is passed: the class compiles, or the binding has a program.  A broken binding is
reported, if it is admitted. -/
inductive Passes : Workshop → Point → Workshop → Prop
  | child {w v : Workshop} {c : ClassRef} {b : Blueprint}
      (compiled : (compile c).exec w = (.ok b, v)) : Passes w (.child c) v
  | sound (w : Workshop) {b : Binding} {e : Expression} (compiled : b.expression = .ok e) :
      Passes w (.binding b) w
  | reported (w : Workshop) {b : Binding} {e : ExpressionError} (admitted : strict = false)
      (broken : b.expression = .error e) :
      Passes w (.binding b) (w.reporting [.broken owner.name b.written e])

/-- A point fails: the class does not compile, or the binding is broken and must not be. -/
inductive Fails : Workshop → Point → ConfigurationError → Prop
  | child {w v : Workshop} {c : ClassRef} {e : ConfigurationError}
      (failed : (compile c).exec w = (.error e, v)) : Fails w (.child c) e
  | binding (w : Workshop) {b : Binding} {e : ExpressionError} (strictly : strict = true)
      (broken : b.expression = .error e) :
      Fails w (.binding b) (.invalidBinding owner.name b.written e)

/-- Points are passed one by one. -/
inductive Passed : Workshop → List Point → Workshop → Prop
  | nil (w : Workshop) : Passed w [] w
  | cons {w v u : Workshop} {p : Point} {rest : List Point}
      (first : Passes compile owner strict w p v) (later : Passed v rest u) : Passed w (p :: rest) u

/-- Points are passed up to one that fails. -/
inductive Stops : Workshop → List Point → ConfigurationError → Prop
  | here {w : Workshop} {p : Point} {rest : List Point} {e : ConfigurationError}
      (fails : Fails compile owner strict w p e) : Stops w (p :: rest) e
  | later {w v : Workshop} {p : Point} {rest : List Point} {e : ConfigurationError}
      (first : Passes compile owner strict w p v) (stops : Stops v rest e) : Stops w (p :: rest) e

end Points

section Outcome

variable {compile : ClassRef → Compiling Blueprint} {owner : ClassRef} {strict : Bool}
  {w v u : Workshop} {p : Point} {ps qs : List Point} {e e' : ConfigurationError}

theorem Passes.unique (first : Passes compile owner strict w p v)
    (second : Passes compile owner strict w p u) : v = u := by
  cases first with
  | child compiled =>
      obtain ⟨compiled'⟩ := second
      exact (Prod.mk.inj (compiled.symm.trans compiled')).2
  | sound compiled =>
      cases second with
      | sound => rfl
      | reported _ broken => simp [compiled] at broken
  | reported _ broken =>
      cases second with
      | sound compiled => simp [compiled] at broken
      | reported _ broken' => rw [Except.error.inj (broken.symm.trans broken')]

theorem Fails.unique (first : Fails compile owner strict w p e)
    (second : Fails compile owner strict w p e') : e = e' := by
  cases first with
  | child failed =>
      obtain ⟨failed'⟩ := second
      exact Except.error.inj (Prod.mk.inj (failed.symm.trans failed')).1
  | binding _ broken =>
      cases second with
      | binding _ broken' => rw [Except.error.inj (broken.symm.trans broken')]

/-- What is passed does not fail. -/
theorem Passes.not_fails (passes : Passes compile owner strict w p v) :
    ¬ Fails compile owner strict w p e := by
  intro fails
  cases fails with
  | child failed =>
      obtain ⟨compiled⟩ := passes
      simp [compiled] at failed
  | binding strictly broken =>
      cases passes with
      | sound compiled => simp [compiled] at broken
      | reported admitted => simp [admitted] at strictly

/-- Where all points are passed, there is none to stop at. -/
theorem Passed.not_stops (passed : Passed compile owner strict w ps v) :
    ¬ Stops compile owner strict w ps e := by
  induction passed with
  | nil => nofun
  | cons first _ ih =>
      rintro (fails | ⟨first', stops⟩)
      · exact first.not_fails fails
      · obtain rfl := first.unique first'
        exact ih stops

/-- There is one point to stop at. -/
theorem Stops.unique (stops : Stops compile owner strict w ps e)
    (stops' : Stops compile owner strict w ps e') : e = e' := by
  induction stops with
  | here fails =>
      rcases stops' with fails' | ⟨first', _⟩
      · exact fails.unique fails'
      · exact absurd fails first'.not_fails
  | later first _ ih =>
      rcases stops' with fails' | ⟨first', stops'⟩
      · exact absurd fails' first.not_fails
      · obtain rfl := first.unique first'
        exact ih stops'

theorem Passed.append (passed : Passed compile owner strict w ps v)
    (later : Passed compile owner strict v qs u) : Passed compile owner strict w (ps ++ qs) u := by
  induction passed with
  | nil => exact later
  | cons first _ ih => exact .cons first (ih later)

theorem Passed.stops (passed : Passed compile owner strict w ps v)
    (stops : Stops compile owner strict v qs e) : Stops compile owner strict w (ps ++ qs) e := by
  induction passed with
  | nil => exact stops
  | cons first _ ih => exact .later first (ih stops)

theorem Stops.append (stops : Stops compile owner strict w ps e) (qs : List Point) :
    Stops compile owner strict w (ps ++ qs) e := by
  induction stops with
  | here fails => exact .here fails
  | later first _ ih => exact .later first ih

/-! ## Reading elements -/

variable {declared : List ClassRef} {element : List Nat × NodeData}
  {elements : List (List Nat × NodeData)} {bs : List Binding}
  {here children : List (Spot × Blueprint)}

/-- Bindings that are admitted are passed, and the broken ones of them are reported. -/
theorem passed_of_accept (admitted : accept owner strict bs = .ok ()) (w : Workshop) :
    Passed compile owner strict w (bs.map .binding) (w.reporting (complaints owner bs)) := by
  induction bs generalizing w with
  | nil => exact .nil w
  | cons b rest ih =>
      cases compiled : b.expression with
      | ok x =>
          simp only [accept, compiled] at admitted
          rw [complaints, compiled]
          exact .cons (.sound w compiled) (ih admitted w)
      | error x =>
          cases strict with
          | true => simp [accept, compiled] at admitted
          | false =>
              rw [complaints, compiled]
              simp only [← Workshop.reporting_reporting]
              exact .cons (.reported w rfl compiled) (ih (accept_lax owner rest) _)

/-- Bindings that are not admitted have a first one that is broken. -/
theorem stops_of_accept (refused : accept owner strict bs = .error e) (w : Workshop) :
    Stops compile owner strict w (bs.map .binding) e := by
  induction bs with
  | nil => cases refused
  | cons b rest ih =>
      cases compiled : b.expression with
      | ok x =>
          simp only [accept, compiled] at refused
          exact .later (.sound w compiled) (ih refused)
      | error x =>
          cases strict with
          | false => simp [accept_lax] at refused
          | true =>
              obtain rfl : .invalidBinding owner.name b.written x = e := by
                simpa [accept, compiled] using refused
              exact .here (.binding w rfl compiled)

/-- The class that stands in the place of an element compiles, if there is one. -/
theorem Places.passed (places : Places compile declared w element (.ok here) v) :
    Passed compile owner strict w ((lastOf declared element.2.describe).toList.map .child) v := by
  rw [← classOf?_eq_lastOf]
  generalize same : Except.ok here = r at places
  cases places with
  | plain unmatched =>
      rw [unmatched]
      exact .nil w
  | @taken c r v matched compiled =>
      rw [matched]
      cases r with
      | error e => cases same
      | ok b => exact .cons (.child compiled) (.nil _)

theorem Places.stops (places : Places compile declared w element (.error e) v) :
    Stops compile owner strict w ((lastOf declared element.2.describe).toList.map .child) e := by
  rw [← classOf?_eq_lastOf]
  generalize same : Except.error e = r at places
  cases places with
  | plain => cases same
  | @taken c r v matched compiled =>
      rw [matched]
      cases r with
      | error e' =>
          obtain rfl : e = e' := Except.error.inj same
          exact .here (.child compiled)
      | ok b => cases same

/-- Reading elements passes all their points, or stops at one of them. -/
theorem Reads.meets {r : Except ConfigurationError (List (Spot × Blueprint))}
    (reads : Reads compile owner declared strict w elements r v) :
    (∀ children, r = .ok children → Passed compile owner strict w (points declared elements) v) ∧
      ∀ e, r = .error e → Stops compile owner strict w (points declared elements) e := by
  induction reads with
  | done w => exact ⟨fun _ _ => .nil w, nofun⟩
  | stopped placed =>
      refine ⟨nofun, ?_⟩
      rintro _ ⟨⟩
      exact (placed.stops.append _).append _
  | refused placed broken =>
      refine ⟨nofun, ?_⟩
      rintro _ ⟨⟩
      exact (placed.passed.stops (stops_of_accept broken _)).append _
  | @next w v u element rest here r placed admitted later ih =>
      have passed : Passed compile owner strict w (pointsOn declared element) _ :=
        placed.passed.append (passed_of_accept admitted v)
      constructor
      · intro children same
        cases r with
        | error e => cases same
        | ok more => exact passed.append (ih.1 more rfl)
      · intro e same
        cases r with
        | error e' =>
            obtain rfl : e' = e := Except.error.inj same
            exact passed.stops (ih.2 e' rfl)
        | ok more => cases same

/-- A child stands in the place of an element: it is the blueprint that the compiler has for the
last declared class with the tag of the element. -/
def Stands (k : Compiler) (declared : List ClassRef) (element : List Nat × NodeData)
    (child : Spot × Blueprint) : Prop :=
  child.1 = ⟨element.1, element.2.describe⟩ ∧
    ∃ c, lastOf declared element.2.describe = some c ∧ k.find? c = some child.2

/-- Elements with the tag of a declared class have a child each. -/
theorem Reads.stand (advance : ∀ d w r v, (compile d).exec w = (r, v) → Advance w v)
    (registered : ∀ d w b v, (compile d).exec w = (.ok b, v) → v.compiler.find? d = some b)
    (reads : Reads compile owner declared strict w elements (.ok children) v) :
    List.Forall₂ (Stands v.compiler declared)
      (elements.filter fun element => declared.any (·.tag = element.2.describe)) children := by
  generalize same : Except.ok children = r at reads
  induction reads generalizing children with
  | done w =>
      cases same
      exact .nil
  | stopped => cases same
  | refused => cases same
  | @next w v u element rest here r placed admitted later ih =>
      cases r with
      | error e => cases same
      | ok more =>
          cases same
          rw [List.filter_cons, ← isSome_lastOf, ← classOf?_eq_lastOf]
          generalize same : Except.ok here = r at placed
          cases placed with
          | plain unmatched =>
              cases same
              simpa [unmatched] using ih rfl
          | @taken c r v matched compiled =>
              cases r with
              | error e => cases same
              | ok b =>
                  cases same
                  -- what is registered here is so at the end
                  have found : u.compiler.find? c = some b :=
                    (later.advance advance).find? (registered c w b v compiled)
                  simp only [matched, Option.isSome_some, if_true]
                  exact .cons ⟨rfl, c, classOf?_eq_lastOf declared _ ▸ matched, found⟩ (ih rfl)

end Outcome

/-! ## Reading a template -/

/-- The bindings on elements are the attributes that are written as such. -/
theorem bindingsOn_eq (elements : List (List Nat × NodeData)) :
    bindingsOn elements = elements.flatMap fun element => element.2.attrs.filterMap fun a =>
      (BindingKind.ofAttribute? a.name).map fun (kind, name) =>
        (⟨element.1, element.2.describe⟩,
          ⟨kind, name, a.value, Expression.compile kind a.value⟩) := by
  rw [bindingsOn]
  congr 1
  funext element
  rw [Binding.among, Binding.gather, List.map_map, List.map_filterMap]
  congr 1
  funext a
  cases BindingKind.ofAttribute? a.name <;> rfl

/-- Whatever the compiler is in the middle of, and whatever it has made before: reading a template
to its end finds one child for each element with the tag of a declared class, which is what the
compiler then has for the last such class, and one binding for each attribute that is written as
one, both in the order of the document.  Reading fails with an error just if this is the error of
the first point that fails, on each element the class in front of the bindings. -/
theorem ofTree_finds {catalog : Catalog} {depth : Nat} {owner : ClassRef}
    {declared : List ClassRef} {root : Tree} {w v : Workshop} {r : Except ConfigurationError Scan}
    (run : (ofTree (Compiler.compileWithin catalog depth) owner declared root).exec w = (r, v)) :
    (∀ s, r = .ok s →
      List.Forall₂ (Stands v.compiler declared)
        (root.elementsBelow.filter fun element => declared.any (·.tag = element.2.describe))
        s.children ∧
      s.bindings = root.elementsBelow.flatMap fun element => element.2.attrs.filterMap fun a =>
        (BindingKind.ofAttribute? a.name).map fun (kind, name) =>
          (⟨element.1, element.2.describe⟩,
            ⟨kind, name, a.value, Expression.compile kind a.value⟩)) ∧
    ∀ e, r = .error e ↔
      Stops (Compiler.compileWithin catalog depth) owner w.compiler.options.strictExpressions w
        (points declared root.elementsBelow) e := by
  obtain ⟨read, u, reads, outcome⟩ :=
    exec_ofTree (Compiler.compileWithin catalog depth) owner declared root w
  obtain ⟨rfl, rfl⟩ := Prod.mk.inj (outcome.symm.trans run)
  obtain ⟨passed, stops⟩ := reads.meets
  cases read with
  | ok children =>
      refine ⟨?_, fun e => ⟨nofun, fun stopped => absurd stopped (passed children rfl).not_stops⟩⟩
      rintro _ ⟨⟩
      refine ⟨?_, bindingsOn_eq root.elementsBelow⟩
      exact reads.stand (fun d w _ _ => Compiler.advance_compileWithin catalog depth d w)
        fun d _ _ _ => Compiler.registered catalog depth d
  | error e =>
      refine ⟨nofun, fun e' => ⟨?_, fun stopped => ?_⟩⟩
      · rintro ⟨⟩
        exact stops e rfl
      · rw [(stops e rfl).unique stopped]
        rfl

namespace Namesakes

/-- Two classes of one name. -/
def declared : List ClassRef :=
  [⟨"Label", true⟩, ⟨"other::Label", true⟩]

/-- `<div [title]=""><label></label></div><label [id]=""></label>` -/
def root : Tree :=
  .node (.element .html "body" [])
    [.node (.element .html "div" [⟨.none, "[title]", ""⟩])
      [.node (.element .html "label" []) []],
    .node (.element .html "label" [⟨.none, "[id]", ""⟩]) []]

/-- The template is read by a new compiler. -/
def scanned (o : CompileOptions) : Except ConfigurationError Scan × Workshop :=
  (ofTree (Compiler.compileWithin [] 1) ⟨"Panel", true⟩ declared root).exec
    { compiler := { serial := 0, options := o } }

set_option maxRecDepth 20000 in
theorem finds : ∃ s v, scanned {} = (.ok s, v) ∧
    (s.children.map fun child => (child.1.address, child.2.cls.id), s.bindings.map (·.2.name)) =
      ([([0, 0], "other::Label"), ([1], "other::Label")], ["title", "id"]) := by
  refine Compiling.exists_ok ?_
  cbv

end Namesakes

/-- Of two classes with one tag the last one stands for it. -/
theorem ofTree_finds_namesakes : ∃ s v, Namesakes.scanned {} = (.ok s, v) ∧
    s.children.map (fun child => (child.1.address, child.2.cls.id)) =
      [([0, 0], "other::Label"), ([1], "other::Label")] ∧
    s.bindings.map (·.2.name) = ["title", "id"] ∧
    List.Forall₂ (Stands v.compiler Namesakes.declared)
      (Namesakes.root.elementsBelow.filter fun element =>
        Namesakes.declared.any (·.tag = element.2.describe)) s.children := by
  obtain ⟨s, v, run, same⟩ := Namesakes.finds
  obtain ⟨children, bindings⟩ := Prod.mk.inj same
  exact ⟨s, v, run, children, bindings, ((ofTree_finds run).1 s rfl).1⟩

end Scan

end LiveTemplates
