/-
# LiveTemplates.Proofs.Blueprint.Histories -- a compiler over many compilations

A compiler is used again and again, for any classes and also behind failures
(`Compiler.after`).  The declarations may differ from one use to the next.

* `Calls`, `Within`: the compilations that happen inside of one, each with the workshop
  in which it starts;
* `Within.fails`: where one of these fails, all around it fail with the same error and
  keep nothing more;
* `Coherent`, `Orderly`: what the blueprints of a compiler have in common, and what one
  more compilation does to them;
* `Compiler.registry_invariant`: both hold behind every history.
-/
import LiveTemplates.Proofs.Blueprint.Registry
import Mathlib.Data.List.Induction

namespace LiveTemplates

set_option autoImplicit false

/-! ## Compilations inside of others -/

/-- Compiling a class from a workshop on comes to compile another one, from a later
workshop on, for an element of its template. -/
inductive Calls (catalog : Catalog) (depth : Nat) (w : Workshop) (c : ClassRef) (u : Workshop)
    (d : ClassRef) : Prop
  | intro {m : Metadata} {t : Template} {before after : List (List Nat × NodeData)}
      {element : List Nat × NodeData} {s : Scan}
      (missing : w.compiler.find? c = none) (idle : w.compiler.isCompiling c = false)
      (declared : catalog.metadata c = .ok m) (parsed : Template.parse? m.template = some t)
      (split : t.root.elementsBelow = before ++ element :: after)
      (read : (before.foldlM (Scan.addElement (Compiler.compileWithin catalog depth) c
        m.components w.compiler.options.strictExpressions) {}).exec (Compiler.opened w c) =
          (.ok s, u))
      (matched : Scan.classOf? m.components element.2.describe = some d)

/-- The compilations that happen while a class is compiled, this one included, each with
the depth that is left. -/
inductive Within (catalog : Catalog) :
    Nat → Workshop → ClassRef → Nat → Workshop → ClassRef → Prop
  | self (depth : Nat) (w : Workshop) (c : ClassRef) : Within catalog depth w c depth w c
  | inner {depth n : Nat} {w u v : Workshop} {c d x : ClassRef}
      (calls : Calls catalog depth w c u d) (within : Within catalog depth u d n v x) :
      Within catalog (depth + 1) w c n v x

section Inside

open Compiling Compiler Scan

variable {catalog : Catalog} {depth : Nat} {w u v : Workshop} {c d : ClassRef}

/-- Making the blueprint of a class that is new is reading its template. -/
theorem Compiler.exec_obtain_new {compile : ClassRef → Compiling Blueprint} {m : Metadata}
    {t : Template} (missing : w.compiler.find? c = none)
    (idle : w.compiler.isCompiling c = false) (declared : catalog.metadata c = .ok m)
    (parsed : Template.parse? m.template = some t) {e : ConfigurationError}
    (read : (Scan.ofTree compile c m.components t.root).exec (opened w c) = (.error e, v)) :
    (obtain catalog compile c).exec w = (.error e, v.leave) := by
  have taken : (within c (Scan.ofTree compile c m.components t.root)).exec
      (w.reporting [.consulted c.id]) = (.error e, v.leave) := by
    rw [exec_within]
    rw [opened] at read
    rw [read]
  simp only [obtain, make, exec_bind, exec_get, missing, idle, Bool.false_eq_true, if_false,
    exec_consult, declared, exec_readTemplate, parsed, taken]

/-- A compilation fails with the error of one that it comes to. -/
theorem Calls.fails (calls : Calls catalog depth w c u d) {e : ConfigurationError}
    (failed : (compileWithin catalog depth d).exec u = (.error e, v)) :
    (compileWithin catalog (depth + 1) c).exec w = (.error e, v.leave) := by
  obtain ⟨missing, idle, declared, parsed, split, read, matched⟩ := calls
  refine exec_obtain_new missing idle declared parsed ?_
  simp only [ofTree, exec_bind, exec_get]
  rw [show (opened w c).compiler.options = w.compiler.options from rfl, split,
    List.foldlM_append, exec_bind, read]
  simp only [List.foldlM_cons, addElement_eq, exec_bind, addChild, spotOf, matched, failed]

/-- Up to the compilation that it comes to, a compilation has read elements. -/
theorem Calls.reads (calls : Calls catalog depth w c u d) :
    ∃ m tag before children, catalog.metadata c = .ok m ∧ classOf? m.components tag = some d ∧
      w.compiler.find? c = none ∧ w.compiler.isCompiling c = false ∧
      Reads (compileWithin catalog depth) c m.components w.compiler.options.strictExpressions
        (opened w c) before (.ok children) u := by
  obtain ⟨missing, idle, declared, -, -, read, matched⟩ := calls
  obtain ⟨r, v, reads, outcome⟩ := exec_addElements _ _ _ _ _ _ _
  rw [outcome] at read
  cases r with
  | error e => cases read
  | ok children =>
      obtain rfl := (Prod.mk.inj read).2
      exact ⟨_, _, _, children, declared, matched, missing, idle, reads⟩

theorem Calls.inProgress (calls : Calls catalog depth w c u d) :
    u.compiler.inProgress = w.compiler.inProgress ++ [c] := by
  obtain ⟨m, tag, before, children, -, -, -, -, reads⟩ := calls.reads
  exact (reads.advance fun d w _ _ run => advance_compileWithin catalog depth d w run).inProgress

theorem Calls.room (calls : Calls catalog depth w c u d) {n : Nat}
    (room : Room catalog (n + 1) w.compiler.inProgress) : Room catalog n u.compiler.inProgress := by
  obtain ⟨m, tag, before, children, declared, matched, -, idle, -⟩ := calls.reads
  rw [calls.inProgress]
  exact room.push ((isCompiling_eq_false_iff _ _).1 idle) (Catalog.listed declared matched)

theorem Calls.steady (calls : Calls catalog depth w c u d) (steady : Steady w)
    (room : Room catalog (depth + 1) w.compiler.inProgress) : Steady u := by
  have inner := calls.room room
  have progress := calls.inProgress
  obtain ⟨m, tag, before, children, declared, matched, missing, idle, reads⟩ := calls.reads
  refine ((reads.after (fun d w _ _ run => advance_compileWithin catalog depth d w run) ?_
    (steady.opened missing idle) rfl).2 children rfl).1
  intro d tag _ x r v steady same run
  refine after_compileWithin catalog depth d x steady ?_ run
  rw [same]
  rwa [progress] at inner

variable {n : Nat} {x : ClassRef}

theorem Within.steady (within : Within catalog depth w c n u x) (steady : Steady w)
    (room : Room catalog depth w.compiler.inProgress) :
    Steady u ∧ Room catalog n u.compiler.inProgress := by
  induction within with
  | self => exact ⟨steady, room⟩
  | inner calls _ ih => exact ih (calls.steady steady room) (calls.room room)

/-- Where a compilation fails, all around it fail with the same error, and none of them
keeps anything more. -/
theorem Within.fails (within : Within catalog depth w c n u x) {e : ConfigurationError}
    (failed : (compileWithin catalog n x).exec u = (.error e, v)) :
    ∃ v', (compileWithin catalog depth c).exec w = (.error e, v') ∧
      v'.compiler.blueprints = v.compiler.blueprints := by
  induction within with
  | self => exact ⟨v, failed, rfl⟩
  | inner calls _ ih =>
      obtain ⟨v', outer, same⟩ := ih failed
      exact ⟨v'.leave, calls.fails outer, same⟩

/-- A failure has a place where it arises: a compilation that fails although all those
that it comes to succeed. -/
theorem Within.origin {catalog : Catalog} {depth : Nat} {c : ClassRef} {w v : Workshop}
    {e : ConfigurationError} (failed : (compileWithin catalog depth c).exec w = (.error e, v)) :
    ∃ n u x v', Within catalog depth w c n u x ∧
      (compileWithin catalog n x).exec u = (.error e, v') ∧
      ∀ m u' d, n = m + 1 → Calls catalog m u x u' d →
        ∃ b v, (compileWithin catalog m d).exec u' = (.ok b, v) := by
  induction depth generalizing c w v with
  | zero => exact ⟨0, w, c, v, .self _ _ _, failed, nofun⟩
  | succ depth ih =>
      by_cases deeper : ∃ u d f v', Calls catalog depth w c u d ∧
          (compileWithin catalog depth d).exec u = (.error f, v')
      · obtain ⟨u, d, f, v', calls, inner⟩ := deeper
        obtain ⟨rfl, -⟩ : f = e ∧ v'.leave = v := by simpa [calls.fails inner] using failed
        obtain ⟨n, y, x, v', within, arises⟩ := ih inner
        exact ⟨n, y, x, v', .inner calls within, arises⟩
      · refine ⟨depth + 1, w, c, v, .self _ _ _, failed, ?_⟩
        rintro m u d level calls
        obtain rfl : depth = m := Nat.succ.inj level
        rcases run : (compileWithin catalog depth d).exec u with ⟨f | b, v'⟩
        · exact absurd ⟨u, d, f, v', calls, run⟩ deeper
        · exact ⟨b, v', rfl⟩

end Inside

/-! ## Histories -/

/-- A compiler behind compilations, of which some may have failed.  Each has its own
declarations. -/
def Compiler.after (k : Compiler) (calls : List (Catalog × ClassRef)) : Compiler :=
  calls.foldl (fun k call => (k.run (Compiler.compile call.1 call.2)).2.1) k

/-- The blueprints of a compiler between two uses: there is one for a class, which is
under its own name and was made by this compiler; the children of each are among them;
none has itself inside. -/
structure Coherent (k : Compiler) : Prop where
  idle : k.inProgress = []
  distinct : (k.blueprints.map (·.1)).Nodup
  own : ∀ c b, k.find? c = some b → b.cls.id = c.id
  closed : ∀ c b, k.find? c = some b → ∀ child ∈ b.children, k.find? child.2.cls = some child.2
  apart : ∀ c b, k.find? c = some b →
    ∀ d, Relation.TransGen Blueprint.Contains b d → b.same d = false

/-- What one more compilation does: a class with a blueprint has it back, without anything
being asked or changed; no class is asked twice; a class that compiles has its blueprint
kept; a class that fails has none, nor has any that was in progress at the place where
the failure arose. -/
structure Orderly (k : Compiler) (catalog : Catalog) (c : ClassRef)
    (outcome : Except ConfigurationError Blueprint) (k' : Compiler) (notices : List Notice) :
    Prop where
  known : ∀ b, k.find? c = some b → outcome = .ok b ∧ k' = k ∧ notices = []
  once : (notices.filterMap Notice.asked?).Nodup
  made : ∀ b, outcome = .ok b → k'.find? c = some b
  lost : ∀ e, outcome = .error e → k'.find? c = none
  arises : ∀ e, outcome = .error e → ∃ n u x v,
    Within catalog (Compiler.depthBound catalog) { compiler := k } c n u x ∧
    (Compiler.compileWithin catalog n x).exec u = (.error e, v) ∧
    ∀ m u' d, n = m + 1 → Calls catalog m u x u' d →
      ∃ b v, (Compiler.compileWithin catalog m d).exec u' = (.ok b, v)
  pending : ∀ n u x e v,
    Within catalog (Compiler.depthBound catalog) { compiler := k } c n u x →
    (Compiler.compileWithin catalog n x).exec u = (.error e, v) →
    outcome = .error e ∧ ∀ y ∈ u.compiler.inProgress ++ [x], k'.find? y = none

namespace Compiler

open Compiling

theorem run_eq {α : Type} (k : Compiler) (work : Compiling α) :
    k.run work = ((work.exec { compiler := k }).1, (work.exec { compiler := k }).2.compiler,
      (work.exec { compiler := k }).2.notices.reverse) := rfl

theorem after_append (k : Compiler) (calls more : List (Catalog × ClassRef)) :
    k.after (calls ++ more) = (k.after calls).after more :=
  List.foldl_append

theorem after_concat (k : Compiler) (calls : List (Catalog × ClassRef)) (catalog : Catalog)
    (c : ClassRef) : k.after (calls ++ [(catalog, c)]) =
      ((compile catalog c).exec { compiler := k.after calls }).2.compiler := by
  rw [after_append]
  rfl

/-- What one more compilation leaves is a history, too. -/
theorem eq_after_concat {k k' : Compiler} {calls : List (Catalog × ClassRef)} {catalog : Catalog}
    {c : ClassRef} {outcome : Except ConfigurationError Blueprint} {notices : List Notice}
    (run : (k.after calls).run (compile catalog c) = (outcome, k', notices)) :
    k' = k.after (calls ++ [(catalog, c)]) := by
  rw [after_concat]
  exact (congrArg (·.2.1) run).symm

/-- A history only adds blueprints. -/
theorem advance_after (k : Compiler) (calls : List (Catalog × ClassRef)) :
    Advance { compiler := k } { compiler := k.after calls } := by
  induction calls using List.reverseRecOn with
  | nil => exact .refl _
  | append_singleton calls call ih =>
      obtain ⟨catalog, c⟩ := call
      have last := advance_compileWithin catalog (depthBound catalog) c
        { compiler := k.after calls } rfl
      rw [after_concat]
      exact ih.trans ⟨last.serial, last.options, last.inProgress, last.grown⟩

/-- A compiler that has nothing in progress, with its blueprints in layers, starts
steadily. -/
theorem steady_start {k : Compiler} (idle : k.inProgress = []) (layered : Layered k.blueprints) :
    Steady { compiler := k } where
  layered := layered
  pending := by rw [idle]; nofun
  once := List.nodup_nil
  settled := nofun

theorem after_compile {k : Compiler} (catalog : Catalog) (c : ClassRef)
    (idle : k.inProgress = []) (layered : Layered k.blueprints) :
    After c ((compile catalog c).exec { compiler := k }).1
      ((compile catalog c).exec { compiler := k }).2 := by
  refine after_compileWithin catalog (depthBound catalog) c _ (steady_start idle layered) ?_ rfl
  rw [idle]
  exact Room.start catalog

variable (serial : Nat) (options : CompileOptions) (calls : List (Catalog × ClassRef))

theorem inProgress_after : (after { serial, options } calls).inProgress = [] :=
  (advance_after _ calls).inProgress

theorem layered_after : Layered (after { serial, options } calls).blueprints := by
  induction calls using List.reverseRecOn with
  | nil => exact .nil
  | append_singleton calls call ih =>
      rw [after_concat]
      exact (after_compile call.1 call.2 (inProgress_after serial options calls) ih).sound.layered

theorem coherent_of_layered {k : Compiler} (idle : k.inProgress = [])
    (layered : Layered k.blueprints) : Coherent k where
  idle := idle
  distinct := layered.distinct
  own _ _ found := layered.keyed found
  closed _ _ found := layered.closed found
  apart := by
    intro c b found d inside
    have other := layered.apart (layered.own found) inside
    simp [Blueprint.same, ClassRef.same, Ne.symm other]

theorem orderly_of_layered {k : Compiler} (catalog : Catalog) (c : ClassRef)
    (idle : k.inProgress = []) (layered : Layered k.blueprints) :
    Orderly k catalog c (k.run (compile catalog c)).1 (k.run (compile catalog c)).2.1
      (k.run (compile catalog c)).2.2 := by
  have after := after_compile catalog c idle layered
  have steady := steady_start idle layered
  have room : Room catalog (depthBound catalog) k.inProgress := by
    rw [idle]
    exact Room.start catalog
  refine ⟨fun b found => ?_, ?_, fun b ok => (after.found b ok).2, after.lost, ?_, ?_⟩
  · have known : (compile catalog c).exec { compiler := k } = (.ok b, { compiler := k }) := by
      simp only [compile, depthBound, compileWithin, obtain, exec_bind, exec_get, found, exec_pure]
    simp [run_eq, known]
  · rw [run_eq, List.filterMap_reverse, List.nodup_reverse]
    exact after.sound.once
  · intro e failed
    exact Within.origin (Prod.ext failed rfl)
  · intro n u x e v within failed
    obtain ⟨inner, enough⟩ := within.steady steady room
    have lost := after_compileWithin catalog n x u inner enough failed
    obtain ⟨v', outer, same⟩ := within.fails failed
    have final : (k.run (compile catalog c)).2.1.blueprints = v.compiler.blueprints := by
      rw [run_eq, compile, outer, same]
    refine ⟨congrArg Prod.fst outer, fun y member => ?_⟩
    rw [find?, final]
    rcases List.mem_append.1 member with above | here
    · refine lost.sound.pending y ?_
      rwa [(advance_compileWithin catalog n x u failed).inProgress]
    · rw [List.mem_singleton.1 here]
      exact lost.lost e rfl

/-- Whatever was compiled before: the blueprints hang together, work leaves the classes in
progress as it found them, blueprints stay what they are, and one more compilation is
orderly. -/
theorem registry_invariant :
    Coherent (after { serial, options } calls) ∧
      (∀ catalog depth c w, ((compileWithin catalog depth c).exec w).2.compiler.inProgress =
        w.compiler.inProgress) ∧
      (∀ more c b, (after { serial, options } calls).find? c = some b →
        (after { serial, options } (calls ++ more)).find? c = some b) ∧
      ∀ catalog c outcome k' notices,
        (after { serial, options } calls).run (compile catalog c) = (outcome, k', notices) →
        Orderly (after { serial, options } calls) catalog c outcome k' notices ∧
          Coherent k' := by
  have idle := inProgress_after serial options calls
  have layered := layered_after serial options calls
  refine ⟨coherent_of_layered idle layered, ?_, ?_, ?_⟩
  · intro catalog depth c w
    exact (advance_compileWithin catalog depth c w rfl).inProgress
  · intro more c b found
    rw [after_append]
    exact (advance_after _ more).find? found
  · intro catalog c outcome k' notices run
    have orderly := orderly_of_layered catalog c idle layered
    rw [run] at orderly
    refine ⟨orderly, ?_⟩
    rw [eq_after_concat run]
    exact coherent_of_layered (inProgress_after _ _ _) (layered_after _ _ _)

end Compiler

end LiveTemplates
