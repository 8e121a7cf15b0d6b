/-
# LiveTemplates.Proofs.Blueprint.Depth -- compiling comes to an end

The classes that a template uses are compiled inside of the class that it belongs to, and a graph
of classes can have cycles.  The classes in progress are all different, so there are never more of
them than there are classes, and the depth that compiling has is never used up: with any more
depth, and with no bound at all, it does the same.

* `Compiler.exec_obtain_congr`: what compiling a class depends on;
* `Compiler.exec_compileWithin_eq`: depth does not matter as long as there is room;
* `Compiler.Ends`: no compilation inside of one uses up its depth, and no class is in progress
  twice;
* `Layered.height_le`: a blueprint nests no more blueprints than its compiler keeps.
-/
import LiveTemplates.Proofs.Blueprint.Histories
import Mathlib.Data.Finset.Card

namespace LiveTemplates

set_option autoImplicit false

/-! ## What compiling depends on -/

namespace Compiling

/-- Steps one after the other do the same if each does so where the steps before it come to. -/
theorem exec_foldlM_congr {α β : Type} {f g : β → α → Compiling β} (xs : List α) (start : β)
    (w : Workshop) (same : ∀ before x after b u, xs = before ++ x :: after →
      (before.foldlM f start).exec w = (.ok b, u) → (f b x).exec u = (g b x).exec u) :
    (xs.foldlM f start).exec w = (xs.foldlM g start).exec w := by
  induction xs generalizing start w with
  | nil => rfl
  | cons x rest ih =>
      rw [List.foldlM_cons, List.foldlM_cons, exec_bind, exec_bind,
        ← same [] x rest start w rfl rfl]
      rcases first : (f start x).exec w with ⟨e | b, u⟩
      · rfl
      · refine ih b u fun before y after a v split ran => ?_
        refine same (x :: before) y after a v (by rw [split]; rfl) ?_
        rw [List.foldlM_cons, exec_bind, first]
        exact ran

end Compiling

/-- Where there is room, there is room for a compilation that starts anew. -/
theorem Room.refill {catalog : Catalog} {depth : Nat} {above : List ClassRef}
    (room : Room catalog depth above) : Room catalog (Compiler.depthBound catalog) above :=
  ⟨room.distinct, room.listed, by rw [Compiler.depthBound]; omega⟩

/-- There is room for all compilations inside of one that has room. -/
theorem Within.room {catalog : Catalog} {depth n : Nat} {w u : Workshop} {c x : ClassRef}
    (within : Within catalog depth w c n u x) (room : Room catalog depth w.compiler.inProgress) :
    Room catalog n u.compiler.inProgress := by
  induction within with
  | self => exact room
  | inner calls _ ih => exact ih (calls.room room)

namespace Compiler

open Compiling Scan

variable {catalog : Catalog} {depth n : Nat} {w u : Workshop} {c x : ClassRef}

/-- Compiling a class depends on nothing but the compilations that it comes to. -/
theorem exec_obtain_congr {compile : ClassRef → Compiling Blueprint}
    (same : ∀ u d, Calls catalog depth w c u d →
      (compileWithin catalog depth d).exec u = (compile d).exec u) :
    (obtain catalog (compileWithin catalog depth) c).exec w =
      (obtain catalog compile c).exec w := by
  simp only [obtain, exec_bind, exec_get]
  cases missing : w.compiler.find? c with
  | some b => simp only
  | none =>
      cases idle : w.compiler.isCompiling c with
      | true => simp only [if_true, exec_bind, exec_throw]
      | false =>
          simp only [Bool.false_eq_true, if_false, make, exec_bind, exec_consult]
          cases declared : catalog.metadata c with
          | error e => simp only
          | ok m =>
              simp only [exec_readTemplate]
              cases parsed : Template.parse? m.template with
              | none => simp only
              | some t =>
                  have read : (ofTree (compileWithin catalog depth) c m.components t.root).exec
                      (opened w c) = (ofTree compile c m.components t.root).exec (opened w c) := by
                    simp only [ofTree, exec_bind, exec_get]
                    refine exec_foldlM_congr _ _ _ fun before element after s u split ran => ?_
                    rw [addElement_eq, addElement_eq, exec_bind, exec_bind, addChild, addChild]
                    cases matched : classOf? m.components element.2.describe with
                    | none => simp only [spotOf, matched]
                    | some d =>
                        have inner := same u d
                          (.intro missing idle declared parsed split ran matched)
                        simp only [spotOf, matched, exec_bind, inner]
                  simp only [exec_within]
                  rw [show (w.reporting [.consulted c.id]).enter c = opened w c from rfl, read]

/-! ## Depth -/

/-- Depth does not matter as long as there is room. -/
theorem exec_compileWithin_eq {more : Nat} (room : Room catalog depth w.compiler.inProgress)
    (room' : Room catalog more w.compiler.inProgress) :
    (compileWithin catalog depth c).exec w = (compileWithin catalog more c).exec w := by
  induction depth generalizing more c w with
  | zero => exact room.not_zero.elim
  | succ depth ih =>
      cases more with
      | zero => exact room'.not_zero.elim
      | succ more =>
          exact exec_obtain_congr fun u d calls => ih (calls.room room) (calls.room room')

/-- The classes in progress where a compilation starts inside of another, if this one comes next,
are among any classes that contain the outermost one and all that these declare. -/
theorem opened_subset (within : Within catalog depth w c n u x) {classes : Finset String}
    (outer : ∀ d ∈ w.compiler.inProgress ++ [c], d.id ∈ classes)
    (closed : ∀ d m e, d.id ∈ classes → catalog.metadata d = .ok m → e ∈ m.components →
      e.id ∈ classes) :
    ∀ d ∈ u.compiler.inProgress ++ [x], d.id ∈ classes := by
  induction within with
  | self => exact outer
  | @inner _ _ w u v c d x calls _ ih =>
      refine ih ?_
      rw [calls.inProgress]
      refine List.forall_mem_append.2 ⟨outer, List.forall_mem_singleton.2 ?_⟩
      obtain ⟨m, tag, before, children, declared, matched, -⟩ := calls.reads
      exact closed c m d (outer c (by simp)) declared (mem_of_classOf? matched)

/-- A compilation comes to an end, as all do that happen inside of it: none of them uses up its
depth, each does what compiling does without a bound, and where one reads a template, its class is
in progress and different classes are, of any classes that contain the outermost one and all that
these declare. -/
structure Ends (k : Compiler) (catalog : Catalog) (c : ClassRef) : Prop where
  deep : ∀ n u x, Within catalog (depthBound catalog) { compiler := k } c n u x → n ≠ 0
  unbounded : ∀ n u x, Within catalog (depthBound catalog) { compiler := k } c n u x →
    (compileWithin catalog n x).exec u = (compile catalog x).exec u ∧
      (compile catalog x).exec u = (obtain catalog (compile catalog) x).exec u
  distinct : ∀ n u x, Within catalog (depthBound catalog) { compiler := k } c n u x →
    u.compiler.isCompiling x = false → ((u.compiler.inProgress ++ [x]).map (·.id)).Nodup
  few : ∀ classes : Finset String, c.id ∈ classes →
    (∀ d m e, d.id ∈ classes → catalog.metadata d = .ok m → e ∈ m.components → e.id ∈ classes) →
    ∀ n u x, Within catalog (depthBound catalog) { compiler := k } c n u x →
      u.compiler.isCompiling x = false → (u.compiler.inProgress ++ [x]).length ≤ classes.card

/-- With nothing in progress, compiling comes to an end. -/
theorem ends {k : Compiler} (idle : k.inProgress = []) (catalog : Catalog) (c : ClassRef) :
    Ends k catalog c := by
  have start : Room catalog (depthBound catalog) k.inProgress := by
    rw [idle]
    exact Room.start catalog
  have room {n : Nat} {u : Workshop} {x : ClassRef}
      (within : Within catalog (depthBound catalog) { compiler := k } c n u x) :
      Room catalog n u.compiler.inProgress := within.room start
  have distinct {n : Nat} {u : Workshop} {x : ClassRef}
      (within : Within catalog (depthBound catalog) { compiler := k } c n u x)
      (free : u.compiler.isCompiling x = false) :
      ((u.compiler.inProgress ++ [x]).map (·.id)).Nodup := by
    rw [List.map_append, List.nodup_append]
    refine ⟨(room within).distinct, List.nodup_singleton _, fun id member _ last same => ?_⟩
    rw [same, List.mem_singleton.1 last] at member
    exact (isCompiling_eq_false_iff _ _).1 free member
  refine ⟨fun n u x within => ?_, fun n u x within => ⟨?_, ?_⟩,
    fun n u x within free => distinct within free, fun classes outer closed n u x within free => ?_⟩
  · rintro rfl
    exact (room within).not_zero
  · exact exec_compileWithin_eq (room within) (room within).refill
  · have enough := (room within).refill
    exact exec_obtain_congr fun u d calls =>
      exec_compileWithin_eq (calls.room enough) (calls.room enough).refill
  · have outermost : ∀ d ∈ k.inProgress ++ [c], d.id ∈ classes := by simpa [idle] using outer
    have inside := opened_subset within outermost closed
    rw [← List.length_map (f := fun d : ClassRef => d.id),
      ← List.toFinset_card_of_nodup (distinct within free)]
    refine Finset.card_le_card fun id member => ?_
    obtain ⟨d, present, rfl⟩ := List.mem_map.1 (List.mem_toFinset.1 member)
    exact inside d present

end Compiler

/-! ## How deep blueprints are nested -/

namespace Blueprint

mutual

/-- How many blueprints are inside of one another at most. -/
def height : Blueprint → Nat
  | mk _ _ _ _ children _ => heightAll children + 1

/-- How many blueprints are inside of one another at most, among several. -/
def heightAll : List (Spot × Blueprint) → Nat
  | [] => 0
  | (_, b) :: rest => max b.height (heightAll rest)

end

theorem heightAll_le {bound : Nat} {children : List (Spot × Blueprint)}
    (each : ∀ child ∈ children, child.2.height ≤ bound) : heightAll children ≤ bound := by
  induction children with
  | nil => exact Nat.zero_le _
  | cons child rest ih =>
      obtain ⟨first, later⟩ := List.forall_mem_cons.1 each
      rw [heightAll]
      exact Nat.max_le.2 ⟨first, ih later⟩

end Blueprint

/-- A blueprint that is kept nests no more blueprints than are kept. -/
theorem Layered.height_le {kept : List (String × Blueprint)} {id : String} {b : Blueprint}
    (layered : Layered kept) (found : kept.lookup id = some b) : b.height ≤ kept.length := by
  induction layered generalizing id b with
  | nil => cases found
  | @snoc kept new layered _ ready ih =>
      rw [List.length_append, List.length_singleton]
      rcases lookup_snoc_eq_some.1 found with old | ⟨-, -, rfl⟩
      · exact Nat.le_succ_of_le (ih old)
      · obtain ⟨compiler, cls, template, bindings, children, warnings⟩ := new
        rw [Blueprint.height]
        exact Nat.succ_le_succ (Blueprint.heightAll_le fun child inside => ih (ready child inside))

end LiveTemplates
