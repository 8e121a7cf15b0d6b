/-
# LiveTemplates.Proofs.Blueprint.Registry -- what a compiler has made hangs together

Compiling a class compiles others inside of it, and can stop at any depth after some
of these are done.  What it leaves behind is in order all the same:

* `Layered`: each blueprint was completed behind the blueprints inside of it, and no
  class has two.  So the children of a kept blueprint are kept themselves
  (`Layered.closed`), and none has itself inside (`Layered.apart`);
* `Advance`: work on a class only adds blueprints, and the classes in progress are the
  same before and behind it;
* `After`: a class that compiles has its blueprint kept, a class that fails has none, and
  neither has a class that was in progress meanwhile;
* `Room`: the classes in progress are different and all have declarations, so the
  depth of `Compiler.compile` is never used up.
-/
import LiveTemplates.Proofs.Blueprint.Workshop
import Mathlib.Data.List.Nodup
import Mathlib.Data.List.Perm.Subperm
import Mathlib.Logic.Relation

namespace LiveTemplates

set_option autoImplicit false

/-! ## Layers of blueprints -/

/-- A blueprint has another as a child. -/
def Blueprint.Contains (b d : Blueprint) : Prop :=
  ∃ spot, (spot, d) ∈ b.children

/-- Each blueprint is behind its children, and no two are of one class. -/
inductive Layered : List (String × Blueprint) → Prop
  | nil : Layered []
  | snoc {kept : List (String × Blueprint)} {b : Blueprint} (layered : Layered kept)
      (new : kept.lookup b.cls.id = none)
      (ready : ∀ child ∈ b.children, kept.lookup child.2.cls.id = some child.2) :
      Layered (kept ++ [(b.cls.id, b)])

namespace Layered

variable {kept : List (String × Blueprint)} {id : String} {b : Blueprint}

theorem lookup_snoc (kept : List (String × Blueprint)) (b : Blueprint) (id : String) :
    (kept ++ [(b.cls.id, b)]).lookup id =
      (kept.lookup id).or (if id = b.cls.id then some b else none) := by
  rw [List.lookup_append]
  by_cases same : id = b.cls.id
  · simp [same]
  · simp [List.lookup_cons, beq_false_of_ne same, same]

/-- What is found was there before, or is the new blueprint. -/
theorem lookup_snoc_eq_some {new : Blueprint} :
    (kept ++ [(new.cls.id, new)]).lookup id = some b ↔
      kept.lookup id = some b ∨ kept.lookup id = none ∧ id = new.cls.id ∧ new = b := by
  rw [lookup_snoc]
  cases kept.lookup id <;> simp

/-- A blueprint is kept under its own class. -/
theorem keyed (layered : Layered kept) (found : kept.lookup id = some b) : b.cls.id = id := by
  induction layered with
  | nil => simp at found
  | snoc _ _ _ ih =>
      rcases lookup_snoc_eq_some.1 found with old | ⟨-, rfl, rfl⟩
      · exact ih old
      · rfl

theorem own (layered : Layered kept) (found : kept.lookup id = some b) :
    kept.lookup b.cls.id = some b := by
  rw [layered.keyed found, found]

/-- Whatever is listed is found. -/
theorem listed (layered : Layered kept) {entry : String × Blueprint} (member : entry ∈ kept) :
    kept.lookup entry.2.cls.id = some entry.2 := by
  induction layered with
  | nil => cases member
  | snoc _ new _ ih =>
      rcases List.mem_append.1 member with old | last
      · exact lookup_snoc_eq_some.2 (.inl (ih old))
      · rw [List.mem_singleton.1 last]
        exact lookup_snoc_eq_some.2 (.inr ⟨new, rfl, rfl⟩)

/-- The children of a kept blueprint are kept. -/
theorem closed (layered : Layered kept) (found : kept.lookup id = some b) :
    ∀ child ∈ b.children, kept.lookup child.2.cls.id = some child.2 := by
  induction layered with
  | nil => simp at found
  | @snoc kept new _ _ ready ih =>
      intro child member
      have before : kept.lookup child.2.cls.id = some child.2 := by
        rcases lookup_snoc_eq_some.1 found with old | ⟨-, -, rfl⟩
        · exact ih old child member
        · exact ready child member
      exact lookup_snoc_eq_some.2 (.inl before)

/-- All that is inside of a kept blueprint is kept. -/
theorem inside (layered : Layered kept) {d : Blueprint} (found : kept.lookup b.cls.id = some b)
    (within : Relation.TransGen Blueprint.Contains b d) : kept.lookup d.cls.id = some d := by
  induction within with
  | single child =>
      obtain ⟨spot, member⟩ := child
      exact layered.closed found _ member
  | tail _ child ih =>
      obtain ⟨spot, member⟩ := child
      exact layered.closed ih _ member

/-- What is inside of a kept blueprint is of another class. -/
theorem apart (layered : Layered kept) {d : Blueprint} (found : kept.lookup b.cls.id = some b)
    (within : Relation.TransGen Blueprint.Contains b d) : d.cls.id ≠ b.cls.id := by
  induction layered with
  | nil => simp at found
  | @snoc kept new layered fresh ready ih =>
      rcases lookup_snoc_eq_some.1 found with old | ⟨-, -, rfl⟩
      · exact ih old
      · -- what is inside was kept before, and this class was not
        have earlier : kept.lookup d.cls.id = some d := by
          obtain ⟨c, ⟨spot, member⟩, rest⟩ := Relation.TransGen.head'_iff.1 within
          have first := ready _ member
          rcases Relation.reflTransGen_iff_eq_or_transGen.1 rest with rfl | further
          · exact first
          · exact layered.inside first further
        intro same
        rw [same, fresh] at earlier
        cases earlier

theorem distinct (layered : Layered kept) : (kept.map (·.1)).Nodup := by
  induction layered with
  | nil => simp
  | @snoc kept new _ fresh _ ih =>
      rw [List.lookup_eq_none_iff] at fresh
      simp only [List.map_append, List.map_cons, List.map_nil, List.nodup_append, ih,
        List.nodup_singleton, true_and]
      intro id member _ last
      obtain ⟨entry, present, rfl⟩ := List.mem_map.1 member
      rw [List.mem_singleton.1 last]
      intro same
      exact absurd (fresh entry present) (by simp [same])

end Layered

/-! ## Classes in progress -/

namespace Compiler

theorem isCompiling_iff (k : Compiler) (c : ClassRef) :
    k.isCompiling c = true ↔ c.id ∈ k.inProgress.map (·.id) := by
  simp only [isCompiling, ClassRef.same, List.any_eq_true, beq_iff_eq, List.mem_map]
  exact exists_congr fun a => and_congr_right fun _ => eq_comm

theorem isCompiling_eq_false_iff (k : Compiler) (c : ClassRef) :
    k.isCompiling c = false ↔ c.id ∉ k.inProgress.map (·.id) := by
  rw [← isCompiling_iff, Bool.not_eq_true]

end Compiler

theorem Scan.mem_of_classOf? {declared : List ClassRef} {tag : String} {d : ClassRef}
    (matched : Scan.classOf? declared tag = some d) : d ∈ declared :=
  List.mem_reverse.1 (List.mem_of_find?_eq_some matched)

/-- A class that uses another has a declaration. -/
theorem Catalog.listed {catalog : Catalog} {c d : ClassRef} {m : Metadata} {tag : String}
    (declared : catalog.metadata c = .ok m)
    (matched : Scan.classOf? m.components tag = some d) : c.id ∈ catalog.map (·.1) := by
  have used := Scan.mem_of_classOf? matched
  unfold Catalog.metadata at declared
  split at declared
  · cases entry : catalog.lookup c.id with
    | none =>
        rw [entry] at declared
        cases declared
        cases used
    | some m =>
        obtain ⟨before, after, rfl, -⟩ := List.lookup_eq_some_iff.1 entry
        simp
  · cases declared

/-- Different classes with declarations are in progress, and there is depth for all
others. -/
structure Room (catalog : Catalog) (depth : Nat) (above : List ClassRef) : Prop where
  distinct : (above.map (·.id)).Nodup
  listed : ∀ c ∈ above, c.id ∈ catalog.map (·.1)
  enough : catalog.length < depth + above.length

namespace Room

variable {catalog : Catalog} {depth : Nat} {above : List ClassRef}

theorem start (catalog : Catalog) : Room catalog (Compiler.depthBound catalog) [] where
  distinct := List.nodup_nil
  listed := nofun
  enough := by simp [Compiler.depthBound]

theorem not_zero (room : Room catalog 0 above) : False := by
  have inside : above.map (·.id) ⊆ catalog.map (·.1) := by
    intro id member
    obtain ⟨c, present, rfl⟩ := List.mem_map.1 member
    exact room.listed c present
  have few := (List.subperm_of_subset room.distinct inside).length_le
  have many := room.enough
  simp only [List.length_map] at few
  omega

theorem push (room : Room catalog (depth + 1) above) {c : ClassRef}
    (idle : c.id ∉ above.map (·.id)) (listed : c.id ∈ catalog.map (·.1)) :
    Room catalog depth (above ++ [c]) where
  distinct := by
    rw [List.map_append, List.nodup_append]
    refine ⟨room.distinct, List.nodup_singleton _, fun id member _ last same => ?_⟩
    rw [same, List.mem_singleton.1 last] at member
    exact idle member
  listed := by
    intro a member
    rcases List.mem_append.1 member with earlier | last
    · exact room.listed a earlier
    · rw [List.mem_singleton.1 last]; exact listed
  enough := by
    have := room.enough
    simp only [List.length_append, List.length_singleton]
    omega

end Room

/-! ## What work leaves as it was -/

/-- Work has added blueprints, and has left all else about the compiler as it was. -/
structure Advance (w v : Workshop) : Prop where
  serial : v.compiler.serial = w.compiler.serial
  options : v.compiler.options = w.compiler.options
  inProgress : v.compiler.inProgress = w.compiler.inProgress
  grown : w.compiler.blueprints <+: v.compiler.blueprints

namespace Advance

variable {w v u : Workshop}

theorem refl (w : Workshop) : Advance w w := ⟨rfl, rfl, rfl, List.prefix_rfl⟩

theorem trans (first : Advance w v) (second : Advance v u) : Advance w u :=
  ⟨second.serial.trans first.serial, second.options.trans first.options,
    second.inProgress.trans first.inProgress, first.grown.trans second.grown⟩

theorem reporting (w : Workshop) (ns : List Notice) : Advance w (w.reporting ns) :=
  ⟨rfl, rfl, rfl, List.prefix_rfl⟩

theorem find? (advance : Advance w v) {c : ClassRef} {b : Blueprint}
    (found : w.compiler.find? c = some b) : v.compiler.find? c = some b := by
  obtain ⟨added, same⟩ := advance.grown
  unfold Compiler.find? at *
  rw [← same, List.lookup_append, found, Option.some_or]

/-- Work with a class in progress leaves the others in progress. -/
theorem leave {c : ClassRef} (advance : Advance (Compiler.opened w c) v) : Advance w v.leave where
  serial := advance.serial
  options := advance.options
  inProgress := by
    rw [Workshop.inProgress_leave, advance.inProgress]
    exact List.dropLast_concat
  grown := advance.grown

theorem keep (advance : Advance w v) (b : Blueprint) : Advance w (v.keep b) :=
  ⟨advance.serial, advance.options, advance.inProgress,
    advance.grown.trans (List.prefix_append _ _)⟩

end Advance

section Work

variable {compile : ClassRef → Compiling Blueprint} {owner : ClassRef}
  {declared : List ClassRef} {strict : Bool} {w v : Workshop}
  {elements : List (List Nat × NodeData)}
  {r : Except ConfigurationError (List (Spot × Blueprint))}

theorem Scan.Reads.advance
    (each : ∀ d w r v, (compile d).exec w = (r, v) → Advance w v)
    (reads : Scan.Reads compile owner declared strict w elements r v) : Advance w v := by
  have placed {w v : Workshop} {element : List Nat × NodeData}
      {r : Except ConfigurationError (List (Spot × Blueprint))}
      (places : Scan.Places compile declared w element r v) : Advance w v := by
    cases places with
    | plain => exact .refl w
    | taken _ compiled => exact each _ _ _ _ compiled
  induction reads with
  | done w => exact .refl w
  | stopped places => exact placed places
  | refused places => exact placed places
  | next places _ _ ih => exact ((placed places).trans (.reporting _ _)).trans ih

theorem Compiler.Makes.advance {catalog : Catalog} {c : ClassRef}
    {r : Except ConfigurationError Blueprint}
    (each : ∀ d w r v, (compile d).exec w = (r, v) → Advance w v)
    (makes : Compiler.Makes catalog compile w c r v) : Advance w v := by
  cases makes with
  | undeclared => exact .refl w
  | unreadable => exact .reporting w _
  | unread _ _ read => exact (read.advance each).leave
  | unused _ _ read => exact (read.advance each).leave
  | made _ _ read => exact ((read.advance each).leave.trans (.reporting _ _)).keep _

end Work

/-- Compiling a class leaves the classes in progress as they were, whatever happens. -/
theorem Compiler.advance_compileWithin (catalog : Catalog) (depth : Nat) (c : ClassRef)
    (w : Workshop) {r : Except ConfigurationError Blueprint} {v : Workshop}
    (run : (compileWithin catalog depth c).exec w = (r, v)) : Advance w v := by
  induction depth generalizing c w r v with
  | zero =>
      obtain ⟨rfl, rfl⟩ := Prod.mk.inj run
      exact .refl w
  | succ depth ih =>
      rcases exec_obtain_cases catalog _ c w run with
        ⟨_, _, _, rfl⟩ | ⟨_, _, _, rfl⟩ | ⟨_, _, makes⟩
      · exact .refl _
      · exact .refl _
      · exact makes.advance fun d w r v run => ih d w run

/-! ## What is kept -/

/-- The class that a report says was asked for its declarations. -/
def Notice.asked? : Notice → Option String
  | .consulted id => some id
  | _ => none

/-- The classes that were asked for their declarations, latest first. -/
def Workshop.asked (w : Workshop) : List String :=
  w.notices.filterMap Notice.asked?

theorem Scan.asked_complaints (owner : ClassRef) (bs : List Binding) :
    (complaints owner bs).filterMap Notice.asked? = [] := by
  induction bs with
  | nil => rfl
  | cons b rest ih => cases sound : b.expression <;> simp [complaints, sound, ih, Notice.asked?]

theorem asked_warnings (warnings : List ConfigurationError) :
    (warnings.map Notice.unused).reverse.filterMap Notice.asked? = [] := by
  simp [Notice.asked?]

/-- The blueprints are in layers, no class in progress has one, and no class was asked
twice. -/
structure Sound (w : Workshop) : Prop where
  layered : Layered w.compiler.blueprints
  pending : ∀ c ∈ w.compiler.inProgress, w.compiler.find? c = none
  once : w.asked.Nodup

/-- As long as nothing fails, a class that was asked is in progress or has a blueprint. -/
structure Steady (w : Workshop) : Prop extends Sound w where
  settled : ∀ id ∈ w.asked,
    id ∈ w.compiler.inProgress.map (·.id) ∨ w.compiler.blueprints.lookup id ≠ none

/-- How work on a class ends: with its blueprint kept, or without one. -/
structure After (c : ClassRef) (r : Except ConfigurationError Blueprint) (v : Workshop) :
    Prop where
  sound : Sound v
  found : ∀ b, r = .ok b → Steady v ∧ v.compiler.find? c = some b
  lost : ∀ e, r = .error e → v.compiler.find? c = none

namespace Steady

variable {w : Workshop}

theorem reporting (steady : Steady w) {ns : List Notice}
    (silent : ns.filterMap Notice.asked? = []) : Steady (w.reporting ns) := by
  have same : (w.reporting ns).asked = w.asked := by
    simp [Workshop.asked, List.filterMap_append, silent]
  exact ⟨⟨steady.layered, steady.pending, same ▸ steady.once⟩, same ▸ steady.settled⟩

/-- A class that is new can be asked and taken up. -/
theorem opened (steady : Steady w) {c : ClassRef} (missing : w.compiler.find? c = none)
    (idle : w.compiler.isCompiling c = false) : Steady (Compiler.opened w c) := by
  rw [Compiler.isCompiling_eq_false_iff] at idle
  have asked : (Compiler.opened w c).asked = c.id :: w.asked := rfl
  refine ⟨⟨steady.layered, ?_, ?_⟩, ?_⟩
  · intro a member
    rcases List.mem_append.1 member with earlier | last
    · exact steady.pending a earlier
    · rw [List.mem_singleton.1 last]; exact missing
  · rw [asked, List.nodup_cons]
    refine ⟨fun again => ?_, steady.once⟩
    rcases steady.settled _ again with busy | kept
    · exact idle busy
    · exact kept missing
  · intro id member
    rw [asked] at member
    rcases List.mem_cons.1 member with rfl | earlier
    · exact .inl (by simp [Compiler.opened])
    · refine (steady.settled id earlier).imp_left fun busy => ?_
      simp only [Compiler.opened, Workshop.inProgress_enter, List.map_append, List.mem_append]
      exact .inl busy

end Steady

/-- A class that was in progress has no blueprint, and can be laid down. -/
theorem Sound.leave {w v : Workshop} {c : ClassRef} (sound : Sound v)
    (advance : Advance (Compiler.opened w c) v) :
    Sound v.leave ∧ v.leave.compiler.find? c = none := by
  have progress : v.compiler.inProgress = w.compiler.inProgress ++ [c] := advance.inProgress
  refine ⟨⟨sound.layered, fun a member => ?_, sound.once⟩, ?_⟩
  · rw [Workshop.inProgress_leave, progress, List.dropLast_concat] at member
    exact sound.pending a (by rw [progress]; exact List.mem_append_left _ member)
  · exact sound.pending c (by rw [progress]; simp)

theorem Workshop.find?_keep (w : Workshop) (b : Blueprint) (c : ClassRef) :
    (w.keep b).compiler.find? c =
      (w.compiler.find? c).or (if c.id = b.cls.id then some b else none) :=
  Layered.lookup_snoc _ _ _

/-- A class that was in progress can be laid down with its blueprint. -/
theorem Steady.keep {w v : Workshop} {b : Blueprint} (steady : Steady v)
    (advance : Advance (Compiler.opened w b.cls) v) (idle : w.compiler.isCompiling b.cls = false)
    (ready : ∀ child ∈ b.children, v.compiler.find? child.2.cls = some child.2) :
    Steady (v.leave.keep b) := by
  obtain ⟨sound, lost⟩ := steady.toSound.leave advance
  have progress := advance.leave.inProgress
  refine ⟨⟨.snoc sound.layered lost ready, ?_, steady.once⟩, ?_⟩
  · intro a member
    have other : a.id ≠ b.cls.id := by
      intro same
      rw [Compiler.isCompiling_eq_false_iff, ← progress, ← same] at idle
      exact idle (List.mem_map_of_mem member)
    rw [Workshop.find?_keep, sound.pending a member, if_neg other, Option.none_or]
  · intro id member
    simp only [Workshop.inProgress_keep, Workshop.blueprints_keep, Layered.lookup_snoc]
    rcases steady.settled id member with busy | known
    · rw [advance.inProgress] at busy
      simp only [Compiler.opened, Workshop.inProgress_enter, List.map_append, List.mem_append,
        List.map_cons, List.map_nil, List.mem_singleton] at busy
      rcases busy with earlier | rfl
      · exact .inl (by rw [progress]; exact earlier)
      · exact .inr (by simp)
    · exact .inr (by simp [known])

theorem Scan.Reads.after {compile : ClassRef → Compiling Blueprint} {owner : ClassRef}
    {declared : List ClassRef} {strict : Bool} {w v : Workshop}
    {elements : List (List Nat × NodeData)}
    {r : Except ConfigurationError (List (Spot × Blueprint))} {above : List ClassRef}
    (advance : ∀ d w r v, (compile d).exec w = (r, v) → Advance w v)
    (each : ∀ d tag, classOf? declared tag = some d → ∀ w r v, Steady w →
      w.compiler.inProgress = above → (compile d).exec w = (r, v) → After d r v)
    (reads : Reads compile owner declared strict w elements r v) (steady : Steady w)
    (progress : w.compiler.inProgress = above) :
    Sound v ∧ ∀ children, r = .ok children →
      Steady v ∧ ∀ child ∈ children, v.compiler.find? child.2.cls = some child.2 := by
  have placed {w v : Workshop} {element : List Nat × NodeData}
      {r : Except ConfigurationError (List (Spot × Blueprint))}
      (places : Places compile declared w element r v) (steady : Steady w)
      (progress : w.compiler.inProgress = above) :
      Sound v ∧ v.compiler.inProgress = above ∧ ∀ here, r = .ok here →
        Steady v ∧ ∀ child ∈ here, v.compiler.find? child.2.cls = some child.2 := by
    cases places with
    | plain =>
        refine ⟨steady.toSound, progress, ?_⟩
        rintro _ ⟨⟩
        exact ⟨steady, by simp⟩
    | @taken d r v matched compiled =>
        have after := each d _ matched w r v steady progress compiled
        refine ⟨after.sound, (advance d w r v compiled).inProgress.trans progress, ?_⟩
        intro here ok
        cases r with
        | error e => cases ok
        | ok b =>
            cases ok
            obtain ⟨steady, found⟩ := after.found b rfl
            refine ⟨steady, fun child member => ?_⟩
            cases List.mem_singleton.1 member
            exact after.sound.layered.own found
  induction reads with
  | done w =>
      refine ⟨steady.toSound, ?_⟩
      rintro _ ⟨⟩
      exact ⟨steady, by simp⟩
  | stopped places => exact ⟨(placed places steady progress).1, nofun⟩
  | refused places => exact ⟨(placed places steady progress).1, nofun⟩
  | @next w v u element rest here r places _ later ih =>
      obtain ⟨-, progress, ok⟩ := placed places steady progress
      obtain ⟨steady, kept⟩ := ok here rfl
      obtain ⟨sound, more⟩ := ih (steady.reporting (asked_complaints _ _)) progress
      refine ⟨sound, ?_⟩
      intro children same
      cases r with
      | error e => cases same
      | ok children =>
          cases same
          obtain ⟨steady, others⟩ := more children rfl
          refine ⟨steady, fun child member => ?_⟩
          rcases List.mem_append.1 member with first | later'
          · exact (later.advance advance).find? (kept child first)
          · exact others child later'

theorem Compiler.Makes.after {catalog : Catalog} {compile : ClassRef → Compiling Blueprint}
    {w v : Workshop} {c : ClassRef} {r : Except ConfigurationError Blueprint}
    (advance : ∀ d w r v, (compile d).exec w = (r, v) → Advance w v)
    (each : ∀ m d tag, catalog.metadata c = .ok m → Scan.classOf? m.components tag = some d →
      ∀ u r v, Steady u → u.compiler.inProgress = w.compiler.inProgress ++ [c] →
        (compile d).exec u = (r, v) → After d r v)
    (makes : Makes catalog compile w c r v) (steady : Steady w)
    (missing : w.compiler.find? c = none) (idle : w.compiler.isCompiling c = false) :
    After c r v := by
  have opened := steady.opened missing idle
  -- where the template is read, up to its end or not, the class is laid down without a blueprint
  have stopped {m : Metadata} {v : Workshop} {elements : List (List Nat × NodeData)}
      {r : Except ConfigurationError (List (Spot × Blueprint))}
      (declared : catalog.metadata c = .ok m)
      (read : Scan.Reads compile c m.components w.compiler.options.strictExpressions
        (Compiler.opened w c) elements r v) : Sound v.leave ∧ v.leave.compiler.find? c = none := by
    have sound := (read.after advance (each m · · declared) opened rfl).1
    exact sound.leave (read.advance advance)
  cases makes with
  | undeclared => exact ⟨steady.toSound, nofun, fun _ _ => missing⟩
  | unreadable =>
      refine ⟨⟨steady.layered, steady.pending, opened.once⟩, nofun, fun _ _ => missing⟩
  | unread declared _ read =>
      obtain ⟨sound, lost⟩ := stopped declared read
      exact ⟨sound, nofun, fun _ _ => lost⟩
  | unused declared _ read =>
      obtain ⟨sound, lost⟩ := stopped declared read
      exact ⟨sound, nofun, fun _ _ => lost⟩
  | @made m t children warnings u declared _ read judged =>
      have lost := (stopped declared read).2
      obtain ⟨-, ok⟩ := read.after advance (each m · · declared) opened rfl
      obtain ⟨inner, kept⟩ := ok children rfl
      generalize same : Blueprint.mk u.compiler.serial c t
        (Scan.bindingsOn t.root.elementsBelow) children warnings = b
      obtain rfl : b.cls = c := by rw [← same]; rfl
      have ready : ∀ child ∈ b.children, u.compiler.find? child.2.cls = some child.2 := by
        rw [← same]
        exact kept
      have steady : Steady ((u.leave.keep b).reporting (warnings.map .unused).reverse) :=
        (inner.keep (read.advance advance) idle ready).reporting (asked_warnings warnings)
      refine ⟨steady.toSound, ?_, nofun⟩
      rintro _ ⟨⟩
      refine ⟨steady, (Workshop.find?_keep u.leave b b.cls).trans ?_⟩
      rw [lost, if_pos rfl, Option.none_or]

/-- Compiling a class keeps its blueprint, or fails and keeps none of it. -/
theorem Compiler.after_compileWithin (catalog : Catalog) (depth : Nat) (c : ClassRef)
    (w : Workshop) {r : Except ConfigurationError Blueprint} {v : Workshop}
    (steady : Steady w) (room : Room catalog depth w.compiler.inProgress)
    (run : (compileWithin catalog depth c).exec w = (r, v)) : After c r v := by
  induction depth generalizing c w r v with
  | zero => exact room.not_zero.elim
  | succ depth ih =>
      rcases exec_obtain_cases catalog _ c w run with
        ⟨b, found, rfl, rfl⟩ | ⟨missing, _, rfl, rfl⟩ | ⟨missing, idle, makes⟩
      · refine ⟨steady.toSound, ?_, nofun⟩
        rintro _ ⟨⟩
        exact ⟨steady, found⟩
      · exact ⟨steady.toSound, nofun, fun _ _ => missing⟩
      · refine makes.after (advance_compileWithin catalog depth) ?_ steady missing idle
        intro m d tag declared matched u r v steady progress run
        refine ih d u steady ?_ run
        rw [progress]
        exact room.push ((isCompiling_eq_false_iff _ _).1 idle) (Catalog.listed declared matched)

end LiveTemplates
