/-
# LiveTemplates.Proofs.Program.Collecting -- what lowering collects

Lowering a tree notes members on its way: where it reads one, steps one, or combines one with a
value.  It notes them in the order in which they stand in the program that it gives, so that the
dependencies of a compiled expression are just the members whose values its program uses.

* `Lowering.ofTerm_collects`: what is noted is what the program uses;
* `Expression.mem_dependencies`, `Expression.dependencies_ascending`: the dependencies of a
  compiled source.
-/
import LiveTemplates.Expression
import LiveTemplates.Proofs.Program.Occurrences
import Mathlib.Data.String.Basic

namespace LiveTemplates

set_option autoImplicit false

open Script (Term)

namespace Lowering

/-! ## Lists of names -/

theorem mem_insertName {member name : String} : ∀ {names : List String},
    member ∈ insertName name names ↔ member = name ∨ member ∈ names
  | [] => by simp [insertName]
  | n :: rest => by
      rw [insertName]
      split
      · simp
      · split
        case isTrue same => simp [same]
        case isFalse => simp [mem_insertName, or_left_comm]

theorem insertName_ascending {name : String} : ∀ {names : List String},
    names.Pairwise (· < ·) → (insertName name names).Pairwise (· < ·)
  | [], _ => by simp [insertName]
  | n :: rest, ascending => by
      obtain ⟨least, later⟩ := List.pairwise_cons.1 ascending
      rw [insertName]
      split
      case isTrue less =>
        exact List.pairwise_cons.2 ⟨List.forall_mem_cons.2
          ⟨less, fun x member => less.trans (least x member)⟩, ascending⟩
      case isFalse notLess =>
        split
        case isTrue => exact ascending
        case isFalse other =>
          have more : n < name := lt_of_le_of_ne (not_lt.1 notLess) (Ne.symm other)
          refine List.pairwise_cons.2 ⟨fun x member => ?_, insertName_ascending later⟩
          rcases mem_insertName.1 member with rfl | inside
          · exact more
          · exact least x inside

/-- The names noted by the way, for what stands in a program. -/
def collected (names : List String) (cs : List Occurrence) : List String :=
  (cs.filterMap Occurrence.used?).foldl (fun names name => insertName name names) names

@[simp]
theorem collected_nil (names : List String) : collected names [] = names :=
  rfl

@[simp]
theorem collected_append (names : List String) (cs ds : List Occurrence) :
    collected names (cs ++ ds) = collected (collected names cs) ds := by
  rw [collected, List.filterMap_append, List.foldl_append]
  rfl

theorem collected_cons (names : List String) (c : Occurrence) (cs : List Occurrence) :
    collected names (c :: cs) = collected (collected names [c]) cs :=
  collected_append names [c] cs

theorem mem_collected {member : String} {cs : List Occurrence} : ∀ {names : List String},
    member ∈ collected names cs ↔ member ∈ names ∨ ∃ c ∈ cs, c.used? = some member := by
  induction cs with
  | nil => simp
  | cons c cs ih =>
      intro names
      rw [collected_cons, ih, List.exists_mem_cons_iff, ← or_assoc]
      refine or_congr_left ?_
      cases used : c.used? with
      | none => simp [collected, used]
      | some name => simp [collected, used, mem_insertName, or_comm, eq_comm]

theorem collected_ascending {cs : List Occurrence} : ∀ {names : List String},
    names.Pairwise (· < ·) → (collected names cs).Pairwise (· < ·) := by
  induction cs with
  | nil => exact id
  | cons c cs ih =>
      intro names ascending
      rw [collected_cons]
      refine ih ?_
      cases used : c.used? with
      | none => simpa [collected, used] using ascending
      | some name => simpa [collected, used] using insertName_ascending ascending

/-! ## Lowering, step by step -/

section Steps

variable {α β : Type} {names final : List String}

theorem bind_eq_ok {x : Lowering α} {f : α → Lowering β} {b : β} :
    (x >>= f).run names = .ok (b, final) ↔
      ∃ a middle, x.run names = .ok (a, middle) ∧ (f a).run middle = .ok (b, final) := by
  rw [StateT.run_bind]
  cases ran : x.run names with
  | error span => simp [Bind.bind, Except.bind]
  | ok out =>
      obtain ⟨a, middle⟩ := out
      simp [Bind.bind, Except.bind]

theorem pure_eq_ok {a b : α} :
    (pure a : Lowering α).run names = .ok (b, final) ↔ b = a ∧ final = names := by
  constructor
  · intro same
    cases same
    exact ⟨rfl, rfl⟩
  · rintro ⟨rfl, rfl⟩
    rfl

theorem use_eq_ok {member : String} {b : Unit} :
    (use member).run names = .ok (b, final) ↔ final = insertName member names := by
  constructor
  · intro same
    cases same
    rfl
  · rintro rfl
    rfl

theorem read_eq_ok {member : String} {p : Program} :
    (read member).run names = .ok (p, final) ↔
      p = .member member ∧ final = insertName member names := by
  constructor
  · intro same
    cases same
    exact ⟨rfl, rfl⟩
  · rintro ⟨rfl, rfl⟩
    rfl

end Steps

/-! ## What a tree collects -/

/-- What a bare name collects. -/
theorem ofName_collects {id : String} {names final : List String} {p : Program}
    (lowered : (ofName id).run names = .ok (p, final)) :
    final = collected names p.occurrences := by
  rw [ofName] at lowered
  split at lowered
  · obtain ⟨rfl, rfl⟩ := pure_eq_ok.1 lowered
    rfl
  split at lowered
  · obtain ⟨rfl, rfl⟩ := pure_eq_ok.1 lowered
    rfl
  split at lowered
  · obtain ⟨rfl, rfl⟩ := pure_eq_ok.1 lowered
    rfl
  · obtain ⟨rfl, rfl⟩ := read_eq_ok.1 lowered
    rfl

mutual

/-- A tree collects what its program uses. -/
theorem ofTerm_collects : ∀ (t : Term) {names final : List String} {p : Program},
    (ofTerm t).run names = .ok (p, final) → final = collected names p.occurrences
  | .literal .., _, _, _, lowered => by
      obtain ⟨rfl, rfl⟩ := pure_eq_ok.1 lowered
      rfl
  | .template _ _ parts, _, _, _, lowered => by
      obtain ⟨ps, _, inner, last⟩ := bind_eq_ok.1 lowered
      obtain ⟨rfl, rfl⟩ := pure_eq_ok.1 last
      exact ofTerms_collects parts inner
  | .name .., _, _, _, lowered => ofName_collects lowered
  | .member _ object property, _, _, _, lowered => by
      cases object
      case this =>
        obtain ⟨rfl, rfl⟩ := read_eq_ok.1 lowered
        rfl
      all_goals cases lowered
  | .element _ object index, _, _, _, lowered => by
      cases object
      case this =>
        cases index
        case literal v =>
          cases v
          case text =>
            obtain ⟨rfl, rfl⟩ := read_eq_ok.1 lowered
            rfl
          all_goals cases lowered
        all_goals cases lowered
      all_goals cases lowered
  | .call _ callee args, _, _, _, lowered => by
      rw [ofTerm] at lowered
      split at lowered
      · cases lowered
      · obtain ⟨ps, _, inner, last⟩ := bind_eq_ok.1 lowered
        obtain ⟨rfl, rfl⟩ := pure_eq_ok.1 last
        exact ofTerms_collects args inner
  | .unary _ op argument, _, _, _, lowered => by
      rw [ofTerm] at lowered
      split at lowered
      · cases lowered
      · obtain ⟨q, _, inner, last⟩ := bind_eq_ok.1 lowered
        obtain ⟨rfl, rfl⟩ := pure_eq_ok.1 last
        rw [Program.occurrences]
        exact ofTerm_collects argument inner
  | .binary _ op left right, _, _, _, lowered => by
      rw [ofTerm] at lowered
      split at lowered
      · cases lowered
      · obtain ⟨l, _, first, lowered⟩ := bind_eq_ok.1 lowered
        obtain ⟨r, _, second, last⟩ := bind_eq_ok.1 lowered
        obtain ⟨rfl, rfl⟩ := pure_eq_ok.1 last
        rw [Program.occurrences, collected_append, ← ofTerm_collects left first,
          ← ofTerm_collects right second]
  | .logical _ op left right, _, _, _, lowered => by
      obtain ⟨l, _, first, lowered⟩ := bind_eq_ok.1 lowered
      obtain ⟨r, _, second, last⟩ := bind_eq_ok.1 lowered
      obtain ⟨rfl, rfl⟩ := pure_eq_ok.1 last
      rw [Program.occurrences, collected_append, ← ofTerm_collects left first,
        ← ofTerm_collects right second]
  | .conditional _ test consequent alternate, _, _, _, lowered => by
      obtain ⟨t, _, first, lowered⟩ := bind_eq_ok.1 lowered
      obtain ⟨c, _, second, lowered⟩ := bind_eq_ok.1 lowered
      obtain ⟨a, _, third, last⟩ := bind_eq_ok.1 lowered
      obtain ⟨rfl, rfl⟩ := pure_eq_ok.1 last
      rw [Program.occurrences, collected_append, collected_append, ← ofTerm_collects test first,
        ← ofTerm_collects consequent second, ← ofTerm_collects alternate third]
  | .assign _ op target value, _, _, _, lowered => by
      rw [ofTerm] at lowered
      split at lowered
      · cases lowered
      split at lowered
      · cases lowered
      rename_i name _ op _
      cases op with
      | none =>
          obtain ⟨q, _, inner, last⟩ := bind_eq_ok.1 lowered
          obtain ⟨rfl, rfl⟩ := pure_eq_ok.1 last
          rw [Program.occurrences, collected_cons]
          exact ofTerm_collects value inner
      | some op =>
          obtain ⟨_, _, noted, lowered⟩ := bind_eq_ok.1 lowered
          obtain ⟨q, _, inner, last⟩ := bind_eq_ok.1 lowered
          obtain ⟨rfl, rfl⟩ := pure_eq_ok.1 last
          obtain rfl := use_eq_ok.1 noted
          rw [Program.occurrences, collected_cons]
          exact ofTerm_collects value inner
  | .update _ _ _ target, _, _, _, lowered => by
      rw [ofTerm] at lowered
      split at lowered
      · cases lowered
      · obtain ⟨_, _, noted, last⟩ := bind_eq_ok.1 lowered
        obtain ⟨rfl, rfl⟩ := pure_eq_ok.1 last
        exact use_eq_ok.1 noted
  | .group _ inner, _, _, _, lowered => ofTerm_collects inner lowered
  | .sequence _ items, _, _, _, lowered => by
      obtain ⟨ps, _, inner, last⟩ := bind_eq_ok.1 lowered
      obtain ⟨rfl, rfl⟩ := pure_eq_ok.1 last
      exact ofTerms_collects items inner
  | .this _, _, _, _, lowered => by cases lowered
  | .spread .., _, _, _, lowered => by cases lowered
  | .array .., _, _, _, lowered => by cases lowered
  | .object .., _, _, _, lowered => by cases lowered
  | .entry .., _, _, _, lowered => by cases lowered
  | .shorthand .., _, _, _, lowered => by cases lowered
  | .other .., _, _, _, lowered => by cases lowered

/-- Several trees collect what their programs use. -/
theorem ofTerms_collects : ∀ (ts : List Term) {names final : List String} {ps : List Program},
    (ofTerms ts).run names = .ok (ps, final) → final = collected names (Program.occurrencesAll ps)
  | [], _, _, _, lowered => by
      obtain ⟨rfl, rfl⟩ := pure_eq_ok.1 lowered
      rfl
  | t :: ts, _, _, _, lowered => by
      obtain ⟨p, _, first, lowered⟩ := bind_eq_ok.1 lowered
      obtain ⟨ps, _, second, last⟩ := bind_eq_ok.1 lowered
      obtain ⟨rfl, rfl⟩ := pure_eq_ok.1 last
      rw [Program.occurrencesAll, collected_append, ← ofTerm_collects t first,
        ← ofTerms_collects ts second]

end

end Lowering

namespace Expression

open Lowering

/-- Statements collect what their programs use. -/
theorem ofStatements_collects : ∀ (statements : List Script.Statement)
    {names final : List String} {ps : List Program},
    (ofStatements statements).run names = .ok (ps, final) →
      final = collected names (Program.occurrencesAll ps)
  | [], _, _, _, lowered => by
      obtain ⟨rfl, rfl⟩ := pure_eq_ok.1 lowered
      rfl
  | .expression t :: rest, _, _, _, lowered => by
      obtain ⟨p, _, first, lowered⟩ := bind_eq_ok.1 lowered
      obtain ⟨ps, _, second, last⟩ := bind_eq_ok.1 lowered
      obtain ⟨rfl, rfl⟩ := pure_eq_ok.1 last
      rw [Program.occurrencesAll, collected_append, ← ofTerm_collects t first,
        ← ofStatements_collects rest second]
  | .empty :: rest, _, _, _, lowered => ofStatements_collects rest lowered
  | .other _ :: _, _, _, _, lowered => by cases lowered

/-- In several steps stands what stands in the steps. -/
theorem occurrences_joined : ∀ ps : List Program,
    (joined ps).occurrences = Program.occurrencesAll ps
  | [] => rfl
  | [_] => (List.append_nil _).symm
  | _ :: _ :: _ => rfl

/-- The dependencies of a compiled source are collected from its program. -/
theorem dependencies_eq {kind : BindingKind} {source : String} {e : Expression}
    (compiled : compile kind source = .ok e) : e.dependencies = collected [] e.program.occurrences := by
  cases kind with
  | input =>
      rw [compile, compileInput] at compiled
      split at compiled
      · cases compiled
      split at compiled
      · cases compiled
      split at compiled
      · cases compiled
      split at compiled
      · cases compiled
      · rename_i lowered
        cases compiled
        exact ofTerm_collects _ lowered
  | output =>
      rw [compile, compileOutput] at compiled
      split at compiled
      · cases compiled
      split at compiled
      · cases compiled
      · rename_i lowered
        cases compiled
        rw [occurrences_joined]
        exact ofStatements_collects _ lowered

/-- The dependencies of a compiled source are the members whose values its program can use. -/
theorem mem_dependencies {kind : BindingKind} {source : String} {e : Expression}
    (compiled : compile kind source = .ok e) (member : String) :
    member ∈ e.dependencies ↔ e.program.Uses member := by
  rw [dependencies_eq compiled, mem_collected, Program.Uses]
  simp only [List.not_mem_nil, false_or]

/-- They are listed ascending by code points, each once. -/
theorem dependencies_ascending {kind : BindingKind} {source : String} {e : Expression}
    (compiled : compile kind source = .ok e) : e.dependencies.Pairwise (· < ·) := by
  rw [dependencies_eq compiled]
  exact collected_ascending List.Pairwise.nil

end Expression

end LiveTemplates
