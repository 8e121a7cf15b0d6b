/-
# LiveTemplates.Proofs.Program.Spelling -- two ways to write a member

A member of the object is written `x` or `this.x`.  Trees that differ in nothing else are lowered
to the same program with the same dependencies, or none of them is.  This holds wherever a member
can stand: where it is read, called, assigned or stepped.  Three names stand for values where
they are read, and for members everywhere else.

* `Script.Term.Respelled`: the same tree, with some members written the other way;
* `Lowering.Alike`: both fail, or both give the same;
* `Script.Term.Respelled.lowered`: lowering does not tell such trees apart.
-/
import LiveTemplates.Program.Lowering

namespace LiveTemplates

set_option autoImplicit false

/-! ## Trees -/

namespace Script.Term

/-- The names that stand for values where they are read. -/
def valueNames : List String :=
  ["undefined", "NaN", "Infinity"]

mutual

/-- The same tree where it is read, with members of the object written in one way or the other.
Places do not matter, as they change with the text. -/
inductive Respelled : Term → Term → Prop
  | dotted (s s' t : Span) {x : String} (plain : x ∉ valueNames) :
      Respelled (.name s x) (.member s' (.this t) x)
  | bare (s s' t : Span) {x : String} (plain : x ∉ valueNames) :
      Respelled (.member s (.this t) x) (.name s' x)
  | literal (s s' : Span) (v : Value) : Respelled (.literal s v) (.literal s' v)
  | template (s s' : Span) (pieces : List String) {parts parts' : List Term}
      (each : RespelledAll parts parts') :
      Respelled (.template s pieces parts) (.template s' pieces parts')
  | name (s s' : Span) (id : String) : Respelled (.name s id) (.name s' id)
  | this (s s' : Span) : Respelled (.this s) (.this s')
  | member (s s' : Span) (property : String) {base base' : Term} (inner : Respelled base base') :
      Respelled (.member s base property) (.member s' base' property)
  | element (s s' : Span) {base base' index index' : Term} (inner : Respelled base base')
      (key : Respelled index index') : Respelled (.element s base index) (.element s' base' index')
  | call (s s' : Span) {callee callee' : Term} {args args' : List Term}
      (called : RespelledName callee callee') (each : RespelledAll args args') :
      Respelled (.call s callee args) (.call s' callee' args')
  | unary (s s' : Span) (op : UnaryOperator) {argument argument' : Term}
      (inner : Respelled argument argument') :
      Respelled (.unary s op argument) (.unary s' op argument')
  | binary (s s' : Span) (op : BinaryOperator) {left left' right right' : Term}
      (first : Respelled left left') (second : Respelled right right') :
      Respelled (.binary s op left right) (.binary s' op left' right')
  | logical (s s' : Span) (op : LogicalOperator) {left left' right right' : Term}
      (first : Respelled left left') (second : Respelled right right') :
      Respelled (.logical s op left right) (.logical s' op left' right')
  | conditional (s s' : Span) {test test' consequent consequent' alternate alternate' : Term}
      (first : Respelled test test') (second : Respelled consequent consequent')
      (third : Respelled alternate alternate') :
      Respelled (.conditional s test consequent alternate)
        (.conditional s' test' consequent' alternate')
  | assign (s s' : Span) (op : AssignmentOperator) {target target' value value' : Term}
      (assigned : RespelledName target target') (inner : Respelled value value') :
      Respelled (.assign s op target value) (.assign s' op target' value')
  | update (s s' : Span) (increment isPrefix : Bool) {target target' : Term}
      (stepped : RespelledName target target') :
      Respelled (.update s increment isPrefix target) (.update s' increment isPrefix target')
  | group (s s' : Span) {t t' : Term} (inner : Respelled t t') :
      Respelled (.group s t) (.group s' t')
  | sequence (s s' : Span) {items items' : List Term} (each : RespelledAll items items') :
      Respelled (.sequence s items) (.sequence s' items')
  | spread (s s' : Span) {t t' : Term} (inner : Respelled t t') :
      Respelled (.spread s t) (.spread s' t')
  | array (s s' : Span) (comma : Bool) {items items' : List Term}
      (each : RespelledAll items items') : Respelled (.array s items comma) (.array s' items' comma)
  | object (s s' : Span) (comma : Bool) {entries entries' : List Term}
      (each : RespelledAll entries entries') :
      Respelled (.object s entries comma) (.object s' entries' comma)
  | entry (s s' : Span) {t t' : Term} (inner : Respelled t t') :
      Respelled (.entry s t) (.entry s' t')
  | shorthand (s s' : Span) (id : String) (initialized : Bool) :
      Respelled (.shorthand s id initialized) (.shorthand s' id initialized)
  | other (s s' : Span) (kind : OtherKind) : Respelled (.other s kind) (.other s' kind)

/-- The same tree where it is called, assigned or stepped; there every name is that of a member. -/
inductive RespelledName : Term → Term → Prop
  | dotted (s s' t : Span) (x : String) : RespelledName (.name s x) (.member s' (.this t) x)
  | bare (s s' t : Span) (x : String) : RespelledName (.member s (.this t) x) (.name s' x)
  | within {t t' : Term} (inner : Respelled t t') : RespelledName t t'

/-- The same trees, one by one. -/
inductive RespelledAll : List Term → List Term → Prop
  | nil : RespelledAll [] []
  | cons {t t' : Term} {ts ts' : List Term} (first : Respelled t t')
      (later : RespelledAll ts ts') : RespelledAll (t :: ts) (t' :: ts')

end

end Script.Term

/-! ## Lowering -/

namespace Lowering

open Script (Span Term)
open Script.Term (Respelled RespelledName RespelledAll valueNames)

/-- Both fail, or both give the same and have collected the same. -/
def Alike {α : Type} (x y : Lowering α) : Prop :=
  ∀ names, (x.run names).toOption = (y.run names).toOption

namespace Alike

variable {α β : Type} {x y : Lowering α}

theorem refl (x : Lowering α) : Alike x x :=
  fun _ => rfl

theorem throws (s s' : Span) : Alike (throw s : Lowering α) (throw s') :=
  fun _ => rfl

theorem bind {f g : α → Lowering β} (first : Alike x y) (later : ∀ a, Alike (f a) (g a)) :
    Alike (x >>= f) (y >>= g) := by
  intro names
  have same := first names
  rw [StateT.run_bind, StateT.run_bind]
  cases ran : x.run names with
  | error place =>
      cases ran' : y.run names with
      | error place' => rfl
      | ok out => simp [ran, ran', Except.toOption] at same
  | ok out =>
      cases ran' : y.run names with
      | error place' => simp [ran, ran', Except.toOption] at same
      | ok out' =>
          obtain rfl : out = out' := by simpa [ran, ran', Except.toOption] using same
          exact later out.1 out.2

theorem map (f : α → β) (alike : Alike x y) : Alike (do return f (← x)) (do return f (← y)) :=
  alike.bind fun a => .refl (pure (f a))

/-- Said of each of them: either has no result, or both have the same. -/
theorem outcomes (alike : Alike x y) (names : List String) :
    (∃ place place', x.run names = .error place ∧ y.run names = .error place') ∨
      ∃ a final, x.run names = .ok (a, final) ∧ y.run names = .ok (a, final) := by
  have same := alike names
  cases ran : x.run names with
  | error place =>
      cases ran' : y.run names with
      | error place' => exact .inl ⟨place, place', rfl, rfl⟩
      | ok out => simp [ran, ran', Except.toOption] at same
  | ok out =>
      cases ran' : y.run names with
      | error place' => simp [ran, ran', Except.toOption] at same
      | ok out' =>
          obtain rfl : out = out' := by simpa [ran, ran', Except.toOption] using same
          exact .inr ⟨out.1, out.2, rfl, rfl⟩

end Alike

/-- A name that stands for no value is that of a member. -/
theorem ofName_eq_read {x : String} (plain : x ∉ valueNames) : ofName x = read x := by
  simp only [valueNames, List.mem_cons, List.not_mem_nil, or_false, not_or] at plain
  obtain ⟨undefined, nan, infinity⟩ := plain
  rw [ofName, if_neg undefined, if_neg nan, if_neg infinity]

/-- What is called, assigned or stepped has the same name in both ways of writing. -/
theorem ownName?_respelled {t t' : Term} (respelled : RespelledName t t') :
    ownName? t = ownName? t' := by
  cases respelled with
  | dotted | bare => rfl
  | within inner =>
      cases inner with
      | member _ _ _ base => cases base <;> rfl
      | _ => rfl

end Lowering

namespace Script.Term

open Lowering (Alike ofTerm ofTerms)

mutual

/-- Lowering does not tell the two ways of writing apart. -/
theorem Respelled.alike {t t' : Term} : Respelled t t' → Alike (ofTerm t) (ofTerm t')
  | .dotted _ _ _ plain => by
      rw [ofTerm, Lowering.ofName_eq_read plain]
      exact .refl _
  | .bare _ _ _ plain => by
      rw [ofTerm, ofTerm, Lowering.ofName_eq_read plain]
      exact .refl _
  | .literal _ _ v => .refl (pure (Program.literal v))
  | .template _ _ pieces each => each.alike.map (Program.template pieces)
  | .name _ _ id => .refl (Lowering.ofName id)
  | .this s s' => .throws s s'
  | .member s s' property inner => by
      cases inner with
      | this => exact .refl (Lowering.read property)
      | _ => exact .throws s s'
  | .element s s' inner key => by
      cases inner with
      | this =>
          cases key with
          | literal _ _ v =>
              cases v with
              | text key => exact .refl (Lowering.read key)
              | _ => exact .throws s s'
          | _ => exact .throws s s'
      | _ => exact .throws s s'
  | .call s s' called each => by
      rw [ofTerm, ofTerm, Lowering.ownName?_respelled called]
      split
      · exact .throws s s'
      · exact each.alike.map (Program.call _)
  | .unary s s' op inner => by
      rw [ofTerm, ofTerm]
      split
      · exact .throws s s'
      · exact inner.alike.map (Program.unary _)
  | .binary s s' op first second => by
      rw [ofTerm, ofTerm]
      split
      · exact .throws s s'
      · exact first.alike.bind fun l => second.alike.map (Program.binary _ l)
  | .logical _ _ op first second =>
      first.alike.bind fun l => second.alike.map (Program.logical (.ofScript op) l)
  | .conditional _ _ first second third =>
      first.alike.bind fun t => second.alike.bind fun c => third.alike.map (Program.conditional t c)
  | .assign s s' op assigned inner => by
      rw [ofTerm, ofTerm, Lowering.ownName?_respelled assigned]
      split
      · exact .throws _ _
      split
      · exact .throws s s'
      · split
        · exact (Alike.refl _).bind fun _ => inner.alike.map (Program.assign _ _)
        · exact inner.alike.map (Program.assign _ _)
  | .update s s' increment isPrefix stepped => by
      rw [ofTerm, ofTerm, Lowering.ownName?_respelled stepped]
      split
      · exact .throws s s'
      · exact .refl _
  | .group _ _ inner => inner.alike
  | .sequence _ _ each => each.alike.map Program.sequence
  | .spread s s' _ => .throws s s'
  | .array s s' _ _ => .throws s s'
  | .object s s' _ _ => .throws s s'
  | .entry s s' _ => .throws s s'
  | .shorthand s s' _ _ => .throws s s'
  | .other s s' _ => .throws s s'

theorem RespelledAll.alike {ts ts' : List Term} :
    RespelledAll ts ts' → Alike (ofTerms ts) (ofTerms ts')
  | .nil => .refl (pure [])
  | .cons first later => first.alike.bind fun p => later.alike.map (p :: ·)

end

/-- Trees that differ in how members are written are lowered to the same program and collect the
same, whatever was collected before, or both are refused. -/
theorem Respelled.lowered {t t' : Term} (respelled : t.Respelled t') (names : List String) :
    (∃ place place', (ofTerm t).run names = .error place ∧
      (ofTerm t').run names = .error place') ∨
    ∃ p final, (ofTerm t).run names = .ok (p, final) ∧ (ofTerm t').run names = .ok (p, final) :=
  respelled.alike.outcomes names

namespace Mixture

/-- `add(this.count, total += step) ? this.names : undefined` -/
def tree : Term :=
  .conditional ⟨0, 57⟩
    (.call ⟨0, 29⟩ (.name ⟨0, 3⟩ "add")
      [.member ⟨4, 14⟩ (.this ⟨4, 8⟩) "count",
        .assign ⟨16, 29⟩ (.compound .add) (.name ⟨16, 21⟩ "total") (.name ⟨25, 29⟩ "step")])
    (.member ⟨33, 43⟩ (.this ⟨33, 37⟩) "names") (.name ⟨46, 55⟩ "undefined")

/-- `this.add(count, this.total += step) ? names : undefined` -/
def respelling : Term :=
  .conditional ⟨0, 56⟩
    (.call ⟨0, 34⟩ (.member ⟨0, 8⟩ (.this ⟨0, 4⟩) "add")
      [.name ⟨9, 14⟩ "count",
        .assign ⟨16, 34⟩ (.compound .add) (.member ⟨16, 26⟩ (.this ⟨16, 20⟩) "total")
          (.name ⟨30, 34⟩ "step")])
    (.name ⟨38, 43⟩ "names") (.name ⟨46, 55⟩ "undefined")

theorem respelled : tree.Respelled respelling :=
  .conditional _ _
    (.call _ _ (.dotted _ _ _ _)
      (.cons (.bare _ _ _ (by decide))
        (.cons (.assign _ _ _ (.dotted _ _ _ _) (.name _ _ _)) .nil)))
    (.bare _ _ _ (by decide)) (.name _ _ _)

end Mixture

/-- With members of three kinds of positions written the other way, a tree has the same program
and the same dependencies. -/
theorem lowered_mixture : Mixture.tree.Respelled Mixture.respelling ∧
    ∃ p, (ofTerm Mixture.tree).run [] = .ok (p, ["count", "names", "step", "total"]) ∧
      (ofTerm Mixture.respelling).run [] = .ok (p, ["count", "names", "step", "total"]) := by
  refine ⟨Mixture.respelled, ?_⟩
  have collected : ∃ p, (ofTerm Mixture.tree).run [] =
      .ok (p, ["count", "names", "step", "total"]) := ⟨_, rfl⟩
  obtain ⟨p, ran⟩ := collected
  rcases Mixture.respelled.lowered [] with ⟨_, _, failed, _⟩ | ⟨q, final, first, second⟩
  · rw [ran] at failed
    exact nomatch failed
  · obtain ⟨rfl, rfl⟩ : p = q ∧ ["count", "names", "step", "total"] = final := by
      simpa [ran] using first
    exact ⟨p, ran, second⟩

end Script.Term

end LiveTemplates
