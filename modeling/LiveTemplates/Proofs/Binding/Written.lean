/-
# LiveTemplates.Proofs.Binding.Written -- bindings and the attributes they are written as

An input of a name is written `[name]` and an output `(name)`, where the name is one or more
word characters.  No bracket is a word character, so an attribute tells its kind by its ends, its
name is all that is between them, and a name is not written as a binding itself.

* `BindingKind.Spells`: how a kind and a name are spelled;
* `BindingKind.ofAttribute?_eq_some_iff`: just the attributes that spell a binding are read as one;
* `BindingKind.written_injective`: different bindings are spelled differently;
* `Binding.written_reads_back`: reading and writing undo each other, and the attributes that
  inputs show their values in are plain.
-/
import LiveTemplates.Binding.Basic
import Mathlib.Data.List.Basic

namespace LiveTemplates

set_option autoImplicit false

/-- A name of a binding: word characters, and at least one of them. -/
def Text.IsName (name : String) : Prop :=
  name ≠ "" ∧ ∀ c ∈ name.toList, Text.isWord c = true

namespace BindingKind

/-- How bindings are spelled: an input in square brackets, an output in round ones. -/
inductive Spells : BindingKind → String → String → Prop
  | input {name : String} (isName : Text.IsName name) : Spells .input name ("[" ++ name ++ "]")
  | output {name : String} (isName : Text.IsName name) : Spells .output name ("(" ++ name ++ ")")

/-- No bracket may stand in a name. -/
theorem isWord_bracket (kind : BindingKind) : Text.isWord kind.brackets.1 = false := by
  cases kind <;> decide

theorem written_toList (kind : BindingKind) (name : String) :
    (kind.written name).toList = kind.brackets.1 :: (name.toList ++ [kind.brackets.2]) :=
  String.toList_ofList

theorem written_input (name : String) : written .input name = "[" ++ name ++ "]" := by
  apply String.toList_injective
  rw [written_toList, String.toList_append, String.toList_append]
  rfl

theorem written_output (name : String) : written .output name = "(" ++ name ++ ")" := by
  apply String.toList_injective
  rw [written_toList, String.toList_append, String.toList_append]
  rfl

theorem spells_iff {kind : BindingKind} {name a : String} :
    Spells kind name a ↔ Text.IsName name ∧ a = kind.written name := by
  constructor
  · rintro (isName | isName)
    · exact ⟨isName, (written_input name).symm⟩
    · exact ⟨isName, (written_output name).symm⟩
  · rintro ⟨isName, rfl⟩
    cases kind with
    | input => exact written_input name ▸ .input isName
    | output => exact written_output name ▸ .output isName

/-- The opening bracket tells the kind, and the name is all behind it but the closing one. -/
theorem written_injective {kind kind' : BindingKind} {name name' : String}
    (same : kind.written name = kind'.written name') : kind = kind' ∧ name = name' := by
  have lists := congrArg String.toList same
  rw [written_toList, written_toList, List.cons.injEq] at lists
  obtain ⟨opening, rest⟩ := lists
  have kinds : kind = kind' := by
    cases kind <;> cases kind' <;> first | rfl | exact absurd opening (by decide)
  subst kinds
  exact ⟨rfl, String.toList_injective (List.append_cancel_right rest)⟩

/-- A word stands between brackets just if it is a name and the brackets are around it. -/
theorem wordBetween_eq_some_iff {kind : BindingKind} {cs : List Char} {name : String} :
    wordBetween kind cs = some name ↔ Text.IsName name ∧ cs = (kind.written name).toList := by
  rw [written_toList, Text.IsName]
  cases cs with
  | nil => simp [wordBetween]
  | cons c rest =>
      simp only [wordBetween]
      constructor
      · intro read
        split at read
        case isFalse => cases read
        case isTrue between =>
          obtain ⟨opening, closing, filled, words⟩ := between
          obtain rfl := Option.some.inj read
          refine ⟨⟨?_, ?_⟩, ?_⟩
          · rw [Ne, ← String.toList_eq_nil_iff, String.toList_ofList]
            exact filled
          · rw [String.toList_ofList]
            exact List.all_eq_true.1 words
          · rw [String.toList_ofList, opening, List.dropLast_append_getLast? _ closing]
      · rintro ⟨⟨filled, words⟩, whole⟩
        obtain ⟨rfl, rfl⟩ := List.cons.inj whole
        rw [List.dropLast_concat, List.getLast?_concat, String.ofList_toList, if_pos]
        exact ⟨rfl, rfl, mt String.toList_eq_nil_iff.1 filled, List.all_eq_true.2 words⟩

/-- Just the attributes that spell a binding are read as one. -/
theorem ofAttribute?_eq_some_iff {a name : String} {kind : BindingKind} :
    ofAttribute? a = some (kind, name) ↔ Text.IsName name ∧ a = kind.written name := by
  have between (kind : BindingKind) (name : String) :
      wordBetween kind a.toList = some name ↔ Text.IsName name ∧ a = kind.written name := by
    rw [wordBetween_eq_some_iff, String.toList_inj]
  rw [ofAttribute?]
  cases first : wordBetween .input a.toList with
  | some word =>
      have spelled := (between .input word).1 first
      simp only [Option.some.injEq, Prod.mk.injEq]
      constructor
      · rintro ⟨rfl, rfl⟩
        exact spelled
      · rintro ⟨-, other⟩
        exact written_injective (spelled.2.symm.trans other)
  | none =>
      simp only [Option.map_eq_some_iff, Prod.mk.injEq]
      constructor
      · rintro ⟨_, second, rfl, rfl⟩
        exact (between .output _).1 second
      · intro spelled
        cases kind with
        | input => exact absurd ((between .input name).2 spelled) (by rw [first]; nofun)
        | output => exact ⟨name, (between .output name).2 spelled, rfl, rfl⟩

/-- A name is a plain attribute: its first character is no bracket. -/
theorem ofAttribute?_name {name : String} (isName : Text.IsName name) :
    ofAttribute? name = none := by
  rw [Option.eq_none_iff_forall_ne_some]
  rintro ⟨kind, inner⟩ read
  obtain ⟨-, rfl⟩ := ofAttribute?_eq_some_iff.1 read
  have opening := isName.2 kind.brackets.1 (by rw [written_toList]; exact List.mem_cons_self ..)
  exact absurd opening (by rw [isWord_bracket]; nofun)

end BindingKind

namespace Binding

open BindingKind

/-- An attribute is read as a binding just if it spells one, and such a binding is written as this
attribute.  A binding with a name is read back from the attribute that it is written as; no other
is written so, and the attribute of the same name is plain. -/
theorem written_reads_back (a name source : String) (kind : BindingKind) :
    (ofAttribute? a = some (kind, name) ↔ Spells kind name a) ∧
    (ofAttribute? a = some (kind, name) → (of kind name source).written = a) ∧
    (Text.IsName name →
      ofAttribute? (of kind name source).written = some (kind, name) ∧
      ofAttribute? name = none) ∧
    ∀ (kind' : BindingKind) (name' source' : String),
      (of kind' name' source').written = (of kind name source).written →
        kind' = kind ∧ name' = name := by
  refine ⟨ofAttribute?_eq_some_iff.trans spells_iff.symm, fun read => ?_, fun isName => ⟨?_, ?_⟩,
    fun kind' name' source' => written_injective⟩
  · exact (ofAttribute?_eq_some_iff.1 read).2.symm
  · exact ofAttribute?_eq_some_iff.2 ⟨isName, rfl⟩
  · exact ofAttribute?_name isName

/-- An input is recognized, a letter beyond ASCII in its name; in mixed or nested brackets, or with
a line end behind it, it is not. -/
theorem written_reads_back_title :
    Text.IsName "größe" ∧ ofAttribute? "[größe]" = some (.input, "größe") ∧
    ofAttribute? "größe" = none ∧ ofAttribute? "[größe)" = none ∧
    ofAttribute? "[[größe]]" = none ∧ ofAttribute? "[größe]\n" = none ∧ ofAttribute? "[]" = none := by
  have words : ∀ c ∈ ['g', 'r', 'ö', 'ß', 'e'], Text.isWord c = true := by
    simp only [List.forall_mem_cons]
    exact ⟨by decide, by decide, by decide, by decide, by decide, nofun⟩
  have isName : Text.IsName "größe" := ⟨by decide, words⟩
  obtain ⟨-, -, read, -⟩ := written_reads_back "[größe]" "größe" "size" .input
  obtain ⟨back, plain⟩ := read isName
  exact ⟨isName, back, plain, by decide, by decide, by decide, by decide⟩

end Binding

end LiveTemplates
