/-
# LiveTemplates.Proofs.Component.Tags -- tags and the names that they are made of

A tag has a hyphen at each step of the name from a small letter to a capital, and nowhere else.
Looking for the steps from left to right, and going on behind the capital of each, misses none: a
capital is not the small letter of the next step.  A tag has no small letters, so it is its own
tag.

* `Tag.marked`: a hyphen behind each character at which there is a step, told by its index;
* `Tag.hyphenate_eq_marked`, `Tag.replaceSteps_eq`: this is what the tag is made of, also if the
  letters of a step are taken both at once;
* `Tag.ofName_ofName`: a tag is its own tag;
* `ClassRef.tag_finds`: an element is filed under the tag of a class just if looking for this tag
  finds it.
-/
import LiveTemplates.Blueprint.Compiler
import LiveTemplates.Proofs.Text.Uppercase

namespace LiveTemplates

set_option autoImplicit false

namespace Text

theorem isLower_iff {c : Char} : c.isLower = true ↔ 97 ≤ c.toNat ∧ c.toNat ≤ 122 := by
  change (decide (97 ≤ c.val) && decide (c.val ≤ 122)) = true ↔ _
  simp [UInt32.le_iff_toNat_le, ← Char.toNat_val]

theorem isUpper_iff {c : Char} : c.isUpper = true ↔ 65 ≤ c.toNat ∧ c.toNat ≤ 90 := by
  change decide (65 ≤ c.val ∧ c.val ≤ 90) = true ↔ _
  simp [UInt32.le_iff_toNat_le, ← Char.toNat_val]

/-- A small letter has a capital, which is another character. -/
theorem uppercaseChar_of_isLower : ∀ n < 128, (Char.ofNat n).isLower = true →
    uppercaseChar (Char.ofNat n) ≠ [Char.ofNat n] := by
  decide +kernel

/-- There are no small letters in a capital form. -/
theorem isLower_of_mem_uppercase {s : String} {c : Char} (member : c ∈ (uppercase s).toList) :
    c.isLower = false := by
  rw [uppercase, String.toList_ofList] at member
  obtain ⟨_, -, here⟩ := List.mem_flatMap.1 member
  have own := uppercaseChar_of_mem here
  by_contra lower
  rw [Bool.not_eq_false] at lower
  have small : c.toNat < 128 := by
    have bounds := isLower_iff.1 lower
    omega
  have other := uppercaseChar_of_isLower c.toNat small
  rw [Char.ofNat_toNat] at other
  exact other lower own

end Text

namespace Tag

/-! ## Steps in a name -/

/-- Is there a small letter at an index, and a capital behind it? -/
def isStep (cs : List Char) (i : Nat) : Bool :=
  cs[i]?.any Char.isLower && cs[i + 1]?.any Char.isUpper

/-- The characters in order, a hyphen behind each at which there is a step. -/
def marked (cs : List Char) : List Char :=
  (List.range cs.length).flatMap fun i => cs[i]?.toList ++ if isStep cs i then ['-'] else []

/-- Steps are looked for from left to right.  Both letters of a step are taken at once, and the
search goes on behind them. -/
def replaceSteps : List Char → List Char
  | [] => []
  | [c] => [c]
  | c :: d :: rest =>
    if c.isLower && d.isUpper then c :: '-' :: d :: replaceSteps rest
    else c :: replaceSteps (d :: rest)

theorem marked_cons (c : Char) (cs : List Char) :
    marked (c :: cs) = c :: ((if isStep (c :: cs) 0 then ['-'] else []) ++ marked cs) := by
  rw [marked, List.length_cons, List.range_succ_eq_map, List.flatMap_cons, List.flatMap_map]
  rfl

theorem isStep_zero (c d : Char) (rest : List Char) :
    isStep (c :: d :: rest) 0 = (c.isLower && d.isUpper) := rfl

/-- A hyphen stands at each step of a name, and nowhere else. -/
theorem hyphenate_eq_marked (cs : List Char) : hyphenate cs = marked cs := by
  fun_induction hyphenate cs with
  | case1 => rfl
  | case2 c => simp [marked, isStep]
  | case3 c d rest step ih =>
      rw [marked_cons, ih, isStep_zero, if_pos step]
      rfl
  | case4 c d rest step ih =>
      rw [marked_cons, ih, isStep_zero, if_neg step]
      rfl

/-- There is no step from what is no small letter. -/
theorem hyphenate_cons_of_not_isLower {c : Char} (lower : c.isLower = false) (cs : List Char) :
    hyphenate (c :: cs) = c :: hyphenate cs := by
  cases cs with
  | nil => rfl
  | cons d rest => simp [hyphenate, lower]

theorem isLower_of_isUpper {c : Char} (upper : c.isUpper = true) : c.isLower = false := by
  by_contra lower
  rw [Bool.not_eq_false, Text.isLower_iff] at lower
  rw [Text.isUpper_iff] at upper
  omega

/-- No step begins with the capital of another, so none is missed. -/
theorem replaceSteps_eq (cs : List Char) : replaceSteps cs = hyphenate cs := by
  fun_induction replaceSteps cs with
  | case1 => rfl
  | case2 c => rfl
  | case3 c d rest step ih =>
      have upper := (Bool.and_eq_true_iff.1 step).2
      rw [hyphenate, if_pos step, hyphenate_cons_of_not_isLower (isLower_of_isUpper upper), ih]
  | case4 c d rest step ih => rw [hyphenate, if_neg step, ih]

/-! ## Tags of tags -/

theorem hyphenate_eq_self {cs : List Char} (lower : ∀ c ∈ cs, c.isLower = false) :
    hyphenate cs = cs := by
  induction cs with
  | nil => rfl
  | cons c rest ih =>
      rw [hyphenate_cons_of_not_isLower (lower c (by simp)),
        ih fun d member => lower d (List.mem_cons_of_mem _ member)]

/-- A tag is its own tag. -/
theorem ofName_ofName (name : String) : ofName (ofName name) = ofName name := by
  have capitals : ∀ c ∈ (ofName name).toList, c.isLower = false :=
    fun c member => Text.isLower_of_mem_uppercase member
  calc ofName (ofName name) = Text.uppercase (ofName name) := by
        rw [ofName, hyphenate_eq_self capitals, String.ofList_toList]
    _ = ofName name := Text.uppercase_uppercase _

end Tag

/-! ## Elements and the tags of classes -/

/-- A tag is in capitals already, so looking for it compares it as it is. -/
theorem ClassRef.uppercase_tag (c : ClassRef) : Text.uppercase c.tag = c.tag :=
  Text.uppercase_uppercase _

theorem Forest.mem_elementsByTag_tag {f : Forest} {root n : NodeId}
    (below : n ∈ f.elementsBelow root) (c : ClassRef) :
    n ∈ f.elementsByTag root c.tag ↔ (f.data n).describe = c.tag := by
  have element : (f.data n).isElement = true := by
    rw [Forest.elementsBelow, List.mem_filter] at below
    exact below.2
  rw [Forest.elementsByTag, List.mem_filter, c.uppercase_tag, decide_eq_true_eq]
  cases held : f.data n with
  | element space name attrs => simp [NodeData.tag?, NodeData.describe, below]
  | _ => rw [held] at element; cases element

/-- An element stands for a class of some tag just if it has this tag and a class of this tag is
declared. -/
theorem Scan.tag_classOf? {declared : List ClassRef} {c : ClassRef} (member : c ∈ declared)
    (tag : String) : (Scan.classOf? declared tag).map (·.tag) = some c.tag ↔ tag = c.tag := by
  rw [Scan.classOf?, Option.map_eq_some_iff]
  constructor
  · rintro ⟨d, found, same⟩
    have filed := List.find?_some found
    rw [decide_eq_true_eq] at filed
    exact filed.symm.trans same
  · rintro rfl
    have some : (declared.reverse.find? (·.tag = c.tag)).isSome = true := by
      rw [List.find?_isSome]
      exact ⟨c, List.mem_reverse.2 member, by simp⟩
    obtain ⟨d, found⟩ := Option.isSome_iff_exists.1 some
    have filed := List.find?_some found
    exact ⟨d, found, by simpa using filed⟩

namespace ClassRef

/-- The tag of a name is the name in capitals, with a hyphen at each step and nowhere else, also
if the letters of a step are taken both at once; and it is its own tag.  Of the elements below a
root, just those are filed under the tag of a declared class that are found by this tag. -/
theorem tag_finds (name : String) (declared : List ClassRef) (f : Forest) (root : NodeId) :
    Tag.ofName name = Text.uppercase (String.ofList (Tag.marked name.toList)) ∧
    Tag.ofName name = Text.uppercase (String.ofList (Tag.replaceSteps name.toList)) ∧
    Tag.ofName (Tag.ofName name) = Tag.ofName name ∧
    ∀ c ∈ declared, ∀ n ∈ f.elementsBelow root,
      (Scan.classOf? declared (f.data n).describe).map (·.tag) = some c.tag ↔
        n ∈ f.elementsByTag root c.tag := by
  refine ⟨?_, ?_, Tag.ofName_ofName name, fun c member n below => ?_⟩
  · rw [Tag.ofName, Tag.hyphenate_eq_marked]
  · rw [Tag.ofName, Tag.replaceSteps_eq]
  · rw [Scan.tag_classOf? member, Forest.mem_elementsByTag_tag below]

/-- A class with two steps in its name, behind another one of the same tag. -/
def widgets : List ClassRef := [⟨"myBigWidget", true⟩, ⟨"MyBigWidget", true⟩]

/-- A document with one element. -/
def widgetPage : Forest where
  nodes := #[{ data := .document, children := [1] },
    { data := .element .html "my-big-widget" [], parent := some 0 }]

/-- The element is found by the tag of the second class, and filed under it. -/
theorem tag_finds_widget :
    (⟨"MyBigWidget", true⟩ : ClassRef) ∈ widgets ∧ 1 ∈ widgetPage.elementsBelow 0 ∧
    Tag.ofName "MyBigWidget" = "MY-BIG-WIDGET" ∧
    1 ∈ widgetPage.elementsByTag 0 (⟨"MyBigWidget", true⟩ : ClassRef).tag := by
  have member : (⟨"MyBigWidget", true⟩ : ClassRef) ∈ widgets := by decide
  have below : 1 ∈ widgetPage.elementsBelow 0 := by decide +kernel
  obtain ⟨marked, -, -, finds⟩ := tag_finds "MyBigWidget" widgets widgetPage 0
  refine ⟨member, below, marked.trans (by decide +kernel), ?_⟩
  exact (finds _ member 1 below).1 (by decide +kernel)

end ClassRef

end LiveTemplates
