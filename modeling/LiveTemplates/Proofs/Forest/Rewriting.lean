/-
# LiveTemplates.Proofs.Forest.Rewriting -- writing the same attributes again

A value is written over the first attribute of a name, or behind all attributes if there is none.
So attributes that are there keep their places, and writing the same values in the same order
again changes nothing: each attribute has the value that is written last.  Where nothing is
written twice, the order only matters for the places of new attributes.

* `Forest.Rewritten`: what has become of all nodes when values have been written;
* `Forest.writeAll_writeAll`: writing again changes nothing;
* `Forest.attr?_writeAll_perm`: in another order, all attributes have the same values.
-/
import LiveTemplates.Proofs.Forest.Attributes

namespace LiveTemplates

set_option autoImplicit false

/-! ## Attributes of one element -/

namespace NodeData

/-- Only the last of two values for an attribute counts. -/
theorem setAttrs_setAttrs (name first second : String) (attrs : List Attr) :
    setAttrs name second (setAttrs name first attrs) = setAttrs name second attrs := by
  induction attrs with
  | nil => simp [setAttrs]
  | cons a rest ih =>
      by_cases same : a.name = name
      · simp [setAttrs, same]
      · simp [setAttrs, same, ih]

/-- Values for different attributes can be set in any order, if one of these is there. -/
theorem setAttrs_comm {name other : String} (different : name ≠ other) (value text : String)
    {attrs : List Attr} (there : (attrs.find? (·.name = name)).isSome = true) :
    setAttrs name value (setAttrs other text attrs) =
      setAttrs other text (setAttrs name value attrs) := by
  induction attrs with
  | nil => cases there
  | cons a rest ih =>
      by_cases here : a.name = name
      · subst here
        simp [setAttrs, different]
      · simp only [List.find?_cons, here, decide_false] at there
        by_cases also : a.name = other
        · simp [setAttrs, also, Ne.symm different]
        · simp only [setAttrs, here, also, if_false]
          exact congrArg _ (ih there)

/-- Nothing changes if an attribute has the value already. -/
theorem setAttrs_eq_self {name value : String} {attrs : List Attr}
    (there : (attrs.find? (·.name = name)).map (·.value) = some value) :
    setAttrs name value attrs = attrs := by
  induction attrs with
  | nil => cases there
  | cons a rest ih =>
      by_cases same : a.name = name
      · obtain rfl : a.value = value := by simpa [same] using there
        rw [setAttrs, if_pos same]
      · have later : (rest.find? (·.name = name)).map (·.value) = some value := by
          simpa [same] using there
        simp [setAttrs, same, ih later]

/-- An attribute stays at its place, and keeps its value if this is set for another name. -/
theorem getElem?_setAttrs (name value : String) {attrs : List Attr} {i : Nat} {a : Attr}
    (listed : attrs[i]? = some a) : ∃ text, (setAttrs name value attrs)[i]? =
      some { a with value := text } ∧ (a.name ≠ name → text = a.value) := by
  induction attrs generalizing i with
  | nil => cases listed
  | cons b rest ih =>
      by_cases same : b.name = name
      · cases i with
        | zero =>
            obtain rfl : b = a := Option.some.inj listed
            exact ⟨value, by simp [setAttrs, same], fun other => absurd same other⟩
        | succ i =>
            refine ⟨a.value, ?_, fun _ => rfl⟩
            simpa [setAttrs, same] using listed
      · cases i with
        | zero =>
            obtain rfl : b = a := Option.some.inj listed
            exact ⟨b.value, by simp [setAttrs, same], fun _ => rfl⟩
        | succ i =>
            obtain ⟨text, there, kept⟩ := ih (i := i) (by simpa using listed)
            exact ⟨text, by simpa [setAttrs, same] using there, kept⟩

/-- An attribute has a value, or there are no attributes at all. -/
def HasAttr (d : NodeData) (name : String) : Prop :=
  d.isElement = true → (d.attr? name).isSome = true

theorem HasAttr.setAttr {d : NodeData} {name : String} (has : d.HasAttr name)
    (other value : String) : (d.setAttr other value).HasAttr name := by
  intro element
  by_cases same : name = other
  · subst same
    rw [attr?_setAttr_self (by rwa [isElement_setAttr] at element)]
    rfl
  · rw [attr?_setAttr_of_ne _ same]
    exact has (by rwa [isElement_setAttr] at element)

theorem hasAttr_setAttr (d : NodeData) (name value : String) :
    (d.setAttr name value).HasAttr name := by
  intro element
  rw [attr?_setAttr_self (by rwa [isElement_setAttr] at element)]
  rfl

theorem setAttr_setAttr (d : NodeData) (name first second : String) :
    (d.setAttr name first).setAttr name second = d.setAttr name second := by
  cases d with
  | element space n attrs => exact congrArg _ (setAttrs_setAttrs name first second attrs)
  | _ => rfl

theorem setAttr_comm {d : NodeData} {name other : String} (different : name ≠ other)
    (value text : String) (has : d.HasAttr name) :
    (d.setAttr other text).setAttr name value = (d.setAttr name value).setAttr other text := by
  cases d with
  | element space n attrs =>
      have there := has rfl
      rw [attr?, Option.isSome_map] at there
      exact congrArg _ (setAttrs_comm different value text there)
  | _ => rfl

theorem setAttr_eq_self {d : NodeData} {name value : String}
    (there : d.isElement = true → d.attr? name = some value) : d.setAttr name value = d := by
  cases d with
  | element space n attrs => exact congrArg _ (setAttrs_eq_self (there rfl))
  | _ => rfl

theorem setAttr_of_not_isElement {d : NodeData} (plain : d.isElement = false)
    (name value : String) : d.setAttr name value = d :=
  setAttr_eq_self fun element => absurd (plain.symm.trans element) nofun

end NodeData

namespace Forest

/-! ## Values for two attributes -/

/-- Two forests are the same if their nodes are linked alike and hold the same. -/
theorem ext_data {f g : Forest} (size : g.size = f.size) (children : ∀ n, g.children n = f.children n)
    (parent : ∀ n, g.parent? n = f.parent? n) (data : ∀ n, g.data n = f.data n) : g = f := by
  obtain ⟨nodes⟩ := f
  obtain ⟨nodes'⟩ := g
  refine congrArg Forest.mk (Array.ext size fun n inside' inside => ?_)
  have one := children n
  have two := parent n
  have three := data n
  simp only [Forest.children, Forest.parent?, Forest.data, Array.getElem?_eq_getElem inside,
    Array.getElem?_eq_getElem inside', Option.map_some, Option.getD_some, Option.bind_some]
    at one two three
  cases here : nodes'[n]
  cases there : nodes[n]
  simp_all

theorem size_write (f : Forest) (x : Write) : (f.write x).size = f.size := by
  simp [write, setAttr, modify, size]

theorem children_write (f : Forest) (x : Write) (n : NodeId) :
    (f.write x).children n = f.children n := by
  simp only [write, setAttr, modify, children, Array.getElem?_modify]
  split <;> cases f.nodes[n]? <;> rfl

theorem parent?_write (f : Forest) (x : Write) (n : NodeId) :
    (f.write x).parent? n = f.parent? n := by
  simp only [write, setAttr, modify, parent?, Array.getElem?_modify]
  split <;> cases f.nodes[n]? <;> rfl

theorem data_write (f : Forest) (x : Write) (n : NodeId) :
    (f.write x).data n = if n = x.node then (f.data x.node).setAttr x.attr x.text else f.data n :=
  data_setAttr f x.node n x.attr x.text

/-- Do two values go to the same attribute? -/
def Write.Meets (x y : Write) : Prop :=
  x.node = y.node ∧ x.attr = y.attr

theorem write_write_of_meets {x y : Write} (meets : x.Meets y) (f : Forest) :
    (f.write x).write y = f.write y := by
  obtain ⟨node, attr⟩ := meets
  refine ext_data ?_ (fun n => ?_) (fun n => ?_) fun n => ?_
  · simp only [size_write]
  · simp only [children_write]
  · simp only [parent?_write]
  · simp only [data_write, node, attr, if_pos]
    split
    · exact NodeData.setAttr_setAttr _ _ _ _
    · rfl

theorem write_comm {x y : Write} (apart : ¬ x.Meets y) {f : Forest}
    (has : (f.data x.node).HasAttr x.attr) : (f.write x).write y = (f.write y).write x := by
  refine ext_data ?_ (fun n => ?_) (fun n => ?_) fun n => ?_
  · simp only [size_write]
  · simp only [children_write]
  · simp only [parent?_write]
  · simp only [data_write]
    by_cases same : x.node = y.node
    · have different : x.attr ≠ y.attr := fun also => apart ⟨same, also⟩
      rw [same] at has ⊢
      simp only [if_pos]
      split
      · exact (NodeData.setAttr_comm different _ _ has).symm
      · rfl
    · simp only [same, Ne.symm same, if_false]
      by_cases here : n = x.node
      · simp [here, same]
      · simp [here]

theorem write_eq_self {x : Write} {f : Forest}
    (there : (f.data x.node).isElement = true → (f.data x.node).attr? x.attr = some x.text) :
    f.write x = f := by
  refine ext_data (size_write f x) (children_write f x) (parent?_write f x) fun n => ?_
  rw [data_write]
  split
  case isTrue here => rw [here, NodeData.setAttr_eq_self there]
  case isFalse => rfl

theorem hasAttr_write {f : Forest} {n : NodeId} {name : String} (has : (f.data n).HasAttr name)
    (x : Write) : ((f.write x).data n).HasAttr name := by
  rw [data_write]
  split
  case isTrue here => exact (here ▸ has).setAttr _ _
  case isFalse => exact has

theorem hasAttr_writeAll {f : Forest} {n : NodeId} {name : String}
    (has : (f.data n).HasAttr name) (xs : List Write) :
    ((f.writeAll xs).data n).HasAttr name := by
  induction xs generalizing f with
  | nil => exact has
  | cons x rest ih => exact ih (hasAttr_write has x)

/-- What is written to is there afterwards. -/
theorem hasAttr_of_mem {f : Forest} {xs : List Write} {x : Write} (member : x ∈ xs) :
    ((f.writeAll xs).data x.node).HasAttr x.attr := by
  induction xs generalizing f with
  | nil => cases member
  | cons y rest ih =>
      rcases List.mem_cons.1 member with rfl | later
      · refine hasAttr_writeAll ?_ rest
        rw [data_write, if_pos rfl]
        exact NodeData.hasAttr_setAttr _ _ _
      · exact ih later

/-! ## Writing again -/

/-- A value is of no account if another one is written over it later. -/
theorem writeAll_write {x : Write} {xs : List Write} (again : ∃ y ∈ xs, x.Meets y) {f : Forest}
    (has : (f.data x.node).HasAttr x.attr) : (f.write x).writeAll xs = f.writeAll xs := by
  induction xs generalizing f with
  | nil =>
      obtain ⟨y, member, -⟩ := again
      cases member
  | cons y rest ih =>
      change ((f.write x).write y).writeAll rest = (f.write y).writeAll rest
      by_cases meets : x.Meets y
      · rw [write_write_of_meets meets]
      · rw [write_comm meets has]
        refine ih ?_ (hasAttr_write has y)
        obtain ⟨y', member, meets'⟩ := again
        rcases List.mem_cons.1 member with rfl | later
        · exact absurd meets' meets
        · exact ⟨y', later, meets'⟩

/-- Nothing changes if every attribute has the value already that is written to it last. -/
theorem writeAll_eq_self {f : Forest} {xs : List Write}
    (has : ∀ x ∈ xs, (f.data x.node).HasAttr x.attr)
    (last : ∀ before x after, xs = before ++ x :: after → (∀ y ∈ after, ¬ x.Meets y) →
      (f.data x.node).isElement = true → (f.data x.node).attr? x.attr = some x.text) :
    f.writeAll xs = f := by
  induction xs with
  | nil => rfl
  | cons x rest ih =>
      have settled : f.writeAll rest = f := by
        refine ih (fun y member => has y (List.mem_cons_of_mem _ member)) ?_
        rintro before y after rfl
        exact last (x :: before) y after rfl
      change (f.write x).writeAll rest = f
      by_cases again : ∃ y ∈ rest, x.Meets y
      · rw [writeAll_write again (has x (by simp)), settled]
      · have alone : ∀ y ∈ rest, ¬ x.Meets y := fun y member meets => again ⟨y, member, meets⟩
        rw [write_eq_self (last [] x rest rfl alone), settled]

/-- Writing the same values again changes nothing. -/
theorem writeAll_writeAll (f : Forest) (xs : List Write) :
    (f.writeAll xs).writeAll xs = f.writeAll xs := by
  refine writeAll_eq_self (fun x member => hasAttr_of_mem member) ?_
  rintro before x after rfl alone element
  rw [isElement_writeAll] at element
  refine attr?_writeAll_last f before after x element fun y member same => ?_
  exact alone y member ⟨same.1.symm, same.2.symm⟩

/-! ## What becomes of nodes -/

/-- Some values have been written, and all else is as it was: nodes that nothing is written to,
the links between nodes, the places of attributes, and the values of those that nothing is
written to. -/
structure Rewritten (f g : Forest) (xs : List Write) : Prop where
  size : g.size = f.size
  children : ∀ n, g.children n = f.children n
  parent : ∀ n, g.parent? n = f.parent? n
  others : ∀ n, (∀ x ∈ xs, x.node ≠ n) → g.data n = f.data n
  plain : ∀ n, (f.data n).isElement = false → g.data n = f.data n
  places : ∀ {n : NodeId} {i : Nat} {a : Attr}, (f.data n).attrs[i]? = some a → ∃ text,
    (g.data n).attrs[i]? = some { a with value := text } ∧
      ((∀ x ∈ xs, ¬ (x.node = n ∧ x.attr = a.name)) → text = a.value)
  unwritten : ∀ {n : NodeId} {name : String}, (∀ x ∈ xs, ¬ (x.node = n ∧ x.attr = name)) →
    (g.data n).attr? name = (f.data n).attr? name
  written : ∀ before x after, xs = before ++ x :: after →
    (∀ y ∈ after, ¬ (y.node = x.node ∧ y.attr = x.attr)) →
    (f.data x.node).isElement = true → (g.data x.node).attr? x.attr = some x.text

theorem getElem?_write (f : Forest) (x : Write) {n i : Nat} {a : Attr}
    (listed : (f.data n).attrs[i]? = some a) : ∃ text,
      ((f.write x).data n).attrs[i]? = some { a with value := text } ∧
        (¬ (x.node = n ∧ x.attr = a.name) → text = a.value) := by
  rw [data_write]
  split
  case isFalse => exact ⟨a.value, listed, fun _ => rfl⟩
  case isTrue here =>
    subst here
    cases held : f.data x.node with
    | element space name attrs =>
        rw [held] at listed
        obtain ⟨text, there, kept⟩ := NodeData.getElem?_setAttrs x.attr x.text listed
        exact ⟨text, there, fun other => kept fun same => other ⟨rfl, same.symm⟩⟩
    | _ => rw [held] at listed; cases listed

theorem getElem?_writeAll (f : Forest) (xs : List Write) {n i : Nat} {a : Attr}
    (listed : (f.data n).attrs[i]? = some a) : ∃ text,
      ((f.writeAll xs).data n).attrs[i]? = some { a with value := text } ∧
        ((∀ x ∈ xs, ¬ (x.node = n ∧ x.attr = a.name)) → text = a.value) := by
  induction xs generalizing f a with
  | nil => exact ⟨a.value, listed, fun _ => rfl⟩
  | cons x rest ih =>
      obtain ⟨text, there, kept⟩ := getElem?_write f x listed
      obtain ⟨last, there', kept'⟩ := ih (f.write x) there
      refine ⟨last, there', fun others => ?_⟩
      rw [kept' fun y member => others y (List.mem_cons_of_mem _ member)]
      exact kept (others x (by simp))

theorem data_writeAll_other (f : Forest) {xs : List Write} {n : NodeId}
    (others : ∀ x ∈ xs, x.node ≠ n) : (f.writeAll xs).data n = f.data n := by
  induction xs generalizing f with
  | nil => rfl
  | cons x rest ih =>
      change ((f.write x).writeAll rest).data n = f.data n
      rw [ih _ fun y member => others y (List.mem_cons_of_mem _ member), data_write,
        if_neg (Ne.symm (others x (by simp)))]

theorem data_writeAll_plain (f : Forest) (xs : List Write) {n : NodeId}
    (plain : (f.data n).isElement = false) : (f.writeAll xs).data n = f.data n := by
  induction xs generalizing f with
  | nil => rfl
  | cons x rest ih =>
      have same : (f.write x).data n = f.data n := by
        rw [data_write]
        split
        case isTrue here => rw [← here, NodeData.setAttr_of_not_isElement plain]
        case isFalse => rfl
      exact (ih _ (same ▸ plain)).trans same

theorem links_writeAll (f : Forest) (xs : List Write) : (f.writeAll xs).size = f.size ∧
    (∀ n, (f.writeAll xs).children n = f.children n) ∧
    ∀ n, (f.writeAll xs).parent? n = f.parent? n := by
  induction xs generalizing f with
  | nil => exact ⟨rfl, fun _ => rfl, fun _ => rfl⟩
  | cons x rest ih =>
      obtain ⟨size, children, parent⟩ := ih (f.write x)
      exact ⟨size.trans (size_write f x), fun n => (children n).trans (children_write f x n),
        fun n => (parent n).trans (parent?_write f x n)⟩

theorem rewritten_writeAll (f : Forest) (xs : List Write) : Rewritten f (f.writeAll xs) xs where
  size := (links_writeAll f xs).1
  children := (links_writeAll f xs).2.1
  parent := (links_writeAll f xs).2.2
  others _ none := data_writeAll_other f none
  plain _ := data_writeAll_plain f xs
  places := getElem?_writeAll f xs
  unwritten := attr?_writeAll_other f xs _ _
  written := by
    rintro before x after rfl last element
    exact attr?_writeAll_last f before after x element last

/-! ## Another order -/

/-- Where nothing is written twice, each attribute has the value that is written to it. -/
theorem attr?_writeAll_of_mem {f : Forest} {xs : List Write}
    (once : xs.Pairwise fun x y => ¬ x.Meets y) {x : Write} (member : x ∈ xs)
    (element : (f.data x.node).isElement = true) :
    ((f.writeAll xs).data x.node).attr? x.attr = some x.text := by
  obtain ⟨before, after, rfl⟩ := List.append_of_mem member
  refine attr?_writeAll_last f before after x element fun y later same => ?_
  have tail := (List.pairwise_append.1 once).2.1
  exact (List.pairwise_cons.1 tail).1 y later ⟨same.1.symm, same.2.symm⟩

/-- Where nothing is written twice, all attributes have the same values after any order. -/
theorem attr?_writeAll_perm {f : Forest} {xs ys : List Write} (perm : ys.Perm xs)
    (once : xs.Pairwise fun x y => ¬ x.Meets y) (n : NodeId) (name : String) :
    ((f.writeAll ys).data n).attr? name = ((f.writeAll xs).data n).attr? name := by
  have symmetric : ∀ {x y : Write}, ¬ x.Meets y → ¬ y.Meets x :=
    fun apart meets => apart ⟨meets.1.symm, meets.2.symm⟩
  have once' : ys.Pairwise fun x y => ¬ x.Meets y := perm.symm.pairwise once symmetric
  by_cases element : (f.data n).isElement = true
  · by_cases target : ∃ x ∈ xs, x.node = n ∧ x.attr = name
    · obtain ⟨x, member, rfl, rfl⟩ := target
      rw [attr?_writeAll_of_mem once member element,
        attr?_writeAll_of_mem once' (perm.mem_iff.2 member) element]
    · have none : ∀ x ∈ xs, ¬ (x.node = n ∧ x.attr = name) :=
        fun x member here => target ⟨x, member, here⟩
      rw [attr?_writeAll_other f xs n name none,
        attr?_writeAll_other f ys n name fun x member => none x (perm.mem_iff.1 member)]
  · rw [Bool.not_eq_true] at element
    rw [data_writeAll_plain f xs element, data_writeAll_plain f ys element]

end Forest

end LiveTemplates
