/-
# LiveTemplates.Proofs.Forest.Attributes -- what writing attributes leaves behind

Values are written to attributes of nodes in some order (`Forest.writeAll`).  An element
has the value behind that was written last (`Forest.attr?_writeAll_last`), and all else
is as it was (`Forest.attr?_writeAll_other`).
-/
import LiveTemplates.Forest

namespace LiveTemplates

set_option autoImplicit false

namespace NodeData

theorem isElement_setAttr (d : NodeData) (name value : String) :
    (d.setAttr name value).isElement = d.isElement := by
  cases d <;> rfl

theorem find?_setAttrs_self (name value : String) (attrs : List Attr) :
    ((setAttrs name value attrs).find? (·.name = name)).map (·.value) = some value := by
  induction attrs with
  | nil => simp [setAttrs]
  | cons a rest ih =>
      by_cases same : a.name = name
      · simp [setAttrs, same]
      · simpa [setAttrs, same] using ih

theorem find?_setAttrs_of_ne {name other : String} (different : other ≠ name) (value : String)
    (attrs : List Attr) : ((setAttrs name value attrs).find? (·.name = other)).map (·.value) =
      (attrs.find? (·.name = other)).map (·.value) := by
  induction attrs with
  | nil => simp [setAttrs, Ne.symm different]
  | cons a rest ih =>
      by_cases same : a.name = name
      · simp [setAttrs, same, Ne.symm different]
      · by_cases found : a.name = other
        · simp [setAttrs, found, different]
        · simpa [setAttrs, same, found] using ih

/-- An element has the value that is set. -/
theorem attr?_setAttr_self {d : NodeData} (element : d.isElement = true) (name value : String) :
    (d.setAttr name value).attr? name = some value := by
  cases d with
  | element space n attrs => exact find?_setAttrs_self name value attrs
  | _ => cases element

theorem attr?_setAttr_of_ne (d : NodeData) {name other : String} (different : other ≠ name)
    (value : String) : (d.setAttr name value).attr? other = d.attr? other := by
  cases d with
  | element space n attrs => exact find?_setAttrs_of_ne different value attrs
  | _ => rfl

end NodeData

namespace Forest

theorem data_setAttr (f : Forest) (n k : NodeId) (name value : String) :
    (f.setAttr n name value).2.data k =
      if k = n then (f.data n).setAttr name value else f.data k := by
  simp only [setAttr, modify, data, Array.getElem?_modify]
  by_cases same : k = n
  · subst same
    cases f.nodes[k]? <;> simp [NodeData.setAttr]
  · simp [same, Ne.symm same]

/-- A value that is written to an attribute of a node. -/
structure Write where
  node : NodeId
  attr : String
  text : String

/-- Writes a value. -/
def write (f : Forest) (x : Write) : Forest :=
  (f.setAttr x.node x.attr x.text).2

/-- Writes values in order. -/
def writeAll (f : Forest) (xs : List Write) : Forest :=
  xs.foldl write f

theorem writeAll_append (f : Forest) (xs ys : List Write) :
    f.writeAll (xs ++ ys) = (f.writeAll xs).writeAll ys :=
  List.foldl_append

theorem isElement_writeAll (f : Forest) (xs : List Write) (k : NodeId) :
    ((f.writeAll xs).data k).isElement = (f.data k).isElement := by
  induction xs generalizing f with
  | nil => rfl
  | cons x rest ih =>
      rw [show f.writeAll (x :: rest) = (f.write x).writeAll rest from rfl, ih, write,
        data_setAttr]
      split
      case isTrue same => rw [same, NodeData.isElement_setAttr]
      case isFalse => rfl

/-- An attribute to which nothing is written is as it was. -/
theorem attr?_writeAll_other (f : Forest) (xs : List Write) (k : NodeId) (name : String)
    (others : ∀ x ∈ xs, ¬ (x.node = k ∧ x.attr = name)) :
    ((f.writeAll xs).data k).attr? name = (f.data k).attr? name := by
  induction xs generalizing f with
  | nil => rfl
  | cons x rest ih =>
      rw [show f.writeAll (x :: rest) = (f.write x).writeAll rest from rfl,
        ih _ fun y member => others y (List.mem_cons_of_mem _ member), write, data_setAttr]
      split
      case isTrue same =>
        have different : name ≠ x.attr := fun also =>
          others x (by simp) ⟨same.symm, also.symm⟩
        rw [same, NodeData.attr?_setAttr_of_ne _ different]
      case isFalse => rfl

/-- An element has the value that is written last. -/
theorem attr?_writeAll_last (f : Forest) (before after : List Write) (x : Write)
    (element : (f.data x.node).isElement = true)
    (last : ∀ y ∈ after, ¬ (y.node = x.node ∧ y.attr = x.attr)) :
    ((f.writeAll (before ++ x :: after)).data x.node).attr? x.attr = some x.text := by
  rw [writeAll_append, show (f.writeAll before).writeAll (x :: after) =
    ((f.writeAll before).write x).writeAll after from rfl,
    attr?_writeAll_other _ after _ _ last, write, data_setAttr, if_pos rfl]
  exact NodeData.attr?_setAttr_self (by rwa [isElement_writeAll]) _ _

end Forest

end LiveTemplates
