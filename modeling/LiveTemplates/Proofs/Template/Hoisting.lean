/-
# LiveTemplates.Proofs.Template.Hoisting -- what is below the root of a template

The markup of a template is read as a document.  Its head and its body are children of one
element, and what is in the head is moved in front of what is in the body, in the same order.
Whatever else the document holds stays where it is: a comment in front of the markup is a child of
the document, and is not below the root of the template.

* `Template.Layout`: a well-formed document with a head in front of a body;
* `Template.hoist_moves`: hoisting moves the children of both below the body, and keeps the forest
  well-formed;
* `Template.Layout.order`: what is in the head and in the body comes in this order in the document;
* `Template.grow_content`: what is below the root of a template, and that this is all content of the
  document if and only if there is no other outside the head and the body;
* `Template.grow_content_lost`: a comment in front of a template is lost.
-/
import Mathlib
import LiveTemplates.Proofs.Forest.Moving
import LiveTemplates.Proofs.Forest.Walking
import LiveTemplates.Template

namespace LiveTemplates

set_option autoImplicit false

/-- Elements, texts and comments are the content of a document. -/
def NodeData.isContent : NodeData → Bool
  | .element .. | .text _ | .comment _ => true
  | _ => false

namespace Forest

variable {f g : Forest}

/-- Is a node content of a document, other than the three elements that every document has? -/
def isContent (f : Forest) (html head body n : NodeId) : Bool :=
  (f.data n).isContent && decide (n ∉ [html, head, body])

/-- A tree is as it was if all its nodes list the same. -/
theorem WellFormed.preorder_congr (formed : f.WellFormed) (also : g.WellFormed) {n : NodeId}
    (same : ∀ k, f.Over n k → g.children k = f.children k) : g.preorder n = f.preorder n := by
  induction n using formed.induct with
  | step n ih =>
      rw [formed.preorder_eq, also.preorder_eq, orderBelow, orderBelow, same n .refl]
      refine congrArg (n :: ·) (List.flatMap_congr fun m listed => ih m listed fun k leads => ?_)
      exact same k (.head listed leads)

/-- The tree at a node below another one stands in one piece in the order of the nodes there. -/
theorem WellFormed.preorder_infix (formed : f.WellFormed) {a n : NodeId} (above : f.Above a n) :
    f.preorder n <:+: f.orderBelow a := by
  have child {k m : NodeId} (listed : m ∈ f.children k) : f.preorder m <:+: f.orderBelow k := by
    obtain ⟨before, after, split⟩ := List.append_of_mem listed
    rw [orderBelow, split, List.flatMap_append, List.flatMap_cons, ← List.append_assoc]
    exact List.infix_append _ _ _
  induction above using Relation.TransGen.head_induction_on with
  | single listed => exact child listed
  | head listed _ ih =>
      have whole := child listed
      rw [formed.preorder_eq] at whole
      exact (ih.trans (List.suffix_cons _ _).isInfix).trans whole

theorem WellFormed.above_of_tag (formed : f.WellFormed) {a n : NodeId} {tag : String}
    (found : (f.elementsByTag a tag).head? = some n) : f.Above a n := by
  have member := List.mem_of_mem_filter (List.mem_of_mem_head? found)
  rw [formed.elementsBelow_eq] at member
  exact formed.mem_orderBelow.1 (List.mem_of_mem_filter member)

end Forest

namespace Template

open Forest

variable {f g : Forest} {document html head body : NodeId}

/-! ## Hoisting -/

/-- Hoisting moves the children of the head and then those of the body to the end of the body. -/
theorem hoist_moves (formed : f.WellFormed)
    (heads : (f.elementsByTag document "HEAD").head? = some head)
    (bodies : (f.elementsByTag document "BODY").head? = some body) (apart : ¬ f.Over head body) :
    ∃ g, hoist f document = some (g, body) ∧
      f.Moves g (f.children head ++ f.children body) (some body) ∧ g.WellFormed := by
  have other : head ≠ body := fun same => apart (same ▸ .refl)
  have disjoint {k n : NodeId} (listed : n ∈ f.children k) (away : k ≠ head ∧ k ≠ body) :
      n ∉ f.children head ++ f.children body := fun member =>
    (List.mem_append.1 member).elim (fun there => away.1 (formed.unique listed there))
      fun there => away.2 (formed.unique listed there)
  let h := (f.clear head).clear body
  have size : h.size = f.size := (size_modify ..).trans (size_modify ..)
  have there : body < f.size := formed.inside_of_above (formed.above_of_tag bodies)
  have moves : f.Moves (h.appendAll body (f.children head ++ f.children body))
      (f.children head ++ f.children body) (some body) := by
    refine (appendAll_gains (size ▸ there) fun n member => ?_).moves size
      (fun n => ?_) (fun k => ?_) fun n _ => ?_
    · exact size ▸ (List.mem_append.1 member).elim formed.inside formed.inside
    · rw [data_clear, data_clear]
    · rw [children_clear, children_clear]
      by_cases onBody : k = body
      · simp +contextual [onBody]
      · by_cases onHead : k = head
        · simp +contextual [onHead]
        · rw [if_neg onBody, if_neg onHead]
          refine (List.filter_eq_self.2 fun n listed => decide_eq_true ?_).symm
          exact disjoint listed ⟨onHead, onBody⟩
    · rw [parent?_clear, parent?_clear]
  refine ⟨_, ?_, moves, formed.moves moves ?_ fun p onto m member leads => ?_⟩
  · simp [hoist, heads, bodies, h]
  · refine List.nodup_append.2 ⟨formed.distinct head, formed.distinct body, ?_⟩
    rintro n first m second rfl
    exact other (formed.unique first second)
  · cases onto
    rcases List.mem_append.1 member with first | second
    · exact apart (.head first leads)
    · exact formed.not_above (.single second) leads

/-- Whatever is hoisted, the forest goes on to be well-formed, unless the body is in the head. -/
theorem hoist_formed (formed : f.WellFormed) (hoisted : hoist f document = some (g, body))
    (apart : ∀ head ∈ (f.elementsByTag document "HEAD").head?, ¬ f.Over head body) :
    g.WellFormed := by
  have whole := hoisted
  rw [hoist, Option.bind_eq_bind, Option.bind_eq_some_iff] at hoisted
  obtain ⟨found, bodies, rest⟩ := hoisted
  cases heads : (f.elementsByTag document "HEAD").head? with
  | none =>
      rw [heads] at rest
      obtain ⟨rfl, rfl⟩ := Prod.mk.inj (Option.some.inj rest)
      exact formed
  | some head =>
      rw [heads] at rest
      obtain ⟨-, rfl⟩ := Prod.mk.inj (Option.some.inj rest)
      obtain ⟨g', same, -, formed'⟩ := hoist_moves formed heads bodies (apart head heads)
      obtain ⟨rfl, -⟩ := Prod.mk.inj (Option.some.inj (whole.symm.trans same))
      exact formed'

/-! ## Head and body -/

/-- A well-formed document with a head and a body, which are children of one element, the head in
front of the body. -/
structure Layout (f : Forest) (document html head body : NodeId) : Prop where
  formed : f.WellFormed
  heads : (f.elementsByTag document "HEAD").head? = some head
  bodies : (f.elementsByTag document "BODY").head? = some body
  siblings : [head, body].Sublist (f.children html)

/-- What is below the root of a template: what was in the head and then what was in the body, each
node once and in the order of the document, and linked to the node that lists it.  The head is
empty, and all other lists are as they were.  This is all content of the document, but for the head,
the body and the element around them, if and only if there is none outside of the head and the
body. -/
structure Hoisted (f g : Forest) (document html head body : NodeId) : Prop where
  formed : g.WellFormed
  data : ∀ n, g.data n = f.data n
  emptied : g.children head = []
  filled : g.children body = f.children head ++ f.children body
  kept : ∀ k, k ≠ head → k ≠ body → g.children k = f.children k
  order : g.orderBelow body = f.orderBelow head ++ f.orderBelow body
  once : (g.orderBelow body).Nodup
  inOrder : (g.orderBelow body).Sublist (f.orderBelow document)
  linked : ∀ n ∈ g.orderBelow body, ∃ k, g.parent? n = some k ∧ n ∈ g.children k
  whole : (g.orderBelow body).filter (f.isContent html head body) =
      (f.orderBelow document).filter (f.isContent html head body) ↔
    ∀ n ∈ f.orderBelow document, f.isContent html head body n → f.Above head n ∨ f.Above body n

namespace Layout

variable (layout : Layout f document html head body)

include layout

theorem listed : head ∈ f.children html ∧ body ∈ f.children html :=
  ⟨layout.siblings.subset (by simp), layout.siblings.subset (by simp)⟩

/-- Neither the head nor the body is in the other. -/
theorem apart : ¬ f.Over head body ∧ ¬ f.Over body head := by
  have formed := layout.formed
  have different : head ≠ body := by
    have both := layout.siblings.nodup (formed.distinct html)
    simpa using both
  have aside {a b : NodeId} (first : a ∈ f.children html) (second : b ∈ f.children html)
      (other : b ≠ a) : ¬ f.Over a b := fun leads => by
    have above := (Relation.reflTransGen_iff_eq_or_transGen.1 leads).resolve_left other
    exact formed.not_above (.single first) (formed.over_parent above second)
  exact ⟨aside layout.listed.1 layout.listed.2 different.symm,
    aside layout.listed.2 layout.listed.1 different⟩

/-- What is in the head comes in the document before what is in the body. -/
theorem order : ∃ before between after, f.orderBelow document =
    before ++ (head :: f.orderBelow head) ++ between ++ (body :: f.orderBelow body) ++ after := by
  have formed := layout.formed
  obtain ⟨first, later, split, inLater⟩ : ∃ first later, f.children html = first ++ head :: later ∧
      body ∈ later := by
    obtain ⟨front, back, split, inFront, inBack⟩ := List.cons_sublist_iff.1 layout.siblings
    obtain ⟨first, rest, rfl⟩ := List.append_of_mem inFront
    refine ⟨first, rest ++ back, by simpa using split, List.mem_append_right _ ?_⟩
    exact inBack.subset (by simp)
  obtain ⟨between, last, split'⟩ := List.append_of_mem inLater
  have leads : f.Over document html :=
    formed.over_parent (formed.above_of_tag layout.heads) layout.listed.1
  have inside : f.orderBelow html <:+: f.orderBelow document := by
    rcases Relation.reflTransGen_iff_eq_or_transGen.1 leads with rfl | above
    · exact List.infix_rfl
    · have whole := formed.preorder_infix above
      rw [formed.preorder_eq] at whole
      exact (List.suffix_cons _ _).isInfix.trans whole
  obtain ⟨before, after, whole⟩ := inside
  refine ⟨before ++ first.flatMap f.preorder, between.flatMap f.preorder,
    last.flatMap f.preorder ++ after, ?_⟩
  rw [← whole, orderBelow, split, split']
  simp [formed.preorder_eq head, formed.preorder_eq body]

theorem sublist : (f.orderBelow head ++ f.orderBelow body).Sublist (f.orderBelow document) := by
  obtain ⟨before, between, after, whole⟩ := layout.order
  rw [whole, List.append_assoc _ (body :: _)]
  have inHead : (f.orderBelow head).Sublist (before ++ (head :: f.orderBelow head) ++ between) :=
    ((List.sublist_cons_self ..).trans (List.sublist_append_right ..)).trans
      (List.sublist_append_left ..)
  exact inHead.append ((List.sublist_cons_self ..).trans (List.sublist_append_left ..))

/-- What is in the head and in the body is all of a kind if and only if there is no other of it. -/
theorem whole_iff (p : NodeId → Bool) :
    (f.orderBelow head ++ f.orderBelow body).filter p = (f.orderBelow document).filter p ↔
      ∀ n ∈ f.orderBelow document, p n → f.Above head n ∨ f.Above body n := by
  have formed := layout.formed
  have either (n : NodeId) : n ∈ f.orderBelow head ++ f.orderBelow body ↔
      f.Above head n ∨ f.Above body n := by
    rw [List.mem_append, formed.mem_orderBelow, formed.mem_orderBelow]
  constructor
  · intro same n member kind
    have there : n ∈ (f.orderBelow head ++ f.orderBelow body).filter p :=
      same ▸ List.mem_filter.2 ⟨member, kind⟩
    exact (either n).1 (List.mem_of_mem_filter there)
  · intro none
    refine (layout.sublist.filter _).eq_of_length_le ?_
    refine (((formed.nodup_orderBelow document).filter _).subperm fun n kept => ?_).length_le
    obtain ⟨member, kind⟩ := List.mem_filter.1 kept
    exact List.mem_filter.2 ⟨(either n).2 (none n member kind), kind⟩

/-- The trees in the head and in the body stay as they are when only these two list others. -/
theorem orderBelow_body (also : g.WellFormed)
    (filled : g.children body = f.children head ++ f.children body)
    (kept : ∀ k, k ≠ head → k ≠ body → g.children k = f.children k) :
    g.orderBelow body = f.orderBelow head ++ f.orderBelow body := by
  have formed := layout.formed
  -- neither of the two is in a tree at a child of one of them
  have trees {k n : NodeId} (listed : n ∈ f.children k) (apart : ∀ m, f.Over k m → m = k ∨
      m ≠ head ∧ m ≠ body) : g.preorder n = f.preorder n := by
    refine formed.preorder_congr also fun m leads => ?_
    have above : f.Above k m := .head' listed leads
    obtain ⟨offHead, offBody⟩ := (apart m above.to_reflTransGen).resolve_left fun same =>
      formed.acyclic k (same ▸ above)
    exact kept m offHead offBody
  rw [orderBelow, filled, List.flatMap_append]
  refine congrArg₂ (· ++ ·) (List.flatMap_congr fun n listed => trees listed fun m leads => ?_)
    (List.flatMap_congr fun n listed => trees listed fun m leads => ?_)
  · refine or_iff_not_imp_left.2 fun apart => ⟨apart, fun same => ?_⟩
    exact layout.apart.1 (same ▸ leads)
  · refine or_iff_not_imp_left.2 fun apart => ⟨fun same => ?_, apart⟩
    exact layout.apart.2 (same ▸ leads)

/-- Hoisting takes a document to a template whose root is the body. -/
theorem hoist_content :
    ∃ g, hoist f document = some (g, body) ∧ Hoisted f g document html head body := by
  have formed := layout.formed
  have other : head ≠ body := fun same => layout.apart.1 (same ▸ .refl)
  obtain ⟨g, hoisted, moves, formed'⟩ :=
    hoist_moves formed layout.heads layout.bodies layout.apart.1
  have emptied : g.children head = [] := by
    rw [moves.children]
    simp +contextual [other.symm]
  have filled : g.children body = f.children head ++ f.children body := by
    rw [moves.children]
    simp +contextual
  have kept (k : NodeId) (offHead : k ≠ head) (offBody : k ≠ body) :
      g.children k = f.children k := by
    rw [moves.children, if_neg (by simpa using offBody.symm), List.append_nil]
    refine List.filter_eq_self.2 fun n listed => decide_eq_true fun member => ?_
    rcases List.mem_append.1 member with there | there
    · exact offHead (formed.unique listed there)
    · exact offBody (formed.unique listed there)
  have order := layout.orderBelow_body formed' filled kept
  refine ⟨g, hoisted, formed', moves.data, emptied, filled, kept, order,
    formed'.nodup_orderBelow body, order ▸ layout.sublist, fun n member => ?_,
    order ▸ layout.whole_iff _⟩
  obtain ⟨k, -, listed⟩ := Relation.TransGen.tail'_iff.1 (formed'.mem_orderBelow.1 member)
  exact ⟨k, formed'.linked.1 listed, listed⟩

end Layout

/-! ## Markup -/

/-- The template that a markup text stands for, if the document that it is read as has a head and a
body. -/
theorem grow_content {markup : String}
    (layout : Layout (Markup.parse markup).1 (Markup.parse markup).2 html head body) :
    ∃ g, grow markup = some (g, (Markup.parse markup).2, body) ∧
      Hoisted (Markup.parse markup).1 g (Markup.parse markup).2 html head body := by
  obtain ⟨g, hoisted, content⟩ := layout.hoist_content
  refine ⟨g, ?_, content⟩
  simp only [grow, hoisted, Option.bind_eq_bind, Option.bind_some, Option.pure_def]

/-- A style in front of a paragraph is read into the head, and is hoisted. -/
theorem grow_content_style :
    Layout (Markup.parse "<style>b</style><p>x</p>").1 0 1 2 5 ∧
    ∃ g, grow "<style>b</style><p>x</p>" = some (g, 0, 5) ∧ g.orderBelow 5 = [3, 4, 6, 7] := by
  let read : Forest := ⟨#[{ data := .document, children := [1] },
    { data := .element .html "html" [], parent := some 0, children := [2, 5] },
    { data := .element .html "head" [], parent := some 1, children := [3] },
    { data := .element .html "style" [], parent := some 2, children := [4] },
    { data := .text "b", parent := some 3 },
    { data := .element .html "body" [], parent := some 1, children := [6] },
    { data := .element .html "p" [], parent := some 5, children := [7] },
    { data := .text "x", parent := some 6 }]⟩
  have parsed : Markup.parse "<style>b</style><p>x</p>" = (read, 0) := by cbv
  have layout : Layout read 0 1 2 5 :=
    ⟨.of_ascending (by decide) (by decide) (by decide), by decide, by decide, by decide⟩
  have layout' : Layout (Markup.parse "<style>b</style><p>x</p>").1
      (Markup.parse "<style>b</style><p>x</p>").2 1 2 5 := by
    rw [parsed]
    exact layout
  obtain ⟨g, grown, content⟩ := grow_content layout'
  have order := content.order
  rw [parsed] at grown order
  refine ⟨by rw [parsed]; exact layout, g, grown, order.trans (by decide)⟩

/-- A comment in front of a paragraph is a child of the document.  It is content, and is not below
the root of the template. -/
theorem grow_content_lost :
    ∃ f g, Markup.parse "<!--c--><p></p>" = (f, 0) ∧ Layout f 0 2 3 4 ∧
      grow "<!--c--><p></p>" = some (g, 0, 4) ∧ f.data 1 = .comment "c" ∧
      1 ∈ f.orderBelow 0 ∧ f.isContent 2 3 4 1 ∧ g.orderBelow 4 = [5] ∧ ¬ g.Above 4 1 := by
  let read : Forest := ⟨#[{ data := .document, children := [1, 2] },
    { data := .comment "c", parent := some 0 },
    { data := .element .html "html" [], parent := some 0, children := [3, 4] },
    { data := .element .html "head" [], parent := some 2 },
    { data := .element .html "body" [], parent := some 2, children := [5] },
    { data := .element .html "p" [], parent := some 4 }]⟩
  have parsed : Markup.parse "<!--c--><p></p>" = (read, 0) := by cbv
  have formed : read.WellFormed := .of_ascending (by decide) (by decide) (by decide)
  have layout : Layout read 0 2 3 4 := ⟨formed, by decide, by decide, by decide⟩
  have grown : grow "<!--c--><p></p>" = some (read, 0, 4) := by cbv
  have order : read.orderBelow 4 = [5] := by decide
  refine ⟨read, read, parsed, layout, grown, rfl, by decide, by decide, order, fun above => ?_⟩
  have member := formed.mem_orderBelow.2 above
  rw [order] at member
  cases List.mem_singleton.1 member

end Template

end LiveTemplates
