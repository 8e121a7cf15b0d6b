/-
# LiveTemplates.Proofs.Instance.Rendered -- attaching puts the rendered template in place

Wiring a copy of an element furnishes it: the bindings show their values in it, and the
components that are mounted on it come behind its children.  So copying the template gives
the rendered trees, and these are moved to the host.

* `Blueprint.wire_renders`: a copy is wired as its element is furnished;
* `Wiring.copy_renders`: copying a tree gives the rendered tree, if wiring a copy furnishes
  it like the rendering does;
* `Blueprint.mount_renders`: mounting a blueprint that only watches puts the rendered template
  at the end of the host's children;
* `Compiler.attach_renders`: so does attaching, for every registered blueprint, and all else is
  as it was.
-/
import LiveTemplates.Proofs.Instance.Lineup
import LiveTemplates.Proofs.Instance.Rendering

namespace LiveTemplates

set_option autoImplicit false

variable {σ : Type}

/-! ## Furnishing -/

/-- Attaching the bindings of an element shows them in its copy. -/
theorem Wiring.bindings_render (u : UserCode σ) (z : Zone) {o : ObjectId} (live : Nat) :
    ∀ {bindings : List (Spot × Binding)} (_ : ∀ b ∈ bindings, b.2.Watches) (s : Wiring)
      {w : World σ} (_ : o ∉ w.busy) (_ : live < w.forest.size) (d : NodeData),
      Renders (bindings.foldlM (fun (s : Wiring) (_, b) => do
          return s.add (← b.attach u live o z)) s)
        ((bindings.map (·.2)).foldlM (Binding.render u o) d) w
        fun _ d' v => Forest.Grows w.forest v.forest live d d' [] []
  | [], _, s, w, _, _, d => .pure (.refl _ _ _)
  | (spot, b) :: rest, watches, s, w, free, inside, d => by
      obtain ⟨first, others⟩ := List.forall_mem_cons.1 watches
      simp only [List.foldlM_cons, List.map_cons, bind_assoc, pure_bind]
      refine (Binding.attach_shows u first live z free d).bind
        fun a d' v grows later busy => ?_
      refine (bindings_render u z live others (s.add a) (busy ▸ free)
        (Nat.lt_of_lt_of_le inside grows.size) d').imp fun _ _ _ more => grows.trans more inside

/-- Mounting on any node puts rendered trees at its end. -/
def Mounting.Puts (busy : List ObjectId) (m : Mounting σ) (y : Rendering σ (List Tree)) : Prop :=
  ∀ (w : World σ) (host : Nat), w.Holding busy → host < w.forest.size →
    Renders (m host) y w fun _ ts v => ∃ ns, ∀ e, Forest.Grows w.forest v.forest host e e ns ts

/-- A component is rendered where it is mounted, as it is mounted. -/
def Mounting.Fits (busy : List ObjectId) (part : Spot × Mounting σ)
    (r : Spot × Rendering σ (List Tree)) : Prop :=
  part.1 = r.1 ∧ Puts busy part.2 r.2

/-- Mounting several components on a copy puts them behind one another. -/
theorem Wiring.children_render {busy : List ObjectId} (live : Nat)
    {parts : List (Spot × Mounting σ)} {rendered : List (Spot × Rendering σ (List Tree))}
    (fits : List.Forall₂ (Mounting.Fits busy) parts rendered) :
    ∀ (s : Wiring) {w : World σ}, w.Holding busy → live < w.forest.size →
      Renders (parts.foldlM (fun (s : Wiring) (_, mount) => do
          return { s with children := s.children ++ [← mount live] }) s)
        (rendered.mapM (·.2)) w fun _ tss v =>
          ∃ ns, ∀ e, Forest.Grows w.forest v.forest live e e ns tss.flatten := by
  induction fits with
  | nil => exact fun s w _ _ => .pure ⟨[], .refl _ _⟩
  | cons one _ ih =>
      intro s w holding inside
      simp only [List.foldlM_cons, List.mapM_cons, bind_assoc, pure_bind]
      refine (one.2 w live holding inside).bind fun i ts v ⟨ns, grows⟩ later same => ?_
      have inside' := Nat.lt_of_lt_of_le inside (grows .document).size
      refine (ih _ (holding.later later same) inside').map (ts :: ·) fun _ tss x ⟨ms, more⟩ =>
        ⟨ns ++ ms, fun e => (grows e).trans (more e) inside⟩

/-- The bindings at an address are those on the elements there. -/
theorem Scan.filter_bindingsOn (elements : List (List Nat × NodeData)) (address : List Nat) :
    (bindingsOn elements).filter (·.1.address = address) =
      bindingsOn (elements.filter (·.1 = address)) := by
  induction elements with
  | nil => rfl
  | cons element rest ih =>
      have own : ((Binding.among element.2.attrs).map (spotOf element, ·)).filter
          (·.1.address = address) = if element.1 = address then
            (Binding.among element.2.attrs).map (spotOf element, ·) else [] := by
        split
        case isTrue same =>
          refine List.filter_eq_self.2 fun b member => ?_
          obtain ⟨_, -, rfl⟩ := List.mem_map.1 member
          exact decide_eq_true same
        case isFalse other =>
          refine List.filter_eq_nil_iff.2 fun b member => ?_
          obtain ⟨_, -, rfl⟩ := List.mem_map.1 member
          exact fun same => other (of_decide_eq_true same)
      simp only [bindingsOn, List.flatMap_cons, List.filter_append] at ih ⊢
      rw [own, ih, List.filter_cons]
      split <;> simp_all

/-- The bindings on the node at an address of the template. -/
theorem Blueprint.Made.bindings_at {b : Blueprint} (made : b.Made) {address : List Nat}
    (below : address ≠ []) {d : NodeData} {ts : List Tree}
    (here : b.template.root.at? address = some (.node d ts)) :
    (b.bindings.filter (·.1.address = address)).map (·.2) = Binding.among d.attrs := by
  obtain ⟨j, address, rfl⟩ := List.exists_cons_of_ne_nil below
  rw [made.bindings, Scan.filter_bindingsOn, Tree.filter_elementsBelow, here, Tree.elementAt]
  cases d <;> simp [NodeData.isElement, NodeData.attrs, Scan.bindingsOn, Binding.among,
    Binding.gather]

/-- Wiring a copy furnishes it. -/
theorem Blueprint.wire_renders (u : UserCode σ) (z : Zone) {b : Blueprint} {o : ObjectId}
    (made : b.Made) (watches : b.Watches) {busy : List ObjectId} (free : o ∉ busy)
    {childObjects : List ObjectId} {rendered : List (Spot × Rendering σ (List Tree))}
    (fits : List.Forall₂ (Mounting.Fits busy) (mountings u z b.children childObjects) rendered)
    {address : List Nat} (below : address ≠ []) {d : NodeData} {us : List Tree}
    (here : b.template.root.at? address = some (.node d us)) {live : Nat} (s : Wiring)
    {w : World σ} (holding : w.Holding busy) (inside : live < w.forest.size) :
    Renders (b.wire u z o childObjects address live s)
      (Rendering.furnish u o rendered address d) w fun _ r v =>
        ∃ ns, Forest.Grows w.forest v.forest live d r.1 ns r.2 := by
  have bindings : ∀ binding ∈ b.bindings.filter (·.1.address = address), binding.2.Watches :=
    fun binding member => watches b .refl binding (List.mem_filter.1 member).1
  have first := Wiring.bindings_render u z live bindings s (holding.1 ▸ free) inside d
  rw [made.bindings_at below here] at first
  refine first.bind fun s d' v grows later same => ?_
  have here := List.rel_filter (R := Mounting.Fits busy) (p := (·.1.address = address))
    (q := (·.1.address = address)) (fun _ _ fits => by simp [fits.1]) fits
  have second := Wiring.children_render live here s (holding.later later same)
    (Nat.lt_of_lt_of_le inside grows.size)
  exact second.map (fun tss => (d', tss.flatten)) fun _ tss x ⟨ns, more⟩ =>
    ⟨ns, grows.trans (more d') inside⟩

/-! ## Copying -/

namespace Wiring

variable {ω : Type} {wire : List Nat → NodeId → ω → Run σ ω}
  {furnish : List Nat → NodeData → Rendering σ (NodeData × List Tree)} {root : Tree}
  {busy : List ObjectId}

mutual

/-- Copying a tree gives the rendered tree, if wiring a copy furnishes it. -/
theorem copy_renders (each : ∀ {address d us}, address ≠ [] →
      root.at? address = some (.node d us) → ∀ {live : Nat} (s : ω) {w : World σ},
        w.Holding busy → live < w.forest.size →
          Renders (wire address live s) (furnish address d) w fun _ r v =>
            ∃ ns, Forest.Grows w.forest v.forest live d r.1 ns r.2) :
    ∀ {t : Tree} {address : List Nat}, address ≠ [] → root.at? address = some t →
      ∀ (s : ω) {w : World σ}, w.Holding busy →
        Renders (copy wire address t s) (t.render furnish address) w fun r t' v =>
          Forest.Sprouts w.forest v.forest r.1 t'
  | .node d ts, address, below, here, s, w, holding => by
      let n := w.forest.size
      let w₁ : World σ := { w with forest := (w.forest.add d).2 }
      have inside : n < w₁.forest.size := by
        rw [Forest.size_add]
        exact Nat.lt_succ_self _
      rw [copy, Tree.render]
      refine .skip (w := w) (v := w₁) rfl rfl (Nat.le_refl _) rfl ?_
      refine (copyAll_renders each here (show ts.drop 0 = ts from rfl) s (w := w₁) holding inside).bind
        fun s ts' v ⟨ns, grows⟩ later same => ?_
      refine (each below here s (holding.later later same)
        (Nat.lt_of_lt_of_le inside (grows d).size)).bind fun s r x ⟨ms, more⟩ _ _ => .pure ?_
      exact ((grows d).trans more inside).sprouts

theorem copyAll_renders (each : ∀ {address d us}, address ≠ [] →
      root.at? address = some (.node d us) → ∀ {live : Nat} (s : ω) {w : World σ},
        w.Holding busy → live < w.forest.size →
          Renders (wire address live s) (furnish address d) w fun _ r v =>
            ∃ ns, Forest.Grows w.forest v.forest live d r.1 ns r.2)
    {address : List Nat} {d : NodeData} {us : List Tree}
    (here : root.at? address = some (.node d us)) :
    ∀ {ts : List Tree} {i : Nat}, us.drop i = ts → ∀ (s : ω) {w : World σ} {parent : Nat},
      w.Holding busy → parent < w.forest.size →
        Renders (copyAll wire parent address i ts s) (Tree.renderAll furnish address i ts) w
          fun _ ts' v => ∃ ns, ∀ e, Forest.Grows w.forest v.forest parent e e ns ts'
  | [], i, rest, s, w, parent, _, _ => by
      rw [copyAll, Tree.renderAll]
      exact .pure ⟨[], .refl _ _⟩
  | t :: ts, i, rest, s, w, parent, holding, inside => by
      have first : root.at? (address ++ [i]) = some t := by
        have own : us[i]? = some t := by rw [← List.head?_drop, rest]; rfl
        rw [Tree.at?_append, here]
        simp [Tree.at?, own]
      rw [copyAll, Tree.renderAll]
      refine (copy_renders each (by simp) first s holding).bind
        fun ⟨live, s⟩ t' v sprouts later same => ?_
      let v₁ : World σ := { v with forest := v.forest.append parent live }
      refine .skip (w := v) (v := v₁) rfl rfl (Nat.le_refl _) rfl ?_
      have grows := sprouts.append inside
      have remaining : us.drop (i + 1) = ts := by rw [← List.tail_drop, rest]; rfl
      refine (copyAll_renders each here remaining s (w := v₁) (holding.later later same)
        (Nat.lt_of_lt_of_le inside (grows .document).size)).map (t' :: ·)
          fun _ ts' x ⟨ns, more⟩ => ⟨live :: ns, fun e => (grows e).trans (more e) inside⟩

end

end Wiring

/-! ## Mounting -/

namespace Blueprint

/-- Where each child has an object, it is rendered for that. -/
theorem renderings_eq (u : UserCode σ) (children : List (Spot × Blueprint))
    (objects : List ObjectId) : renderings u children objects =
      (children.zip objects).map fun (child, o) => (child.1, child.2.render u o) := by
  induction children generalizing objects with
  | nil => cases objects <;> simp [renderings]
  | cons child rest ih =>
      cases objects with
      | nil => simp [renderings]
      | cons o objects =>
          rw [renderings, ih objects]
          rfl

theorem render_eq (u : UserCode σ) (b : Blueprint) (o : ObjectId) :
    b.render u o = b.childClasses.mapM (Rendering.construct u) >>= fun objects =>
      Tree.renderAll (Rendering.furnish u o (renderings u b.children objects)) [] 0
        b.template.root.children := by
  cases b
  rw [render]
  rfl

/-- The children fit, each for its object. -/
theorem fits_of_puts (u : UserCode σ) (z : Zone) {busy : List ObjectId}
    {children : List (Spot × Blueprint)} {objects : List ObjectId}
    (puts : ∀ child ∈ children, ∀ o, o ∉ busy →
      Mounting.Puts busy (child.2.mount u z o) (child.2.render u o))
    (enough : children.length ≤ objects.length) (free : ∀ o ∈ objects, o ∉ busy) :
    List.Forall₂ (Mounting.Fits busy) (mountings u z children objects)
      (renderings u children objects) := by
  rw [mountings_eq enough, renderings_eq, List.forall₂_map_left_iff, List.forall₂_map_right_iff,
    List.forall₂_same]
  intro pair member
  exact ⟨rfl, puts _ (List.of_mem_zip member).1 _ (free _ (List.of_mem_zip member).2)⟩

/-- Mounting a blueprint that watches puts the rendered template at the end of the host. -/
theorem mount_renders (u : UserCode σ) (z : Zone) {b : Blueprint} (made : b.Made)
    (watches : b.Watches) {busy : List ObjectId} {o : ObjectId} (free : o ∉ busy)
    {w : World σ} {host : Nat} (holding : w.Holding busy) (inside : host < w.forest.size) :
    Renders (b.mount u z o host) (b.render u o) w fun i ts v =>
      i.blueprint = b ∧ i.object = o ∧
        ∃ ns, ∀ e, Forest.Grows w.forest v.forest host e e ns ts := by
  induction made generalizing o w host with
  | @intro b bindings places tagged single within ih =>
      have made : b.Made := .intro bindings places tagged single within
      have puts : ∀ child ∈ b.children, ∀ o, o ∉ busy →
          Mounting.Puts busy (child.2.mount u z o) (child.2.render u o) :=
        fun child member o free w host holding inside =>
          (ih child member (watches.child member) free holding inside).imp
            fun _ _ _ holds => holds.2.2
      rw [mount_eq, render_eq, constructChildren, made.constructedClasses]
      refine (Renders.construct_all u _ holding).bind
        fun os os' v constructed later kept => ?_
      obtain ⟨rfl, length, unused, forest⟩ := constructed
      have fits := fits_of_puts u z puts (by simp [length, childClasses]) unused
      let n := v.forest.size
      let v₁ : World σ := { v with serial := v.serial + 1 }
      let v₂ : World σ := { v₁ with forest := (v.forest.add .document).2 }
      refine .skip (w := v) (v := v₁) rfl rfl (Nat.le_succ _) rfl ?_
      refine .skip (w := v₁) (v := v₂) rfl rfl (Nat.le_refl _) rfl ?_
      have grown : n < v₂.forest.size := by
        rw [Forest.size_add]
        exact Nat.lt_succ_self _
      have holding₂ : v₂.Holding busy :=
        (holding.later later kept).later (w := v) (v := v₂) (Nat.le_succ _) rfl
      have top : b.template.root.at? [] =
          some (.node b.template.root.data b.template.root.children) := by
        cases b.template.root
        rfl
      have copied := Wiring.copyAll_renders
        (fun {_ _ _} below here {_} s {_} => wire_renders u z made watches free fits below here s)
        top (i := 0) rfl {} holding₂ grown
      rw [← bind_pure (Tree.renderAll _ _ _ _)]
      refine copied.bind fun s ts x ⟨ns, grows⟩ later' kept' => ?_
      let x₁ : World σ := { x with forest := (x.forest.moveChildren n host).2 }
      let mounted := (x.forest.moveChildren n host).1
      let x₂ : World σ :=
        { x₁ with attached := (v.serial, ⟨s.ticks, s.listeners, mounted⟩) :: x₁.attached }
      refine .skip (w := x) (v := x₁) rfl rfl (Nat.le_refl _) rfl ?_
      refine .skip (w := x₁) (v := x₂) rfl rfl (Nat.le_refl _) rfl ?_
      refine .pure ⟨rfl, rfl, ns, fun e => ?_⟩
      have moved := (grows .document).move (f := v.forest) (forest ▸ inside) e
      rw [← forest]
      exact moved.2

end Blueprint

/-- Attaching a compiled blueprint that watches ends, and makes an instance for a new object.
It puts the template, rendered for that object, at the end of the host's children, and changes
nothing else about the nodes that there were. -/
theorem Compiler.attach_renders (u : UserCode σ) {serial : Nat} {options : CompileOptions}
    {calls : List (Catalog × ClassRef)} {c : ClassRef} {b : Blueprint}
    (found : (after { serial, options } calls).find? c = some b) (watches : b.Watches)
    {w : World σ} {host : Nat} (z : Zone) (inside : host < w.forest.size)
    (made : ∀ o ∈ w.busy, o < w.serial) :
    ∃ i v ts mounted os, (b.attach u host z).run w = some (i, v) ∧
      (i.blueprint = b ∧ i.object = w.serial) ∧
      (os.Nodup ∧ ∀ o ∈ os, w.serial < o ∧ o < v.serial) ∧
      (b.render u i.object).run (u.construct b.cls i.object w.user, os) = (ts, v.user, []) ∧
      mounted.map v.forest.tree = ts ∧
      (∀ n ∈ mounted, w.forest.size ≤ n ∧ v.forest.parent? n = some host) ∧
      v.forest.children host = w.forest.children host ++ mounted ∧
      v.forest.data host = w.forest.data host ∧ v.forest.parent? host = w.forest.parent? host ∧
      ∀ n, n < w.forest.size → n ≠ host → v.forest.nodes[n]? = w.forest.nodes[n]? := by
  let w₁ : World σ :=
    { w with
      pins := z :: w.pins
      serial := w.serial + 1
      user := u.construct b.cls w.serial w.user }
  have unused : w.serial ∉ w.busy := fun busy => Nat.lt_irrefl _ (made _ busy)
  have holding : w₁.Holding w.busy := ⟨rfl, fun o busy => Nat.lt_succ_of_lt (made o busy)⟩
  obtain ⟨i, ts, v, ran, accords, same, object, ns, grows⟩ :=
    Blueprint.mount_renders u z (made_after found) watches unused holding inside
  obtain ⟨os, distinct, new, rendered⟩ := accords.objects
  obtain ⟨children, data, parent⟩ := (grows (w.forest.data host)).host inside
  refine ⟨i, { v with pins := v.pins.tail }, ts, ns, os, ?_, ⟨same, object⟩, ⟨distinct, new⟩, ?_,
    (grows .document).trees, (grows .document).listed, children, data, parent,
    (grows .document).other⟩
  · rw [Blueprint.attach, Run.run_holding]
    exact Option.map_eq_some_iff.2 ⟨(i, v), Run.bind_eq_some.2 ⟨w.serial, w₁, rfl, ran⟩, rfl⟩
  · rw [object]
    exact List.append_nil os ▸ rendered []

/-! ### Inputs in two templates -/

instance (b : Binding) : Decidable b.Watches :=
  match same : b.expression with
  | .error _ => .isTrue fun _ _ ok => nomatch same.symm.trans ok
  | .ok e =>
    decidable_of_iff (b.kind = .input → e.program.onlyReads = true)
      ⟨fun holds _ kind ok => Except.ok.inj (same.symm.trans ok) ▸ holds kind,
        fun watches kind => watches e kind same⟩

theorem Blueprint.Watches.intro {b : Blueprint} (own : ∀ binding ∈ b.bindings, binding.2.Watches)
    (inside : ∀ child ∈ b.children, child.2.Watches) : b.Watches := by
  intro d contains
  rcases contains.cases_head with rfl | ⟨c, ⟨spot, member⟩, within⟩
  · exact own
  · exact inside (spot, c) member d within

namespace Titles

/-- Each object has a name, and nothing else. -/
def named : UserCode Unit where
  get o member s :=
    (if member = "name" then some (.text (if o = 0 then "first" else "second")) else none, s)
  set _ _ _ s := (.ok (), s)
  call _ _ _ := pure (.ok .undefined)
  handler _ := pure ()
  refresh _ := pure (.ok ())
  construct _ _ s := s
  notice _ s := s
  holds _ _ := false

/-- The component inside has an input for something that no object has. -/
def catalog : Catalog :=
  [("Outer", ⟨"<p [title]=name>Hello<in></in></p>", [⟨"In", true⟩]⟩),
    ("In", ⟨"<b [lang]=other [id]=name></b>", []⟩)]

def outer : ClassRef := ⟨"Outer", true⟩

/-- The template with its inputs. -/
def shown : List Tree :=
  [.node (.element .html "p" [{ name := "[title]", value := "name" },
      { name := "title", value := "first" }])
    [.node (.text "Hello") [],
      .node (.element .html "in" [])
        [.node (.element .html "b" [{ name := "[lang]", value := "other" },
          { name := "[id]", value := "name" }, { name := "id", value := "second" }]) []]]]

theorem compiled :
    (((Compiler.after { serial := 0 } [(catalog, outer)]).find? outer).bind fun b =>
      ((b.attach named 0 Nesting.near).run Nesting.blank).map fun (_, v) =>
        (b.bindings.all fun binding => binding.2.Watches, b.children.all fun child =>
          child.2.children.isEmpty && child.2.bindings.all fun binding => binding.2.Watches,
          (v.forest.children 0).map v.forest.tree)) = some (true, true, shown) := by
  cbv

end Titles

/-- A template with an input, and a component with two inside, of which one fails. -/
theorem Compiler.attach_renders_titles : ∃ b : Blueprint,
    (after { serial := 0 } [(Titles.catalog, Titles.outer)]).find? Titles.outer = some b ∧
      b.Watches ∧ 0 < Nesting.blank.forest.size ∧
      (∀ o ∈ Nesting.blank.busy, o < Nesting.blank.serial) ∧
      ∃ i v mounted os, (b.attach Titles.named 0 Nesting.near).run Nesting.blank = some (i, v) ∧
        (b.render Titles.named i.object).run ((), os) = (Titles.shown, (), []) ∧
        mounted.map v.forest.tree = Titles.shown ∧ v.forest.children 0 = mounted := by
  obtain ⟨b, found, rest⟩ := Option.bind_eq_some_iff.1 Titles.compiled
  obtain ⟨⟨i, v⟩, ran, same⟩ := Option.map_eq_some_iff.1 rest
  obtain ⟨own, both⟩ := Prod.mk.inj same
  obtain ⟨inside, shown⟩ := Prod.mk.inj both
  have watches : b.Watches := by
    refine .intro (fun binding member => ?_) fun child member => ?_
    · exact of_decide_eq_true (List.all_eq_true.1 own binding member)
    · obtain ⟨none, all⟩ := Bool.and_eq_true_iff.1 (List.all_eq_true.1 inside child member)
      refine .intro (fun binding member => ?_) fun _ member => ?_
      · exact of_decide_eq_true (List.all_eq_true.1 all binding member)
      · rw [List.isEmpty_iff.1 none] at member
        cases member
  have size : 0 < Nesting.blank.forest.size := by decide
  obtain ⟨i', v', ts, mounted, os, ran', -, -, rendered, trees, -, children, -⟩ :=
    attach_renders Titles.named found watches Nesting.near size nofun
  obtain ⟨rfl, rfl⟩ := Prod.mk.inj (Option.some.inj (ran.symm.trans ran'))
  have children : v.forest.children 0 = mounted := children
  rw [← children] at trees
  obtain rfl : ts = Titles.shown := trees.symm.trans shown
  exact ⟨b, found, watches, size, nofun, i, v, mounted, os, ran, rendered,
    children ▸ trees, children⟩

end LiveTemplates
