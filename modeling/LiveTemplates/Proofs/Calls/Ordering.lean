/-
# LiveTemplates.Proofs.Calls.Ordering -- attaching goes by the order of the template

The bindings and components of a template are found from the top down, and are fitted from the
bottom up: where the copy of a node is complete with all that is below it, first its bindings and
then the component that takes its place, with all that is inside of that one.

* `Instance.fittings_perm`: in this order each instance and each binding is met exactly once, the
  binding on the clone of its own node;
* `ZoneState.Trims.in_row`: of refreshes that were registered in a row, those that are left are in
  this order;
* `Compiler.attach_in_order`: attaching fits in this order, the zone has got the inputs in this
  order behind what it had, they were shown in this order, and each later tick refreshes them in
  this order.
-/
import LiveTemplates.Proofs.Blueprint.Registry
import LiveTemplates.Proofs.Calls.Installing
import LiveTemplates.Proofs.Instance.Halting

namespace LiveTemplates

set_option autoImplicit false

variable {σ : Type}

/-! ## Each once -/

namespace Instance

section

variable {clone : Instance → List Nat → Option NodeId} {i : Instance} {first low : Nat}
  {w : World σ}

/-- An instance, and its own bindings on the clones of their nodes. -/
def own (clone : Instance → List Nat → Option NodeId) (i : Instance) : List Fitting :=
  .mount i :: i.blueprint.bindings.flatMap fun p =>
    (clone i p.1.address).elim [] fun live => p.2.fitting live i.object

/-- The bindings on all nodes of the template are those of the blueprint. -/
theorem bindings_perm (made : i.blueprint.Made) : List.Perm
    (i.blueprint.template.root.completedBelow.flatMap fun address =>
      (clone i address).elim [] fun live =>
        (i.blueprint.template.root.bindingsAt address).flatMap (·.fitting live i.object))
    (i.blueprint.bindings.flatMap fun p =>
      (clone i p.1.address).elim [] fun live => p.2.fitting live i.object) := by
  let t := i.blueprint.template.root
  refine .trans (.of_eq ?_) (made.inOrder_bindings_perm.flatMap_right _)
  rw [Address.inOrder, List.flatMap_assoc]
  refine List.flatMap_congr fun address member => ?_
  have below : address ≠ [] := ((t.mem_completedBelow address).1 member).1
  have here : (i.blueprint.bindings.filter (·.1.address = address)).flatMap (fun p =>
        (clone i p.1.address).elim [] fun live => p.2.fitting live i.object) =
      (i.blueprint.bindings.filter (·.1.address = address)).flatMap fun p =>
        (clone i address).elim [] fun live => p.2.fitting live i.object :=
    List.flatMap_congr fun p found => by rw [of_decide_eq_true (List.mem_filter.1 found).2]
  rw [here, ← made.bindingsAt_eq below]
  cases clone i address with
  | none => simp
  | some live => exact List.flatMap_map _ _ _

/-- The instances on all nodes of the template are the instances inside. -/
theorem Stands.children_perm (stands : i.Stands first low w) : List.Perm
    (i.blueprint.template.root.completedBelow.flatMap fun address =>
      (w.clone? i address).elim [] fun live => i.children.filter (·.host = live)) i.children := by
  let t := i.blueprint.template.root
  have seats : (t.completedBelow.flatMap fun address =>
      (w.clone? i address).elim [] fun live => i.children.filter (·.host = live)) =
      (t.completedBelow.filterMap (w.clone? i)).flatMap fun live =>
        i.children.filter (·.host = live) := by
    induction t.completedBelow with
    | nil => rfl
    | cons address rest ih =>
        rw [List.flatMap_cons, ih, List.filterMap_cons]
        cases w.clone? i address <;> rfl
  have distinct : (t.completedBelow.filterMap (w.clone? i)).Nodup := by
    have once := stands.distinct.filterMap (f := id) fun a b n here there => by
      rw [Option.mem_def] at here there
      exact here.trans there.symm
    rwa [List.filterMap_map] at once
  rw [seats]
  refine perm_of_keys distinct fun child member => ?_
  obtain ⟨p, inside, -, clone⟩ := exists_left_of_forall₂ stands.children member
  have known := stands.made.inOrder_children_perm.subset inside
  exact List.mem_filterMap.2 ⟨_, stands.made.children_completed known, clone⟩

mutual

/-- What is fitted in an instance is each instance inside of it with its own bindings, each
once. -/
theorem fittings_perm : ∀ i : Instance, (∀ j ∈ i.all, j.Stands first low w) →
    (i.fittings w.clone?).Perm (i.all.flatMap (·.own w.clone?))
  | mk serial b o os host z children, stands => by
      let i := mk serial b o os host z children
      have here : i.Stands first low w := stands i i.mem_all_self
      have inside := allOf_fittings_perm children fun j member => stands j (by
        rw [all]
        exact List.mem_cons_of_mem _ member)
      have parted : List.Perm (b.template.root.completedBelow.flatMap fun address =>
          (w.clone? i address).elim [] fun live =>
            (b.template.root.bindingsAt address).flatMap (·.fitting live o) ++
              (children.filter (·.host = live)).flatMap (·.fittings w.clone?))
          ((i.blueprint.template.root.completedBelow.flatMap fun address =>
            (w.clone? i address).elim [] fun live =>
              (b.template.root.bindingsAt address).flatMap (·.fitting live o)) ++
            (i.blueprint.template.root.completedBelow.flatMap fun address =>
              (w.clone? i address).elim [] fun live =>
                children.filter (·.host = live)).flatMap (·.fittings w.clone?)) := by
        rw [List.flatMap_assoc]
        refine .trans (.of_eq ?_) (List.flatMap_append_perm _ _ _).symm
        refine List.flatMap_congr fun address _ => ?_
        cases w.clone? i address <;> rfl
      rw [fittings_eq, all, List.flatMap_cons]
      refine (parted.trans (.append (bindings_perm here.made) ?_)).cons _
      exact (here.children_perm.flatMap_right _).trans inside

theorem allOf_fittings_perm : ∀ is : List Instance, (∀ j ∈ allOf is, j.Stands first low w) →
    (is.flatMap (·.fittings w.clone?)).Perm ((allOf is).flatMap (·.own w.clone?))
  | [], _ => .nil
  | i :: rest, stands => by
      rw [allOf] at stands
      rw [allOf, List.flatMap_cons, List.flatMap_append]
      exact .append (fittings_perm i fun j inside => stands j (List.mem_append_left _ inside))
        (allOf_fittings_perm rest fun j inside => stands j (List.mem_append_right _ inside))

end

end

end Instance

/-! ## In a row -/

namespace Refresh

variable (first : Nat) (rs : List Refresh)

theorem length_inRow : (inRow first rs).length = rs.length := by
  simp [inRow]

theorem numbers_inRow : (inRow first rs).map (·.1) = List.range' first rs.length := by
  rw [inRow, List.map_map]
  exact List.zipIdx_map_snd first rs

theorem mem_inRow {e : Nat × Refresh} (member : e ∈ inRow first rs) :
    first ≤ e.1 ∧ e.1 < first + rs.length := by
  have number := List.mem_map_of_mem (f := (·.1)) member
  rwa [numbers_inRow, List.mem_range'_1] at number

end Refresh

/-- Members of a list that are left are those whose keys are left. -/
theorem filter_keys_of_sublist {α κ : Type} [DecidableEq κ] {key : α → κ} {left xs : List α}
    (fewer : left.Sublist xs) (distinct : (xs.map key).Nodup) :
    xs.filter (key · ∈ left.map key) = left := by
  induction fewer with
  | slnil => rfl
  | @cons left xs x fewer ih =>
      rw [List.map_cons, List.nodup_cons] at distinct
      rw [List.filter_cons_of_neg, ih distinct.2]
      have gone : key x ∉ left.map key := fun member =>
        distinct.1 ((fewer.map key).subset member)
      rwa [decide_eq_true_eq]
  | @cons_cons left xs x fewer ih =>
      rw [List.map_cons, List.nodup_cons] at distinct
      rw [List.filter_cons_of_pos (by simp)]
      congr 1
      refine .trans (List.filter_congr fun y member => ?_) (ih distinct.2)
      have other : key y ≠ key x := fun same => distinct.1 (same ▸ List.mem_map_of_mem member)
      simp [other]

/-- Of refreshes that were registered in a row, behind others that are older, those that are left
are in this order. -/
theorem ZoneState.Trims.in_row {s t : ZoneState} (trims : s.Trims t)
    {old : List (Nat × Refresh)} {first : Nat} {rs : List Refresh}
    (registered : s.refreshes = old ++ Refresh.inRow first rs) (next : s.nextTick = first + rs.length)
    (older : ∀ e ∈ old, e.1 < first) :
    t.refreshes.filter (fun e => first ≤ e.1 ∧ e.1 < s.nextTick) =
      (Refresh.inRow first rs).filter (·.1 ∈ t.refreshes.map (·.1)) := by
  obtain ⟨-, kept, new, same, fewer, numbers⟩ := trims
  rw [registered] at fewer
  obtain ⟨before, left, rfl, less, few⟩ := List.sublist_append_iff.1 fewer
  have between : ∀ e ∈ Refresh.inRow first rs, first ≤ e.1 ∧ e.1 < s.nextTick :=
    fun e member => next ▸ Refresh.mem_inRow first rs member
  have distinct : ((Refresh.inRow first rs).map (·.1)).Nodup := by
    rw [Refresh.numbers_inRow]
    exact List.nodup_range'
  let ours (e : Nat × Refresh) : Bool := first ≤ e.1 ∧ e.1 < s.nextTick
  have others : before.filter ours = [] := by
    refine List.filter_eq_nil_iff.2 fun e member => ?_
    have := older e (less.subset member)
    simp only [ours, decide_eq_true_eq]
    omega
  have late : new.filter ours = [] := by
    refine List.filter_eq_nil_iff.2 fun e member => ?_
    have := (numbers e member).1
    simp only [ours, decide_eq_true_eq]
    omega
  have remain : t.refreshes.filter ours = left := by
    rw [same, List.filter_append, List.filter_append, others, late, List.nil_append,
      List.append_nil]
    exact List.filter_eq_self.2 fun e member => decide_eq_true (between e (few.subset member))
  refine remain.trans ((filter_keys_of_sublist few distinct).symm.trans ?_)
  refine List.filter_congr fun e member => ?_
  obtain ⟨more, under⟩ := between e member
  have notBefore : e.1 ∉ before.map (·.1) := by
    intro there
    obtain ⟨e', inside, same⟩ := List.mem_map.1 there
    have := older e' (less.subset inside)
    omega
  have notNew : e.1 ∉ new.map (·.1) := by
    intro there
    obtain ⟨e', inside, same⟩ := List.mem_map.1 there
    have := (numbers e' inside).1
    omega
  rw [decide_eq_decide, same, List.map_append, List.map_append, List.mem_append, List.mem_append]
  simp only [notBefore, notNew, false_or, or_false]

/-! ## Attaching -/

/-- The zone of an instance is held while it is fitted, and its object was made before. -/
theorem Instance.Fitted.held {i : Instance} {z : Zone} {b : Blueprint} {host : NodeId}
    {w v : World σ} {es : List (Episode σ)} {pins : List Zone} {n : Nat} {s : σ}
    (fitted : i.Fitted z b host { w with pins := pins, serial := w.serial + n, user := s } es v)
    (rest : List Zone) : i.Fitted z b host w es { v with pins := rest } where
  blueprint_eq := fitted.blueprint_eq
  host_eq := fitted.host_eq
  lays :=
    have before : Lays z w [] { w with pins := pins, serial := w.serial + n, user := s } :=
      .of_zones rfl rfl
    have behind : Lays z v [] { v with pins := rest } := .of_zones rfl rfl
    List.append_nil es ▸ Lays.chains z (Lays.chains z before fitted.lays) behind
  lasts :=
    have before : w.Lasts 0 0 { w with pins := pins, serial := w.serial + n, user := s } :=
      .of_attached (Nat.le_add_right _ n) rfl (.refl 0 _)
    have behind : v.Lasts 0 0 { v with pins := rest } :=
      .of_attached (Nat.le_refl _) rfl (.refl 0 _)
    (before.trans fitted.lasts).trans behind
  grows := fitted.grows
  stands j inside :=
    have lasting : v.Lasts w.serial w.forest.size { v with pins := rest } :=
      .of_attached (Nat.le_refl _) rfl (.refl _ _)
    ((fitted.stands j inside).lower (Nat.le_add_right _ n) (Nat.le_refl _)).lasts lasting
  fittings := fitted.fittings

/-- Attaching fits an instance, if the methods that its inputs call stay out of the framework. -/
theorem Tells.attaches {c : Code σ} {b : Blueprint} (made : b.Made)
    (allows : b.Allows (Refresh.Inward c)) (depth : Nat) (host : NodeId) (z : Zone) :
    Tells (fun i w es v => host < w.forest.size → i.Fitted z b host w es v)
      (b.attach (c.user depth) host z) (Told.attach (c.user depth) (c.teller depth) b host z) := by
  have constructs : Tells (fun _ w es v => es = [] ∧
      ∃ s, v = { w with serial := w.serial + 1, user := s })
      (Run.construct (c.user depth) b.cls) (Told.plain (Run.construct (c.user depth) b.cls)) :=
    (step (f := fun w => (w.serial, { w with serial := w.serial + 1, user := _ }))
      fun _ => rfl).imp fun _ w _ _ ⟨_, nothing, same⟩ => ⟨nothing, _, same⟩
  refine holding z (bind constructs (fun o => mounts made allows o host)
    (S := fun (i : Instance) w es v => host < w.forest.size →
      ∃ s, i.Fitted z b host { w with serial := w.serial + 1, user := s } es v) ?_) ?_
  · rintro o i w _ _ es v ⟨rfl, s, rfl⟩ fitted hosted
    exact ⟨s, fitted hosted⟩
  · rintro i w es v fitted hosted
    obtain ⟨s, fitted⟩ := fitted hosted
    exact Instance.Fitted.held (w := w) (n := 1) fitted v.pins.tail

/-- Attaching a compiled blueprint, if the methods that its inputs call stay out of the framework,
comes to an end as these do.  If it does, then

* it has told of each instance and of each binding that has compiled, of each binding on the clone
  of its own node, in this order: from node to node of the template, as these are completed; on
  one node the bindings in the order of the attributes, and then the instance on it, with all that
  is fitted inside of it;
* in this order each instance and each binding is met exactly once;
* each instance inside has new clones of all nodes of its template, and its children, which are
  those of its blueprint, are in the order in which their nodes are completed;
* the inputs among these bindings are registered with the zone behind all that it had, in this
  order and under the next numbers in a row, and nothing else is;
* each was shown once, in this order;
* whatever the user's code does later: a tick of the zone refreshes those that are left of these
  inputs in this order. -/
theorem Compiler.attach_in_order (c : Code σ) (depth : Nat) {serial : Nat}
    {options : CompileOptions} {calls : List (Catalog × ClassRef)} {cls : ClassRef} {b : Blueprint}
    (found : (after { serial, options } calls).find? cls = some b)
    (inward : b.Allows (Refresh.Inward c)) {w : World σ} {host : NodeId} {z : Zone}
    (hosted : host < w.forest.size) (known : z.id < w.zones.size) (given : (w.zone z).Given) :
    (b.Allows (Refresh.Safe (c.user depth)) → (b.attach (c.user depth) host z).Halts) ∧
    ∀ i v, (b.attach (c.user depth) host z).run w = some (i, v) → ∃ es row,
      ((Told.attach (c.user depth) (c.teller depth) b host z).run []).run w = some ((i, es), v) ∧
      (i.blueprint = b ∧ i.host = host) ∧
      Episode.fittings es = i.fittings v.clone? ∧
      (i.fittings v.clone?).Perm (i.all.flatMap (·.own v.clone?)) ∧
      (∀ j ∈ i.all, j.Stands w.serial w.forest.size v ∧
        (Address.inOrder j.blueprint.template.root.completedBelow (·.1.address)
          j.blueprint.children).Perm j.blueprint.children) ∧
      row = Refresh.inRow (w.zone z).nextTick ((i.fittings v.clone?).filterMap Fitting.input?) ∧
      (v.zone z).refreshes = (w.zone z).refreshes ++ row ∧
      (v.zone z).nextTick = (w.zone z).nextTick + row.length ∧
      (∀ y : Zone, y.id ≠ z.id → (v.zone y).refreshes = (w.zone y).refreshes) ∧
      Episode.refreshes es = row.map (z.id, ·) ∧
      ∀ (later : Nat) {α : Type} (r : Routine σ α) (a : α) (x : World σ),
        (r.run (c.user later)).run v = some (a, x) → ∃ fs,
          ((r.tell (c.user later) (c.teller later)).run []).run v = some ((a, fs), x) ∧
          ∀ e ∈ Episode.allOf fs, ∀ y behind report, e.what = .tick y behind report → y.id = z.id →
            e.inside.map Episode.refresh? =
              (e.before.zone z).refreshes.map (fun entry => some (z.id, entry)) ∧
            (e.before.zone z).refreshes.filter (fun entry =>
                (w.zone z).nextTick ≤ entry.1 ∧ entry.1 < (v.zone z).nextTick) =
              row.filter (·.1 ∈ (e.before.zone z).refreshes.map (·.1)) := by
  have made := made_after found
  refine ⟨(Run.Halts.composes (c.user depth) z).attach b host, fun i v ran => ?_⟩
  obtain ⟨es, told, fitted⟩ := (Tells.attaches made inward depth host z).told ran
  have fitted := fitted hosted
  have inputs : Episode.inputs es = (i.fittings v.clone?).filterMap Fitting.input? := by
    rw [Episode.inputs, fitted.fittings]
  have registered := fitted.lays.registered known
  have next := fitted.lays.next known
  have shown := fitted.lays.shown known
  rw [inputs] at registered next shown
  refine ⟨es, _, told, ⟨fitted.blueprint_eq, fitted.host_eq⟩, fitted.fittings,
    i.fittings_perm fitted.stands, fun j inside => ⟨fitted.stands j inside, ?_⟩, rfl, registered,
    ?_, fun y other => (fitted.lays.others y other).1, shown, fun later α r a x ran => ?_⟩
  · exact (fitted.stands j inside).made.inOrder_children_perm
  · rw [next, Refresh.length_inRow]
  · obtain ⟨fs, told, accounts⟩ := ((c.reports later).routine r).told ran
    refine ⟨fs, told, fun e member y behind report what same => ⟨?_, ?_⟩⟩
    · have consists := (accounts.lawful e member).consists
      rw [what] at consists
      obtain ⟨_, passes, -⟩ := consists
      have zone : e.before.zone y = e.before.zone z := by rw [World.zone, World.zone, same]
      rw [passes.entries_eq, zone, same]
    · have there : z.id < v.zones.size := fitted.lays.zones.symm ▸ known
      exact (accounts.began e member z there).in_row registered next given

/-! ### A component between inputs -/

namespace Recording

/-- A component is used on a node below an input, beside another one. -/
def catalog : Catalog :=
  [("Outer", ⟨"<p [title]=outer><in [title]=host></in><b [title]=inner()></b></p>", [⟨"In", true⟩]⟩),
    ("In", ⟨"<b [title]=leaf></b>", []⟩)]

def outer : ClassRef := ⟨"Outer", true⟩

/-- Each method counts how often methods were called. -/
def code : Code Nat where
  get _ member s := (some (.text member), s)
  set _ _ _ s := (.ok (), s)
  construct _ _ s := s
  notice _ s := s
  holds _ _ := true
  call _ method _ := .own fun s => (.ok (.text method), s + 1)
  handler _ := .pure ()
  refresh _ := .pure (.ok ())

def zone : Zone :=
  .mk 0 (.dispatcher 0)

/-- The zone has a refresh of the user's own. -/
def start : World Nat where
  forest := ⟨#[{ data := .element .html "div" [] }]⟩
  document := 0
  zones := #[{ refreshes := [(0, .named "own")], nextTick := 1 }]
  user := 0

/-- The source of a binding that is fitted. -/
def source? : Fitting → Option String
  | .mount _ => none
  | .binding b _ _ => some b.source

theorem compiled :
    (((Compiler.after { serial := 0 } [(catalog, outer)]).find? outer).bind fun b =>
      ((b.attach (code.user 1) 0 zone).run start).map fun (i, v) =>
        (b.bindings.map (·.2.source), (i.fittings v.clone?).filterMap source?,
          (v.zone zone).refreshes.map (·.1))) =
      some (["outer", "host", "inner()"], ["host", "leaf", "inner()", "outer"], [0, 1, 2, 3, 4]) := by
  cbv

end Recording

/-- The bindings are found from the top down, and fitted from the bottom up. -/
theorem Compiler.attach_in_order_recording : ∃ b : Blueprint,
    (after { serial := 0 } [(Recording.catalog, Recording.outer)]).find? Recording.outer = some b ∧
      b.Allows (Refresh.Inward Recording.code) ∧ 0 < Recording.start.forest.size ∧
      Recording.zone.id < Recording.start.zones.size ∧
      (Recording.start.zone Recording.zone).Given ∧
      b.bindings.map (·.2.source) = ["outer", "host", "inner()"] ∧
      ∃ i v es, ((Told.attach (Recording.code.user 1) (Recording.code.teller 1) b 0
          Recording.zone).run []).run Recording.start = some ((i, es), v) ∧
        (Episode.fittings es).filterMap Recording.source? = ["host", "leaf", "inner()", "outer"] ∧
        (Episode.refreshes es).map (·.2.1) = [1, 2, 3, 4] := by
  obtain ⟨b, found, rest⟩ := Option.bind_eq_some_iff.1 Recording.compiled
  obtain ⟨⟨i, v⟩, ran, same⟩ := Option.map_eq_some_iff.1 rest
  simp only [Prod.mk.injEq] at same
  obtain ⟨declared, fitted, numbers⟩ := same
  have inward : b.Allows (Refresh.Inward Recording.code) :=
    fun _ _ _ _ _ _ _ _ _ _ _ _ _ _ _ _ _ => trivial
  have given : (Recording.start.zone Recording.zone).Given := by
    intro e member
    obtain rfl := List.mem_singleton.1 member
    exact Nat.zero_lt_one
  have hosted : 0 < Recording.start.forest.size := by decide
  have known : Recording.zone.id < Recording.start.zones.size := by decide
  obtain ⟨-, all⟩ := attach_in_order Recording.code 1 found inward hosted known given
  obtain ⟨es, row, ran, -, told, -, -, -, registered, -, -, shown, -⟩ := all i v ran
  refine ⟨b, found, inward, hosted, known, given, declared, i, v, es, ran, told ▸ fitted, ?_⟩
  rw [registered, List.map_append] at numbers
  rw [shown, List.map_map]
  exact (List.cons.inj numbers).2

end LiveTemplates
