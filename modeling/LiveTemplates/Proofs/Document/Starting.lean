/-
# LiveTemplates.Proofs.Document.Starting -- an application starts, or the document stays as it was

An application compiles its class first, then looks for a host, and is mounted only if it
has found one.  Compiling and looking change nothing of the document, so a start that fails
leaves it as it was.  Attaching works on copies of its own until these are moved to the end
of the host's children, which is all that the document sees of it.

* `Application.bootstrap_eq_some`: how a start can end;
* `World.Guards.attach_within`, `World.Reserves.attach_within`: what becomes of a tree if an
  instance is attached to one of its nodes;
* `World.Page`: the document is a tree, with its nodes in document order;
* `Application.bootstrap_atomic`: a start that fails leaves the document untouched
  (`World.Untouched`), and any other appends nodes to the first element with the tag of the
  class, and does nothing else to the document (`Application.Mounted`).
-/
import LiveTemplates.Application
import LiveTemplates.Proofs.Component.Tags
import LiveTemplates.Proofs.Instance.Confinement

namespace LiveTemplates

set_option autoImplicit false

variable {σ : Type}

/-! ## How a start can end -/

/-- The user's own state when all has been reported. -/
def UserCode.noticed (u : UserCode σ) (notices : List Notice) (s : σ) : σ :=
  notices.foldl (fun s n => u.notice n s) s

theorem Run.run_notices (u : UserCode σ) (notices : List Notice) (w : World σ) :
    (notices.forM (Run.notice u)).run w = some ((), { w with user := u.noticed notices w.user }) := by
  induction notices generalizing w with
  | nil => rfl
  | cons n rest ih => exact Run.bind_eq_some.2 ⟨(), _, Run.run_notice u n w, ih _⟩

/-- Compiling for an activity only adds its reports. -/
theorem Run.run_compiling {α : Type} (u : UserCode σ) (k : Compiler) (work : Compiling α)
    (w : World σ) : (Run.compiling u k work).run w = some (((k.run work).1, (k.run work).2.1),
      { w with user := u.noticed (k.run work).2.2 w.user }) := by
  unfold Run.compiling
  exact Run.bind_eq_some.2 ⟨(), _, Run.run_notices u _ w, rfl⟩

/-- The first of the elements with the tag is the place for an application, if it is the only
one, or if more are allowed. -/
theorem mountPlace_eq_ok {options : CompileOptions} {tag : String} {hosts : List NodeId}
    {host : NodeId} (found : mountPlace options tag hosts = .ok host) :
    ∃ others, hosts = host :: others ∧ (others = [] ∨ options.allowDuplicateHosts = true) := by
  unfold mountPlace at found
  split at found
  case h_1 => cases found
  case h_2 =>
    cases found
    exact ⟨[], rfl, .inl rfl⟩
  case h_3 others _ =>
    split at found
    case isTrue allowed =>
      cases found
      exact ⟨others, rfl, .inr allowed⟩
    case isFalse => cases found

namespace Application

/-- The world in which an application is mounted: it has a new zone, and all that there was to
report has been reported. -/
def prepared (u : UserCode σ) (notices : List Notice) (w : World σ) : World σ :=
  { (w.newZone (.dispatcher 0)).2 with
    serial := w.serial + 1
    user := u.noticed notices w.user }

/-- What is left to be done when the place is found. -/
def mountOn (u : UserCode σ) (z : Zone) (k : Compiler) (b : Blueprint) (host : NodeId) :
    Run σ (Except Fault Application) := do
  let root ← b.attach u host z
  modify fun w => { w with target := .zone z }
  return .ok ⟨z, k, b, root⟩

theorem mountOn_eq_some {u : UserCode σ} {z : Zone} {k : Compiler} {b : Blueprint} {host : NodeId}
    {w v : World σ} {r : Except Fault Application}
    (ran : (mountOn u z k b host).run w = some (r, v)) : ∃ root x,
      (b.attach u host z).run w = some (root, x) ∧ r = .ok ⟨z, k, b, root⟩ ∧
        v = { x with target := .zone z } := by
  obtain ⟨root, x, attached, ran⟩ := Run.bind_eq_some.1 ran
  obtain ⟨_, _, swapped, ran⟩ := Run.bind_eq_some.1 ran
  obtain ⟨-, rfl⟩ := Prod.mk.inj (Option.some.inj swapped)
  obtain ⟨rfl, rfl⟩ := Run.pure_eq_some.1 ran
  exact ⟨root, x, attached, rfl, rfl⟩

/-- A start fails before anything is mounted, or attaches an instance to the place that it has
found and puts the new zone in front of the document. -/
theorem bootstrap_eq_some {u : UserCode σ} {catalog : Catalog} {c : ClassRef}
    {options : CompileOptions} {w v : World σ} {r : Except Fault Application}
    (ran : (bootstrap u catalog c options).run w = some (r, v)) : ∃ notices,
      (∃ e, r = .error e) ∧ v = prepared u notices w ∨
      ∃ k b host root x,
        mountPlace options c.tag (w.forest.elementsByTag w.document c.tag) = .ok host ∧
        (b.attach u host (w.newZone (.dispatcher 0)).1).run (prepared u notices w) =
          some (root, x) ∧
        r = .ok ⟨(w.newZone (.dispatcher 0)).1, k, b, root⟩ ∧
        v = { x with target := .zone (w.newZone (.dispatcher 0)).1 } := by
  obtain ⟨z, w₁, made, ran⟩ := Run.bind_eq_some.1 ran
  obtain ⟨rfl, rfl⟩ := Prod.mk.inj (Option.some.inj made)
  obtain ⟨serial, w₂, counted, ran⟩ := Run.bind_eq_some.1 ran
  obtain ⟨rfl, rfl⟩ := Prod.mk.inj (Option.some.inj counted)
  obtain ⟨⟨outcome, k⟩, w₃, compiled, ran⟩ := Run.bind_eq_some.1 ran
  rw [Run.run_compiling] at compiled
  obtain ⟨-, rfl⟩ := Prod.mk.inj (Option.some.inj compiled)
  cases outcome with
  | error e =>
      obtain ⟨rfl, rfl⟩ := Run.pure_eq_some.1 ran
      exact ⟨_, .inl ⟨⟨_, rfl⟩, rfl⟩⟩
  | ok b =>
      obtain ⟨_, _, got, ran⟩ := Run.bind_eq_some.1 ran
      obtain ⟨rfl, rfl⟩ := Prod.mk.inj (Option.some.inj got)
      cases place : mountPlace options c.tag (w.forest.elementsByTag w.document c.tag) with
      | error e =>
          simp only [place] at ran
          obtain ⟨rfl, rfl⟩ := Run.pure_eq_some.1 ran
          exact ⟨_, .inl ⟨⟨_, rfl⟩, rfl⟩⟩
      | ok host =>
          simp only [place] at ran
          split at ran
          · obtain ⟨_, _, warned, ran⟩ := Run.bind_eq_some.1 ran
            obtain ⟨-, rfl⟩ := Prod.mk.inj (Option.some.inj warned)
            obtain ⟨root, x, attached, same, after⟩ := mountOn_eq_some ran
            let hosts := w.forest.elementsByTag w.document c.tag
            let notices := (Compiler.run { serial := w.serial, options := options }
              (Compiler.compile catalog c)).2.2
            refine ⟨notices ++ [.severalHosts c.tag hosts.length],
              .inr ⟨_, _, _, _, _, rfl, ?_, same, after⟩⟩
            rw [prepared, UserCode.noticed, List.foldl_append]
            exact attached
          · obtain ⟨root, x, attached, same, after⟩ := mountOn_eq_some ran
            exact ⟨_, .inr ⟨_, _, _, _, _, rfl, attached, same, after⟩⟩

end Application

/-! ## Attaching to one of some nodes -/

namespace World

/-- Some nodes are all the nodes of some trees in the forest of a world. -/
def Reserves (D : NodeId → Prop) (w : World σ) : Prop :=
  w.forest.Closed D

theorem Reserves.guards (D : NodeId → Prop) : Guards D (Reserves (σ := σ) D) where
  closed := id
  agrees closed agrees := by
    rw [Reserves, agrees.forest]
    exact closed
  forest closed leaves := (leaves closed).1
  refresh closed _ _ _ _ _ := closed
  wrapped closed _ z _ _ := by
    rw [Reserves, (addWrapped_registered z _ _).forest]
    exact closed
  enroll closed _ _ _ := closed

/-- Attaching to one of the nodes puts others at the end of its children, and changes nothing
else of these nodes, if the methods of the objects spare them.  The nodes that it puts there are
noted for the instance, next to what was noted when it all still held. -/
theorem Guards.attach_within {D : NodeId → Prop} {I : World σ → Prop} (guards : Guards D I)
    {u : UserCode σ} (aloof : ∀ o method args, Keeps (Spares D I) (u.call o method args))
    {w v : World σ} (holds : I w) {b : Blueprint} {host : NodeId} (within : D host)
    {z : Zone} {i : Instance} (ran : (b.attach u host z).run w = some (i, v)) :
    i.host = host ∧ v.document = w.document ∧ ∃ (y : World σ) (r : Registrations),
      I y ∧ v.attached = (i.serial, r) :: y.attached ∧ (∀ n ∈ r.mounted, ¬ D n) ∧
      ∀ n, D n → v.forest.nodes[n]? =
        if n = host then
          (w.forest.nodes[n]?).map fun node => { node with children := node.children ++ r.mounted }
        else w.forest.nodes[n]? := by
  obtain ⟨x, mount, rfl⟩ := Blueprint.attach_mount ran
  rw [Blueprint.mount_grow] at mount
  obtain ⟨⟨objects, serial, fragment, wired⟩, y, grown, settled⟩ := Run.bind_eq_some.1 mount
  have begun := guards.agrees holds
    (.intro w w.target w.busy (z :: w.pins) (w.serial + 1) (u.construct b.cls w.serial w.user))
  obtain ⟨still, stays, off, -⟩ := During.grow guards aloof w.serial
    (During.mountings guards aloof z b.children) begun _ _ grown
  obtain ⟨mounted, y', moved, settled⟩ := Run.bind_eq_some.1 settled
  obtain ⟨rfl, rfl⟩ := Prod.mk.inj (Option.some.inj moved)
  obtain ⟨_, _, noted, settled⟩ := Run.bind_eq_some.1 settled
  obtain ⟨-, rfl⟩ := Prod.mk.inj (Option.some.inj noted)
  obtain ⟨rfl, rfl⟩ := Run.pure_eq_some.1 settled
  have away : ∀ n ∈ y.forest.children fragment, ¬ D n := fun n below =>
    (Forest.Closed.free_children (guards.closed still) off.away n below).away
  refine ⟨rfl, stays.document, y, ⟨_, _, y.forest.children fragment⟩, still, rfl, away,
    fun n here => ?_⟩
  have other : n ≠ fragment := fun same => off.away (same ▸ here)
  refine (Forest.appendAll_within within away _ here).trans ?_
  rw [Forest.clear, Forest.getElem?_modify, if_neg other, stays.same n here]

theorem Reserves.attach_within {D : NodeId → Prop} {u : UserCode σ}
    (aloof : ∀ o method args, Keeps (Spares D (Reserves D)) (u.call o method args))
    {w v : World σ} (closed : w.Reserves D) {b : Blueprint} {host : NodeId} (within : D host)
    {z : Zone} {i : Instance} (ran : (b.attach u host z).run w = some (i, v)) :
    i.host = host ∧ v.document = w.document ∧ ∃ mounted : List NodeId,
      (∀ n ∈ mounted, ¬ D n) ∧ ∀ n, D n → v.forest.nodes[n]? =
        if n = host then
          (w.forest.nodes[n]?).map fun node => { node with children := node.children ++ mounted }
        else w.forest.nodes[n]? :=
  have ⟨place, document, _, r, _, _, away, same⟩ :=
    (Reserves.guards D).attach_within aloof closed within ran
  ⟨place, document, r.mounted, away, same⟩

end World

/-! ## Starting, or leaving the document alone -/

/-- The document is a tree, and these are the nodes below it, in document order. -/
structure World.Page (order : List NodeId) (w : World σ) : Prop where
  ordered : w.forest.Orders w.document (w.document :: order)
  distinct : (w.document :: order).Nodup
  closed : w.Reserves (· ∈ w.document :: order)

/-- Nothing has changed of the document, of the listeners of its dispatcher or any other, and of
the target with which listeners of the document are registered. -/
structure World.Untouched (w v : World σ) : Prop where
  document : v.document = w.document
  forest : v.forest = w.forest
  dispatchers : v.dispatchers = w.dispatchers
  target : v.target = w.target

/-- An application is mounted on the first element with the tag of its class, which is the only
one unless more are allowed.  Its zone is the target of the document.  Nodes that were none of
the document's are at the end of the host's children, and nothing else has changed of the
document's nodes. -/
structure Application.Mounted (c : ClassRef) (options : CompileOptions) (order : List NodeId)
    (w : World σ) (a : Application) (v : World σ) : Prop where
  document : v.document = w.document
  target : v.target = .zone a.zone
  host : ∃ others, (order.filter fun n => (w.forest.data n).tag? = some c.tag) =
    a.root.host :: others ∧ (others = [] ∨ options.allowDuplicateHosts = true)
  appended : ∃ mounted, (∀ n ∈ mounted, n ∉ w.document :: order) ∧
    ∀ n ∈ w.document :: order, v.forest.nodes[n]? =
      if n = a.root.host then
        (w.forest.nodes[n]?).map fun node => { node with children := node.children ++ mounted }
      else w.forest.nodes[n]?

/-- A start that fails, while compiling or while looking for a host, leaves the document as it
was.  Any other mounts the application in one place, if the methods of the objects do not touch
the document themselves. -/
theorem Application.bootstrap_atomic {u : UserCode σ} {catalog : Catalog} {c : ClassRef}
    {options : CompileOptions} {order : List NodeId} {w v : World σ}
    {r : Except Fault Application} (page : w.Page order)
    (aloof : ∀ o method args, Keeps (World.Spares (· ∈ w.document :: order)
      (World.Reserves (· ∈ w.document :: order))) (u.call o method args))
    (ran : (bootstrap u catalog c options).run w = some (r, v)) :
    (∀ e, r = .error e → w.Untouched v) ∧ ∀ a, r = .ok a → a.Mounted c options order w v := by
  obtain ⟨notices, ⟨⟨e, rfl⟩, rfl⟩ | ⟨k, b, host, root, x, place, attached, rfl, rfl⟩⟩ :=
    bootstrap_eq_some ran
  · exact ⟨fun _ _ => ⟨rfl, rfl, rfl, rfl⟩, nofun⟩
  · refine ⟨nofun, fun a same => ?_⟩
    cases same
    have below : ∀ n ∈ order, n < w.forest.size := fun n member =>
      page.closed.inside n (List.mem_cons_of_mem _ member)
    obtain ⟨others, found, alone⟩ := mountPlace_eq_ok place
    rw [page.ordered.elementsByTag (List.nodup_cons.1 page.distinct).2 below,
      c.uppercase_tag] at found
    have member : host ∈ order := List.mem_of_mem_filter (found ▸ List.mem_cons_self)
    obtain ⟨rfl, document, appended⟩ :=
      World.Reserves.attach_within (w := prepared u notices w) aloof page.closed
        (List.mem_cons_of_mem _ member) attached
    exact ⟨document, rfl, ⟨others, found, alone⟩, appended⟩

/-! ### A document with two places -/

namespace Twins

/-- A user without a state, whose code does nothing. -/
def user : UserCode Unit where
  get _ _ s := (none, s)
  set _ _ _ s := (.ok (), s)
  call _ _ _ := return .ok .undefined
  handler _ := return
  refresh _ := return .ok ()
  construct _ _ s := s
  notice _ s := s
  holds _ _ := false

/-- A document with two elements for an application.  The first of them has a text in it. -/
def start : World Unit where
  forest := ⟨#[{ data := .document, children := [1, 2] },
    { data := .element .html "app" [], parent := some 0, children := [3] },
    { data := .element .html "app" [], parent := some 0 },
    { data := .text "x", parent := some 1 }]⟩
  document := 0
  user := ()

def cls : ClassRef :=
  ⟨"App", true⟩

def launch (options : CompileOptions) : Run Unit (Except Fault Application) :=
  Application.bootstrap user [("App", ⟨"<b></b>", []⟩)] cls options

/-- The host, if the application has started. -/
def host? (r : Option (Except Fault Application × World Unit)) : Option (Option NodeId) :=
  r.map fun (r, _) => r.toOption.map (·.root.host)

theorem hosts : host? ((launch {}).run start) = some (some 1) ∧
    host? ((launch { allowDuplicateHosts := false }).run start) = some none := by
  cbv

theorem page : start.Page [1, 3, 2] where
  ordered := by
    have text : Forest.Orders start.forest 3 [3] := .node .nil
    have first : Forest.Orders start.forest 1 [1, 3] := .node (.cons text .nil)
    have second : Forest.Orders start.forest 2 [2] := .node .nil
    exact .node (.cons first (.cons second .nil))
  distinct := by decide
  closed := by
    refine ⟨by decide, fun k => ?_⟩
    match k with
    | 0 | 1 | 2 | 3 => decide
    | k + 4 => exact nofun

theorem aloof (o : ObjectId) (method : String) (args : List Value) :
    Keeps (World.Spares (· ∈ start.document :: [1, 3, 2])
      (World.Reserves (· ∈ start.document :: [1, 3, 2]))) (user.call o method args) :=
  .total (fun _ => rfl) fun _ closed => ⟨closed, rfl, Nat.le_refl _, fun _ _ => rfl⟩

end Twins

open Twins in
/-- Of two elements with the tag the first becomes the host, or none if this is not allowed. -/
theorem Application.bootstrap_atomic_twins :
    start.Page [1, 3, 2] ∧
    (∀ o method args, Keeps (World.Spares (· ∈ start.document :: [1, 3, 2])
      (World.Reserves (· ∈ start.document :: [1, 3, 2]))) (user.call o method args)) ∧
    (∃ a v, (launch {}).run start = some (.ok a, v) ∧ a.root.host = 1 ∧
      a.Mounted cls {} [1, 3, 2] start v) ∧
    ∃ e v, (launch { allowDuplicateHosts := false }).run start = some (.error e, v) ∧
      start.Untouched v := by
  obtain ⟨⟨⟨r, v⟩, ran, found⟩, ⟨⟨r', v'⟩, ran', none⟩⟩ :=
    And.intro (Option.map_eq_some_iff.1 hosts.1) (Option.map_eq_some_iff.1 hosts.2)
  refine ⟨page, aloof, ?_, ?_⟩
  · cases r with
    | error e => cases found
    | ok a =>
        have host : a.root.host = 1 := Option.some.inj found
        exact ⟨a, v, ran, host, (bootstrap_atomic page aloof ran).2 a rfl⟩
  · cases r' with
    | error e => exact ⟨e, v', ran', (bootstrap_atomic page aloof ran').1 e rfl⟩
    | ok a => cases none

end LiveTemplates
