/-
# LiveTemplates.Proofs.Detaching.Dealings -- all that can be done from outside

Whoever uses the library has what was given out: targets, numbers of refreshes, own handlers and
those of outputs that were attached by themselves, and instances.  With these everything can be done
at any time: registering and taking back, attaching, starting applications and detaching, and
changing nodes in whatever way.  A ledger notes what was given out.

* `Deal`: a single change; `Obtains`: something is attached or started;
* `Dealings`: activities that consist of these, with evaluations, ticks and dispatches in between;
* `Dealings.grants`: whatever they do, accounts stay sound;
* `Dealings.tends`: and nodes are there that are children of others.
-/
import LiveTemplates.Proofs.Detaching.Ledgers
import LiveTemplates.Proofs.Document.Starting
import LiveTemplates.Proofs.World.Editing
import LiveTemplates.Proofs.World.Shedding

namespace LiveTemplates

set_option autoImplicit false

variable {σ : Type}

/-! ## Nodes -/

namespace World

/-- Only nodes are listed as children that there are. -/
def Grounded (w : World σ) : Prop :=
  w.Reserves fun _ => False

/-- It goes on to be so, and no node is gone. -/
def Tends (w v : World σ) : Prop :=
  w.Spares (fun _ => False) Grounded v

theorem guards_grounded : Guards (fun _ => False) (Grounded (σ := σ)) :=
  Reserves.guards _

theorem Tends.of_forest {w v : World σ} (forest : v.forest = w.forest)
    (document : v.document = w.document) : w.Tends v := by
  refine fun grounded => ⟨?_, document, Nat.le_of_eq (congrArg _ forest.symm), nofun⟩
  rw [Grounded, Reserves, forest]
  exact grounded

theorem Tends.trans {w v x : World σ} (first : w.Tends v) (second : v.Tends x) : w.Tends x :=
  Spares.trans first second

theorem Sheds.tends {w v : World σ} (sheds : w.Sheds v) : w.Tends v :=
  .of_forest sheds.forest sheds.document

end World

open World in
mutual

theorem Instance.detach_tends : ∀ (i : Instance) (w : World σ), w.Tends (i.detach w)
  | .mk serial _ _ _ host z children, w => by
      rw [Instance.detach]
      cases w.registrations? serial with
      | none => exact .of_forest rfl rfl
      | some r =>
          have mounted (ns : List NodeId) (w : World σ) : w.Tends
              (ns.foldl (fun w n => { w with forest := (w.forest.remove host n).2 }) w) :=
            List.foldlRecOn (motive := fun v => w.Tends v) ns _ (.of_forest rfl rfl)
              fun v before n _ => before.trans
                (guards_grounded.leaves (.remove not_false v.forest host))
          have forgotten := (Sheds.forget w serial).tends.trans (detachAll_tends children _)
          exact forgotten.trans ((Sheds.registered _ z r).tends.trans (mounted r.mounted _))

theorem Instance.detachAll_tends : ∀ (is : List Instance) (w : World σ),
    w.Tends (Instance.detachAll is w)
  | [], _ => .of_forest rfl rfl
  | i :: rest, w => (Instance.detach_tends i w).trans (Instance.detachAll_tends rest _)

end

/-! ## Dealing -/

/-- A target that an activity can refer to: the document's, a dispatcher, or a zone that is noted. -/
def Ledger.Offers (l : Ledger) (w : World σ) (t : Target) : Prop :=
  t = w.target ∨ w.Knows l.zones t

/-- A handler that an activity can register: one of its own, or the handler of an output that it has
attached by itself. -/
def Ledger.Lends (l : Ledger) : Handler → Prop
  | .named _ => True
  | .bound n _ _ _ => n ∈ l.numbers
  | .wrapped _ _ _ => False

/-- A change by an activity, which notes what it was given. -/
inductive Deal (ledger : σ → Ledger) (w : World σ) : World σ → Prop
  /-- At most nodes, the user's own state, what is held or busy, and what is counted are different. -/
  | beside {v : World σ} (beside : w.Beside v) (tends : w.Tends v)
      (same : ledger v.user = ledger w.user) : Deal ledger w v
  /-- Listeners of the document are registered with another target from now on. -/
  | aim {t : Target} (offered : (ledger w.user).Offers w t) : Deal ledger w { w with target := t }
  | newDispatcher : Deal ledger w w.newDispatcher.2
  | newZone {behind : Target} (offered : (ledger w.user).Offers w behind) {s : σ}
      (noted : ledger s = (ledger w.user).zone (w.newZone behind).1) :
      Deal ledger w { (w.newZone behind).2 with user := s }
  | onTick {z : Zone} (inside : z ∈ (ledger w.user).zones) {r : Refresh} {s : σ}
      (noted : ledger s = (ledger w.user).note { ticks := [(z.id, (w.addRefresh z r).1)] }) :
      Deal ledger w { (w.addRefresh z r).2 with user := s }
  | removeTick (z : Zone) (tick : Nat) : Deal ledger w (w.removeRefresh z tick).2
  | listen {t : Target} (offered : (ledger w.user).Offers w t) {l : Listener}
      (lent : (ledger w.user).Lends l.handler) : Deal ledger w (w.addListener t l)
  | unlisten {t : Target} (offered : (ledger w.user).Offers w t) {l : Listener}
      (lent : (ledger w.user).Lends l.handler) : Deal ledger w (World.removeListener t l w).2
  | detach {i : Instance} (known : i ∈ (ledger w.user).known) : Deal ledger w (i.detach w)

/-- What is noted when an application was started, or could not be. -/
def Ledger.noteStart (l : Ledger) : Except Fault Application → Ledger
  | .ok a => (l.zone a.zone).note { instances := a.root.all }
  | .error _ => l

/-- Something is attached to a node that there is, and to a zone that is noted, or an application is
started; and what was given out for it is noted. -/
inductive Obtains (ledger : σ → Ledger) (u : UserCode σ) (w : World σ) : World σ → Prop
  | component {b : Blueprint} {host : NodeId} (there : host < w.forest.size) {z : Zone}
      (inside : z ∈ (ledger w.user).zones) {i : Instance} {v : World σ}
      (ran : (b.attach u host z).run w = some (i, v)) {s : σ}
      (noted : ledger s = (ledger v.user).note { instances := i.all }) :
      Obtains ledger u w { v with user := s }
  | binding {b : Binding} {live : NodeId} (there : live < w.forest.size) {o : ObjectId} {z : Zone}
      (inside : z ∈ (ledger w.user).zones) {a : Option Attachment} {v : World σ}
      (ran : (b.attach u live o z).run w = some (a, v)) {s : σ}
      (noted : ledger s = (ledger v.user).note (.ofAttachment z a)) :
      Obtains ledger u w { v with user := s }
  | application {catalog : Catalog} {c : ClassRef} {options : CompileOptions}
      {r : Except Fault Application} {v : World σ}
      (ran : (Application.bootstrap u catalog c options).run w = some (r, v)) {s : σ}
      (noted : ledger s = (ledger v.user).noteStart r) : Obtains ledger u w { v with user := s }

/-- What is built of dealing and attaching, one after the other, perhaps without an end, with
evaluations, ticks and dispatches in between that run such code again. -/
inductive Dealings (ledger : σ → Ledger) : {α : Type} → Run σ α → Prop
  | pure {α : Type} (a : α) : Dealings ledger (pure a)
  | bind {α β : Type} {x : Run σ α} {f : α → Run σ β} (first : Dealings ledger x)
      (later : ∀ a, Dealings ledger (f a)) : Dealings ledger (x >>= f)
  | deal {α : Type} {x : Run σ α} (deals : Keeps (Deal ledger) x) : Dealings ledger x
  | part {u : UserCode σ} {α : Type} {x : Run σ α} (part : Part u x) (spares : u.Spares ledger)
      (handler : ∀ name, Dealings ledger (u.handler name))
      (refresh : ∀ name, Dealings ledger (u.refresh name))
      (call : ∀ o method args, Dealings ledger (u.call o method args)) : Dealings ledger x
  | obtain {u : UserCode σ} {α : Type} {x : Run σ α} (obtains : Keeps (Obtains ledger u) x)
      (spares : u.Spares ledger) (call : ∀ o method args, Dealings ledger (u.call o method args)) :
      Dealings ledger x

/-- Such activities keep to a relation if all that they consist of does. -/
theorem Dealings.keeps {ledger : σ → Ledger} {R : World σ → World σ → Prop}
    (trans : ∀ ⦃w v x⦄, R w v → R v x → R w x) (deals : ∀ {w v}, Deal ledger w v → R w v)
    (hosts : ∀ {u : UserCode σ}, u.Spares ledger → Hosts u R)
    (obtains : ∀ {u : UserCode σ}, u.Spares ledger →
      (∀ o method args, Keeps R (u.call o method args)) →
        ∀ {w v}, Obtains ledger u w v → R w v)
    {α : Type} {x : Run σ α} (dealings : Dealings ledger x) : Keeps R x := by
  induction dealings with
  | pure a =>
      exact Keeps.total (fun _ => rfl) fun w =>
        deals (.beside (.intro w w.forest w.busy w.pins 0 w.user) (.of_forest rfl rfl) rfl)
  | bind _ _ first later => exact Keeps.bind trans first later
  | deal each => exact fun w a v ran => deals (each w a v ran)
  | part part spares _ _ _ handler refresh call =>
      exact part.keeps (hosts spares) ⟨handler, refresh, call⟩
  | obtain each spares _ call => exact fun w a v ran => obtains spares call (each w a v ran)

/-! ## Accounts -/

namespace Grants

variable {ledger : σ → Ledger} {known : List Zone} {b : Account} {w v : World σ}

/-- What was given out is noted. -/
theorem note (grants : Grants ledger known b w v) {s : σ} (noted : ledger s = (ledger v.user).note b)
    (numbers : b.numbers = []) (serials : b.serials = []) :
    Grants ledger known {} w { v with user := s } where
  zones := by
    rw [noted]
    exact grants.zones
  fits ys a inside fits := by
    rw [noted, a.append_nothing]
    obtain ⟨zs, ts, zones, sound⟩ := (grants.fits ys a inside fits).note numbers serials
    exact ⟨zs, ts, zones, sound.beside (.intro v v.forest v.busy v.pins 0 s)⟩

/-- A change that uses what is noted. -/
theorem of_noted (same : ledger v.user = ledger w.user) (sound : ∀ {zs ts a},
      (ledger w.user).zones ⊆ zs → (ledger w.user).numbers ⊆ a.numbers →
        (ledger w.user).known ⊆ a.instances → w.Sound zs ts a → ∃ ts', v.Sound zs ts' a) :
    Grants ledger known {} w v where
  zones := by
    rw [same]
    exact List.Subset.refl _
  fits ys a _ fits := by
    obtain ⟨zs, ts, zones, before⟩ := fits
    obtain ⟨ts', after⟩ := sound (List.Subset.trans (List.subset_append_left _ ys) zones)
      (List.subset_append_left _ _) (List.subset_append_left _ _) before
    rw [same, a.append_nothing]
    exact ⟨zs, ts', zones, after⟩

end Grants

theorem Ledger.Offers.knows {l : Ledger} {w : World σ} {t : Target} (offers : l.Offers w t)
    {zs : List Zone} {ts : List Thread} {a : Account} (zones : l.zones ⊆ zs)
    (sound : w.Sound zs ts a) : w.Knows zs t := by
  rcases offers with rfl | known
  · exact sound.aims
  · exact known.mono (Nat.le_refl _) zones

theorem Ledger.Lends.unwrapped {l : Ledger} {h : Handler} (lends : l.Lends h) :
    h.wrapper? = none := by
  cases h with
  | named | bound => rfl
  | wrapped => exact lends.elim

theorem Ledger.Lends.number {l : Ledger} {h : Handler} (lends : l.Lends h) {n : Nat}
    (number : h.number? = some n) : n ∈ l.numbers := by
  cases h with
  | named => cases number
  | bound m event action object => exact Option.some.inj number ▸ lends
  | wrapped => exact lends.elim

namespace Deal

variable {ledger : σ → Ledger} {w v : World σ}

theorem grants (deal : Deal ledger w v) : Grants ledger [] {} w v := by
  cases deal with
  | beside beside _ same => exact .beside beside same
  | aim offered =>
      exact .of_noted rfl fun {_ ts _} zones _ _ sound => ⟨ts, sound.aim (offered.knows zones sound)⟩
  | newDispatcher => exact .of_noted rfl fun {_ ts _} _ _ _ sound => ⟨ts, sound.newDispatcher⟩
  | @newZone behind offered s noted =>
      refine ⟨?_, fun ys a _ fits => ?_⟩
      · rw [noted]
        exact List.subset_append_left _ _
      · rw [noted, a.append_nothing]
        exact ((fits.newZone offered.knows).beside (.intro _ _ _ _ 0 s)).zone
  | @onTick z inside r s noted =>
      have given : Grants ledger [z] { ticks := [(z.id, (w.addRefresh z r).1)] } w
          (w.addRefresh z r).2 :=
        .of_same rfl fun {_ ts _} known sound =>
          ⟨ts, sound.addRefresh (known (List.mem_singleton_self z)) r⟩
      exact (given.noted (List.cons_subset.2 ⟨inside, List.nil_subset _⟩)).note noted rfl rfl
  | removeTick z tick => exact .of_noted rfl fun _ _ _ sound => sound.removeRefresh z tick
  | @listen t offered l lent =>
      refine .of_noted (congrArg ledger (World.edits_user.addListener t l w)) ?_
      exact fun zones numbers _ sound => ⟨_, sound.addListener (offered.knows zones sound)
        lent.unwrapped fun n number => .inl (numbers (lent.number number))⟩
  | @unlisten t offered l lent =>
      refine .of_noted (congrArg ledger (World.edits_user.removeListener t l w)) ?_
      exact fun zones _ _ sound => sound.removeListener (offered.knows zones sound) lent.unwrapped
  | @detach i known =>
      refine .of_noted (congrArg ledger (World.edits_user.detach i w)) ?_
      exact fun _ _ instances sound => (sound.detach_one (instances known)).2

theorem tends (deal : Deal ledger w v) : w.Tends v := by
  cases deal with
  | beside _ tends _ => exact tends
  | listen => 
      rw [World.addListener_eq]
      exact .of_forest rfl rfl
  | unlisten => exact (World.Sheds.removeListener _ _ _).tends
  | detach => exact Instance.detach_tends _ w
  | _ => exact .of_forest rfl rfl

end Deal

namespace Obtains

variable {ledger : σ → Ledger} {u : UserCode σ} {w v : World σ} (spares : u.Spares ledger)

include spares

theorem noticed (notices : List Notice) (s : σ) : ledger (u.noticed notices s) = ledger s := by
  induction notices generalizing s with
  | nil => rfl
  | cons n rest ih => exact (ih _).trans (spares.notice n s)

variable (call : ∀ o method args, Keeps (Grants ledger [] {}) (u.call o method args))

include call

theorem grants (obtains : Obtains ledger u w v) : Grants ledger [] {} w v := by
  have call' (z : Zone) (o : ObjectId) (method : String) (args : List Value) :
      Keeps (Grants ledger [z] {}) (u.call o method args) :=
    fun w a v ran => (call o method args w a v ran).weaken
  cases obtains with
  | @component b host _ z inside i v ran s noted =>
      have given := (Grants.gives spares z).attach (call' z) ran
      exact (given.noted (List.cons_subset.2 ⟨inside, List.nil_subset _⟩)).note noted rfl rfl
  | @binding b live _ o z inside a v ran s noted =>
      have given := (Grants.gives spares z).binding (call' z) ran
      exact (given.noted (List.cons_subset.2 ⟨inside, List.nil_subset _⟩)).note noted rfl rfl
  | @application catalog c options r v ran s noted =>
      let z := (w.newZone (.dispatcher 0)).1
      obtain ⟨notices, cases⟩ := Application.bootstrap_eq_some ran
      have same : ledger (Application.prepared u notices w).user = ledger w.user :=
        noticed spares notices w.user
      have prepared {ys : List Zone} {a : Account} (fits : (ledger w.user).Fits ys a w) :
          (ledger w.user).Fits (ys ++ [z]) a (Application.prepared u notices w) :=
        (fits.newZone fun _ sound => sound.knows_document).beside
          (.intro _ _ _ _ 1 (u.noticed notices w.user))
      rcases cases with ⟨⟨e, rfl⟩, rfl⟩ | ⟨k, b, host, root, x, -, attached, rfl, rfl⟩
      · refine ⟨?_, fun ys a _ fits => ?_⟩
        · rw [noted, Ledger.noteStart, same]
          exact List.Subset.refl _
        · rw [noted, Ledger.noteStart, same, a.append_nothing]
          exact ((prepared fits).fewer (List.subset_append_left _ _)).beside (.intro _ _ _ _ 0 s)
      · have given := (Grants.gives spares z).attach (call' z) attached
        refine ⟨?_, fun ys a _ fits => ?_⟩
        · rw [noted, ← same]
          exact List.Subset.trans given.zones (List.subset_append_left _ _)
        · have started := prepared fits
          rw [← same] at started
          have inside : [z] ⊆ (ledger (Application.prepared u notices w).user).zones ++ (ys ++ [z]) :=
            List.cons_subset.2 ⟨by simp, List.nil_subset _⟩
          obtain ⟨zs, ts, zones, sound⟩ := given.fits _ a inside started
          have aimed := sound.aim (t := .zone z) (zones (by simp))
          have known : (ledger x.user).Fits (ys ++ [z]) (a.append { instances := root.all })
              { x with target := .zone z, user := s } :=
            ⟨zs, ts, zones, aimed.beside (.intro _ _ _ _ 0 s)⟩
          rw [noted, a.append_nothing]
          exact (known.note rfl rfl).zone

end Obtains

/-- Whatever is dealt with, what was given out to others is known next to the ledger. -/
theorem Dealings.grants {ledger : σ → Ledger} {α : Type} {x : Run σ α}
    (dealings : Dealings ledger x) : Keeps (Grants ledger [] {}) x :=
  dealings.keeps (fun _ _ _ => Grants.trans) Deal.grants (fun spares => Grants.hosts spares [])
    fun spares call _ _ obtains => obtains.grants spares call

/-! ## Nodes that there are -/

namespace World.Tends

/-- Evaluations, ticks and dispatches put no nodes anywhere. -/
theorem hosts (u : UserCode σ) : Hosts u World.Tends where
  toBears := guards_grounded.bears u
  shows w _ attr text := guards_grounded.leaves (.setAttr not_false w.forest attr text)

variable {u : UserCode σ} (call : ∀ o method args, Keeps World.Tends (u.call o method args))
  {w v : World σ}

include call

theorem attach {b : Blueprint} {host : NodeId} {z : Zone} {i : Instance}
    (there : host < w.forest.size) (ran : (b.attach u host z).run w = some (i, v)) : w.Tends v :=
  fun grounded =>
    have ⟨after, stays, _⟩ := During.attach guards_grounded call z b ⟨there, not_false⟩ grounded i v ran
    ⟨after, stays⟩

theorem binding {b : Binding} {live : NodeId} {o : ObjectId} {z : Zone} {a : Option Attachment}
    (there : live < w.forest.size) (ran : (b.attach u live o z).run w = some (a, v)) : w.Tends v :=
  fun grounded =>
    have ⟨after, stays, _⟩ := During.binding guards_grounded call z b ⟨there, not_false⟩ o grounded a v ran
    ⟨after, stays⟩

theorem bootstrap {catalog : Catalog} {c : ClassRef} {options : CompileOptions}
    {r : Except Fault Application} (ran : (Application.bootstrap u catalog c options).run w = some (r, v)) :
    w.Tends v := by
  obtain ⟨notices, ⟨-, rfl⟩ | ⟨k, b, host, root, x, place, attached, -, rfl⟩⟩ :=
    Application.bootstrap_eq_some ran
  · exact .of_forest rfl rfl
  · have there : host < w.forest.size := by
      obtain ⟨others, found, -⟩ := mountPlace_eq_ok place
      have member : host ∈ w.forest.elementsByTag w.document c.tag := found ▸ List.mem_cons_self
      have tagged := (List.mem_filter.1 member).2
      by_contra outside
      rw [Forest.data, Array.getElem?_eq_none (Nat.le_of_not_lt outside)] at tagged
      simp [NodeData.tag?] at tagged
    have prepared : w.Tends (Application.prepared u notices w) := .of_forest rfl rfl
    exact (prepared.trans (attach call there attached)).trans (.of_forest rfl rfl)

theorem obtains {ledger : σ → Ledger} (obtains : Obtains ledger u w v) : w.Tends v := by
  cases obtains with
  | component there _ ran _ => exact (attach call there ran).trans (.of_forest rfl rfl)
  | binding there _ ran _ => exact (binding call there ran).trans (.of_forest rfl rfl)
  | application ran _ => exact (bootstrap call ran).trans (.of_forest rfl rfl)

end World.Tends

/-- Whatever is dealt with, nodes are there that are children of others. -/
theorem Dealings.tends {ledger : σ → Ledger} {α : Type} {x : Run σ α}
    (dealings : Dealings ledger x) : Keeps World.Tends x :=
  dealings.keeps (R := World.Tends) (fun _ _ _ => World.Tends.trans) Deal.tends
    (fun _ => World.Tends.hosts _) fun _ call _ _ obtains => World.Tends.obtains call obtains

end LiveTemplates
