/-
# LiveTemplates.Proofs.Separation.Tandem -- the same activity in two worlds

Two worlds differ in what is seen of one object, and in the attributes in which this shows its
values.  The same is registered with both, and what is registered are bindings, so that the
same activity does the same in both, but to this object and to these attributes.

* `Run.Tandem`: two activities, each in a world of its own, keep the worlds related;
* `World.Binds`: what is registered are bindings, and one object shows its values in some
  attributes only;
* `World.Alongside`: two such worlds differ in this object and these attributes at most;
* `Chore`: a tick, a dispatch, or the end of an instance;
* `Chore.step`: a chore keeps the worlds alongside, and comes to an end in both;
* `Chore.run_all`: so do any number of chores.
-/
import LiveTemplates.Instance
import LiveTemplates.Proofs.Separation.Touching
import LiveTemplates.Proofs.World.Listeners
import LiveTemplates.Proofs.World.Shedding

namespace LiveTemplates

set_option autoImplicit false

variable {σ β : Type}

/-! ## Two activities -/

/-- Two activities, each in a world of its own, come to an end.  The worlds are related then, and
so is what they give. -/
def Run.Tandem (S : World σ → World σ → Prop) {α γ : Type} (Q : α → γ → Prop) (x : Run σ α)
    (y : Run σ γ) (w v : World σ) : Prop :=
  ∃ a w' b v', x.run w = some (a, w') ∧ y.run v = some (b, v') ∧ S w' v' ∧ Q a b

namespace Run.Tandem

variable {S : World σ → World σ → Prop} {α α' γ γ' : Type} {Q : α → γ → Prop}
  {R : α' → γ' → Prop} {w v : World σ}

theorem pure {a : α} {b : γ} (related : S w v) (same : Q a b) :
    Tandem S Q (Pure.pure a : Run σ α) (Pure.pure b : Run σ γ) w v :=
  ⟨a, w, b, v, rfl, rfl, related, same⟩

theorem get (related : S w v) :
    Tandem S S (MonadState.get : Run σ (World σ)) (MonadState.get : Run σ (World σ)) w v :=
  ⟨w, w, v, v, rfl, rfl, related, related⟩

theorem bind {x : Run σ α} {y : Run σ γ} {f : α → Run σ α'} {g : γ → Run σ γ'}
    (first : Tandem S Q x y w v)
    (later : ∀ a b w v, S w v → Q a b → Tandem S R (f a) (g b) w v) :
    Tandem S R (x >>= f) (y >>= g) w v := by
  obtain ⟨a, w₁, b, v₁, ran, ran', related, same⟩ := first
  obtain ⟨c, w₂, d, v₂, next, next', related, same⟩ := later a b w₁ v₁ related same
  exact ⟨c, w₂, d, v₂, Run.bind_eq_some.2 ⟨a, w₁, ran, next⟩,
    Run.bind_eq_some.2 ⟨b, v₁, ran', next'⟩, related, same⟩

/-- Steps one after the other. -/
theorem foldlM {f : α → α' → Run σ α} {g : γ → α' → Run σ γ} (as : List α') {a : α} {b : γ}
    (related : S w v) (each : ∀ a b, ∀ c ∈ as, ∀ w v, S w v →
      Tandem S (fun _ _ => True) (f a c) (g b c) w v) :
    Tandem S (fun _ _ => True) (as.foldlM f a) (as.foldlM g b) w v := by
  induction as generalizing a b w v with
  | nil => exact .pure related trivial
  | cons c rest ih =>
      rw [List.foldlM_cons, List.foldlM_cons]
      refine (each a b c List.mem_cons_self w v related).bind fun a b w v related _ => ih related ?_
      exact fun a b c member => each a b c (List.mem_cons_of_mem _ member)

theorem forM {f : α' → Run σ Unit} (as : List α') (related : S w v)
    (each : ∀ c ∈ as, ∀ w v, S w v → Tandem S (fun _ _ => True) (f c) (f c) w v) :
    Tandem S (fun _ _ => True) (as.forM f) (as.forM f) w v := by
  induction as generalizing w v with
  | nil => exact .pure related trivial
  | cons c rest ih =>
      refine (each c List.mem_cons_self w v related).bind fun _ _ w v related _ => ih related ?_
      exact fun c member => each c (List.mem_cons_of_mem _ member)

end Run.Tandem

namespace World

/-! ## What does not see objects and nodes -/

namespace Blind

theorem comp {g h : World σ → World σ} (second : Blind h) (first : Blind g) :
    Blind fun w => h (g w) :=
  fun w user forest => (congrArg h (first w user forest)).trans (second (g w) user forest)

theorem foldl {α : Type} {f : World σ → α → World σ} (each : ∀ a, Blind (f · a)) (as : List α) :
    Blind (as.foldl f ·) := by
  intro w user forest
  induction as generalizing w with
  | nil => rfl
  | cons a rest ih =>
      exact (congrArg (fun w => rest.foldl f w) (each a w user forest)).trans (ih (f w a))

theorem onZone (z : Zone) (f : ZoneState → ZoneState) :
    Blind (σ := σ) (·.onZone z f) := fun _ _ _ => rfl

theorem removeRefresh (z : Zone) (tick : Nat) : Blind (σ := σ) fun w => (w.removeRefresh z tick).2 :=
  fun _ _ _ => rfl

theorem forget (serial : Nat) : Blind (σ := σ) (·.forget serial) := fun _ _ _ => rfl

mutual

theorem removeListener : ∀ (t : Target) (l : Listener),
    Blind (σ := σ) fun w => (World.removeListener t l w).2
  | .dispatcher _, _ => fun _ _ _ => rfl
  | .zone z, l => removeWrapped z l

theorem removeWrapped : ∀ (z : Zone) (l : Listener),
    Blind (σ := σ) fun w => (World.removeWrapped z l w).2
  | .mk id behind, l => by
      let fewer (s : ZoneState) : ZoneState :=
        { s with wrappers := s.wrappers.filter fun r => !r.inner.same l }
      -- what is answered on the way is left out
      have taken (w : World σ) : (World.removeWrapped (.mk id behind) l w).2 =
          ((w.zone (.mk id behind)).wrappers.filter (·.inner.same l)).foldl
            (fun w r => (World.removeListener behind { l with handler := r.handler } w).2)
            (w.onZone (.mk id behind) fewer) := by
        rw [World.removeWrapped]
        exact (List.foldl_hom Prod.snd fun _ _ => rfl).symm
      intro w user forest
      have steps := foldl (fun r : Wrapper => removeListener behind { l with handler := r.handler })
        ((w.zone (.mk id behind)).wrappers.filter (·.inner.same l))
      refine (taken _).trans ((steps (w.onZone (.mk id behind) fewer) user forest).trans ?_)
      exact congrArg (fun v : World σ => { v with user := user, forest := forest }) (taken w).symm

end

end Blind

/-! ## Bindings of objects -/

/-- What is registered are bindings, and one object shows its values in some attributes only. -/
structure Binds (o : ObjectId) (free : NodeId → String → Prop) (w : World σ) : Prop where
  inputs : ∀ z, ∀ entry ∈ (w.zone z).refreshes, ∃ n a e p,
    entry.2 = .bound n a e p ∧ (p = o → free n a)
  outputs : ∀ d, ∀ l ∈ w.listeners d, l.handler.name? = none

/-- Two worlds in which bindings are registered differ at most in what is seen of one object, and
in the attributes in which this shows its values. -/
structure Alongside (u : UserCode σ) (view : σ → ObjectId → β) (o : ObjectId)
    (free : NodeId → String → Prop) (w v : World σ) : Prop where
  binds : w.Binds o free
  differ : w.Differ u view o free v

variable {u : UserCode σ} {view : σ → ObjectId → β} {o : ObjectId}
  {free : NodeId → String → Prop} {w v : World σ}

theorem Binds.sheds (binds : w.Binds o free) (sheds : w.Sheds v) : v.Binds o free where
  inputs z entry member := binds.inputs z entry (sheds.refreshes z member)
  outputs d l member := binds.outputs d l (sheds.listeners d member)

namespace Differ

variable (differ : w.Differ u view o free v)

include differ

theorem listeners (d : Nat) : v.listeners d = w.listeners d := by
  cases differ
  rfl

theorem zone (z : Zone) : v.zone z = w.zone z := by
  cases differ
  rfl

theorem registrations? (serial : Nat) : v.registrations? serial = w.registrations? serial := by
  cases differ
  rfl

theorem busy : v.busy = w.busy := by
  cases differ
  rfl

theorem alive (z : Nat) : v.alive u z = w.alive u z := by
  cases differ with
  | intro others holds alike => simp only [World.alive, holds]

end Differ

namespace Alongside

variable (alongside : w.Alongside u view o free v)

include alongside

/-- What does not see objects and nodes, and registers nothing. -/
theorem change {g : World σ → World σ} (blind : Blind g) (sheds : w.Sheds (g w)) :
    (g w).Alongside u view o free (g v) :=
  ⟨alongside.binds.sheds sheds, alongside.differ.blind blind⟩

/-- In a step that does not see objects and nodes, and registers nothing. -/
theorem step {g : World σ → World σ} (blind : Blind g) (sheds : w.Sheds (g w)) :
    Run.Tandem (Alongside u view o free) (fun _ _ => True) (modify g : Run σ Unit)
      (modify g : Run σ Unit) w v :=
  ⟨(), g w, (), g v, rfl, rfl, alongside.change blind sheds, trivial⟩

/-- A zone is held meanwhile. -/
theorem holding (z : Zone) {α γ : Type} {x : Run σ α} {y : Run σ γ}
    (inner : ∀ w v, w.Alongside u view o free v →
      Run.Tandem (Alongside u view o free) (fun _ _ => True) x y w v) :
    Run.Tandem (Alongside u view o free) (fun _ _ => True) (Run.holding z x) (Run.holding z y)
      w v := by
  have pins (w : World σ) (pins : List Zone) : w.Sheds { w with pins := pins } :=
    ⟨rfl, rfl, fun _ => .refl _, fun _ => .refl _, fun _ => .refl _, .refl _⟩
  refine (alongside.step (fun _ _ _ => rfl) (pins w _)).bind fun _ _ w v alongside _ => ?_
  refine (inner w v alongside).bind fun _ _ w v alongside _ => ?_
  refine (alongside.step (fun _ _ _ => rfl) (pins w _)).bind fun _ _ w v alongside _ => ?_
  exact .pure alongside trivial

/-! ### Evaluating -/

/-- An evaluation gives the same against another object than the one in which the worlds
differ. -/
theorem evaluate (own : u.Local view) (e : Expression) (p : ObjectId) :
    Run.Tandem (Alongside u view o free) (fun a b => p ≠ o → b = a) (e.evaluate u p)
      (e.evaluate u p) w v := by
  obtain ⟨f, touches, ran⟩ := own.evaluate e p
  obtain ⟨differ, same⟩ := alongside.differ.touch touches
  by_cases busy : w.busy.contains p = true
  · have busy' : v.busy.contains p = true := alongside.differ.busy ▸ busy
    exact ⟨_, w, _, v, (ran w).trans (congrArg some (if_pos busy)),
      (ran v).trans (congrArg some (if_pos busy')), alongside, fun _ => rfl⟩
  · have busy' : ¬ v.busy.contains p = true := alongside.differ.busy ▸ busy
    exact ⟨_, _, _, _, (ran w).trans (congrArg some (if_neg busy)),
      (ran v).trans (congrArg some (if_neg busy')),
      ⟨⟨alongside.binds.inputs, alongside.binds.outputs⟩, differ⟩, same⟩

/-- Each world has its own reports, of which nothing is seen in any object. -/
theorem unseen {α γ : Type} {x : Run σ α} {y : Run σ γ} (first : Run.Unseen u view x)
    (second : Run.Unseen u view y) :
    Run.Tandem (Alongside u view o free) (fun _ _ => True) x y w v := by
  obtain ⟨a, s, ran, seen, holds⟩ := first w
  obtain ⟨b, t, ran', seen', holds'⟩ := second v
  have differ := alongside.differ.users (s := s) (t := t)
    (fun p _ same => by rw [seen, seen', same]) holds holds'
  exact ⟨a, _, b, _, ran, ran',
    ⟨⟨alongside.binds.inputs, alongside.binds.outputs⟩, differ⟩, trivial⟩

/-- Nodes change in both, in the same way but for some attributes. -/
theorem forests {f g : Forest} (alike : w.forest.Alike free v.forest → f.Alike free g) :
    { w with forest := f }.Alongside u view o free { v with forest := g } where
  binds := ⟨alongside.binds.inputs, alongside.binds.outputs⟩
  differ := alongside.differ.forests alike

/-! ### Ticking -/

/-- A value is shown in one of the attributes, or the same value in both worlds. -/
theorem refresh (own : u.Local view) {n : NodeId} {a : String} (e : Expression) {p : ObjectId}
    (shows : p = o → free n a) :
    Run.Tandem (Alongside u view o free) (fun _ _ => True) (Refresh.run u (.bound n a e p))
      (Refresh.run u (.bound n a e p)) w v := by
  refine (alongside.evaluate own e p).bind fun r r' w v alongside same => ?_
  by_cases mine : p = o
  · have may := shows mine
    cases r with
    | error => cases r' with
      | error => exact .pure alongside trivial
      | ok value' =>
          exact ⟨_, _, _, _, rfl, rfl,
            alongside.forests fun alike => alike.setAttr_right may value'.display, trivial⟩
    | ok value => cases r' with
      | error =>
          exact ⟨_, _, _, _, rfl, rfl, alongside.forests fun alike =>
            (alike.symm.setAttr_right may value.display).symm, trivial⟩
      | ok value' =>
          exact ⟨_, _, _, _, rfl, rfl, alongside.forests fun alike =>
            alike.setAttr (.inl may), trivial⟩
  · rw [same mine]
    cases r with
    | error => exact .pure alongside trivial
    | ok value =>
        exact ⟨_, _, _, _, rfl, rfl, alongside.forests fun alike =>
          alike.setAttr (.inr rfl), trivial⟩

/-- One of the refreshes of a tick is run, counted, and reported if it fails. -/
theorem add (own : u.Local view) {entry : Nat × Refresh} {n : NodeId} {a : String} {e : Expression}
    {p : ObjectId} (bound : entry.2 = .bound n a e p) (shows : p = o → free n a)
    (report report' : TickReport) :
    Run.Tandem (Alongside u view o free) (fun _ _ => True) (report.add u entry)
      (report'.add u entry) w v := by
  refine Run.Tandem.bind (Q := fun _ _ => True) ?_ fun r r' w v alongside _ => ?_
  · rw [bound]
    exact alongside.refresh own e shows
  · -- each world has its own outcome, and what is reported of it does not matter
    refine alongside.unseen ?_ ?_
    · cases r with
      | ok => exact .pure _
      | error => exact (Run.Unseen.notice own _).andThen _
    · cases r' with
      | ok => exact .pure _
      | error => exact (Run.Unseen.notice own _).andThen _

/-- A zone ticks. -/
theorem tick (own : u.Local view) (z : Zone) :
    Run.Tandem (Alongside u view o free) (fun _ _ => True) (z.tick u) (z.tick u) w v := by
  refine alongside.holding z fun w v alongside => ?_
  refine (Run.Tandem.get alongside).bind fun w' v' w v alongside known => ?_
  have counted (w : World σ) : w.Sheds (w.onZone z fun s => { s with ticks := s.ticks + 1 }) :=
    .onZone w z (fun _ => .refl _) fun _ => .refl _
  refine (alongside.step (Blind.onZone z _) (counted w)).bind fun _ _ w v alongside _ => ?_
  rw [known.differ.zone]
  refine .foldlM _ alongside fun report report' entry member w v alongside => ?_
  obtain ⟨n, a, e, p, bound, shows⟩ := known.binds.inputs z entry member
  exact alongside.add own bound shows report report'

/-! ### Dispatching -/

/-- A handler of an output is run, with ticks of the zones that have wrapped it. -/
theorem handler (own : u.Local view) {h : Handler} (none : h.name? = none) :
    Run.Tandem (Alongside u view o free) (fun _ _ => True) (h.run u) (h.run u) w v := by
  induction h generalizing w v with
  | named => cases none
  | bound serial event action p =>
      refine (alongside.evaluate own action p).bind fun r r' w v alongside _ => ?_
      refine alongside.unseen ?_ ?_
      · cases r with
        | ok => exact .pure _
        | error => exact .notice own _
      · cases r' with
        | ok => exact .pure _
        | error => exact .notice own _
  | wrapped serial zone inner ih =>
      refine (ih alongside none).bind fun _ _ w v alongside _ => ?_
      refine (Run.Tandem.get alongside).bind fun w' v' w v alongside known => ?_
      rw [known.differ.alive]
      split
      · exact (alongside.tick own zone).bind fun _ _ w v alongside _ => .pure alongside trivial
      · exact .pure alongside trivial

theorem dispatch (own : u.Local view) (d : Nat) (node : NodeId) (event : String) :
    Run.Tandem (Alongside u view o free) (fun _ _ => True) (LiveTemplates.dispatch u d node event)
      (LiveTemplates.dispatch u d node event) w v := by
  refine (Run.Tandem.get alongside).bind fun w' v' w v alongside known => ?_
  rw [World.listenersFor, World.listenersFor, known.differ.listeners]
  refine (Run.Tandem.forM _ alongside fun h member w v alongside => ?_).bind
    fun _ _ w v alongside _ => .pure alongside trivial
  obtain ⟨l, listed, rfl⟩ := List.mem_map.1 member
  exact alongside.handler own (known.binds.outputs d l (List.mem_of_mem_filter listed))

/-! ### Detaching -/

/-- Nodes are taken off a host. -/
theorem takeOff (host : NodeId) (ns : List NodeId) :
    (ns.foldl (fun w n => { w with forest := (w.forest.remove host n).2 }) w).Alongside u view o free
      (ns.foldl (fun w n => { w with forest := (w.forest.remove host n).2 }) v) := by
  induction ns generalizing w v with
  | nil => exact alongside
  | cons n rest ih => exact ih (alongside.forests fun alike => alike.remove host n)

/-- What an instance has registered is taken back, and its nodes are taken off the host. -/
theorem takeBack (z : Zone) (host : NodeId) (r : Registrations) :
    (w.takeBack z host r).Alongside u view o free (v.takeBack z host r) := by
  have ticks : Blind (σ := σ) fun w =>
      r.ticks.foldl (fun w tick => (w.removeRefresh z tick).2) w :=
    .foldl (fun tick => .removeRefresh z tick) r.ticks
  have listeners : Blind (σ := σ) fun w =>
      r.listeners.foldl (fun w l => (w.removeWrapped z l).2) w :=
    .foldl (fun l => .removeWrapped z l) r.listeners
  exact (alongside.change (listeners.comp ticks) (.registered w z r)).takeOff host r.mounted

omit alongside in
mutual

/-- An instance is detached, with all instances inside of it. -/
theorem detach : ∀ (i : Instance) {w v : World σ}, w.Alongside u view o free v →
    (i.detach w).Alongside u view o free (i.detach v)
  | .mk serial _ _ _ host z children, w, v, alongside => by
      rw [Instance.detach, Instance.detach, alongside.differ.registrations?]
      cases w.registrations? serial with
      | none => exact alongside
      | some r =>
          have forgotten := alongside.change (.forget serial) (.forget w serial)
          exact (detachAll children forgotten).takeBack z host r

theorem detachAll : ∀ (is : List Instance) {w v : World σ}, w.Alongside u view o free v →
    (Instance.detachAll is w).Alongside u view o free (Instance.detachAll is v)
  | [], _, _, alongside => alongside
  | i :: rest, _, _, alongside => detachAll rest (detach i alongside)

end

end Alongside

end World

/-! ## Chores -/

/-- What is done with instances when they are attached. -/
inductive Chore where
  | tick (z : Zone)
  | dispatch (dispatcher : Nat) (node : NodeId) (event : String)
  | detach (i : Instance)

/-- Does a chore. -/
def Chore.run (u : UserCode σ) : Chore → Run σ Unit
  | .tick z => do let _ ← z.tick u
  | .dispatch dispatcher node event => do let _ ← LiveTemplates.dispatch u dispatcher node event
  | .detach i => modify i.detach

namespace Chore

variable {u : UserCode σ} {view : σ → ObjectId → β} (own : u.Local view) {o : ObjectId}
  {free : NodeId → String → Prop} {w v : World σ}

include own

/-- A chore comes to an end in both worlds, and they differ in no more than before. -/
theorem step (chore : Chore) (alongside : w.Alongside u view o free v) :
    Run.Tandem (World.Alongside u view o free) (fun _ _ => True) (chore.run u) (chore.run u)
      w v := by
  cases chore with
  | tick z =>
      exact (alongside.tick own z).bind fun _ _ _ _ alongside _ => .pure alongside trivial
  | dispatch d node event =>
      exact (alongside.dispatch own d node event).bind fun _ _ _ _ alongside _ =>
        .pure alongside trivial
  | detach i => exact ⟨(), _, (), _, rfl, rfl, .detach i alongside, trivial⟩

/-- Chores of any number, one after the other. -/
theorem run_all (chores : List Chore) (alongside : w.Alongside u view o free v) :
    ∃ w' v', (chores.forM (run u)).run w = some ((), w') ∧
      (chores.forM (run u)).run v = some ((), v') ∧ w'.Alongside u view o free v' := by
  obtain ⟨_, w', _, v', ran, ran', alongside, -⟩ :=
    Run.Tandem.forM chores alongside fun chore _ _ _ alongside => step own chore alongside
  exact ⟨w', v', ran, ran', alongside⟩

end Chore

end LiveTemplates
