/-
# LiveTemplates.Proofs.World.Activity -- what activities carry over from their changes

Handlers, refreshes and methods are the user's own.  They do whatever they like, but they
do it by changes of the world, by evaluations, ticks and dispatches, one after the other
and inside of each other to any depth (`Activity`).

* `Carries`: what a relation between worlds needs so that whole activities keep to it when
  all their changes do.  Objects that are busy during an evaluation are set aside in it;
* `Bears`, `Hosts`: what is needed of it for evaluations, and for ticks and dispatches;
* `Keeps.evaluate`, `Keeps.tick`, `Keeps.dispatch`: what the user's code keeps to is kept to
  by all that runs it;
* `Activity.keeps`: an activity keeps to a relation if all its changes do.
-/
import LiveTemplates.Binding.Attached
import LiveTemplates.Proofs.Program.Access

namespace LiveTemplates

set_option autoImplicit false

variable {σ : Type}

/-! ## Runs -/

namespace Run

variable {α β : Type}

theorem bind_eq_some {x : Run σ α} {f : α → Run σ β} {w u : World σ} {b : β} :
    (x >>= f).run w = some (b, u) ↔
      ∃ a v, x.run w = some (a, v) ∧ (f a).run v = some (b, u) := by
  rw [StateT.run_bind, Option.bind_eq_bind, Option.bind_eq_some_iff]
  exact ⟨fun ⟨p, first, later⟩ => ⟨p.1, p.2, first, later⟩,
    fun ⟨a, v, first, later⟩ => ⟨(a, v), first, later⟩⟩

theorem pure_eq_some {a b : α} {w u : World σ} :
    (pure a : Run σ α).run w = some (b, u) ↔ a = b ∧ w = u := by
  rw [StateT.run_pure, Option.pure_def, Option.some.injEq, Prod.mk.injEq]

theorem run_onUser (f : σ → α × σ) (w : World σ) :
    (onUser f).run w = some ((f w.user).1, { w with user := (f w.user).2 }) := rfl

theorem run_notice (u : UserCode σ) (n : Notice) (w : World σ) :
    (notice u n).run w = some ((), { w with user := u.notice n w.user }) := rfl

theorem run_fresh (w : World σ) :
    (fresh : Run σ Nat).run w = some (w.serial, { w with serial := w.serial + 1 }) := rfl

/-- An activity during which an object is busy. -/
def borrowing (o : ObjectId) (x : Run σ α) : Run σ α := do
  modify fun w => { w with busy := o :: w.busy }
  let a ← x
  modify fun w => { w with busy := w.busy.erase o }
  return a

theorem run_borrowing (o : ObjectId) (x : Run σ α) (w : World σ) :
    (borrowing o x).run w = (x.run { w with busy := o :: w.busy }).map
      fun (a, v) => (a, { v with busy := v.busy.erase o }) := by
  have pushed : (modify fun w => { w with busy := o :: w.busy } : Run σ Unit).run w =
      some ((), { w with busy := o :: w.busy }) := rfl
  simp only [borrowing, StateT.run_bind, Option.bind_eq_bind, pushed, Option.bind_some]
  cases x.run { w with busy := o :: w.busy } <;> rfl

theorem run_holding (z : Zone) (x : Run σ α) (w : World σ) :
    (holding z x).run w = (x.run { w with pins := z :: w.pins }).map
      fun (a, v) => (a, { v with pins := v.pins.tail }) := by
  have pushed : (modify fun w => { w with pins := z :: w.pins } : Run σ Unit).run w =
      some ((), { w with pins := z :: w.pins }) := rfl
  simp only [holding, StateT.run_bind, Option.bind_eq_bind, pushed, Option.bind_some]
  cases x.run { w with pins := z :: w.pins } <;> rfl

theorem run_onForest (f : Forest → α × Forest) (w : World σ) :
    (onForest f).run w = some ((f w.forest).1, { w with forest := (f w.forest).2 }) := rfl

end Run

/-- An evaluation against an object that is busy fails; otherwise the object is busy
meanwhile. -/
theorem Expression.run_evaluate (u : UserCode σ) (e : Expression) (o : ObjectId) (w : World σ) :
    (e.evaluate u o).run w =
      if w.busy.contains o then some (.error (.reentrant e.source), w)
      else (Run.borrowing o (e.program.eval (u.scope o)).run).run w := by
  unfold evaluate
  cases busy : w.busy.contains o
  · simp only [StateT.run_bind, StateT.run_get, Option.pure_def, Option.bind_eq_bind,
      Option.bind_some, busy, Bool.false_eq_true, if_false]
    rfl
  · simp only [StateT.run_bind, StateT.run_get, Option.pure_def, Option.bind_eq_bind,
      Option.bind_some, busy, if_true]
    rfl

/-- What reading a member gives. -/
def UserCode.reading (u : UserCode σ) (o : ObjectId) (member : String) (s : σ) :
    Except ExpressionError Value :=
  match (u.get o member s).1 with
  | some v => .ok v
  | none => .error (.unknownMember member)

/-- Reading a member changes nothing but the user's own state. -/
theorem UserCode.run_read (u : UserCode σ) (o : ObjectId) (member : String) (w : World σ) :
    ((u.scope o).read member).run.run w =
      some (u.reading o member w.user, { w with user := (u.get o member w.user).2 }) := by
  have found : ((ExceptT.lift ((u.scope o).get member) :
      ExceptT ExpressionError (Run σ) (Option Value))).run.run w =
        some (.ok (u.get o member w.user).1, { w with user := (u.get o member w.user).2 }) := rfl
  simp only [Scope.read, ExceptT.run_bind, StateT.run_bind, found, reading]
  cases (u.get o member w.user).1 <;> rfl

/-! ## Keeping to a relation -/

/-- Whatever an activity does, the world behind it is related to the one before it. -/
def Keeps (R : World σ → World σ → Prop) {α : Type} (x : Run σ α) : Prop :=
  ∀ w a v, x.run w = some (a, v) → R w v

/-- A world differs from another at most in the user's own state, in its nodes, in what is
held and in what is counted. -/
structure Aside (w v : World σ) : Prop where
  busy : v.busy = w.busy
  dispatchers : v.dispatchers = w.dispatchers
  target : v.target = w.target
  attached : v.attached = w.attached
  registries : ∀ z, { v.zone z with ticks := 0 } = { w.zone z with ticks := 0 }

/-- A relation between worlds can be kept to in steps, says nothing about what evaluations,
ticks and dispatches do by themselves, and does not see which object is busy during an
evaluation. -/
structure Carries (R : World σ → World σ → Prop) : Prop where
  trans : ∀ {w v u}, R w v → R v u → R w u
  aside : ∀ {w v}, Aside w v → R w v
  borrowed : ∀ {w v o}, R { w with busy := o :: w.busy } v →
    R w { v with busy := v.busy.erase o }

theorem World.ticks_onZone (w : World σ) (z z' : Zone) :
    { (w.onZone z fun s => { s with ticks := s.ticks + 1 }).zone z' with ticks := 0 } =
      { w.zone z' with ticks := 0 } := by
  simp only [zone, onZone, Array.getElem?_modify]
  split
  · cases w.zones[z'.id]? <;> rfl
  · rfl

/-- What evaluations, ticks and dispatches do by themselves, but for showing a value: they read,
write and report in the user's own state, hold a zone and count a tick. -/
inductive Minor (u : UserCode σ) (w : World σ) : World σ → Prop
  | same : Minor u w w
  | read (o : ObjectId) (member : String) :
      Minor u w { w with user := (u.get o member w.user).2 }
  | write (o : ObjectId) (member : String) (v : Value) :
      Minor u w { w with user := (u.set o member v w.user).2 }
  | report (n : Notice) : Minor u w { w with user := u.notice n w.user }
  | hold (pins : List Zone) : Minor u w { w with pins := pins }
  | count (z : Zone) : Minor u w (w.onZone z fun s => { s with ticks := s.ticks + 1 })

/-- A relation between worlds can be kept to in steps, allows what evaluations with some user's
code do by themselves, and does not see which object is busy during an evaluation. -/
structure Bears (u : UserCode σ) (R : World σ → World σ → Prop) : Prop where
  trans : ∀ ⦃w v x⦄, R w v → R v x → R w x
  minor : ∀ {w v}, Minor u w v → R w v
  borrowed : ∀ ⦃w v o⦄, R { w with busy := o :: w.busy } v →
    R w { v with busy := v.busy.erase o }

/-- It allows what ticks and dispatches do by themselves, too: they show values. -/
structure Hosts (u : UserCode σ) (R : World σ → World σ → Prop) : Prop extends Bears u R where
  shows : ∀ w node attr text, R w { w with forest := (w.forest.setAttr node attr text).2 }

theorem Carries.refl {R : World σ → World σ → Prop} (carries : Carries R) (w : World σ) : R w w :=
  carries.aside ⟨rfl, rfl, rfl, rfl, fun _ => rfl⟩

theorem Carries.hosts {R : World σ → World σ → Prop} (carries : Carries R) (u : UserCode σ) :
    Hosts u R where
  trans _ _ _ := carries.trans
  minor step := by
    cases step with
    | count z => exact carries.aside ⟨rfl, rfl, rfl, rfl, World.ticks_onZone _ z⟩
    | _ => exact carries.aside ⟨rfl, rfl, rfl, rfl, fun _ => rfl⟩
  shows _ _ _ _ := carries.aside ⟨rfl, rfl, rfl, rfl, fun _ => rfl⟩
  borrowed _ _ _ := carries.borrowed

/-- The user's handlers, refreshes and methods keep to a relation. -/
structure UserCode.Keeps (R : World σ → World σ → Prop) (u : UserCode σ) : Prop where
  handler : ∀ name, LiveTemplates.Keeps R (u.handler name)
  refresh : ∀ name, LiveTemplates.Keeps R (u.refresh name)
  call : ∀ o method args, LiveTemplates.Keeps R (u.call o method args)

namespace Keeps

variable {u : UserCode σ} {R : World σ → World σ → Prop} {α β : Type}

theorem total {x : Run σ α} {g : World σ → α × World σ} (run : ∀ w, x.run w = some (g w))
    (related : ∀ w, R w (g w).2) : Keeps R x := by
  intro w a v ran
  rw [run, Option.some.injEq] at ran
  have := related w
  rwa [ran] at this

theorem bind (trans : ∀ ⦃w v x⦄, R w v → R v x → R w x) {x : Run σ α} {f : α → Run σ β}
    (first : Keeps R x) (later : ∀ a, Keeps R (f a)) : Keeps R (x >>= f) := by
  intro w b u ran
  obtain ⟨a, v, one, other⟩ := Run.bind_eq_some.1 ran
  exact trans (first w a v one) (later a v b u other)

theorem borrowing (borrowed : ∀ ⦃w v o⦄, R { w with busy := o :: w.busy } v →
      R w { v with busy := v.busy.erase o }) (o : ObjectId) {x : Run σ α} (inner : Keeps R x) :
    Keeps R (Run.borrowing o x) := by
  intro w a v ran
  rw [Run.run_borrowing] at ran
  obtain ⟨⟨a', v'⟩, during, same⟩ := Option.map_eq_some_iff.1 ran
  obtain ⟨-, rfl⟩ := Prod.mk.inj same
  exact borrowed (inner _ _ _ during)

section Bearing

variable (bears : Bears u R)

include bears

theorem minor {x : Run σ α} {g : World σ → α × World σ} (run : ∀ w, x.run w = some (g w))
    (same : ∀ w, Minor u w (g w).2) : Keeps R x :=
  total run fun w => bears.minor (same w)

theorem pure (a : α) : Keeps R (pure a : Run σ α) :=
  minor bears (fun _ => rfl) fun _ => .same

theorem get : Keeps R (MonadState.get : Run σ (World σ)) :=
  minor bears (fun _ => rfl) fun _ => .same

theorem notice (n : Notice) : Keeps R (Run.notice u n) :=
  minor bears (Run.run_notice u n) fun _ => .report n

theorem foldlM {f : β → α → Run σ β} (xs : List α) (start : β) (each : ∀ b a, Keeps R (f b a)) :
    Keeps R (xs.foldlM f start) := by
  induction xs generalizing start with
  | nil => exact pure bears start
  | cons x rest ih =>
      rw [List.foldlM_cons]
      exact bind bears.trans (each start x) fun b => ih b

theorem forM {f : α → Run σ Unit} (xs : List α) (each : ∀ a, Keeps R (f a)) :
    Keeps R (xs.forM f) := by
  induction xs with
  | nil => exact pure bears ()
  | cons x rest ih => exact bind bears.trans (each x) fun _ => ih

theorem holding (z : Zone) {x : Run σ α} (inner : Keeps R x) : Keeps R (Run.holding z x) := by
  refine bind bears.trans (minor bears (fun _ => rfl) fun _ => .hold _)
    fun _ => bind bears.trans inner fun a => bind bears.trans ?_ fun _ => pure bears a
  exact minor bears (fun _ => rfl) fun _ => .hold _

/-! ### Evaluating -/

/-- The steps of evaluating a program keep to a relation if calling methods does. -/
theorem evalClosed (o : ObjectId) : Program.Closed
    (fun α (x : ExceptT ExpressionError (Run σ) α) => Keeps R x.run) (u.scope o) where
  pure a := pure bears (Except.ok a)
  bind first later := by
    rw [ExceptT.run_bind]
    refine bind bears.trans first fun r => ?_
    cases r with
    | ok a => exact later a
    | error e => exact pure bears (Except.error e)
  read member := minor bears (u.run_read o member) fun _ => .read o member

theorem evaluate (call : ∀ o method args, Keeps R (u.call o method args)) (e : Expression)
    (o : ObjectId) : Keeps R (e.evaluate u o) := by
  have eval : Keeps R (e.program.eval (u.scope o)).run :=
    Program.closed_eval (evalClosed bears o) e.program fun _ =>
      ⟨fun member v => minor bears (Run.run_onUser (u.set o member v)) fun _ => .write o member v,
        fun method args => call o method args⟩
  intro w r v ran
  rw [Expression.run_evaluate] at ran
  split at ran
  · obtain ⟨-, rfl⟩ := Prod.mk.inj (Option.some.inj ran)
    exact bears.minor .same
  · exact borrowing bears.borrowed o eval w r v ran

/-- Running the refresh of an input evaluates its value, and shows it. -/
theorem refreshBound (call : ∀ o method args, Keeps R (u.call o method args)) {node : NodeId}
    {attr : String}
    (shows : ∀ w text, R w { w with forest := (w.forest.setAttr node attr text).2 })
    (value : Expression) (o : ObjectId) : Keeps R (Refresh.run u (.bound node attr value o)) := by
  refine bind bears.trans (evaluate bears call value o) fun r => ?_
  cases r with
  | error e => exact pure bears _
  | ok v =>
      exact bind bears.trans (total (Run.run_onForest _) fun w => shows w v.display)
        fun _ => pure bears _

/-- A tick counts the refreshes that it runs, and reports those that fail. -/
theorem counted {entry : Nat × Refresh} (ran : Keeps R (entry.2.run u)) (report : TickReport) :
    Keeps R (report.add u entry) := by
  refine bind bears.trans ran fun r => ?_
  cases r with
  | ok _ => exact pure bears _
  | error e => exact bind bears.trans (notice bears _) fun _ => pure bears _

end Bearing

/-! ### What runs the user's code -/

variable (hosts : Hosts u R)

include hosts

variable (user : u.Keeps R)

include user

theorem refresh (r : Refresh) : Keeps R (r.run u) := by
  cases r with
  | named name => exact user.refresh name
  | bound node attr value object =>
      exact refreshBound hosts.toBears user.call (fun w => hosts.shows w node attr) value object

theorem tick (z : Zone) : Keeps R (z.tick u) := by
  refine holding hosts.toBears z (bind hosts.trans (get hosts.toBears) fun w => ?_)
  refine bind hosts.trans (minor hosts.toBears (fun _ => rfl) fun _ => .count z) fun _ =>
    foldlM hosts.toBears _ _ fun report entry => ?_
  exact counted hosts.toBears (refresh hosts user entry.2) report

omit hosts in
/-- Handlers do what the user does, evaluate, and tick. -/
theorem handler (bears : Bears u R) (ticks : ∀ z, Keeps R (Zone.tick u z)) (h : Handler) :
    Keeps R (h.run u) := by
  induction h with
  | named name => exact user.handler name
  | bound serial event action object =>
      refine bind bears.trans (evaluate bears user.call action object) fun r => ?_
      cases r with
      | ok _ => exact pure bears _
      | error e => exact notice bears _
  | wrapped serial zone inner ih =>
      refine bind bears.trans ih fun _ => bind bears.trans (get bears) fun w => ?_
      split
      · exact bind bears.trans (ticks zone) fun _ => pure bears _
      · exact pure bears _

omit hosts in
theorem dispatch (bears : Bears u R) (ticks : ∀ z, Keeps R (Zone.tick u z)) (d : Nat)
    (node : NodeId) (event : String) : Keeps R (LiveTemplates.dispatch u d node event) :=
  bind bears.trans (get bears) fun _ => bind bears.trans
    (forM bears _ fun h => handler user bears ticks h) fun _ => pure bears _

end Keeps

/-! ## Activities -/

/-- What runs the user's code. -/
inductive Part (u : UserCode σ) : {α : Type} → Run σ α → Prop
  | evaluate (e : Expression) (o : ObjectId) : Part u (e.evaluate u o)
  | tick (z : Zone) : Part u (z.tick u)
  | dispatch (d : Nat) (node : NodeId) (event : String) :
      Part u (LiveTemplates.dispatch u d node event)

theorem Part.keeps {R : World σ → World σ → Prop} {u : UserCode σ} (hosts : Hosts u R)
    (user : u.Keeps R) {α : Type} {x : Run σ α} (part : Part u x) : Keeps R x := by
  cases part with
  | evaluate e o => exact Keeps.evaluate hosts.toBears user.call e o
  | tick z => exact Keeps.tick hosts user z
  | dispatch d node event =>
      exact Keeps.dispatch user hosts.toBears (Keeps.tick hosts user) d node event

/-- What is built of changes to which worlds are related, one after the other, perhaps while
an object is busy or without an end, with evaluations, ticks and dispatches in between
that run such code again. -/
inductive Activity (R : World σ → World σ → Prop) : {α : Type} → Run σ α → Prop
  | pure {α : Type} (a : α) : Activity R (pure a)
  | bind {α β : Type} {x : Run σ α} {f : α → Run σ β} (first : Activity R x)
      (later : ∀ a, Activity R (f a)) : Activity R (x >>= f)
  | endless {α : Type} : Activity R (failure : Run σ α)
  | borrowing {α : Type} {x : Run σ α} (o : ObjectId) (inner : Activity R x) :
      Activity R (Run.borrowing o x)
  | change {α : Type} {x : Run σ α} {g : World σ → α × World σ}
      (run : ∀ w, x.run w = some (g w)) (related : ∀ w, R w (g w).2) : Activity R x
  | part {u : UserCode σ} {α : Type} {x : Run σ α} (part : Part u x)
      (handler : ∀ name, Activity R (u.handler name))
      (refresh : ∀ name, Activity R (u.refresh name))
      (call : ∀ o method args, Activity R (u.call o method args)) : Activity R x

/-- The user's handlers, refreshes and methods are built of changes to which worlds are
related. -/
structure UserCode.Obeys (R : World σ → World σ → Prop) (u : UserCode σ) : Prop where
  handler : ∀ name, Activity R (u.handler name)
  refresh : ∀ name, Activity R (u.refresh name)
  call : ∀ o method args, Activity R (u.call o method args)

/-- An activity keeps to a relation if all its changes do. -/
theorem Activity.keeps {R : World σ → World σ → Prop} (carries : Carries R) {α : Type}
    {x : Run σ α} (activity : Activity R x) : Keeps R x := by
  induction activity with
  | pure a => exact Keeps.total (fun _ => rfl) carries.refl
  | bind _ _ first later => exact Keeps.bind (R := R) (fun _ _ _ => carries.trans) first later
  | endless => nofun
  | borrowing o _ inner => exact Keeps.borrowing (fun _ _ _ => carries.borrowed) o inner
  | change run related => exact Keeps.total run related
  | @part u _ _ part _ _ _ handler refresh call =>
      exact part.keeps (carries.hosts u) ⟨handler, refresh, call⟩

theorem UserCode.Obeys.keeps {R : World σ → World σ → Prop} (carries : Carries R)
    {u : UserCode σ} (obeys : u.Obeys R) : u.Keeps R where
  handler name := (obeys.handler name).keeps carries
  refresh name := (obeys.refresh name).keeps carries
  call o method args := (obeys.call o method args).keeps carries

/-! ## Building activities -/

namespace Activity

variable {R : World σ → World σ → Prop} (carries : Carries R) {α β : Type}

theorem mapM {f : α → Run σ β} (xs : List α) (each : ∀ a ∈ xs, Activity R (f a)) :
    Activity R (xs.mapM f) := by
  induction xs with
  | nil => exact pure []
  | cons x rest ih =>
      rw [List.mapM_cons]
      exact bind (each x (by simp)) fun b =>
        bind (ih fun a member => each a (List.mem_cons_of_mem _ member)) fun _ => pure _

theorem foldlM {f : β → α → Run σ β} (xs : List α) (start : β)
    (each : ∀ b, ∀ a ∈ xs, Activity R (f b a)) : Activity R (xs.foldlM f start) := by
  induction xs generalizing start with
  | nil => exact pure start
  | cons x rest ih =>
      rw [List.foldlM_cons]
      exact bind (each start x (by simp)) fun b =>
        ih b fun b a member => each b a (List.mem_cons_of_mem _ member)

include carries

theorem aside {x : Run σ α} {g : World σ → α × World σ} (run : ∀ w, x.run w = some (g w))
    (same : ∀ w, Aside w (g w).2) : Activity R x :=
  change run fun w => carries.aside (same w)

theorem onUser (f : σ → α × σ) : Activity R (Run.onUser f) :=
  aside carries (Run.run_onUser f) fun _ => ⟨rfl, rfl, rfl, rfl, fun _ => rfl⟩

theorem notice (u : UserCode σ) (n : Notice) : Activity R (Run.notice u n) :=
  aside carries (Run.run_notice u n) fun _ => ⟨rfl, rfl, rfl, rfl, fun _ => rfl⟩

theorem fresh : Activity R (Run.fresh : Run σ Nat) :=
  aside carries Run.run_fresh fun _ => ⟨rfl, rfl, rfl, rfl, fun _ => rfl⟩

theorem onForest (f : Forest → α × Forest) : Activity R (Run.onForest f) :=
  aside carries (Run.run_onForest f) fun _ => ⟨rfl, rfl, rfl, rfl, fun _ => rfl⟩

theorem holding (z : Zone) {x : Run σ α} (inner : Activity R x) :
    Activity R (Run.holding z x) := by
  refine bind (aside carries (fun _ => rfl) fun _ => ⟨rfl, rfl, rfl, rfl, fun _ => rfl⟩)
    fun _ => bind inner fun a => bind ?_ fun _ => pure a
  exact aside carries (fun _ => rfl) fun _ => ⟨rfl, rfl, rfl, rfl, fun _ => rfl⟩

theorem construct (u : UserCode σ) (c : ClassRef) : Activity R (Run.construct u c) :=
  bind (fresh carries) fun o => bind
    (aside carries (fun _ => rfl) fun _ => ⟨rfl, rfl, rfl, rfl, fun _ => rfl⟩) fun _ => pure o

theorem refresh {u : UserCode σ} (obeys : u.Obeys R) (r : Refresh) : Activity R (r.run u) := by
  cases r with
  | named name => exact obeys.refresh name
  | bound node attr value object =>
      refine bind (part (.evaluate value object) obeys.handler obeys.refresh obeys.call) fun r => ?_
      cases r with
      | error e => exact pure _
      | ok v => exact bind (onForest carries _) fun _ => pure _

end Activity

end LiveTemplates
