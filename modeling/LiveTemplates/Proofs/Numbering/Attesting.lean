/-
# LiveTemplates.Proofs.Numbering.Attesting -- the minutes are of what is done, and well kept

An activity that takes minutes attests an activity of the world if it comes to the same in the same
world, and if the minutes of each zone go on to be well kept, be it that the activity returns or
that it comes to no end (`Attests`).

Only registering refreshes and taking them back needs a minute: all else leaves the refreshes of all
zones as they are (`World.Unbooked`).  What is put together of parts that attest each other does
so, too.  So do evaluations, ticks and dispatches, if the user's methods, handlers and refreshes do:

* `Desk.Leads.noted`, `Attests.addRefresh`, `Attests.removeRefresh`: what a minute stands for;
* `Attests.bind`, `Attests.step`, `Attests.foldlM`: how activities are put together;
* `Attests.evaluate`, `Attests.tick`, `Attests.dispatch`.
-/
import LiveTemplates.Proofs.Numbering.Minuting
import LiveTemplates.Proofs.World.Registries
import LiveTemplates.Proofs.World.Stepwise

namespace LiveTemplates

set_option autoImplicit false

variable {σ : Type}

/-! ## Where nothing is to be minuted -/

namespace World

/-- There are no fewer zones, with the same refreshes. -/
structure Unbooked (w v : World σ) : Prop where
  size : w.zones.size ≤ v.zones.size
  refreshes : ∀ z, (v.zone z).refreshes = (w.zone z).refreshes
  nextTick : ∀ z, (v.zone z).nextTick = (w.zone z).nextTick

namespace Unbooked

variable {w v x : World σ}

theorem of_refreshing (same : w.Refreshing v) : w.Unbooked v :=
  ⟨Nat.le_of_eq same.size.symm, same.refreshes, same.nextTick⟩

theorem of_zones (same : v.zones = w.zones) : w.Unbooked v :=
  of_refreshing (.of_zones same)

/-- Listeners are registered or taken back. -/
theorem of_rewired (rewired : w.Rewired v) : w.Unbooked v :=
  of_refreshing rewired.toRefreshing

theorem refl (w : World σ) : w.Unbooked w :=
  of_zones rfl

theorem trans (first : w.Unbooked v) (second : v.Unbooked x) : w.Unbooked x where
  size := Nat.le_trans first.size second.size
  refreshes z := (second.refreshes z).trans (first.refreshes z)
  nextTick z := (second.nextTick z).trans (first.nextTick z)

/-- A zone counts a tick. -/
theorem ticked (w : World σ) (z : Zone) :
    w.Unbooked (w.onZone z fun s => { s with ticks := s.ticks + 1 }) := by
  refine ⟨by simp [onZone], fun y => ?_, fun y => ?_⟩
  all_goals
    rw [zone_onZone]
    split <;> rfl

/-- A new zone has no refreshes. -/
theorem newZone (w : World σ) (behind : Target) : w.Unbooked (w.newZone behind).2 := by
  have zone (z : Zone) : (w.newZone behind).2.zone z = w.zone z := by
    simp only [World.newZone, World.zone, Array.getElem?_push]
    split
    case isTrue last => simp [last]
    case isFalse => rfl
  exact ⟨by simp [World.newZone], fun z => by rw [zone], fun z => by rw [zone]⟩

/-- Listeners and nodes are taken back. -/
theorem takeBack (w : World σ) (z : Zone) (host : NodeId) (listeners : List Listener)
    (mounted : List NodeId) : w.Unbooked (w.takeBack z host ⟨[], listeners, mounted⟩) := by
  have unlisted : w.Unbooked (listeners.foldl (fun w l => (w.removeWrapped z l).2) w) :=
    List.foldlRecOn (motive := w.Unbooked) _ _ (refl w) fun v unbooked l _ =>
      unbooked.trans (of_rewired (.removeWrapped z l v))
  exact List.foldlRecOn (motive := w.Unbooked) _ _ unlisted fun v unbooked n _ =>
    unbooked.trans (of_zones rfl)

end Unbooked

end World

/-! ## Desks -/

namespace Desk

/-- The minutes of a zone. -/
def minutesOf (s : Desk σ) (z : Zone) : List Minute :=
  s.minutes.filter (·.zone = z.id)

/-- The minutes of a zone are well kept. -/
structure Sound (z : Zone) (s : Desk σ) : Prop where
  opened : z.id < s.world.zones.size
  kept : WellKept (s.minutesOf z) (s.world.zone z)

/-- Minutes that are well kept go on to be. -/
def Leads (s t : Desk σ) : Prop :=
  ∀ z, s.Sound z → t.Sound z

/-- An activity ends in the same way with and without minutes: with a result, or not at all. -/
inductive Ends (s : Desk σ) {α : Type} : Option (α × World σ) → Option α × Desk σ → Prop
  | done {a : α} {t : Desk σ} (leads : s.Leads t) : Ends s (some (a, t.world)) (some a, t)
  | endless {t : Desk σ} (leads : s.Leads t) : Ends s none (none, t)

namespace Leads

variable {s t r : Desk σ}

theorem refl (s : Desk σ) : s.Leads s :=
  fun _ => id

theorem trans (first : s.Leads t) (second : t.Leads r) : s.Leads r :=
  fun z sound => second z (first z sound)

/-- What does not concern refreshes is not minuted. -/
theorem of_unbooked {w : World σ} (unbooked : s.world.Unbooked w) : s.Leads { s with world := w } :=
  fun z sound => ⟨Nat.lt_of_lt_of_le sound.opened unbooked.size,
    sound.kept.congr (unbooked.refreshes z) (unbooked.nextTick z)⟩

/-- The registries of a zone are changed, and this is minuted.  The minutes of other zones stay as
they are. -/
theorem noted (s : Desk σ) (z : Zone) (booking : Booking) (f : ZoneState → ZoneState)
    (keeps : ∀ {log : List Minute} {t : ZoneState}, WellKept log (s.world.zone z) →
      t = f (s.world.zone z) → WellKept (⟨z.id, booking, s.world.zone z, t⟩ :: log) t) :
    s.Leads ⟨s.world.onZone z f,
      ⟨z.id, booking, s.world.zone z, (s.world.onZone z f).zone z⟩ :: s.minutes⟩ := by
  intro y sound
  refine ⟨by simpa [World.onZone] using sound.opened, ?_⟩
  by_cases same : z.id = y.id
  case pos =>
    have zone (w : World σ) : w.zone y = w.zone z := by rw [World.zone, World.zone, same]
    have changed : (s.world.onZone z f).zone z = f (s.world.zone z) := by
      rw [World.zone_onZone, if_pos ⟨rfl, same ▸ sound.opened⟩]
    have kept := sound.kept
    rw [zone] at kept
    rw [minutesOf, List.filter_cons_of_pos (by simpa using same)]
    show WellKept _ ((s.world.onZone z f).zone y)
    rw [zone]
    exact keeps kept changed
  case neg =>
    rw [minutesOf, List.filter_cons_of_neg (by simpa using same)]
    show WellKept _ ((s.world.onZone z f).zone y)
    rw [World.zone_onZone, if_neg fun both => same both.1]
    exact sound.kept

end Leads

theorem Ends.after {α : Type} {s t : Desk σ} {r : Option (α × World σ)} {e : Option α × Desk σ}
    (leads : s.Leads t) (ends : t.Ends r e) : s.Ends r e := by
  cases ends with
  | done later => exact .done (leads.trans later)
  | endless later => exact .endless (leads.trans later)

end Desk

/-! ## Outcomes -/

namespace Minuted

variable {α β : Type}

theorem exec_bind (x : Minuted σ α) (f : α → Minuted σ β) (s : Desk σ) :
    (x >>= f).exec s = match x.exec s with
      | (some a, t) => (f a).exec t
      | (none, t) => (none, t) := by
  simp only [exec, OptionT.run_bind, Option.elimM, StateT.run_bind]
  rcases (OptionT.run x).run s with ⟨_ | a, t⟩ <;> rfl

theorem exec_plain (x : Run σ α) (s : Desk σ) :
    (plain x).exec s = match x.run s.world with
      | none => (none, s)
      | some (a, w) => (some a, { s with world := w }) := rfl

end Minuted

/-- An activity that takes minutes comes to what an activity of the world comes to, and its minutes
are well kept. -/
def Attests {α : Type} (x : Run σ α) (y : Minuted σ α) : Prop :=
  ∀ s : Desk σ, s.Ends (x.run s.world) (y.exec s)

/-- The user's methods, handlers and refreshes do the same when they take minutes. -/
structure Scribe.Honest (t : Scribe σ) (u : UserCode σ) : Prop where
  call : ∀ o method args, Attests (u.call o method args) (t.call o method args)
  handler : ∀ name, Attests (u.handler name) (t.handler name)
  refresh : ∀ name, Attests (u.refresh name) (t.refresh name)

namespace Attests

open Minuted

variable {α β : Type}

/-! ## Step by step -/

theorem pure (a : α) : Attests (Pure.pure a : Run σ α) (Pure.pure a) :=
  fun s => .done (.refl s)

theorem endless : Attests (failure : Run σ α) (failure : Minuted σ α) :=
  fun s => .endless (.refl s)

/-- What does the same as an activity is attested in the same way. -/
theorem congr {x x' : Run σ α} {y : Minuted σ α} (attests : Attests x y)
    (same : ∀ w, x'.run w = x.run w) : Attests x' y :=
  fun s => same s.world ▸ attests s

theorem bind {x : Run σ α} {y : Minuted σ α} {f : α → Run σ β} {g : α → Minuted σ β}
    (first : Attests x y) (later : ∀ a, Attests (f a) (g a)) : Attests (x >>= f) (y >>= g) := by
  intro s
  have ends := first s
  rw [StateT.run_bind, exec_bind]
  generalize x.run s.world = outcome, y.exec s = outcome' at ends
  cases ends with
  | done leads => exact (later _ _).after leads
  | endless leads => exact .endless leads

/-- What does not concern refreshes. -/
theorem plain {x : Run σ α} (unbooked : ∀ w a v, x.run w = some (a, v) → w.Unbooked v) :
    Attests x (Minuted.plain x) := by
  intro s
  rw [exec_plain]
  cases ran : x.run s.world with
  | none => exact .endless (.refl s)
  | some p => exact .done (t := { s with world := p.2 }) (.of_unbooked (unbooked _ _ _ ran))

/-- A step that always comes to an end, and does not concern refreshes. -/
theorem step {x : Run σ α} {f : World σ → α × World σ} (run : ∀ w, x.run w = some (f w))
    (unbooked : ∀ w : World σ, w.Unbooked (f w).2) : Attests x (Minuted.plain x) := by
  refine plain fun w a v ran => ?_
  rw [run, Option.some.injEq] at ran
  have later := unbooked w
  rwa [ran] at later

/-- A step that leaves all zones as they are. -/
theorem aside {x : Run σ α} {f : World σ → α × World σ} (run : ∀ w, x.run w = some (f w))
    (zones : ∀ w, (f w).2.zones = w.zones) : Attests x (Minuted.plain x) :=
  step run fun w => .of_zones (zones w)

theorem get : Attests (MonadState.get : Run σ (World σ)) (Minuted.plain MonadState.get) :=
  aside (fun _ => rfl) fun _ => rfl

/-! ## Registering, and taking back -/

theorem addRefresh (z : Zone) (r : Refresh) :
    Attests (modifyGet (·.addRefresh z r) : Run σ Nat) (Minuted.addRefresh z r) := by
  intro s
  exact .done (.noted s z _ _ fun kept same => kept.register z.id r same)

theorem removeRefresh (z : Zone) (n : Nat) :
    Attests (modifyGet (·.removeRefresh z n) : Run σ Bool) (Minuted.removeRefresh z n) := by
  intro s
  exact .done (.noted s z _ _ fun kept same => kept.takeBack z.id n same)

/-! ## One thing after the other -/

theorem stepwise : Stepwise fun (α : Type) (x : Run σ α) (y : Minuted σ α) => Attests x y where
  pure a := pure a
  bind first later := bind first later

theorem foldlM {f : β → α → Run σ β} {g : β → α → Minuted σ β}
    (each : ∀ b a, Attests (f b a) (g b a)) (as : List α) (b : β) :
    Attests (as.foldlM f b) (as.foldlM g b) :=
  stepwise.foldlM each as b

theorem forM {f : α → Run σ Unit} {g : α → Minuted σ Unit} (each : ∀ a, Attests (f a) (g a))
    (as : List α) : Attests (as.forM f) (as.forM g) :=
  stepwise.forM each as

theorem mapM {f : α → Run σ β} {g : α → Minuted σ β} (each : ∀ a, Attests (f a) (g a))
    (as : List α) : Attests (as.mapM f) (as.mapM g) :=
  stepwise.mapM each as

theorem holding (z : Zone) {x : Run σ α} {y : Minuted σ α} (attests : Attests x y) :
    Attests (Run.holding z x) (Minuted.holding z y) :=
  bind (aside (fun _ => rfl) fun _ => rfl) fun _ => bind attests fun a =>
    bind (aside (fun _ => rfl) fun _ => rfl) fun _ => pure a

theorem borrowing (o : ObjectId) {x : Run σ α} {y : Minuted σ α} (attests : Attests x y) :
    Attests (Run.borrowing o x) (Minuted.borrowing o y) :=
  bind (aside (fun _ => rfl) fun _ => rfl) fun _ => bind attests fun a =>
    bind (aside (fun _ => rfl) fun _ => rfl) fun _ => pure a

/-! ## Evaluating, ticks and dispatches -/

theorem notice (u : UserCode σ) (n : Notice) :
    Attests (Run.notice u n) (Minuted.plain (Run.notice u n)) :=
  aside (fun _ => rfl) fun _ => rfl

section User

variable {u : UserCode σ} {t : Scribe σ} (honest : t.Honest u)

include honest

/-- What a program can reach is reached in the same way. -/
theorem eval (p : Program) (o : ObjectId) :
    Attests (p.eval (u.scope o)).run (p.eval (Minuted.scope u t o)).run :=
  stepwise.eval (fun _ => aside (Run.run_onUser _) fun _ => rfl)
    (fun _ _ => aside (Run.run_onUser _) fun _ => rfl)
    fun method _ args => honest.call o method args

theorem evaluate (e : Expression) (o : ObjectId) :
    Attests (e.evaluate u o) (Minuted.evaluate u t e o) := by
  refine congr (bind get
    (f := fun w => if w.busy.contains o then return .error (.reentrant e.source)
      else Run.borrowing o (e.program.eval (u.scope o)).run)
    (g := fun w => if w.busy.contains o then return .error (.reentrant e.source)
      else Minuted.borrowing o (e.program.eval (Minuted.scope u t o)).run)
    fun w => ?_) fun w => ?_
  · by_cases busy : w.busy.contains o = true
    case pos =>
      rw [if_pos busy, if_pos busy]
      exact pure _
    case neg =>
      rw [if_neg busy, if_neg busy]
      exact borrowing o (eval honest e.program o)
  · rw [Expression.run_evaluate]
    show _ = (if w.busy.contains o then _ else _ : Run σ _).run w
    split <;> rfl

theorem refresh (r : Refresh) : Attests (r.run u) (Minuted.refresh u t r) := by
  cases r with
  | named name => exact honest.refresh name
  | bound node attr value object =>
      refine bind (evaluate honest value object) fun r => ?_
      cases r with
      | error e => exact pure (Except.error e)
      | ok x => exact bind (aside (Run.run_onForest _) fun _ => rfl) fun _ => pure (Except.ok ())

theorem addReport (report : TickReport) (entry : Nat × Refresh) :
    Attests (report.add u entry) (Minuted.addReport u t report entry) := by
  refine bind (refresh honest entry.2) fun r => ?_
  cases r with
  | ok _ => exact pure _
  | error e => exact bind (notice u _) fun _ => pure _

theorem tick (z : Zone) : Attests (z.tick u) (Minuted.tick u t z) := by
  refine holding z (bind get fun w => ?_)
  refine bind (step (fun _ => rfl) fun w => .ticked w z) fun _ => ?_
  exact foldlM (addReport honest) _ {}

theorem handle (h : Handler) : Attests (h.run u) (Minuted.handle u t h) := by
  induction h with
  | named name => exact honest.handler name
  | bound serial event action object =>
      refine bind (evaluate honest action object) fun r => ?_
      cases r with
      | ok _ => exact pure ()
      | error e => exact notice u _
  | wrapped serial zone inner ih =>
      refine bind ih fun _ => bind get fun w => ?_
      cases w.alive u zone.id with
      | true => exact bind (tick honest zone) fun _ => pure ()
      | false => exact pure ()

theorem dispatch (d : Nat) (node : NodeId) (event : String) :
    Attests (LiveTemplates.dispatch u d node event) (Minuted.dispatch u t d node event) :=
  bind get fun _ => bind (forM (handle honest) _) fun _ => pure _

end User

end Attests

end LiveTemplates
