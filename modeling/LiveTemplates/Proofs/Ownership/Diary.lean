/-
# LiveTemplates.Proofs.Ownership.Diary -- activities that take back only what is theirs

An activity gets at what it has registered only by what it was given for it: the zone, the
number of a refresh, its own handler, the instance.  Whoever keeps a diary of these can tell
at any time what it has registered directly and which instances are attached.

* `Diary`: what is noted in it;
* `Move`: a single change that goes with a note, and takes back nothing that is not noted;
* `Play`: activities that are built of such changes and of attaching compiled blueprints,
  with evaluations, ticks and dispatches in between that run such code again;
* `Binding.Holds`, `Instance.Owns`: what is registered for a binding, and for an instance: one
  entry for each compiled binding, on the copy of its element.
-/
import LiveTemplates.Proofs.Instance.Lineup
import LiveTemplates.Proofs.World.Registries

namespace LiveTemplates

set_option autoImplicit false

variable {σ : Type}

/-! ## Diaries -/

/-- What an activity knows of what it has done. -/
structure Diary where
  /-- The zones that it has made. -/
  zones : List Zone := []
  /-- The numbers of refreshes that it was given, each with the number of the zone. -/
  ticks : List (Nat × Nat) := []
  /-- The refreshes of its own that are registered: the number of the zone, that of the
  refresh, and its name. -/
  refreshes : List (Nat × Nat × String) := []
  /-- The listeners of its own that are registered, with the number of the zone. -/
  listeners : List (Nat × Listener) := []
  /-- The instances that it has attached, with those inside of them. -/
  known : List Instance := []
  /-- Those that have not been detached since. -/
  live : List Instance := []

namespace Diary

def zone (d : Diary) (z : Zone) : Diary :=
  { d with zones := d.zones ++ [z] }

def onTick (d : Diary) (z : Zone) (tick : Nat) (name : String) : Diary :=
  { d with ticks := (z.id, tick) :: d.ticks, refreshes := (z.id, tick, name) :: d.refreshes }

def removeTick (d : Diary) (z : Zone) (tick : Nat) : Diary :=
  { d with refreshes := d.refreshes.filter fun r => !(r.1 == z.id && r.2.1 == tick) }

def listen (d : Diary) (z : Zone) (l : Listener) : Diary :=
  { d with listeners := (z.id, l) :: d.listeners }

/-- All listeners with this handler for this event on this node are taken back. -/
def unlisten (d : Diary) (z : Zone) (l : Listener) : Diary :=
  { d with listeners := d.listeners.filter fun e => !World.concerns z l e }

def attach (d : Diary) (i : Instance) : Diary :=
  { d with known := d.known ++ i.all, live := d.live ++ i.all }

/-- An instance is detached with all instances inside of it. -/
def detach (d : Diary) (i : Instance) : Diary :=
  { d with live := d.live.filter fun j => j.serial ∉ i.all.map (·.serial) }

end Diary

/-! ## Activities -/

/-- The same is registered, and the same instances are attached. -/
structure World.Besides (w v : World σ) : Prop extends w.Refreshing v where
  wrappers : ∀ z, (v.zone z).wrappers = (w.zone z).wrappers
  attached : v.attached = w.attached
  later : w.serial ≤ v.serial

theorem World.Besides.of_zones {w v : World σ} (same : v.zones = w.zones)
    (attached : v.attached = w.attached) (later : w.serial ≤ v.serial) : w.Besides v :=
  ⟨.of_zones same, fun z => by rw [zone, zone, same], attached, later⟩

/-- A change by an activity, which notes it in its diary. -/
inductive Move (diary : σ → Diary) (w : World σ) : World σ → Prop
  /-- The user's own state changes, or nodes, or anything else that has nothing to do with
  what is registered with zones. -/
  | beside {v : World σ} (besides : w.Besides v) (same : diary v.user = diary w.user) :
      Move diary w v
  | newZone {behind : Target} (known : ∀ y, behind = .zone y → y ∈ (diary w.user).zones) {s : σ}
      (noted : diary s = (diary w.user).zone (w.newZone behind).1) :
      Move diary w { (w.newZone behind).2 with user := s }
  | onTick {z : Zone} (inside : z ∈ (diary w.user).zones) {name : String} {s : σ}
      (noted : diary s = (diary w.user).onTick z (w.addRefresh z (.named name)).1 name) :
      Move diary w { (w.addRefresh z (.named name)).2 with user := s }
  | removeTick {z : Zone} (inside : z ∈ (diary w.user).zones) {tick : Nat}
      (own : (z.id, tick) ∈ (diary w.user).ticks) {s : σ}
      (noted : diary s = (diary w.user).removeTick z tick) :
      Move diary w { (w.removeRefresh z tick).2 with user := s }
  | listen {z : Zone} (inside : z ∈ (diary w.user).zones) {node : NodeId} {event name : String}
      {s : σ} (noted : diary s = (diary w.user).listen z ⟨node, event, .named name⟩) :
      Move diary w { World.addWrapped z ⟨node, event, .named name⟩ w with user := s }
  | unlisten {z : Zone} (inside : z ∈ (diary w.user).zones) {node : NodeId} {event name : String}
      {s : σ} (noted : diary s = (diary w.user).unlisten z ⟨node, event, .named name⟩) :
      Move diary w { (World.removeWrapped z ⟨node, event, .named name⟩ w).2 with user := s }
  | detach {i : Instance} (known : i ∈ (diary w.user).known) {s : σ}
      (noted : diary s = (diary w.user).detach i) : Move diary w { i.detach w with user := s }

/-- The parts of the user's code that only change the user's own state note nothing. -/
structure UserCode.Discreet (diary : σ → Diary) (u : UserCode σ) : Prop where
  get : ∀ o member s, diary (u.get o member s).2 = diary s
  set : ∀ o member v s, diary (u.set o member v s).2 = diary s
  construct : ∀ c o s, diary (u.construct c o s) = diary s
  notice : ∀ n s, diary (u.notice n s) = diary s

/-- A compiled blueprint is attached to a zone that is noted, and then the instance is. -/
inductive Attaches (diary : σ → Diary) (u : UserCode σ) (w : World σ) : World σ → Prop
  | intro {b : Blueprint} (made : b.Made) {host : NodeId} {z : Zone}
      (inside : z ∈ (diary w.user).zones) {i : Instance} {v : World σ}
      (ran : (b.attach u host z).run w = some (i, v)) {s : σ}
      (noted : diary s = (diary v.user).attach i) : Attaches diary u w { v with user := s }

/-- What is built of changes that go with a note, one after the other, perhaps without an end,
with evaluations, ticks, dispatches and attaching in between that run such code again. -/
inductive Play (diary : σ → Diary) : {α : Type} → Run σ α → Prop
  | pure {α : Type} (a : α) : Play diary (pure a)
  | bind {α β : Type} {x : Run σ α} {f : α → Run σ β} (first : Play diary x)
      (later : ∀ a, Play diary (f a)) : Play diary (x >>= f)
  | move {α : Type} {x : Run σ α} (moves : Keeps (Move diary) x) : Play diary x
  | part {u : UserCode σ} {α : Type} {x : Run σ α} (part : Part u x) (discreet : u.Discreet diary)
      (handler : ∀ name, Play diary (u.handler name))
      (refresh : ∀ name, Play diary (u.refresh name))
      (call : ∀ o method args, Play diary (u.call o method args)) : Play diary x
  | attach {u : UserCode σ} {α : Type} {x : Run σ α} (attaches : Keeps (Attaches diary u) x)
      (discreet : u.Discreet diary) (call : ∀ o method args, Play diary (u.call o method args)) :
      Play diary x

/-- An activity keeps to a relation if all that goes with notes does. -/
theorem Play.keeps {diary : σ → Diary} {R : World σ → World σ → Prop}
    (trans : ∀ ⦃w v x⦄, R w v → R v x → R w x) (moves : ∀ {w v}, Move diary w v → R w v)
    (hosts : ∀ {u : UserCode σ}, u.Discreet diary → Hosts u R)
    (attaches : ∀ {u : UserCode σ}, u.Discreet diary →
      (∀ o method args, Keeps R (u.call o method args)) →
        ∀ {w v}, Attaches diary u w v → R w v)
    {α : Type} {x : Run σ α} (play : Play diary x) : Keeps R x := by
  induction play with
  | pure a =>
      exact Keeps.total (fun _ => rfl) fun w =>
        moves (.beside (.of_zones rfl rfl (Nat.le_refl _)) rfl)
  | bind _ _ first later => exact Keeps.bind trans first later
  | move each => exact fun w a v ran => moves (each w a v ran)
  | part part discreet _ _ _ handler refresh call =>
      exact part.keeps (hosts discreet) ⟨handler, refresh, call⟩
  | attach each discreet _ call => exact fun w a v ran => attaches discreet call (each w a v ran)

/-! ## What is registered -/

/-- What is registered for somebody with one zone. -/
structure Share where
  refreshes : List (Nat × Refresh) := []
  listeners : List Listener := []

/-- What is registered for a binding on a live node: nothing for a broken one, one refresh for
an input and one listener for an output. -/
inductive Binding.Holds (b : Binding) (live : NodeId) (o : ObjectId) : Share → Prop
  | broken {e : ExpressionError} (broken : b.expression = .error e) : Holds b live o {}
  | input {e : Expression} (kind : b.kind = .input) (compiled : b.expression = .ok e)
      (tick : Nat) : Holds b live o { refreshes := [(tick, .bound live b.name e o)] }
  | output {e : Expression} (kind : b.kind = .output) (compiled : b.expression = .ok e)
      (serial : Nat) :
      Holds b live o { listeners := [⟨live, b.name, .bound serial b.name e o⟩] }

/-- What is registered for an instance: what is registered for each of its bindings, on the
copy of the binding's element. -/
def Instance.Owns (σ : Type) (i : Instance) (h : Share) : Prop :=
  ∃ (u : UserCode σ) (places : List (List Nat × NodeId)) (parts : List Share),
    i.Copied u places ∧
    List.Forall₂ (fun b part => ∃ live, (b.1.address, live) ∈ places ∧
      b.2.Holds live i.object part) i.blueprint.bindings parts ∧
    h.refreshes.Perm (parts.flatMap (·.refreshes)) ∧
    h.listeners.Perm (parts.flatMap (·.listeners))

end LiveTemplates
