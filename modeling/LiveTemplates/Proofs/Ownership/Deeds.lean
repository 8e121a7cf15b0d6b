/-
# LiveTemplates.Proofs.Ownership.Deeds -- activities that are written down

All that an activity can do with zones and instances, written down in steps.  It has nothing
in mind but its diary, and refers to zones and instances by their places there.  The user's
handlers, refreshes and methods are written down in the same way, and run inside of each
other down to some depth.

* `Deed`: one of these steps;
* `UserCode.acting`: a user whose code is written down;
* `Deed.plays`: whatever is written down notes what it does.
-/
import LiveTemplates.Proofs.Ownership.Diary

namespace LiveTemplates

set_option autoImplicit false

/-- One thing that an activity does. -/
inductive Deed where
  /-- Makes a zone in front of the document's dispatcher, or of another zone. -/
  | newZone (behind : Option Nat)
  | onTick (zone : Nat) (name : String)
  | removeTick (zone tick : Nat)
  | listen (zone : Nat) (node : NodeId) (event name : String)
  | unlisten (zone : Nat) (node : NodeId) (event name : String)
  /-- Attaches the blueprint that is compiled of a class. -/
  | attach (catalog : Catalog) (c : ClassRef) (host : NodeId) (zone : Nat)
  | detach (i : Nat)
  | tick (zone : Nat)
  | dispatch (node : NodeId) (event : String)

namespace Deed

/-- Does something with a zone that is noted.  Where none is noted there, it goes no further. -/
def onZone (k : Nat) (f : Zone → Run Diary Unit) : Run Diary Unit :=
  fun w => (w.user.zones[k]?).bind fun z => f z w

/-- Makes a zone, and notes it. -/
def opened (behind : Target) (w : World Diary) : World Diary :=
  { (w.newZone behind).2 with user := w.user.zone (w.newZone behind).1 }

/-- Does one thing, with some user's code, and notes it. -/
def run (u : UserCode Diary) : Deed → Run Diary Unit
  | newZone none => modify (opened (.dispatcher 0))
  | newZone (some k) => onZone k fun y => modify (opened (.zone y))
  | onTick k name => onZone k fun z => modify fun w =>
      let (n, v) := w.addRefresh z (.named name)
      { v with user := w.user.onTick z n name }
  | removeTick k n => onZone k fun z w =>
      if (z.id, n) ∈ w.user.ticks then
        some ((), { (w.removeRefresh z n).2 with user := w.user.removeTick z n })
      else none
  | listen k node event name => onZone k fun z => modify fun w =>
      let l : Listener := ⟨node, event, .named name⟩
      { w.addWrapped z l with user := w.user.listen z l }
  | unlisten k node event name => onZone k fun z => modify fun w =>
      let l : Listener := ⟨node, event, .named name⟩
      { (w.removeWrapped z l).2 with user := w.user.unlisten z l }
  | attach catalog c host k => onZone k fun z w => do
      let b ← (Compiler.after { serial := 0 } [(catalog, c)]).find? c
      let (i, v) ← (b.attach u host z).run w
      return ((), { v with user := v.user.attach i })
  | detach k => fun w => (w.user.known[k]?).map fun i =>
      ((), { i.detach w with user := w.user.detach i })
  | tick k => do
      match (← get).user.zones[k]? with
      | none => failure
      | some z => let _ ← z.tick u
  | dispatch node event => do let _ ← LiveTemplates.dispatch u 0 node event

/-- Does several things, one after the other. -/
def script (u : UserCode Diary) (deeds : List Deed) : Run Diary Unit :=
  deeds.forM (·.run u)

end Deed

/-- A user whose code is written down, run to some depth. -/
def UserCode.acting (scripts : String → List Deed) : Nat → UserCode Diary
  | 0 =>
    { get := fun _ _ s => (none, s)
      set := fun _ _ _ s => (.ok (), s)
      call := fun _ _ _ => failure
      handler := fun _ => failure
      refresh := fun _ => failure
      construct := fun _ _ s => s
      notice := fun _ s => s
      holds := fun _ _ => false }
  | n + 1 =>
    { acting scripts n with
      call := fun _ method _ => do
        Deed.script (acting scripts n) (scripts method)
        return .ok .undefined
      handler := fun name => Deed.script (acting scripts n) (scripts name)
      refresh := fun name => do
        Deed.script (acting scripts n) (scripts name)
        return .ok () }

namespace Deed

theorem keeps_onZone {R : World Diary → World Diary → Prop} {k : Nat}
    {f : Zone → Run Diary Unit} (each : ∀ {z w a v}, z ∈ w.user.zones →
      (f z).run w = some (a, v) → R w v) : Keeps R (onZone k f) := by
  intro w a v ran
  obtain ⟨z, found, ran⟩ := Option.bind_eq_some_iff.1 ran
  exact each (List.mem_of_getElem? found) ran

variable {u : UserCode Diary} (discreet : u.Discreet id)
  (handler : ∀ name, Play id (u.handler name)) (refresh : ∀ name, Play id (u.refresh name))
  (call : ∀ o method args, Play id (u.call o method args))

include discreet handler refresh call

/-- Whatever is done is noted. -/
theorem plays (deed : Deed) : Play id (deed.run u) := by
  cases deed with
  | newZone behind =>
      cases behind with
      | none =>
          refine .move (Keeps.total (fun _ => rfl) fun w => ?_)
          have known : ∀ y, Target.dispatcher 0 = .zone y → y ∈ w.user.zones := nofun
          exact .newZone known rfl
      | some k =>
          refine .move (keeps_onZone fun {y w a v} inside ran => ?_)
          obtain ⟨-, rfl⟩ := Prod.mk.inj (Option.some.inj ran)
          have known : ∀ z, Target.zone y = .zone z → z ∈ w.user.zones := by
            rintro z ⟨⟩
            exact inside
          exact .newZone known rfl
  | onTick k name =>
      refine .move (keeps_onZone fun {z w a v} inside ran => ?_)
      obtain ⟨-, rfl⟩ := Prod.mk.inj (Option.some.inj ran)
      exact .onTick inside rfl
  | removeTick k n =>
      refine .move (keeps_onZone fun {z w a v} inside ran => ?_)
      have ran : (if (z.id, n) ∈ w.user.ticks then some ((), { (w.removeRefresh z n).2 with
        user := w.user.removeTick z n }) else none) = some (a, v) := ran
      split at ran
      case isTrue own =>
        obtain ⟨-, rfl⟩ := Prod.mk.inj (Option.some.inj ran)
        exact .removeTick inside own rfl
      case isFalse => cases ran
  | listen k node event name =>
      refine .move (keeps_onZone fun {z w a v} inside ran => ?_)
      obtain ⟨-, rfl⟩ := Prod.mk.inj (Option.some.inj ran)
      exact .listen inside rfl
  | unlisten k node event name =>
      refine .move (keeps_onZone fun {z w a v} inside ran => ?_)
      obtain ⟨-, rfl⟩ := Prod.mk.inj (Option.some.inj ran)
      exact .unlisten inside rfl
  | attach catalog c host k =>
      refine .attach (u := u) (keeps_onZone fun {z w a v} inside ran => ?_) discreet call
      obtain ⟨b, found, later⟩ := Option.bind_eq_some_iff.1 ran
      obtain ⟨⟨i, x⟩, attached, same⟩ := Option.bind_eq_some_iff.1 later
      obtain ⟨-, rfl⟩ := Prod.mk.inj (Option.some.inj same)
      exact .intro (Compiler.made_after found) inside attached rfl
  | detach k =>
      refine .move fun w a v ran => ?_
      obtain ⟨i, found, same⟩ := Option.map_eq_some_iff.1 ran
      obtain ⟨-, rfl⟩ := Prod.mk.inj same
      exact .detach (List.mem_of_getElem? found) rfl
  | tick k =>
      refine .bind (.move (Keeps.total (fun _ => rfl) fun w => .beside ?_ rfl)) fun w => ?_
      · exact .of_zones rfl rfl (Nat.le_refl _)
      · cases w.user.zones[k]? with
        | none => exact .move nofun
        | some z => exact .bind (.part (.tick z) discreet handler refresh call) fun _ => .pure ()
  | dispatch node event =>
      exact .bind (.part (.dispatch 0 node event) discreet handler refresh call) fun _ => .pure ()

theorem script_plays (deeds : List Deed) : Play id (script u deeds) := by
  induction deeds with
  | nil => exact .pure ()
  | cons deed rest ih => exact .bind (deed.plays discreet handler refresh call) fun _ => ih

end Deed

namespace UserCode

variable (scripts : String → List Deed)

theorem acting_discreet (n : Nat) : (acting scripts n).Discreet id := by
  induction n with
  | zero => exact ⟨fun _ _ _ => rfl, fun _ _ _ _ => rfl, fun _ _ _ => rfl, fun _ _ => rfl⟩
  | succ n ih => exact ⟨ih.get, ih.set, ih.construct, ih.notice⟩

theorem acting_plays (n : Nat) :
    (∀ name, Play id ((acting scripts n).handler name)) ∧
      (∀ name, Play id ((acting scripts n).refresh name)) ∧
        ∀ o method args, Play id ((acting scripts n).call o method args) := by
  induction n with
  | zero => exact ⟨fun _ => .move nofun, fun _ => .move nofun, fun _ _ _ => .move nofun⟩
  | succ n ih =>
      obtain ⟨handler, refresh, call⟩ := ih
      have plays := Deed.script_plays (acting_discreet scripts n) handler refresh call
      exact ⟨fun name => plays (scripts name),
        fun name => .bind (plays (scripts name)) fun _ => .pure _, fun _ method _ => .bind (plays (scripts method)) fun _ => .pure _⟩

/-- Whatever is written down notes what it does. -/
theorem acting_script_plays (n : Nat) (deeds : List Deed) :
    Play id (Deed.script (acting scripts n) deeds) := by
  obtain ⟨handler, refresh, call⟩ := acting_plays scripts n
  exact Deed.script_plays (acting_discreet scripts n) handler refresh call deeds

end UserCode

end LiveTemplates
