/-
# LiveTemplates.Proofs.Calls.Fitting -- what attaching a binding adds

Methods that stay out of the framework work on the user's own state and look at the world.  So
while an input shows its value, nothing is registered but the input itself, and nothing is called.

* `Routine.Inward`, `Tells.inward`: routines that stay out of the framework tell nothing;
* `Fitting`: what is fitted where an instance is attached, `Episode.fittings`: as it is told;
* `Lays`: inputs are registered behind what a zone has, under numbers in a row, and are shown in
  this order; no object is busy meanwhile that was not before;
* `World.Lasts`: registrations of some instances are the same, and nodes are mended;
* `Tells.binds`: attaching a binding.
-/
import LiveTemplates.Proofs.Calls.Copying
import LiveTemplates.Proofs.Calls.Ticks
import LiveTemplates.Proofs.Instance.Composition
import LiveTemplates.Proofs.Instance.Mounting
import LiveTemplates.Proofs.World.Registries

namespace LiveTemplates

set_option autoImplicit false

variable {σ α : Type}

/-! ## Staying out of the framework -/

/-- A routine works on the user's own state and looks at the world; it may go on for ever. -/
def Routine.Inward {α : Type} : Routine σ α → Prop
  | .pure _ => True
  | .bind x f => x.Inward ∧ ∀ a, (f a).Inward
  | .endless => True
  | .own _ => True
  | .look .. => True
  | _ => False

/-- The methods stay out of the framework that a refresh calls in an evaluation. -/
def Refresh.Inward (c : Code σ) (r : Refresh) : Prop :=
  ∀ live name e o, r = .bound live name e o →
    ∀ method, e.program.Calls method → ∀ args, (c.call o method args).Inward

/-- Nothing is called, and at most the user's own state has changed. -/
def Aloof (w : World σ) (es : List (Episode σ)) (v : World σ) : Prop :=
  es = [] ∧ ∃ s, v = { w with user := s }

theorem Aloof.refl (w : World σ) : Aloof w [] w :=
  ⟨rfl, w.user, rfl⟩

theorem Aloof.chains : Chains (Aloof (σ := σ)) := by
  rintro w es v fs x ⟨rfl, s, rfl⟩ ⟨rfl, t, rfl⟩
  exact ⟨rfl, t, rfl⟩

/-- A routine that stays out of the framework tells nothing. -/
theorem Tells.inward (u : UserCode σ) (t : Teller σ) {x : Routine σ α} (inward : x.Inward) :
    Tells (fun _ => Aloof) (x.run u) (x.tell u t) := by
  induction x with
  | pure a => exact plain fun w _ v ran => (Run.pure_eq_some.1 ran).2 ▸ .refl w
  | bind _ _ first later => exact seq Aloof.chains (first inward.1) fun a => later a (inward.2 a)
  | endless => exact plain fun _ _ _ ran => nomatch ran
  | own f =>
      exact (step (Run.run_onUser f)).imp fun _ w _ _ ⟨_, es, same⟩ => ⟨es, (f w.user).2, same⟩
  | look cells f =>
      exact (step (f := fun w => (f w, w)) fun _ => rfl).imp fun _ w _ _ ⟨_, es, same⟩ =>
        ⟨es, w.user, same⟩
  | _ => exact inward.elim

/-- So do the methods that a refresh calls, to any depth. -/
theorem Refresh.Inward.tells {c : Code σ} {live : NodeId} {name : String} {e : Expression}
    {o : ObjectId} (inward : Refresh.Inward c (.bound live name e o)) (depth : Nat) :
    ∀ method, e.program.Calls method → ∀ args,
      Tells (fun _ => Aloof) ((c.user depth).call o method args)
        ((c.teller depth).call o method args) := by
  intro method calls args
  cases depth with
  | zero => exact .endless
  | succ n => exact .inward _ _ (inward live name e o rfl method calls args)

/-- Nothing is called, and besides the user's own state a node has changed. -/
def Shown (live : NodeId) (w : World σ) (es : List (Episode σ)) (v : World σ) : Prop :=
  es = [] ∧ ∃ s forest, v = { w with user := s, forest := forest } ∧ forest.size = w.forest.size ∧
    (live < w.forest.size → w.forest.Dresses forest live)

theorem Shown.bearing (live : NodeId) : Bearing (Shown (σ := σ) live) where
  chains := by
    rintro w es v fs x ⟨rfl, s, f, rfl, size, dresses⟩ ⟨rfl, t, g, rfl, size', dresses'⟩
    refine ⟨rfl, t, g, rfl, size'.trans size, fun inside => ?_⟩
    exact (dresses inside).trans (dresses' (Nat.lt_of_lt_of_eq inside size.symm)) inside
  own w s := ⟨rfl, s, w.forest, rfl, rfl, fun _ => .refl _ _⟩
  borrowed := by
    rintro w es v o ⟨rfl, s, f, rfl, size, dresses⟩
    exact ⟨rfl, s, f, by simp, size, dresses⟩

/-- An input shows its value, and nothing is called. -/
theorem Tells.shown {c : Code σ} {live : NodeId} {name : String} {e : Expression} {o : ObjectId}
    (inward : Refresh.Inward c (.bound live name e o)) (depth : Nat) :
    Tells (fun _ => Shown live) (Refresh.run (c.user depth) (.bound live name e o))
      (Told.refresh (c.user depth) (c.teller depth) (.bound live name e o)) := by
  refine refreshBound (Shown.bearing live) (fun method calls args => ?_) fun w text => ?_
  · refine (inward.tells depth method calls args).imp fun _ w es v aloof => ?_
    obtain ⟨rfl, s, rfl⟩ := aloof
    exact (Shown.bearing live).own w s
  · refine ⟨rfl, w.user, _, rfl, ?_, fun _ => .setAttr w.forest live name text⟩
    simp [Forest.setAttr]

/-! ## What is fitted -/

/-- What is fitted where an instance is attached: the instance, or a binding on a live node. -/
inductive Fitting where
  | mount (i : Instance)
  | binding (b : Binding) (live : NodeId) (o : ObjectId)

/-- The refresh that an input registers, if it has compiled. -/
def Fitting.input? : Fitting → Option Refresh
  | .mount _ => none
  | .binding b live o =>
    match b.kind, b.expression with
    | .input, .ok e => some (.bound live b.name e o)
    | _, _ => none

/-- A binding is fitted if it has compiled. -/
def Binding.fitting (b : Binding) (live : NodeId) (o : ObjectId) : List Fitting :=
  match b.expression with
  | .ok _ => [.binding b live o]
  | .error _ => []

/-- Refreshes under numbers in a row. -/
def Refresh.inRow (first : Nat) (rs : List Refresh) : List (Nat × Refresh) :=
  (rs.zipIdx first).map Prod.swap

theorem Refresh.inRow_append (first : Nat) (rs more : List Refresh) :
    inRow first (rs ++ more) = inRow first rs ++ inRow (first + rs.length) more := by
  rw [inRow, inRow, inRow, List.zipIdx_append, List.map_append]

namespace Episode

/-- What was fitted in a call, by itself. -/
def fitting? : Episode σ → Option Fitting
  | mk (.mount i) _ _ _ => some (.mount i)
  | mk (.binding b live o _ (some _)) _ _ _ => some (.binding b live o)
  | _ => none

/-- What was fitted in some calls, an instance before what was fitted inside of it. -/
def fittings (es : List (Episode σ)) : List Fitting :=
  (allOf es).filterMap fitting?

/-- The refreshes that were run in some calls, with the numbers of their zones and their own. -/
def refreshes (es : List (Episode σ)) : List (Nat × Nat × Refresh) :=
  (allOf es).filterMap refresh?

/-- The inputs that were registered in some calls. -/
def inputs (es : List (Episode σ)) : List Refresh :=
  (fittings es).filterMap Fitting.input?

theorem fittings_append (es fs : List (Episode σ)) :
    fittings (es ++ fs) = fittings es ++ fittings fs := by
  rw [fittings, allOf_append, List.filterMap_append]
  rfl

theorem refreshes_append (es fs : List (Episode σ)) :
    refreshes (es ++ fs) = refreshes es ++ refreshes fs := by
  rw [refreshes, allOf_append, List.filterMap_append]
  rfl

theorem inputs_append (es fs : List (Episode σ)) : inputs (es ++ fs) = inputs es ++ inputs fs := by
  rw [inputs, fittings_append, List.filterMap_append]
  rfl

/-- The call in which an instance was mounted. -/
theorem fittings_mount (i : Instance) (w v : World σ) (es : List (Episode σ)) :
    fittings [mk (.mount i) w v es] = .mount i :: fittings es := by
  rw [fittings, allOf_mk]
  rfl

theorem refreshes_mount (i : Instance) (w v : World σ) (es : List (Episode σ)) :
    refreshes [mk (.mount i) w v es] = refreshes es := by
  rw [refreshes, allOf_mk]
  rfl

theorem inputs_mount (i : Instance) (w v : World σ) (es : List (Episode σ)) :
    inputs [mk (.mount i) w v es] = inputs es := by
  rw [inputs, fittings_mount]
  rfl

end Episode

open Episode

/-! ## Inputs in a row -/

/-- The inputs that are told were registered behind what a zone had, under numbers in a row, and
were shown in this order.  No object is busy meanwhile that was not before. -/
structure Lays (z : Zone) (w : World σ) (es : List (Episode σ)) (v : World σ) : Prop where
  zones : v.zones.size = w.zones.size
  registered : z.id < w.zones.size →
    (v.zone z).refreshes = (w.zone z).refreshes ++ Refresh.inRow (w.zone z).nextTick (inputs es)
  next : z.id < w.zones.size → (v.zone z).nextTick = (w.zone z).nextTick + (inputs es).length
  shown : z.id < w.zones.size →
    refreshes es = (Refresh.inRow (w.zone z).nextTick (inputs es)).map (z.id, ·)
  others : ∀ y : Zone, y.id ≠ z.id →
    (v.zone y).refreshes = (w.zone y).refreshes ∧ (v.zone y).nextTick = (w.zone y).nextTick
  busy : v.busy = w.busy
  free : ∀ e ∈ allOf es, e.before.busy = w.busy

namespace Lays

variable {z : Zone} {w v x : World σ} {es fs : List (Episode σ)}

/-- Nothing is registered and nothing called. -/
theorem of_refreshing (same : w.Refreshing v) (busy : v.busy = w.busy) : Lays z w [] v where
  zones := same.size
  registered _ := by rw [same.refreshes]; exact (List.append_nil _).symm
  next _ := same.nextTick z
  shown _ := rfl
  others y _ := ⟨same.refreshes y, same.nextTick y⟩
  busy := busy
  free := nofun

theorem of_zones (same : v.zones = w.zones) (busy : v.busy = w.busy) : Lays z w [] v :=
  of_refreshing (.of_zones same) busy

theorem chains (z : Zone) : Chains (Lays (σ := σ) z) := by
  intro w es v fs x first second
  have there (inside : z.id < w.zones.size) : z.id < v.zones.size := first.zones.symm ▸ inside
  refine ⟨second.zones.trans first.zones, fun inside => ?_, fun inside => ?_, fun inside => ?_,
    fun y other => ?_, second.busy.trans first.busy, fun e member => ?_⟩
  · rw [second.registered (there inside), first.registered inside, first.next inside,
      inputs_append, Refresh.inRow_append, List.append_assoc]
  · rw [second.next (there inside), first.next inside, inputs_append, List.length_append,
      Nat.add_assoc]
  · rw [refreshes_append, first.shown inside, second.shown (there inside), first.next inside,
      inputs_append, Refresh.inRow_append, List.map_append]
  · obtain ⟨refreshes, next⟩ := second.others y other
    obtain ⟨refreshes', next'⟩ := first.others y other
    exact ⟨refreshes.trans refreshes', next.trans next'⟩
  · rw [allOf_append] at member
    rcases List.mem_append.1 member with here | there
    · exact first.free e here
    · rw [second.free e there, first.busy]

/-- An instance that was mounted adds no input itself. -/
theorem mount (i : Instance) (lays : Lays z w es v) : Lays z w [.mk (.mount i) w v es] v where
  zones := lays.zones
  registered := by rw [inputs_mount]; exact lays.registered
  next := by rw [inputs_mount]; exact lays.next
  shown := by rw [inputs_mount, refreshes_mount]; exact lays.shown
  others := lays.others
  busy := lays.busy
  free := by
    rw [allOf_mk]
    exact List.forall_mem_cons.2 ⟨rfl, lays.free⟩

end Lays

/-! ## What lasts -/

namespace World

/-- The node that was mounted for an instance at an address of its template. -/
def clone? (w : World σ) (i : Instance) (address : List Nat) : Option NodeId :=
  (w.registrations? i.serial).bind fun r => w.forest.descendFrom r.mounted address

/-- Instances with numbers between one that is given and the next one have the same
registrations, and nodes from some number on are mended. -/
structure Lasts (first low : Nat) (w v : World σ) : Prop where
  later : w.serial ≤ v.serial
  registrations : ∀ n, first ≤ n → n < w.serial → v.registrations? n = w.registrations? n
  forest : w.forest.Mends low v.forest

namespace Lasts

variable {first low first' low' : Nat} {w v x : World σ}

theorem refl (first low : Nat) (w : World σ) : w.Lasts first low w :=
  ⟨Nat.le_refl _, fun _ _ _ => rfl, .refl low w.forest⟩

theorem trans (before : w.Lasts first low v) (behind : v.Lasts first low x) : w.Lasts first low x where
  later := Nat.le_trans before.later behind.later
  registrations n more less := (behind.registrations n more (Nat.lt_of_lt_of_le less before.later)).trans
    (before.registrations n more less)
  forest := before.forest.trans behind.forest

theorem raise (lasts : w.Lasts first low v) (more : first ≤ first') (new : low ≤ low') :
    w.Lasts first' low' v :=
  ⟨lasts.later, fun n above => lasts.registrations n (Nat.le_trans more above), lasts.forest.raise new⟩

theorem of_attached (later : w.serial ≤ v.serial) (attached : v.attached = w.attached)
    (forest : w.forest.Mends low v.forest) : w.Lasts first low v :=
  ⟨later, fun n _ _ => by rw [registrations?, registrations?, attached], forest⟩

end Lasts

end World

/-! ## Bindings -/

/-- A binding has been attached to a live node. -/
structure Binding.Binds (b : Binding) (live : NodeId) (o : ObjectId) (z : Zone) (w : World σ)
    (es : List (Episode σ)) (v : World σ) : Prop where
  lays : Lays z w es v
  fittings : Episode.fittings es = b.fitting live o
  lasts : live < w.forest.size → w.Lasts 0 0 v
  dresses : live < w.forest.size → w.forest.Dresses v.forest live

namespace Binding.Binds

variable {b : Binding} {live : NodeId} {o : ObjectId} {z : Zone} {e : Expression} {w v : World σ}

/-- A broken binding is passed over. -/
theorem broken {error : ExpressionError} (compiled : b.expression = .error error) (w : World σ)
    (s : σ) : b.Binds live o z w [.mk (.binding b live o z none) w { w with user := s } []]
      { w with user := s } where
  lays :=
    { Lays.of_zones rfl rfl with
      free := by rw [allOf_mk]; exact List.forall_mem_singleton.2 rfl }
  fittings := by rw [fitting, compiled]; rfl
  lasts _ := .of_attached (Nat.le_refl _) rfl (.refl 0 _)
  dresses _ := .refl _ _

/-- An input is registered under the next number, and shown. -/
theorem input (kind : b.kind = .input) (compiled : b.expression = .ok e) {tick : Nat} {s : σ}
    {forest : Forest} {outcome : Except ExpressionError Unit} {x y : World σ}
    (added : w.addRefresh z (.bound live b.name e o) = (tick, x))
    (dresses : live < w.forest.size → w.forest.Dresses forest live)
    (last : v = { x with user := s, forest := forest }) :
    b.Binds live o z w [.mk (.binding b live o z (some (.refresh tick))) w v
      [.mk (.refresh z.id tick (.bound live b.name e o) outcome) x y []]] v := by
  let told : List (Episode σ) := [.mk (.binding b live o z (some (.refresh tick))) w v
    [.mk (.refresh z.id tick (.bound live b.name e o) outcome) x y []]]
  obtain ⟨rfl, rfl⟩ := Prod.mk.inj added
  have one : Episode.fittings told = [.binding b live o] := rfl
  have registers : inputs told = [.bound live b.name e o] := by
    rw [inputs, one, List.filterMap_cons, Fitting.input?, kind, compiled]
    rfl
  have zone (y : Zone) : v.zone y = (w.addRefresh z (.bound live b.name e o)).2.zone y := by
    rw [last]
    rfl
  refine ⟨⟨?_, fun inside => ?_, fun inside => ?_, fun inside => ?_, fun y other => ?_, ?_, ?_⟩, ?_,
    fun inside => ?_, fun inside => ?_⟩
  · rw [last]
    simp [World.onZone]
  · rw [registers, zone, World.addRefresh, World.zone_onZone, if_pos ⟨rfl, inside⟩]
    rfl
  · rw [registers, zone, World.addRefresh, World.zone_onZone, if_pos ⟨rfl, inside⟩]
    rfl
  · rw [registers]
    rfl
  · rw [zone, World.addRefresh, World.zone_onZone, if_neg fun same => other same.1.symm]
    exact ⟨rfl, rfl⟩
  · rw [last]
    rfl
  · rw [allOf_mk, allOf_mk]
    exact List.forall_mem_cons.2 ⟨rfl, List.forall_mem_singleton.2 rfl⟩
  · rw [fitting, compiled]
    exact one
  · rw [last]
    exact .of_attached (Nat.le_refl _) rfl (dresses inside).mends
  · rw [last]
    exact dresses inside

/-- An output is registered, in whatever zones. -/
theorem output (kind : b.kind = .output) (compiled : b.expression = .ok e) (l : Listener)
    (w : World σ) (n : Nat) : b.Binds live o z w
      [.mk (.binding b live o z (some (.listener l))) w
        (World.addWrapped z l { w with serial := w.serial + n }) []]
      (World.addWrapped z l { w with serial := w.serial + n }) := by
  have rewired := World.Rewired.addWrapped z l { w with serial := w.serial + n }
  have registered := World.addWrapped_registered z l { w with serial := w.serial + n }
  have one : Episode.fittings [.mk (.binding b live o z (some (.listener l))) w
      (World.addWrapped z l { w with serial := w.serial + n }) []] = [.binding b live o] := rfl
  have none : inputs [.mk (.binding b live o z (some (.listener l))) w
      (World.addWrapped z l { w with serial := w.serial + n }) []] = [] := by
    rw [inputs, one, List.filterMap_cons, Fitting.input?, kind]
    rfl
  have calm : Lays z w [] (World.addWrapped z l { w with serial := w.serial + n }) :=
    .of_refreshing ⟨rewired.size, rewired.refreshes, rewired.nextTick⟩ registered.busy
  refine ⟨⟨calm.zones, ?_, ?_, ?_, calm.others, calm.busy, ?_⟩, ?_, fun _ => ?_, fun _ => ?_⟩
  · rw [none]
    exact calm.registered
  · rw [none]
    exact calm.next
  · rw [none]
    exact fun _ => rfl
  · rw [allOf_mk]
    exact List.forall_mem_singleton.2 rfl
  · rw [fitting, compiled]
    exact one
  · refine .of_attached (Nat.le_trans (Nat.le_add_right _ n) registered.later) registered.attached ?_
    rw [registered.forest]
    exact .refl 0 _
  · rw [registered.forest]
    exact .refl _ _

end Binding.Binds

/-- Reporting changes the user's own state. -/
theorem Tells.reports (u : UserCode σ) (n : Notice) :
    Tells (fun _ => Aloof) (Run.notice u n) (Told.plain (Run.notice u n)) :=
  (step (Run.run_notice u n)).imp fun _ w _ _ told => ⟨told.2.1, u.notice n w.user, told.2.2⟩

/-- An input is registered and shown, if the methods that its program calls stay out of the
framework. -/
theorem Tells.inputs {c : Code σ} {b : Binding} {e : Expression} {live : NodeId} {o : ObjectId}
    (inward : Refresh.Inward c (.bound live b.name e o)) (depth : Nat) (z : Zone) :
    Tells (fun tick w es v => ∃ outcome x y s forest,
        w.addRefresh z (.bound live b.name e o) = (tick, x) ∧
        es = [.mk (.refresh z.id tick (.bound live b.name e o) outcome) x y []] ∧
        (live < w.forest.size → w.forest.Dresses forest live) ∧
        v = { x with user := s, forest := forest })
      (b.attachInput (c.user depth) e live o z)
      (Told.attachInput (c.user depth) (c.teller depth) b e live o z) := by
  let r := Refresh.bound live b.name e o
  -- the input is shown in a call of its own, and a failure is reported behind it
  have called (tick : Nat) : Tells (fun outcome w es v => ∃ y s forest,
      es = [.mk (.refresh z.id tick r outcome) w y []] ∧ v = { w with user := s, forest := forest } ∧
        (live < w.forest.size → w.forest.Dresses forest live))
      (r.run (c.user depth)) (Told.calling (.refresh z.id tick r)
        (Told.refresh (c.user depth) (c.teller depth) r)) := by
    refine calling (shown inward depth) ?_
    rintro outcome w _ v - ⟨rfl, s, forest, rfl, -, dresses⟩
    exact ⟨_, s, forest, rfl, rfl, dresses⟩
  refine bind (step (f := fun w => w.addRefresh z r) fun _ => rfl) (fun tick =>
    bind (called tick) (fun outcome => ?_) (T := fun _ n w es v => n = tick ∧ Aloof w es v)
      (S := fun n w es v => n = tick ∧ ∃ outcome y s forest,
        es = [.mk (.refresh z.id tick r outcome) w y []] ∧
          v = { w with user := s, forest := forest } ∧
            (live < w.forest.size → w.forest.Dresses forest live)) ?_) ?_
  · cases outcome with
    | ok _ => exact pure fun w => ⟨rfl, .refl w⟩
    | error e =>
        refine bind (reports _ _) (fun _ => value tick) ?_
        rintro _ n w _ _ _ _ ⟨rfl, s, rfl⟩ ⟨rfl, rfl, rfl⟩
        exact ⟨rfl, rfl, s, rfl⟩
  · rintro outcome n w _ _ _ _ ⟨y, s, forest, rfl, rfl, dresses⟩ ⟨rfl, rfl, s', rfl⟩
    exact ⟨rfl, outcome, y, s', forest, rfl, rfl, dresses⟩
  · rintro tick n w _ x es v ⟨rfl, rfl, rfl⟩ ⟨rfl, outcome, y, s, forest, rfl, rfl, dresses⟩
    exact ⟨outcome, _, y, s, forest, rfl, rfl, dresses, rfl⟩

/-- Attaching a binding, if the methods that its program calls stay out of the framework. -/
theorem Tells.binds {c : Code σ} {b : Binding} (allows : b.Allows (Refresh.Inward c)) (depth : Nat)
    (live : NodeId) (o : ObjectId) (z : Zone) :
    Tells (fun _ => b.Binds live o z) (b.attach (c.user depth) live o z)
      (Told.attachBinding (c.user depth) (c.teller depth) b live o z) := by
  unfold Binding.attach Told.attachBinding
  cases compiled : b.expression with
  | error error =>
      refine calling (bind (reports _ _) (fun _ => value none)
        (S := fun r w es v => r = none ∧ Aloof w es v) ?_) ?_
      · rintro _ r w _ _ _ _ ⟨rfl, s, rfl⟩ ⟨rfl, rfl, rfl⟩
        exact ⟨rfl, rfl, s, rfl⟩
      · rintro _ w _ _ - ⟨rfl, rfl, s, rfl⟩
        exact .broken compiled w s
  | ok e =>
      cases kind : b.kind with
      | input =>
          have inward : Refresh.Inward c (.bound live b.name e o) := allows e kind compiled live o
          refine calling (bind (inputs inward depth z) (fun tick => value (some (Attachment.refresh tick)))
            (S := fun r w es v => ∃ tick outcome x y s forest, r = some (.refresh tick) ∧
              w.addRefresh z (.bound live b.name e o) = (tick, x) ∧
              es = [.mk (.refresh z.id tick (.bound live b.name e o) outcome) x y []] ∧
              (live < w.forest.size → w.forest.Dresses forest live) ∧
              v = { x with user := s, forest := forest }) ?_) ?_
          · rintro tick r w es v _ _ ⟨outcome, x, y, s, forest, added, told, dresses, last⟩
              ⟨rfl, rfl, rfl⟩
            rw [List.append_nil]
            exact ⟨tick, outcome, x, y, s, forest, rfl, added, told, dresses, last⟩
          · rintro _ w _ v - ⟨tick, outcome, x, y, s, forest, rfl, added, rfl, dresses, last⟩
            exact .input kind compiled added dresses last
      | output =>
          refine calling (bind (bind (step Run.run_fresh) (fun n =>
            bind (step fun _ => rfl) (fun _ => value _)
              (S := fun l w es v => es = [] ∧ v = World.addWrapped z l w) ?_)
              (S := fun l w es v => es = [] ∧
                v = World.addWrapped z l { w with serial := w.serial + 1 }) ?_)
            (fun l => value (some (Attachment.listener l))) (S := fun r w es v => ∃ l, r = some (.listener l) ∧
              es = [] ∧ v = World.addWrapped z l { w with serial := w.serial + 1 }) ?_) ?_
          · rintro _ l w _ _ _ _ ⟨-, rfl, rfl⟩ ⟨rfl, rfl, rfl⟩
            exact ⟨rfl, rfl⟩
          · rintro _ l w _ _ _ _ ⟨rfl, rfl, rfl⟩ ⟨rfl, rfl⟩
            exact ⟨rfl, rfl⟩
          · rintro l _ w _ _ _ _ ⟨rfl, rfl⟩ ⟨rfl, rfl, rfl⟩
            exact ⟨l, rfl, rfl, rfl⟩
          · rintro _ w _ _ - ⟨l, rfl, rfl, rfl⟩
            exact .output kind compiled l w 1

end LiveTemplates
