/-
# LiveTemplates.Proofs.Numbering.Keeping -- numbers of refreshes are never confused

Attaching and detaching register refreshes and take them back, among much else; in the middle of
attaching, code of the user's runs.  The user's code can ask for all of it, inside of each other to
any depth.

* `Attests.attach`, `Attests.detach`: the minutes of attaching and detaching;
* `Attests.routine`, `Code.honest`: those of routines, and of a user's code to any depth;
* `Routine.keeps_numbers_apart`: whatever runs from the opening of a zone on, its refreshes are
  those that the minutes say, no number is given out twice, and whoever asks for a number takes back
  the refresh that got this number, or none.
-/
import LiveTemplates.Proofs.Document.Starting
import LiveTemplates.Proofs.Numbering.Attesting

namespace LiveTemplates

set_option autoImplicit false

variable {σ : Type}

namespace Attests

open Minuted

/-! ## Detaching -/

/-- The refreshes of an instance are taken back, one after the other. -/
theorem takeBackAll (z : Zone) (ns : List Nat) :
    Attests (modify fun w => ns.foldl (fun w n => (w.removeRefresh z n).2) w : Run σ Unit)
      (ns.forM fun n => do let _ ← Minuted.removeRefresh z n) := by
  induction ns with
  | nil => exact pure ()
  | cons n rest ih =>
      exact (bind (bind (removeRefresh z n) fun _ => pure ()) fun _ => ih).congr fun _ => rfl

mutual

theorem detach : ∀ i : Instance, Attests (modify i.detach : Run σ Unit) (Minuted.detach i)
  | .mk serial b o os host z children => by
      rw [Minuted.detach]
      refine congr (x := do
        match (← MonadState.get).registrations? serial with
        | none => return
        | some r =>
          modify (·.forget serial)
          modify (Instance.detachAll children)
          modify fun w => r.ticks.foldl (fun w n => (w.removeRefresh z n).2) w
          modify (·.takeBack z host { r with ticks := [] })) ?_ fun w => ?_
      · refine bind get fun w => ?_
        cases w.registrations? serial with
        | none => exact pure ()
        | some r =>
            refine bind (aside (fun _ => rfl) fun _ => rfl) fun _ => ?_
            refine bind (detachAll children) fun _ => ?_
            refine bind (takeBackAll z r.ticks) fun _ => ?_
            exact step (fun _ => rfl) fun w => .takeBack w z host r.listeners r.mounted
      · have ran : (modify (Instance.mk serial b o os host z children).detach : Run σ Unit).run w =
            some ((), (Instance.mk serial b o os host z children).detach w) := rfl
        rw [ran, Instance.detach, StateT.run_bind]
        show _ = (match w.registrations? serial with | none => _ | some r => _ : Run σ Unit).run w
        cases w.registrations? serial <;> rfl

theorem detachAll : ∀ is : List Instance,
    Attests (modify (Instance.detachAll is) : Run σ Unit) (Minuted.detachAll is)
  | [] => pure ()
  | i :: rest => by
      rw [Minuted.detachAll]
      exact (bind (detach i) fun _ => detachAll rest).congr fun _ => rfl

end

/-! ## Attaching -/

theorem construct (u : UserCode σ) (c : ClassRef) :
    Attests (Run.construct u c) (Minuted.plain (Run.construct u c)) :=
  aside (fun _ => rfl) fun _ => rfl

theorem attachOutput (b : Binding) (e : Expression) (live : NodeId) (o : ObjectId) (z : Zone) :
    Attests (b.attachOutput e live o z : Run σ Listener)
      (Minuted.plain (b.attachOutput e live o z)) := by
  refine step (fun _ => rfl) fun w => ?_
  have counted : w.Unbooked { w with serial := w.serial + 1 } := .of_zones rfl
  exact counted.trans (.of_rewired (.addWrapped z _ _))

section User

variable {u : UserCode σ} {t : Scribe σ} (honest : t.Honest u)

include honest

theorem attachInput (b : Binding) (e : Expression) (live : NodeId) (o : ObjectId) (z : Zone) :
    Attests (b.attachInput u e live o z) (Minuted.attachInput u t b e live o z) := by
  refine bind (addRefresh z _) fun tick => bind (refresh honest _) fun r => ?_
  cases r with
  | ok _ => exact pure tick
  | error e => exact bind (notice u _) fun _ => pure tick

theorem attachBinding (b : Binding) (live : NodeId) (o : ObjectId) (z : Zone) :
    Attests (b.attach u live o z) (Minuted.attachBinding u t b live o z) := by
  unfold Binding.attach Minuted.attachBinding
  cases b.expression with
  | error e => exact bind (notice u _) fun _ => pure none
  | ok e =>
      cases b.kind with
      | input => exact bind (attachInput honest b e live o z) fun _ => pure _
      | output => exact bind (attachOutput b e live o z) fun _ => pure _

theorem wireBindings (z : Zone) (o : ObjectId) (bindings : List (Spot × Binding))
    (address : List Nat) (live : NodeId) (w : Wiring) :
    Attests (Wiring.wireBindings u z o bindings address live w)
      (Minuted.wireBindings u t z o bindings address live w) := by
  refine foldlM (fun w p => ?_) _ w
  exact bind (attachBinding honest p.2 live o z) fun a => pure (w.add a)

end User

/-- Ways of mounting that attest each other, one by one. -/
def Parts (parts : List (Spot × Mounting σ))
    (minuted : List (Spot × (NodeId → Minuted σ Instance))) : Prop :=
  List.Forall₂ (fun p q => p.1 = q.1 ∧ ∀ live, Attests (p.2 live) (q.2 live)) parts minuted

theorem wireChildren {parts : List (Spot × Mounting σ)}
    {minuted : List (Spot × (NodeId → Minuted σ Instance))} (same : Parts parts minuted)
    (address : List Nat) (live : NodeId) (w : Wiring) :
    Attests (Wiring.wireChildren parts address live w)
      (Minuted.wireChildren minuted address live w) := by
  refine stepwise.foldlM_of_forall₂ (fun w p q both => ?_) (List.rel_filter ?_ same) w
  · exact bind (both.2 live) fun i => pure _
  · intro p q both
    simp [both.1]

section Copying

variable {ω : Type} {wire : List Nat → NodeId → ω → Run σ ω}
  {wire' : List Nat → NodeId → ω → Minuted σ ω}

mutual

theorem copy (wires : ∀ address live w, Attests (wire address live w) (wire' address live w)) :
    ∀ (address : List Nat) (t : Tree) (w : ω),
      Attests (Wiring.copy wire address t w) (Minuted.copy wire' address t w)
  | address, .node d ts, w => by
      rw [Wiring.copy, Minuted.copy]
      refine bind (aside (Run.run_onForest _) fun _ => rfl) fun live => ?_
      refine bind (copyAll wires live address 0 ts w) fun w => ?_
      exact bind (wires address live w) fun _ => pure _

theorem copyAll (wires : ∀ address live w, Attests (wire address live w) (wire' address live w)) :
    ∀ (parent : NodeId) (address : List Nat) (i : Nat) (ts : List Tree) (w : ω),
      Attests (Wiring.copyAll wire parent address i ts w)
        (Minuted.copyAll wire' parent address i ts w)
  | _, _, _, [], w => pure w
  | parent, address, i, t :: ts, w => by
      rw [Wiring.copyAll, Minuted.copyAll]
      refine bind (copy wires (address ++ [i]) t w) fun p => ?_
      refine bind (aside (fun _ => rfl) fun _ => rfl) fun _ => ?_
      exact copyAll wires parent address (i + 1) ts p.2

end

end Copying

section User

variable {u : UserCode σ} {t : Scribe σ}

mutual

theorem mount (honest : t.Honest u) (z : Zone) : ∀ (b : Blueprint) (o : ObjectId) (host : NodeId),
    Attests (b.mount u z o host) (Minuted.mount u t z b o host)
  | .mk compiler cls template bindings children warnings, o, host => by
      rw [Blueprint.mount, Minuted.mount]
      refine bind (mapM (construct u) _) fun objects => ?_
      refine bind (aside Run.run_fresh fun _ => rfl) fun serial => ?_
      refine bind (aside (Run.run_onForest _) fun _ => rfl) fun fragment => ?_
      have parts := mountings honest z children objects
      refine bind (copyAll (fun address live w => ?_) fragment [] 0 _ ({} : Wiring)) fun w => ?_
      · exact bind (wireBindings honest z o bindings address live w) fun w =>
          wireChildren parts address live w
      · refine bind (aside (Run.run_onForest _) fun _ => rfl) fun mounted => ?_
        exact bind (aside (fun _ => rfl) fun _ => rfl) fun _ => pure _

theorem mountings (honest : t.Honest u) (z : Zone) :
    ∀ (children : List (Spot × Blueprint)) (objects : List ObjectId),
      Parts (Blueprint.mountings u z children objects) (Minuted.mountings u t z children objects)
  | [], _ => by
      rw [Blueprint.mountings, Minuted.mountings]
      exact .nil
  | (spot, b) :: rest, o :: os => by
      rw [Blueprint.mountings, Minuted.mountings]
      exact .cons ⟨rfl, mount honest z b o⟩ (mountings honest z rest os)
  | (spot, b) :: rest, [] => by
      rw [Blueprint.mountings, Minuted.mountings]
      exact .cons ⟨rfl, fun live => bind (construct u b.cls) fun o => mount honest z b o live⟩
        (mountings honest z rest [])

end

theorem attach (honest : t.Honest u) (b : Blueprint) (host : NodeId) (z : Zone) :
    Attests (b.attach u host z) (Minuted.attach u t b host z) :=
  holding z (bind (construct u b.cls) fun o => mount honest z b o host)

/-! ## Whatever runs -/

/-- A routine that takes minutes attests what it does. -/
theorem routine (honest : t.Honest u) {α : Type} (x : Routine σ α) :
    Attests (x.run u) (x.minute u t) := by
  induction x with
  | pure a => exact pure a
  | bind _ _ first later => exact bind first later
  | endless => exact endless
  | own f => exact aside (Run.run_onUser f) fun _ => rfl
  | look cells f => exact aside (fun _ => rfl) fun _ => rfl
  | nodes loans f => exact aside (Run.run_onForest f) fun _ => rfl
  | construct c => exact construct u c
  | evaluate e o => exact evaluate honest e o
  | handle h => exact handle honest h
  | tick z => exact tick honest z
  | dispatch d node event => exact dispatch honest d node event
  | newDispatcher => exact aside (fun _ => rfl) fun _ => rfl
  | newZone behind => exact step (fun _ => rfl) fun w => .newZone w behind
  | onTick z name => exact addRefresh z (.named name)
  | removeTick z n => exact removeRefresh z n
  | listen s l => exact step (fun _ => rfl) fun w => .of_rewired (.addListener s l w)
  | unlisten s l => exact step (fun _ => rfl) fun w => .of_rewired (.removeListener s l w)
  | retarget s => exact aside (fun _ => rfl) fun _ => rfl
  | compile k catalog c => exact aside (Run.run_compiling u k _) fun _ => rfl
  | attachBinding b live o z => exact attachBinding honest b live o z
  | attach b host z => exact attach honest b host z
  | detach i => exact detach i

end User

end Attests

/-- A user's methods, handlers and refreshes do the same when they take minutes, to any depth. -/
theorem Code.honest (c : Code σ) (depth : Nat) : (c.scribe depth).Honest (c.user depth) := by
  induction depth with
  | zero => exact ⟨fun _ _ _ => .endless, fun _ => .endless, fun _ => .endless⟩
  | succ n ih => exact ⟨fun _ _ _ => .routine ih _, fun _ => .routine ih _, fun _ => .routine ih _⟩

/-! ## Numbers apart -/

theorem Desk.Sound.newZone (w : World σ) (behind : Target) :
    Sound (w.newZone behind).1 { world := (w.newZone behind).2 } where
  opened := by simp [World.newZone, Zone.id]
  kept := by
    have empty : (w.newZone behind).2.zone (w.newZone behind).1 = {} := by
      simp [World.newZone, World.zone, Zone.id]
    rw [empty]
    exact .new

/-- What an activity comes to that ends in the same way with and without minutes. -/
theorem Desk.Ends.spec {α : Type} {s t : Desk σ} {outcome : Option α} {r : Option (α × World σ)}
    (ends : s.Ends r (outcome, t)) : r = outcome.map (·, t.world) ∧ s.Leads t := by
  cases ends with
  | done leads => exact ⟨rfl, leads⟩
  | endless leads => exact ⟨rfl, leads⟩

/-- Whatever runs from the opening of a zone on, to any depth, with refreshes registered and taken
back wherever it may be, in ticks that are inside of each other as well: it comes to what it comes
to without minutes, and whether it comes to an end or not,

* before and behind each minute and in the end, the refreshes of the zone are in rising order of
  their numbers, all below the next one, and are those that were registered and not taken back;
* each time, a refresh got the next number, or the refresh that got a number was taken back with the
  others left in their order, or there was none under this number, and whoever asked was told so;
* no number is given out twice, and the next one is how many there were: with fewer than 2^64
  registrations they are all numbers of 64 bits;
* once a number that was given out has been asked for, it is not given out any more, and whoever
  asks for it later is told that there is no refresh, and changes nothing. -/
theorem Routine.keeps_numbers_apart (c : Code σ) (depth : Nat) (w : World σ) (behind : Target)
    {α : Type} (x : Zone → Routine σ α) :
    ∃ z start outcome s log, w.newZone behind = (z, start) ∧
      ((x z).minute (c.user depth) (c.scribe depth)).exec { world := start } = (outcome, s) ∧
      ((x z).run (c.user depth)).run start = outcome.map (·, s.world) ∧
      log = s.minutes.filter (·.zone = z.id) ∧ Accounted log (s.world.zone z) ∧
      (numbersGiven log).Nodup ∧ (s.world.zone z).nextTick = (numbersGiven log).length ∧
      ∀ later m earlier, log = later ++ m :: earlier →
        Accounted earlier m.before ∧ m.Lawful earlier ∧ Accounted (m :: earlier) m.after ∧
        ∀ n found, m.booking = .taken n found → n ∈ numbersGiven earlier →
          ∀ l ∈ later, l.given? ≠ some n ∧
            ∀ answer, l.booking = .taken n answer → answer = false ∧ l.after = l.before := by
  let z := (w.newZone behind).1
  let start : Desk σ := { world := (w.newZone behind).2 }
  let ended := ((x z).minute (c.user depth) (c.scribe depth)).exec start
  have ends : start.Ends _ (ended.1, ended.2) := Attests.routine (c.honest depth) (x z) start
  obtain ⟨same, leads⟩ := ends.spec
  have kept : WellKept (ended.2.minutesOf z) (ended.2.world.zone z) :=
    (leads z (.newZone w behind)).kept
  have accounted := kept.accounted
  refine ⟨z, start.world, ended.1, ended.2, ended.2.minutesOf z, rfl, rfl, same, rfl, accounted,
    accounted.nodup_given, accounted.nextTick_eq, fun later m earlier split => ?_⟩
  obtain ⟨before, lawful, after⟩ := kept.each later m earlier split
  refine ⟨before, lawful, after, fun n found asked held l member => ?_⟩
  exact kept.spent split asked held member

/-! ## A refresh that renews itself -/

namespace Renewed

/-- The zone that is opened. -/
def zone : Zone :=
  .mk 0 (.dispatcher 0)

/-- The user holds the number of the one refresh.  When it is run, it is taken back and registered
again; the first time, this is followed by a tick. -/
def code : Code Nat where
  get _ _ s := (none, s)
  set _ _ _ s := (.ok (), s)
  construct _ _ s := s
  notice _ s := s
  holds _ _ := true
  call _ _ _ := .pure (.ok .undefined)
  handler _ := .pure ()
  refresh name :=
    .bind (.own fun n => (n, n)) fun n =>
    .bind (.removeTick zone n) fun _ =>
    .bind (.onTick zone name) fun m =>
    .bind (.own fun _ => ((), m)) fun _ =>
    if m = 1 then .bind (.tick zone) fun _ => .pure (.ok ()) else .pure (.ok ())

/-- Registers the refresh, lets it be run, and asks for a number that is not its own any more. -/
def again : Routine Nat Bool :=
  .bind (.onTick zone "renew") fun _ =>
  .bind (.tick zone) fun _ =>
  .removeTick zone 1

/-- A world without zones. -/
def blank : World Nat where
  forest := ⟨#[{ data := .document }]⟩
  document := 0
  user := 0

/-- A number, and whether its refresh was found if it was asked for. -/
def told : Booking → Nat × Option Bool
  | .given _ n => (n, none)
  | .taken n found => (n, some found)

end Renewed

open Renewed in
example :
    let ended := (again.minute (code.user 2) (code.scribe 2)).exec
      { world := (blank.newZone (.dispatcher 0)).2 }
    (ended.1, ended.2.minutes.map (told ·.booking)) = (some false,
      [(1, some false), (2, none), (1, some true), (1, none), (0, some true), (0, none)]) := by
  decide +kernel

end LiveTemplates
