/-
# LiveTemplates.Proofs.Detaching.Ledgers -- what is noted of what was given out

An activity that was given something can note it in a ledger: zones, the numbers of refreshes and
outputs, instances.  What was given out to others is not noted there, but as long as it is known
next to the ledger, accounts are sound.  While a blueprint is being mounted nothing of it is noted;
in the end all that was given out for it belongs to the new instance and those inside.

* `Ledger`, `Ledger.Fits`: what is noted, and that it is sound with what others were given;
* `Grants`: whatever others have, something was given out meanwhile;
* `Grants.gives`: so it is for a blueprint that is attached.
-/
import LiveTemplates.Proofs.Detaching.Giving
import LiveTemplates.Proofs.Detaching.Keeping

namespace LiveTemplates

set_option autoImplicit false

variable {σ : Type}

/-! ## Ledgers -/

/-- What an activity was given, and may refer to. -/
structure Ledger where
  /-- The zones that it has made. -/
  zones : List Zone := []
  /-- The numbers of its refreshes, each with that of the zone. -/
  ticks : List (Nat × Nat) := []
  /-- The numbers of the outputs that it has attached by themselves. -/
  numbers : List Nat := []
  /-- The instances that it has attached, with those inside of them. -/
  known : List Instance := []

namespace Ledger

/-- What was given out, as it is noted. -/
def account (l : Ledger) : Account where
  ticks := l.ticks
  numbers := l.numbers
  instances := l.known

/-- A zone is noted. -/
def zone (l : Ledger) (z : Zone) : Ledger :=
  { l with zones := l.zones ++ [z] }

/-- What was given out is noted.  Outputs may be registered anywhere from now on. -/
def note (l : Ledger) (a : Account) : Ledger :=
  { l with
    ticks := l.ticks ++ a.ticks
    numbers := l.numbers ++ a.listeners.filterMap (·.2.handler.number?)
    known := l.known ++ a.instances }

/-- Accounts are sound with what is noted and what was given out to others, who have made some of the
zones. -/
def Fits (l : Ledger) (ys : List Zone) (a : Account) (w : World σ) : Prop :=
  ∃ zs ts, l.zones ++ ys ⊆ zs ∧ w.Sound zs ts (l.account.append a)

namespace Fits

variable {l : Ledger} {ys : List Zone} {a b : Account} {w v : World σ}

theorem beside (fits : l.Fits ys a w) (beside : w.Beside v) : l.Fits ys a v :=
  have ⟨zs, ts, zones, sound⟩ := fits
  ⟨zs, ts, zones, sound.beside beside⟩

theorem newZone (fits : l.Fits ys a w) {behind : Target}
    (known : ∀ {zs ts b}, l.zones ⊆ zs → w.Sound zs ts b → w.Knows zs behind) :
    l.Fits (ys ++ [(w.newZone behind).1]) a (w.newZone behind).2 := by
  obtain ⟨zs, ts, zones, sound⟩ := fits
  have noted := List.Subset.trans (List.subset_append_left l.zones ys) zones
  refine ⟨_, ts, ?_, sound.newZone (known noted sound)⟩
  rw [← List.append_assoc]
  exact List.append_subset.2 ⟨List.subset_append_of_subset_left _ zones,
    List.subset_append_right _ _⟩

theorem fewer {zs : List Zone} (fits : l.Fits ys a w) (sub : zs ⊆ ys) : l.Fits zs a w :=
  have ⟨all, ts, zones, sound⟩ := fits
  have ⟨own, others⟩ := List.append_subset.1 zones
  ⟨all, ts, List.append_subset.2 ⟨own, List.Subset.trans sub others⟩, sound⟩

/-- A zone that somebody has made is noted. -/
theorem zone {z : Zone} (fits : l.Fits (ys ++ [z]) a w) : (l.zone z).Fits ys a w := by
  obtain ⟨zs, ts, zones, sound⟩ := fits
  refine ⟨zs, ts, List.Subset.trans (fun y member => ?_) zones, sound⟩
  simp only [Ledger.zone, List.mem_append] at member ⊢
  exact member.elim (fun own => own.imp_right .inr) fun other => .inr (.inl other)

/-- What was given out last is noted. -/
theorem note (fits : l.Fits ys (a.append b) w) (numbers : b.numbers = []) (serials : b.serials = []) :
    (l.note b).Fits ys a w := by
  obtain ⟨zs, ts, zones, sound⟩ := fits
  refine ⟨zs, ts, zones, ?_⟩
  rw [← Account.append_assoc] at sound
  have parts : ((l.account.append b).append a).listeners = b.listeners ++ a.listeners := rfl
  have released := (sound.perm (.append_comm _ _ _)).release parts
  refine released.perm ⟨.refl _, ?_, .refl _, ?_, .refl _⟩
  · simp only [Account.append, account, Ledger.note, numbers, List.append_nil]
    rw [List.append_assoc, List.append_assoc]
    exact List.perm_append_comm.append_left _
  · simp [Account.append, account, serials]

end Fits

end Ledger

/-! ## Giving out -/

/-- Whatever was given out to others, something was given out next to it, if some zones are known. -/
structure Grants (ledger : σ → Ledger) (known : List Zone) (b : Account) (w v : World σ) : Prop where
  zones : (ledger w.user).zones ⊆ (ledger v.user).zones
  fits : ∀ ys a, known ⊆ (ledger w.user).zones ++ ys → (ledger w.user).Fits ys a w →
    (ledger v.user).Fits ys (a.append b) v

namespace Grants

variable {ledger : σ → Ledger} {known : List Zone} {b c : Account} {w v x : World σ}

/-- Zones that are known stay so. -/
theorem still (grants : Grants ledger known b w v) {ys : List Zone}
    (inside : known ⊆ (ledger w.user).zones ++ ys) : known ⊆ (ledger v.user).zones ++ ys :=
  fun _ member => List.mem_append.2 ((List.mem_append.1 (inside member)).imp_left
    fun noted => grants.zones noted)

theorem append (first : Grants ledger known b w v) (second : Grants ledger known c v x) :
    Grants ledger known (b.append c) w x where
  zones := List.Subset.trans first.zones second.zones
  fits ys a inside fits := by
    rw [← Account.append_assoc]
    exact second.fits ys _ (first.still inside) (first.fits ys a inside fits)

theorem trans (first : Grants ledger known {} w v) (second : Grants ledger known c v x) :
    Grants ledger known c w x := by
  have both := first.append second
  rwa [show Account.append {} c = c from rfl] at both

/-- Zones need not be known for it. -/
theorem weaken (grants : Grants ledger [] b w v) : Grants ledger known b w v :=
  ⟨grants.zones, fun ys a _ => grants.fits ys a (List.nil_subset _)⟩

/-- The zones are noted. -/
theorem noted (grants : Grants ledger known b w v) (noted : known ⊆ (ledger w.user).zones) :
    Grants ledger [] b w v :=
  ⟨grants.zones, fun ys a _ => grants.fits ys a (List.subset_append_of_subset_left _ noted)⟩

/-- The ledger is the same. -/
theorem of_same (same : ledger v.user = ledger w.user) (sound : ∀ {zs ts a}, known ⊆ zs →
      w.Sound zs ts a → ∃ ts', v.Sound zs ts' (a.append b)) : Grants ledger known b w v where
  zones := by
    rw [same]
    exact List.Subset.refl _
  fits ys a inside fits := by
    obtain ⟨zs, ts, zones, before⟩ := fits
    obtain ⟨ts', after⟩ := sound (List.Subset.trans inside zones) before
    rw [same]
    exact ⟨zs, ts', zones, Account.append_assoc _ _ _ ▸ after⟩

theorem beside (beside : w.Beside v) (same : ledger v.user = ledger w.user) :
    Grants ledger known {} w v :=
  .of_same same fun {_ ts a} _ sound => ⟨ts, by
    rw [a.append_nothing]
    exact sound.beside beside⟩

/-- An instance is attached that what was given out last belongs to. -/
theorem enroll {z : Zone} {b : Blueprint} {o : ObjectId} {os : List ObjectId} {host : NodeId}
    {serial : Nat} {children : List Instance} (inside : z ∈ known) (r : Registrations)
    (forest : Forest)
    (grants : Grants ledger known
      { ticks := r.ticks.map (z.id, ·)
        listeners := r.listeners.map (z, ·)
        serials := [serial]
        instances := Instance.allOf children } w v) :
    Grants ledger known { instances := (Instance.mk serial b o os host z children).all } w
      { v with forest := forest, attached := (serial, r) :: v.attached } := by
  refine ⟨grants.zones, fun ys a needed fits => ?_⟩
  obtain ⟨zs, ts, zones, sound⟩ := grants.fits ys a needed fits
  have place : z ∈ zs := zones (grants.still needed inside)
  let i : Instance := .mk serial b o os host z children
  rw [← Account.append_assoc] at sound
  -- what belongs to the instance comes first, and goes to it
  have moved := sound.perm (Account.Perm.comm _ _)
  have enrolled := moved.enroll (i := i) rfl
    (fun j below => List.mem_append_left _ below) place (r := r) rfl rfl forest
  have back := enrolled.perm (b := ((ledger v.user).account.append a).append { instances := i.all })
    { ticks := .of_eq (List.append_nil _).symm
      numbers := .of_eq (List.append_nil _).symm
      listeners := .of_eq (List.append_nil _).symm
      serials := .of_eq (List.append_nil _).symm
      instances := by
        rw [Instance.all_eq]
        exact (List.perm_append_comm : (i :: Instance.allOf children ++ _).Perm _) }
  rw [Account.append_assoc] at back
  exact ⟨zs, ts, zones, back⟩

end Grants

namespace World.Beside

variable (w : World σ)

/-- What evaluations, ticks and dispatches change by themselves, and what is done to nodes. -/
theorem intro (forest : Forest) (busy : List ObjectId) (pins : List Zone) (more : Nat) (user : σ) :
    w.Beside { w with
      forest := forest
      busy := busy
      pins := pins
      serial := w.serial + more
      user := user } :=
  ⟨rfl, rfl, fun _ => rfl, rfl, rfl, Nat.le_add_right _ _⟩

theorem count (z : Zone) : w.Beside (w.onZone z fun s => { s with ticks := s.ticks + 1 }) where
  dispatchers := rfl
  size := by simp [onZone]
  registry k := by
    rw [registry_onZone]
    split <;> rfl
  target := rfl
  attached := rfl
  later := Nat.le_refl _

end World.Beside

/-- The parts of the user's code that only change the user's own state leave the ledger alone. -/
structure UserCode.Spares (ledger : σ → Ledger) (u : UserCode σ) : Prop where
  get : ∀ o member s, ledger (u.get o member s).2 = ledger s
  set : ∀ o member v s, ledger (u.set o member v s).2 = ledger s
  construct : ∀ c o s, ledger (u.construct c o s) = ledger s
  notice : ∀ n s, ledger (u.notice n s) = ledger s

namespace Grants

variable {ledger : σ → Ledger} {u : UserCode σ} (spares : u.Spares ledger)

include spares

/-- Evaluations, ticks and dispatches give nothing out by themselves. -/
theorem hosts (known : List Zone) : Hosts u (Grants ledger known {}) where
  trans _ _ _ := trans
  minor {w _} step := by
    cases step with
    | same => exact beside (.intro w w.forest w.busy w.pins 0 w.user) rfl
    | read o member => exact beside (.intro w w.forest w.busy w.pins 0 _) (spares.get o member _)
    | write o member v => exact beside (.intro w w.forest w.busy w.pins 0 _) (spares.set o member v _)
    | report n => exact beside (.intro w w.forest w.busy w.pins 0 _) (spares.notice n _)
    | hold pins => exact beside (.intro w w.forest w.busy pins 0 w.user) rfl
    | count z => exact beside (.count w z) rfl
  shows w _ _ _ := beside (.intro w _ w.busy w.pins 0 w.user) rfl
  borrowed w v o borrowed := by
    have before : Grants ledger known {} w { w with busy := o :: w.busy } :=
      beside (.intro w w.forest (o :: w.busy) w.pins 0 w.user) rfl
    have after : Grants ledger known {} v { v with busy := v.busy.erase o } :=
      beside (.intro v v.forest (v.busy.erase o) v.pins 0 v.user) rfl
    exact (before.trans borrowed).trans after

/-- All that attaching to a zone gives out is known next to the ledger, if the zone is. -/
theorem gives (z : Zone) : Gives u z (Grants ledger [z]) where
  hosts := hosts spares [z]
  append := append
  construct c w := beside (.intro w w.forest w.busy w.pins 1 _) (spares.construct c w.serial w.user)
  forest w f := beside (.intro w f w.busy w.pins 0 w.user) rfl
  addRefresh w r := of_same rfl fun {_ ts _} inside sound =>
    ⟨ts, sound.addRefresh (inside (List.mem_singleton_self z)) r⟩
  addWrapped w l unwrapped number := by
    have user : (World.addWrapped z l { w with serial := w.serial + 1 }).user = w.user :=
      (World.addWrapped_registered z l { w with serial := w.serial + 1 }).user
    refine of_same (congrArg ledger user) fun {zs ts a} inside sound => ?_
    have registered := (sound.claim z unwrapped number).addListener (t := .zone z)
      (inside (List.mem_singleton_self z)) unwrapped fun n _ =>
        .inr ⟨(z, l), List.mem_append_right _ (List.mem_singleton_self _), rfl, rfl⟩
    rw [World.addListener] at registered
    exact ⟨_, registered⟩
  reserve w := of_same rfl fun {_ ts _} _ sound => ⟨ts, sound.reserve⟩
  enroll r f given := given.enroll (List.mem_singleton_self z) r f

end Grants

end LiveTemplates
