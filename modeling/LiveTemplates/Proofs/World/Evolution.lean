/-
# LiveTemplates.Proofs.World.Evolution -- zones that only watch

A refresh watches if it shows a value in an attribute and the program of the value only
reads.  Some zones are quiet if they register nothing else (`Quiet`).  A world evolves from
another if the same objects are busy and these zones are still quiet (`Evolves`).

Everything that can be done to a world is an activity in this sense: registering and taking
back (`Activity.addListener` and what follows it), attaching bindings and whole instances
(`Activity.attach`), as far as what is registered with these zones watches, and detaching
them (`Activity.detach`).
-/
import LiveTemplates.Proofs.Instance.Composition

namespace LiveTemplates

set_option autoImplicit false

variable {σ : Type}

/-! ## Quiet zones -/

/-- A refresh shows a value whose program only reads. -/
def Refresh.Watches : Refresh → Prop
  | .named _ => False
  | .bound _ _ value _ => value.program.onlyReads = true

/-- All refreshes of the zones of some numbers watch. -/
def Quiet (among : Nat → Prop) (w : World σ) : Prop :=
  ∀ z : Zone, among z.id → ∀ entry ∈ (w.zone z).refreshes, entry.2.Watches

/-- The same objects are busy as before, and zones that were quiet still are. -/
structure Evolves (among : Nat → Prop) (w v : World σ) : Prop where
  busy : v.busy = w.busy
  quiet : Quiet among w → Quiet among v

namespace World

theorem zone_onZone (w : World σ) (z z' : Zone) (f : ZoneState → ZoneState) :
    (w.onZone z f).zone z' =
      if z.id = z'.id ∧ z.id < w.zones.size then f (w.zone z') else w.zone z' := by
  simp only [zone, onZone, Array.getElem?_modify]
  by_cases same : z.id = z'.id
  · simp only [same, true_and, if_true]
    by_cases inside : z'.id < w.zones.size <;> simp [inside]
  · simp [same]

end World

namespace Evolves

variable {among : Nat → Prop} {w v u : World σ}

theorem trans (first : Evolves among w v) (second : Evolves among v u) : Evolves among w u :=
  ⟨second.busy.trans first.busy, fun quiet => second.quiet (first.quiet quiet)⟩

/-- Only the registries of zones matter. -/
theorem of_zones (busy : v.busy = w.busy) (zones : v.zones = w.zones) : Evolves among w v := by
  refine ⟨busy, fun quiet z member => ?_⟩
  rw [show v.zone z = w.zone z by simp only [World.zone, zones]]
  exact quiet z member

theorem refl (w : World σ) : Evolves among w w :=
  of_zones rfl rfl

/-- Steps in a row, on a world that is part of what they work on. -/
theorem foldl {α β : Type} (view : β → World σ) {f : β → α → β}
    (each : ∀ b a, Evolves among (view b) (view (f b a))) (xs : List α) (b : β) :
    Evolves among (view b) (view (xs.foldl f b)) := by
  induction xs generalizing b with
  | nil => exact refl _
  | cons a rest ih => exact (each b a).trans (ih _)

/-- A change of the registries of a zone adds only refreshes that watch, if the zone is to
be quiet. -/
theorem onZone (w : World σ) (z : Zone) {f : ZoneState → ZoneState}
    (added : ∀ entry ∈ (f (w.zone z)).refreshes,
      entry ∈ (w.zone z).refreshes ∨ (among z.id → entry.2.Watches)) :
    Evolves among w (w.onZone z f) := by
  refine ⟨rfl, fun quiet z' member entry listed => ?_⟩
  rw [World.zone_onZone] at listed
  split at listed
  case isTrue same =>
    have one : w.zone z' = w.zone z := by simp only [World.zone, same.1]
    rw [one] at listed
    rcases added entry listed with old | watches
    · exact quiet z' member entry (one ▸ old)
    · exact watches (same.1 ▸ member)
  case isFalse => exact quiet z' member entry listed

theorem carries (among : Nat → Prop) :
    Carries (Evolves among : World σ → World σ → Prop) where
  trans := trans
  aside same := by
    refine ⟨same.busy, fun quiet z member => ?_⟩
    have registered := congrArg ZoneState.refreshes (same.registries z)
    dsimp only at registered
    rw [registered]
    exact quiet z member
  borrowed evolves := by
    refine ⟨?_, evolves.quiet⟩
    rw [evolves.busy]
    simp

/-! ## Registering and taking back -/

theorem addRefresh (w : World σ) (z : Zone) {r : Refresh} (watches : among z.id → r.Watches) :
    Evolves among w (w.addRefresh z r).2 := by
  refine onZone w z fun entry listed => ?_
  rcases List.mem_append.1 listed with old | new
  · exact .inl old
  · rw [List.mem_singleton.1 new]
    exact .inr watches

theorem removeRefresh (w : World σ) (z : Zone) (tick : Nat) :
    Evolves among w (w.removeRefresh z tick).2 :=
  onZone w z fun _ listed => .inl (List.mem_of_mem_filter listed)

theorem newZone (w : World σ) (behind : Target) : Evolves among w (w.newZone behind).2 := by
  refine ⟨rfl, fun quiet z member entry listed => quiet z member entry ?_⟩
  simp only [World.newZone, World.zone, Array.getElem?_push] at listed ⊢
  split at listed
  · cases listed
  · exact listed

mutual

theorem addListener : ∀ (t : Target) (l : Listener) (w : World σ),
    Evolves among w (World.addListener t l w)
  | .dispatcher _, _, _ => of_zones rfl rfl
  | .zone z, l, w => addWrapped z l w

theorem addWrapped : ∀ (z : Zone) (l : Listener) (w : World σ),
    Evolves among w (World.addWrapped z l w)
  | .mk id behind, l, w => by
      have counted : Evolves among w { w with serial := w.serial + 1 } := of_zones rfl rfl
      refine (counted.trans (onZone _ (.mk id behind) fun _ listed => .inl ?_)).trans
        (addListener behind _ _)
      exact listed

end

mutual

theorem removeListener : ∀ (t : Target) (l : Listener) (w : World σ),
    Evolves among w (World.removeListener t l w).2
  | .dispatcher _, _, _ => of_zones rfl rfl
  | .zone z, l, w => removeWrapped z l w

theorem removeWrapped : ∀ (z : Zone) (l : Listener) (w : World σ),
    Evolves among w (World.removeWrapped z l w).2
  | .mk id behind, l, w => by
      refine (onZone w (.mk id behind) fun _ listed => .inl listed).trans
        (foldl (β := Bool × World σ) Prod.snd (fun state r => ?_) _ (false, _))
      exact removeListener behind { l with handler := r.handler } state.2

end

/-! ## Detaching -/

theorem takeBack (w : World σ) (z : Zone) (host : NodeId) (r : Registrations) :
    Evolves among w (w.takeBack z host r) := by
  have ticks : Evolves among w
      (r.ticks.foldl (fun w tick => (w.removeRefresh z tick).2) w) :=
    foldl (f := fun w tick => (w.removeRefresh z tick).2) id
      (fun w tick => removeRefresh w z tick) r.ticks w
  have listeners (w : World σ) : Evolves among w
      (r.listeners.foldl (fun w l => (w.removeWrapped z l).2) w) :=
    foldl (f := fun w l => (w.removeWrapped z l).2) id
      (fun w l => removeWrapped z l w) r.listeners w
  have mounted (w : World σ) : Evolves among w
      (r.mounted.foldl (fun w n => { w with forest := (w.forest.remove host n).2 }) w) :=
    foldl (f := fun w n => { w with forest := (w.forest.remove host n).2 }) id
      (fun _ _ => of_zones rfl rfl) r.mounted w
  exact (ticks.trans (listeners _)).trans (mounted _)

mutual

theorem detach : ∀ (i : Instance) (w : World σ), Evolves among w (i.detach w)
  | .mk serial _ _ _ host z children, w => by
      rw [Instance.detach]
      split
      · exact refl w
      · have forgotten : Evolves among w (w.forget serial) := of_zones rfl rfl
        exact (forgotten.trans (detachAll children _)).trans (takeBack _ z host _)

theorem detachAll : ∀ (is : List Instance) (w : World σ),
    Evolves among w (Instance.detachAll is w)
  | [], w => refl w
  | i :: rest, w => (detach i w).trans (detachAll rest _)

end

end Evolves

/-! ## Activities on quiet zones -/

/-- A binding shows nothing but values whose programs only read. -/
def Binding.Watches (b : Binding) : Prop :=
  ∀ e, b.kind = .input → b.expression = .ok e → e.program.onlyReads = true

/-- So do all bindings of a blueprint, and of the blueprints inside of it. -/
def Blueprint.Watches (b : Blueprint) : Prop :=
  ∀ d, Relation.ReflTransGen Blueprint.Contains b d → ∀ binding ∈ d.bindings, binding.2.Watches

theorem Blueprint.Watches.child {b : Blueprint} (watches : b.Watches)
    {child : Spot × Blueprint} (member : child ∈ b.children) : child.2.Watches :=
  fun d inside => watches d (.head ⟨child.1, member⟩ inside)

namespace Activity

variable {among : Nat → Prop}

theorem addListener (t : Target) (l : Listener) :
    Activity (Evolves among) (modify (World.addListener t l) : Run σ Unit) :=
  change (fun _ => rfl) fun w => Evolves.addListener t l w

theorem removeListener (t : Target) (l : Listener) :
    Activity (Evolves among) (modifyGet (World.removeListener t l) : Run σ Bool) :=
  change (fun _ => rfl) fun w => Evolves.removeListener t l w

theorem addRefresh (z : Zone) {r : Refresh} (watches : among z.id → r.Watches) :
    Activity (Evolves among) (modifyGet (·.addRefresh z r) : Run σ Nat) :=
  change (fun _ => rfl) fun w => Evolves.addRefresh w z watches

theorem removeRefresh (z : Zone) (tick : Nat) :
    Activity (Evolves among) (modifyGet (·.removeRefresh z tick) : Run σ Bool) :=
  change (fun _ => rfl) fun w => Evolves.removeRefresh w z tick

theorem newZone (behind : Target) :
    Activity (Evolves among) (modifyGet (·.newZone behind) : Run σ Zone) :=
  change (fun _ => rfl) fun w => Evolves.newZone w behind

theorem detach (i : Instance) :
    Activity (Evolves among) (modify i.detach : Run σ Unit) :=
  change (fun _ => rfl) fun w => Evolves.detach i w

variable {u : UserCode σ}

/-- Attaching is composed of such activities, as far as what it registers watches. -/
theorem composes (obeys : u.Obeys (Evolves among)) (z : Zone) :
    Composes u z (fun r => among z.id → r.Watches) fun _ x => Activity (Evolves among) x :=
  have carries : Carries (Evolves among : World σ → World σ → Prop) := Evolves.carries among
  { pure, bind
    notice := notice carries u
    fresh := fresh carries
    construct := construct carries u
    onForest := onForest carries
    append := fun _ _ => change (fun _ => rfl) fun _ => Evolves.of_zones rfl rfl
    addRefresh := fun _ => addRefresh z
    shows := fun _ _ _ _ _ => refresh carries obeys _
    addWrapped := fun _ _ _ _ _ => change (fun _ => rfl) fun w => Evolves.addWrapped z _ w
    enroll := fun _ => change (fun _ => rfl) fun _ => Evolves.of_zones rfl rfl
    holding := holding carries z }

/-- Attaching an instance of a blueprint. -/
theorem attach (obeys : u.Obeys (Evolves among)) (b : Blueprint) (host : NodeId) (z : Zone)
    (watches : among z.id → b.Watches) : Activity (Evolves among) (b.attach u host z) := by
  refine (composes obeys z).attach b host fun d inside binding member e kind compiled _ _ => ?_
  exact fun quiet => watches quiet d inside binding member e kind compiled

end Activity

end LiveTemplates
