/-
# LiveTemplates.Proofs.World.Editing -- registering and taking back, as edits of lists

Everything that is registered stands in some list, and registering or taking back edits such
lists, one after the other.  What is said of one edit is said of all of it.

* `World.Edits`: a relation between worlds that allows each edit, and edits in a row;
* `World.Edits.addListener`, `World.Edits.removeListener`, `World.Edits.detach` and what these
  consist of: it allows registering and taking back;
* `World.edits_user`: none of it touches the user's own state;
* `ZoneState.Trims`: what is left of the refreshes of a zone is in its order, in front of what is
  new;
* `World.Rests`: so it is in all zones, they have not ticked, and the same are held.
-/
import LiveTemplates.Proofs.World.Evolution

namespace LiveTemplates

set_option autoImplicit false

variable {σ : Type}

namespace World

/-! ## Edits -/

/-- A relation between worlds allows edits of what is registered, and edits in a row. -/
structure Edits (R : World σ → World σ → Prop) : Prop where
  refl : ∀ w, R w w
  trans : ∀ ⦃w v x⦄, R w v → R v x → R w x
  listeners : ∀ w d (f : List Listener → List Listener), R w (w.onListeners d f)
  wrappers : ∀ w z (f : List Wrapper → List Wrapper),
    R w (w.onZone z fun s => { s with wrappers := f s.wrappers })
  /-- Refreshes are taken back. -/
  refreshes : ∀ w z (p : Nat × Refresh → Bool),
    R w (w.onZone z fun s => { s with refreshes := s.refreshes.filter p })
  attached : ∀ w entries, R w { w with attached := entries }
  forest : ∀ w forest, R w { w with forest := forest }
  serial : ∀ w, R w { w with serial := w.serial + 1 }

namespace Edits

variable {R : World σ → World σ → Prop} (edits : Edits R)

include edits

/-- Steps in a row, on a world that is part of what they work on. -/
theorem foldl {α β : Type} (view : β → World σ) {f : β → α → β}
    (each : ∀ b a, R (view b) (view (f b a))) (as : List α) (b : β) :
    R (view b) (view (as.foldl f b)) :=
  List.foldlRecOn (motive := fun c => R (view b) (view c)) as f (edits.refl _)
    fun c before a _ => edits.trans before (each c a)

mutual

theorem addListener : ∀ (t : Target) (l : Listener) (w : World σ), R w (World.addListener t l w)
  | .dispatcher d, l, w => edits.listeners w d (· ++ [l])
  | .zone z, l, w => addWrapped z l w

theorem addWrapped : ∀ (z : Zone) (l : Listener) (w : World σ), R w (World.addWrapped z l w)
  | .mk id behind, l, w => by
      let handler := Handler.wrapped w.serial (.mk id behind) l.handler
      have remembered := edits.wrappers { w with serial := w.serial + 1 } (.mk id behind)
        (· ++ [⟨l, handler⟩])
      have counted := edits.trans (edits.serial w) remembered
      exact edits.trans counted (addListener behind { l with handler := handler } _)

end

mutual

theorem removeListener : ∀ (t : Target) (l : Listener) (w : World σ),
    R w (World.removeListener t l w).2
  | .dispatcher d, l, w => edits.listeners w d (·.eraseP (·.same l))
  | .zone z, l, w => removeWrapped z l w

theorem removeWrapped : ∀ (z : Zone) (l : Listener) (w : World σ),
    R w (World.removeWrapped z l w).2
  | .mk id behind, l, w => by
      have forgotten := edits.wrappers w (.mk id behind) (·.filter fun r => !r.inner.same l)
      refine edits.trans forgotten
        (edits.foldl (β := Bool × World σ) Prod.snd (fun state r => ?_) _ (false, _))
      exact removeListener behind { l with handler := r.handler } state.2

end

theorem removeRefresh (w : World σ) (z : Zone) (tick : Nat) : R w (w.removeRefresh z tick).2 :=
  edits.refreshes w z (·.1 != tick)

theorem forget (w : World σ) (serial : Nat) : R w (w.forget serial) :=
  edits.attached w _

theorem takeBack (w : World σ) (z : Zone) (host : NodeId) (r : Registrations) :
    R w (w.takeBack z host r) := by
  have ticks : R w (r.ticks.foldl (fun w tick => (w.removeRefresh z tick).2) w) :=
    edits.foldl id (fun w tick => edits.removeRefresh w z tick) r.ticks w
  have listeners (w : World σ) : R w (r.listeners.foldl (fun w l => (w.removeWrapped z l).2) w) :=
    edits.foldl id (fun w l => edits.removeWrapped z l w) r.listeners w
  have mounted (w : World σ) : R w
      (r.mounted.foldl (fun w n => { w with forest := (w.forest.remove host n).2 }) w) :=
    edits.foldl id (fun w n => edits.forest w (w.forest.remove host n).2) r.mounted w
  exact edits.trans (edits.trans ticks (listeners _)) (mounted _)

mutual

theorem detach : ∀ (i : Instance) (w : World σ), R w (i.detach w)
  | .mk serial _ _ _ host z children, w => by
      rw [Instance.detach]
      cases w.registrations? serial with
      | none => exact edits.refl w
      | some r =>
          have inside := edits.trans (edits.forget w serial) (detachAll children _)
          exact edits.trans inside (edits.takeBack _ z host r)

theorem detachAll : ∀ (is : List Instance) (w : World σ), R w (Instance.detachAll is w)
  | [], w => edits.refl w
  | i :: rest, w => edits.trans (detach i w) (detachAll rest _)

end

end Edits

/-- Registering and taking back leave the user's own state alone. -/
theorem edits_user : Edits fun w v : World σ => v.user = w.user where
  refl _ := rfl
  trans _ _ _ first second := second.trans first
  listeners _ _ _ := rfl
  wrappers _ _ _ := rfl
  refreshes _ _ _ := rfl
  attached _ _ := rfl
  forest _ _ := rfl
  serial _ := rfl

end World

/-! ## Zones that do not tick -/

/-- What is left of the refreshes of a zone is in the order in which it was, in front of what is
new, which has numbers that were given out since. -/
structure ZoneState.Trims (s t : ZoneState) : Prop where
  next : s.nextTick ≤ t.nextTick
  refreshes : ∃ kept new, t.refreshes = kept ++ new ∧ kept.Sublist s.refreshes ∧
    ∀ e ∈ new, s.nextTick ≤ e.1 ∧ e.1 < t.nextTick

/-- The refreshes of a zone have numbers that were given out. -/
def ZoneState.Given (s : ZoneState) : Prop :=
  ∀ e ∈ s.refreshes, e.1 < s.nextTick

namespace ZoneState.Trims

variable {s t r : ZoneState}

theorem of_eq (refreshes : t.refreshes = s.refreshes) (next : t.nextTick = s.nextTick) :
    s.Trims t :=
  ⟨Nat.le_of_eq next.symm, s.refreshes, [], by rw [refreshes, List.append_nil], .refl _, nofun⟩

theorem trans (first : s.Trims t) (second : t.Trims r) : s.Trims r := by
  obtain ⟨next, kept, new, same, fewer, numbers⟩ := first
  obtain ⟨next', kept', new', same', fewer', numbers'⟩ := second
  rw [same] at fewer'
  obtain ⟨old, young, rfl, less, few⟩ := List.sublist_append_iff.1 fewer'
  refine ⟨Nat.le_trans next next', old, young ++ new', ?_, less.trans fewer, fun e member => ?_⟩
  · rw [same', List.append_assoc]
  · rcases List.mem_append.1 member with here | there
    · obtain ⟨more, less⟩ := numbers e (few.subset here)
      exact ⟨more, Nat.lt_of_lt_of_le less next'⟩
    · obtain ⟨more, less⟩ := numbers' e there
      exact ⟨Nat.le_trans next more, less⟩

theorem given (trims : s.Trims t) (given : s.Given) : t.Given := by
  obtain ⟨next, kept, new, same, fewer, numbers⟩ := trims
  intro e member
  rw [same] at member
  rcases List.mem_append.1 member with here | there
  · exact Nat.lt_of_lt_of_le (given e (fewer.subset here)) next
  · exact (numbers e there).2

end ZoneState.Trims

namespace World

/-- There are no fewer zones, what is left of their refreshes is in its order, they have not
ticked, and the same are held. -/
structure Rests (w v : World σ) : Prop where
  zones : w.zones.size ≤ v.zones.size
  trims : ∀ z : Zone, z.id < w.zones.size → (w.zone z).Trims (v.zone z)
  ticks : ∀ z : Zone, z.id < w.zones.size → (v.zone z).ticks = (w.zone z).ticks
  pins : v.pins = w.pins

namespace Rests

variable {w v x : World σ}

theorem trans (first : w.Rests v) (second : v.Rests x) : w.Rests x where
  zones := Nat.le_trans first.zones second.zones
  trims z known := (first.trims z known).trans
    (second.trims z (Nat.lt_of_lt_of_le known first.zones))
  ticks z known := by
    rw [second.ticks z (Nat.lt_of_lt_of_le known first.zones), first.ticks z known]
  pins := second.pins.trans first.pins

theorem of_zones (same : v.zones = w.zones) (pins : v.pins = w.pins) : w.Rests v := by
  have zone (z : Zone) : v.zone z = w.zone z := by rw [World.zone, World.zone, same]
  exact ⟨Nat.le_of_eq (congrArg Array.size same.symm),
    fun z _ => zone z ▸ .of_eq rfl rfl, fun z _ => congrArg _ (zone z), pins⟩

theorem refl (w : World σ) : w.Rests w :=
  of_zones rfl rfl

theorem onZone (w : World σ) (z : Zone) {f : ZoneState → ZoneState}
    (same : ∀ s, (f s).ticks = s.ticks) (trims : ∀ s : ZoneState, s.Trims (f s)) :
    w.Rests (w.onZone z f) := by
  refine ⟨by simp [World.onZone], fun y _ => ?_, fun y _ => ?_, rfl⟩ <;> rw [zone_onZone] <;> split
  · exact trims _
  · exact .of_eq rfl rfl
  · exact same _
  · rfl

theorem newZone (w : World σ) (behind : Target) : w.Rests (w.newZone behind).2 := by
  have zone (z : Zone) (known : z.id < w.zones.size) :
      (w.newZone behind).2.zone z = w.zone z := by
    simp [World.newZone, World.zone, Array.getElem?_push, Nat.ne_of_lt known]
  exact ⟨by simp [World.newZone], fun z known => zone z known ▸ .of_eq rfl rfl,
    fun z known => congrArg _ (zone z known), rfl⟩

theorem addRefresh (w : World σ) (z : Zone) (r : Refresh) : w.Rests (w.addRefresh z r).2 := by
  let n := (w.zone z).nextTick
  refine ⟨by simp [World.addRefresh, World.onZone], fun y _ => ?_, fun y _ => ?_, rfl⟩ <;>
    rw [World.addRefresh, zone_onZone] <;> split
  case refine_1.isTrue same =>
    have zone : w.zone y = w.zone z := by rw [World.zone, World.zone, same.1]
    rw [zone]
    refine ⟨Nat.le_succ _, (w.zone z).refreshes, [(n, r)], rfl, .refl _, fun e member => ?_⟩
    obtain rfl := List.mem_singleton.1 member
    exact ⟨Nat.le_refl n, Nat.lt_succ_self n⟩
  case refine_1.isFalse => exact .of_eq rfl rfl
  all_goals rfl

theorem edits : Edits (Rests (σ := σ)) where
  refl := refl
  trans _ _ _ := trans
  listeners _ _ _ := of_zones rfl rfl
  wrappers w z _ := onZone w z (fun _ => rfl) fun _ => .of_eq rfl rfl
  refreshes w z _ := onZone w z (fun _ => rfl) fun _ =>
    ⟨Nat.le_refl _, _, [], (List.append_nil _).symm, List.filter_sublist, nofun⟩
  attached _ _ := of_zones rfl rfl
  forest _ _ := of_zones rfl rfl
  serial _ := of_zones rfl rfl

end Rests

end World

end LiveTemplates
