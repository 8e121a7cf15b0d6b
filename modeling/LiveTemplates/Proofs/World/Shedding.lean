/-
# LiveTemplates.Proofs.World.Shedding -- what is taken back

Taking something back only takes entries out of registries: out of those of zones, out of the
lists of dispatchers, and out of the list of what the attached instances have registered.  What
is left was there before.

* `World.Sheds`: nothing was added to the registries, and no node has changed;
* `World.Sheds.removeRefresh` and what follows it: each way of taking back only does this.
-/
import LiveTemplates.Proofs.World.Evolution

namespace LiveTemplates.World

set_option autoImplicit false

variable {σ : Type}

/-- Nothing was added to the registries, and no node has changed. -/
structure Sheds (w v : World σ) : Prop where
  document : v.document = w.document
  forest : v.forest = w.forest
  refreshes : ∀ z, (v.zone z).refreshes ⊆ (w.zone z).refreshes
  wrappers : ∀ z, (v.zone z).wrappers ⊆ (w.zone z).wrappers
  listeners : ∀ d, v.listeners d ⊆ w.listeners d
  attached : v.attached ⊆ w.attached

namespace Sheds

variable {w v x : World σ}

theorem refl (w : World σ) : w.Sheds w :=
  ⟨rfl, rfl, fun _ => .refl _, fun _ => .refl _, fun _ => .refl _, .refl _⟩

theorem trans (first : w.Sheds v) (second : v.Sheds x) : w.Sheds x where
  document := second.document.trans first.document
  forest := second.forest.trans first.forest
  refreshes z := List.Subset.trans (second.refreshes z) (first.refreshes z)
  wrappers z := List.Subset.trans (second.wrappers z) (first.wrappers z)
  listeners d := List.Subset.trans (second.listeners d) (first.listeners d)
  attached := List.Subset.trans second.attached first.attached

/-- Steps in a row, on a world that is part of what they work on. -/
theorem foldl {α β : Type} (view : β → World σ) {f : β → α → β}
    (each : ∀ b a, (view b).Sheds (view (f b a))) (as : List α) (b : β) :
    (view b).Sheds (view (as.foldl f b)) := by
  induction as generalizing b with
  | nil => exact refl _
  | cons a rest ih => exact (each b a).trans (ih _)

theorem onZone (w : World σ) (z : Zone) {f : ZoneState → ZoneState}
    (refreshes : ∀ s, (f s).refreshes ⊆ s.refreshes) (wrappers : ∀ s, (f s).wrappers ⊆ s.wrappers) :
    w.Sheds (w.onZone z f) := by
  refine ⟨rfl, rfl, fun y => ?_, fun y => ?_, fun _ => .refl _, .refl _⟩
  all_goals
    rw [zone_onZone]
    split
  · exact refreshes _
  · exact .refl _
  · exact wrappers _
  · exact .refl _

theorem onListeners (w : World σ) (d : Nat) {f : List Listener → List Listener}
    (fewer : ∀ ls, f ls ⊆ ls) : w.Sheds (w.onListeners d f) := by
  refine ⟨rfl, rfl, fun _ => .refl _, fun _ => .refl _, fun e => ?_, .refl _⟩
  simp only [World.listeners, World.onListeners, Array.getElem?_modify]
  split
  · cases w.dispatchers[e]? with
    | none => exact .refl _
    | some ls => exact fewer ls
  · exact .refl _

theorem removeRefresh (w : World σ) (z : Zone) (tick : Nat) :
    w.Sheds (w.removeRefresh z tick).2 :=
  onZone w z (fun _ _ => List.mem_of_mem_filter) fun _ => .refl _

theorem forget (w : World σ) (serial : Nat) : w.Sheds (w.forget serial) :=
  ⟨rfl, rfl, fun _ => .refl _, fun _ => .refl _, fun _ => .refl _,
    fun _ => List.mem_of_mem_filter⟩

mutual

theorem removeListener : ∀ (t : Target) (l : Listener) (w : World σ),
    w.Sheds (World.removeListener t l w).2
  | .dispatcher d, _, w => onListeners w d fun _ _ => List.mem_of_mem_eraseP
  | .zone z, l, w => removeWrapped z l w

theorem removeWrapped : ∀ (z : Zone) (l : Listener) (w : World σ),
    w.Sheds (World.removeWrapped z l w).2
  | .mk id behind, l, w => by
      have shorter : w.Sheds (w.onZone (.mk id behind) fun s =>
          { s with wrappers := s.wrappers.filter fun r => !r.inner.same l }) :=
        onZone w (.mk id behind) (fun _ => .refl _) fun _ _ => List.mem_of_mem_filter
      refine shorter.trans (foldl (β := Bool × World σ) Prod.snd (fun state r => ?_) _ (false, _))
      exact removeListener behind { l with handler := r.handler } state.2

end

/-- Taking back what an instance has registered with zones. -/
theorem registered (w : World σ) (z : Zone) (r : Registrations) :
    w.Sheds (r.listeners.foldl (fun w l => (w.removeWrapped z l).2)
      (r.ticks.foldl (fun w tick => (w.removeRefresh z tick).2) w)) := by
  have ticks : w.Sheds (r.ticks.foldl (fun w tick => (w.removeRefresh z tick).2) w) :=
    foldl (f := fun w tick => (w.removeRefresh z tick).2) id
      (fun w tick => removeRefresh w z tick) r.ticks w
  exact ticks.trans (foldl (f := fun w l => (w.removeWrapped z l).2) id
    (fun w l => removeWrapped z l w) r.listeners _)

end Sheds

end LiveTemplates.World
