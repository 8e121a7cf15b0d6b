/-
# LiveTemplates.Proofs.Detaching.Extending -- attaching only adds, and under new numbers

If the programs of its inputs call no methods, then attaching a blueprint only puts entries at the
end of registries, and new instances in front of those that are attached.  All of these have numbers
that were not given out before.

* `Appends`: a list has grown at its end;
* `World.Extends`: so have all registries, by entries with new numbers;
* `Blueprint.CallFree.attach_extends`: attaching does no more.
-/
import LiveTemplates.Proofs.Detaching.Ledgers
import LiveTemplates.Proofs.Instance.Deafness

namespace LiveTemplates

set_option autoImplicit false

variable {σ : Type}

/-! ## Lists that have grown -/

/-- A list has grown at its end, by what has a property. -/
def Appends {α : Type} (P : α → Prop) (xs ys : List α) : Prop :=
  ∃ new, ys = xs ++ new ∧ ∀ a ∈ new, P a

namespace Appends

variable {α : Type} {P Q : α → Prop} {xs ys zs : List α}

theorem refl (P : α → Prop) (xs : List α) : Appends P xs xs :=
  ⟨[], (List.append_nil xs).symm, nofun⟩

theorem of_eq (same : ys = xs) : Appends P xs ys :=
  same ▸ refl P xs

theorem imp (appends : Appends Q xs ys) (weaker : ∀ a, Q a → P a) : Appends P xs ys :=
  have ⟨new, all, each⟩ := appends
  ⟨new, all, fun a member => weaker a (each a member)⟩

theorem trans (first : Appends P xs ys) (second : Appends P ys zs) : Appends P xs zs := by
  obtain ⟨new, rfl, each⟩ := first
  obtain ⟨more, rfl, also⟩ := second
  exact ⟨new ++ more, List.append_assoc _ _ _, List.forall_mem_append.2 ⟨each, also⟩⟩

/-- Only what was there before is left. -/
theorem filter_eq (appends : Appends P xs ys) {p : α → Bool} (old : ∀ a ∈ xs, p a = true)
    (new : ∀ a ∈ ys, P a → p a = false) : ys.filter p = xs := by
  obtain ⟨more, rfl, each⟩ := appends
  have gone : more.filter p = [] := List.filter_eq_nil_iff.2 fun a member => by
    simp [new a (List.mem_append_right _ member) (each a member)]
  rw [List.filter_append, List.filter_eq_self.2 old, gone, List.append_nil]

end Appends

/-! ## Worlds that have grown -/

/-- The number of a listener was given out later than others. -/
def Listener.Since (n : Nat) (l : Listener) : Prop :=
  ∃ m, n ≤ m ∧ l.base.handler.number? = some m

namespace World

/-- Registries have grown by entries with new numbers, and so has the table of attached instances. -/
structure Extends (w v : World σ) : Prop where
  later : w.serial ≤ v.serial
  dispatchers : v.dispatchers.size = w.dispatchers.size
  listeners : ∀ d, Appends (·.Since w.serial) (w.listeners d) (v.listeners d)
  nextTick : ∀ k, (w.registry k).nextTick ≤ (v.registry k).nextTick
  refreshes : ∀ k, Appends (fun r => (w.registry k).nextTick ≤ r.1) (w.registry k).refreshes
    (v.registry k).refreshes
  wrappers : ∀ k, Appends (·.inner.Since w.serial) (w.registry k).wrappers (v.registry k).wrappers
  attached : ∃ new, v.attached = new ++ w.attached ∧ ∀ a ∈ new, w.serial ≤ a.1

namespace Extends

variable {w v x : World σ}

theorem trans (first : w.Extends v) (second : v.Extends x) : w.Extends x := by
  have newer {l : Listener} (since : l.Since v.serial) : l.Since w.serial :=
    have ⟨m, least, number⟩ := since
    ⟨m, Nat.le_trans first.later least, number⟩
  obtain ⟨new, old, each⟩ := first.attached
  obtain ⟨more, all, also⟩ := second.attached
  exact
    { later := Nat.le_trans first.later second.later
      dispatchers := second.dispatchers.trans first.dispatchers
      listeners := fun d => (first.listeners d).trans ((second.listeners d).imp fun _ => newer)
      nextTick := fun k => Nat.le_trans (first.nextTick k) (second.nextTick k)
      refreshes := fun k => (first.refreshes k).trans ((second.refreshes k).imp fun _ =>
        Nat.le_trans (first.nextTick k))
      wrappers := fun k => (first.wrappers k).trans ((second.wrappers k).imp fun _ => newer)
      attached := ⟨more ++ new, by rw [all, old, List.append_assoc],
        List.forall_mem_append.2 ⟨fun a member => Nat.le_trans first.later (also a member), each⟩⟩ }

theorem of_beside (beside : w.Beside v) : w.Extends v where
  later := beside.later
  dispatchers := by rw [beside.dispatchers]
  listeners d := .of_eq (by rw [World.listeners, World.listeners, beside.dispatchers])
  nextTick k := Nat.le_of_eq (congrArg (·.nextTick) (beside.registry k)).symm
  refreshes k := .of_eq (congrArg (·.refreshes) (beside.registry k))
  wrappers k := .of_eq (congrArg (·.wrappers) (beside.registry k))
  attached := ⟨[], beside.attached, nofun⟩

theorem addRefresh (w : World σ) (z : Zone) (r : Refresh) : w.Extends (w.addRefresh z r).2 := by
  have registry (k : Nat) : (w.addRefresh z r).2.registry k = w.registry k ∨
      (w.addRefresh z r).2.registry k = { w.registry k with
        refreshes := (w.registry k).refreshes ++ [((w.registry k).nextTick, r)]
        nextTick := (w.registry k).nextTick + 1 } := by
    rw [World.addRefresh, registry_onZone]
    split
    case isTrue here =>
      rw [← here.1]
      exact .inr rfl
    case isFalse => exact .inl rfl
  exact
    { later := Nat.le_refl _
      dispatchers := rfl
      listeners := fun d => .refl _ _
      nextTick := fun k => by rcases registry k with same | more <;> simp [*]
      refreshes := fun k => by
        rcases registry k with same | more
        · exact .of_eq (by rw [same])
        · exact ⟨_, by rw [more], fun a member => by rw [List.mem_singleton.1 member]⟩
      wrappers := fun k => .of_eq (by rcases registry k with same | more <;> simp [*])
      attached := ⟨[], rfl, List.forall_mem_nil _⟩ }

/-- A listener with the next number is registered. -/
theorem addWrapped (w : World σ) (z : Zone) {l : Listener} (unwrapped : l.handler.wrapper? = none)
    (number : l.handler.number? = some w.serial) :
    w.Extends (World.addWrapped z l { w with serial := w.serial + 1 }) := by
  let counted : World σ := { w with serial := w.serial + 1 }
  let t : Thread := ⟨.zone z, l, counted.serial⟩
  have since {e : Listener} (base : e.base = l.base) : e.Since w.serial := by
    rw [Listener.base_of_unwrapped unwrapped] at base
    exact ⟨w.serial, Nat.le_refl _, by rw [base, number]⟩
  have registry (k : Nat) : (counted.lay t).registry k = w.registry k ∨
      (counted.lay t).registry k =
        { w.registry k with wrappers := (w.registry k).wrappers ++ t.keeps k } := by
    by_cases inside : k < w.zones.size
    · exact .inr (registry_rewire (w := counted) inside)
    · rw [registry_outside inside, registry_outside (by simpa [lay, rewire] using inside)]
      exact .inl rfl
  rw [addWrapped_eq]
  exact
    { later := Nat.le_trans (Nat.le_succ _) (Nat.le_add_right _ _)
      dispatchers := by simp [lay, rewire]
      listeners := fun d => by
        by_cases inside : d < w.dispatchers.size
        · refine ⟨t.lists d, ?_, fun e member => since (Target.lists_base _ _ _ member)⟩
          simp [World.listeners, lay, rewire, inside, t, counted]
        · refine .of_eq ?_
          simp [World.listeners, lay, rewire, inside]
      nextTick := fun k => Nat.le_of_eq (by
        show (w.registry k).nextTick = ((counted.lay t).registry k).nextTick
        rcases registry k with same | more <;> simp [*])
      refreshes := fun k => .of_eq (by
        show ((counted.lay t).registry k).refreshes = (w.registry k).refreshes
        rcases registry k with same | more <;> simp [*])
      wrappers := fun k => by
        show Appends _ _ ((counted.lay t).registry k).wrappers
        rcases registry k with same | more
        · exact .of_eq (by rw [same])
        · exact ⟨t.keeps k, by rw [more], fun r member => since (Target.keeps_base _ _ _ member)⟩
      attached := ⟨[], rfl, List.forall_mem_nil _⟩ }

/-- An instance is attached under a number that was not given out before. -/
theorem enroll (grown : w.Extends v) {serial : Nat} (later : w.serial ≤ serial)
    (r : Registrations) (f : Forest) :
    w.Extends { v with forest := f, attached := (serial, r) :: v.attached } := by
  obtain ⟨new, all, each⟩ := grown.attached
  exact { grown with
    attached := ⟨(serial, r) :: new, by rw [all]; rfl, List.forall_mem_cons.2 ⟨later, each⟩⟩ }

/-- Evaluations change nothing of it. -/
theorem hosts (u : UserCode σ) : Hosts u (World.Extends (σ := σ)) where
  trans _ _ _ := trans
  minor {w _} step := by
    cases step with
    | count z => exact of_beside (.count w z)
    | _ => exact of_beside (.intro w w.forest w.busy _ 0 _)
  shows w _ _ _ := of_beside (.intro w _ w.busy w.pins 0 w.user)
  borrowed w v o borrowed := by
    have before : w.Extends { w with busy := o :: w.busy } :=
      of_beside (.intro w w.forest (o :: w.busy) w.pins 0 w.user)
    have after : v.Extends { v with busy := v.busy.erase o } :=
      of_beside (.intro v v.forest (v.busy.erase o) v.pins 0 v.user)
    exact (before.trans borrowed).trans after

/-- Attaching to a zone only adds entries with new numbers by itself. -/
theorem gives (u : UserCode σ) (z : Zone) :
    Gives u z fun a w v => w.Extends v ∧ ∀ n ∈ a.serials, w.serial ≤ n where
  hosts :=
    have hosts := hosts u
    { trans := fun _ _ _ first second => ⟨first.1.trans second.1, nofun⟩
      minor := fun step => ⟨hosts.minor step, nofun⟩
      borrowed := fun _ _ _ during => ⟨hosts.borrowed during.1, nofun⟩
      shows := fun w node attr text => ⟨hosts.shows w node attr text, nofun⟩ }
  append first second := ⟨first.1.trans second.1, List.forall_mem_append.2
    ⟨first.2, fun n member => Nat.le_trans first.1.later (second.2 n member)⟩⟩
  construct _ w := ⟨of_beside (.intro w w.forest w.busy w.pins 1 _), nofun⟩
  forest w f := ⟨of_beside (.intro w f w.busy w.pins 0 w.user), nofun⟩
  addRefresh w r := ⟨addRefresh w z r, nofun⟩
  addWrapped w _ unwrapped number := ⟨addWrapped w z unwrapped number, nofun⟩
  reserve w := ⟨of_beside (.intro w w.forest w.busy w.pins 1 w.user),
    fun _ member => Nat.le_of_eq (List.mem_singleton.1 member).symm⟩
  enroll r f given := ⟨given.1.enroll (given.2 _ (List.mem_singleton_self _)) r f, nofun⟩

end Extends

end World

/-- If no input calls a method, attaching only adds entries with new numbers. -/
theorem Blueprint.CallFree.attach_extends {b : Blueprint} (free : b.CallFree) {u : UserCode σ}
    {host : NodeId} {z : Zone} {w v : World σ} {i : Instance}
    (ran : (b.attach u host z).run w = some (i, v)) : w.Extends v := by
  rw [← free.attach_deaf] at ran
  exact ((World.Extends.gives u.deaf z).attach UserCode.keeps_deaf ran).1

end LiveTemplates
