/-
# LiveTemplates.Proofs.Detaching.Exactness -- detaching takes back what is held, and nothing else

At whatever time an instance is detached, all is taken back that it and the instances inside of it
hold, as far as it is still there, and nothing else changes.  As what is held does not depend on what
is taken back first, instances can be detached in any order.

* `World.Fresh`: nothing is registered yet;
* `Ledger.Detaches`: what detaching does in a world, to the instances that are noted;
* `Dealings.detaches`: so it does in each world that can be reached.
-/
import LiveTemplates.Proofs.Detaching.Restoring

namespace LiveTemplates

set_option autoImplicit false

variable {σ : Type}

/-! ## What detaching does -/

/-- A document that nobody has done anything with yet. -/
structure World.Fresh (w : World σ) : Prop where
  grounded : w.Grounded
  dispatchers : w.dispatchers = #[[]]
  zones : w.zones = #[]
  target : w.target = .dispatcher 0
  attached : w.attached = []

/-- What detaching does to the instances that are noted. -/
structure Ledger.Detaches (l : Ledger) (w : World σ) : Prop where
  /-- Each refresh that was given out is that of one instance, or of none. -/
  ticks : (l.ticks ++ w.ticksOf l.known).Nodup
  /-- So is each output. -/
  numbers : (l.numbers ++ (w.listenersOf l.known).filterMap (·.2.handler.number?)).Nodup
  serials : (l.known.map (·.serial)).Nodup
  /-- What the instance and those inside of it hold is taken back, and nothing else changes. -/
  detach : ∀ i ∈ l.known, i.detach w = w.clear (w.holdings i.all)
  /-- None of them is attached then. -/
  gone : ∀ i ∈ l.known, ∀ j ∈ i.all, (i.detach w).registrations? j.serial = none
  /-- To detach one of them again changes nothing. -/
  again : ∀ i ∈ l.known, ∀ j ∈ i.all, j.detach (i.detach w) = i.detach w
  /-- It does not matter which of several instances are detached first, as long as they are the same
  in the end. -/
  order : ∀ is js, is ⊆ l.known → js ⊆ l.known →
    (∀ i, i ∈ Instance.allOf is ↔ i ∈ Instance.allOf js) →
      Instance.detachAll is w = Instance.detachAll js w
  /-- What is detached as soon as it was attached leaves nothing behind but nodes that are new, if no
  input calls a method. -/
  restores : ∀ z ∈ l.zones, ∀ host, host < w.forest.size → ∀ b : Blueprint, b.CallFree →
    ∀ u : UserCode σ, ∃ i v, (b.attach u host z).run w = some (i, v) ∧ w.Restored (i.detach v)

namespace World

theorem holdings_alike (w : World σ) {is js : List Instance} (same : ∀ i, i ∈ is ↔ i ∈ js) :
    (w.holdings is).Alike (w.holdings js) := by
  have collected {α : Type} (f : Instance → Registrations → List α) (a : α) :
      a ∈ w.collected f is ↔ a ∈ w.collected f js :=
    ⟨fun member => collected_subset (fun i => (same i).1) member,
      fun member => collected_subset (fun i => (same i).2) member⟩
  exact
    { serials := fun n => by simp only [holdings, List.mem_map, same]
      ticks := collected fun i r => r.ticks.map (i.zone.id, ·)
      listeners := fun l => List.mem_map.trans
        ((exists_congr fun c => and_congr_left fun _ => collected _ c).trans List.mem_map.symm)
      mounted := collected fun i r => r.mounted.map (i.host, ·) }

/-- Nothing was given out in a world with which nobody has done anything. -/
theorem Fresh.fits {w : World σ} (fresh : w.Fresh) : ({} : Ledger).Fits [] {} w := by
  have registry (k : Nat) : w.registry k = {} := registry_outside (by simp [fresh.zones])
  have listeners (d : Nat) : w.listeners d = [] := by
    rw [World.listeners, fresh.dispatchers]
    match d with
    | 0 | d + 1 => rfl
  have registered (n : Nat) : w.registrations? n = none := by
    rw [registrations?, fresh.attached]
    rfl
  refine ⟨[], [], List.Subset.refl _, ?_⟩
  exact
    { there := List.forall_mem_nil _
      alone := List.forall_mem_nil _
      aims := by
        rw [fresh.target, Knows, fresh.dispatchers]
        exact Nat.one_pos
      strung :=
        { woven := woven_iff.2 ⟨fun d _ => listeners d, fun k _ => by rw [registry]; rfl⟩
          unwrapped := List.forall_mem_nil _
          there := List.forall_mem_nil _
          distinct := List.nodup_nil
          given := List.forall_mem_nil _ }
      starts := List.forall_mem_nil _
      placed := List.forall_mem_nil _
      ticketed :=
        { distinct := List.nodup_nil
          given := List.forall_mem_nil _
          listed := fun k => by
            rw [registry]
            exact List.forall_mem_nil _ }
      claimed :=
        { unwrapped := List.forall_mem_nil _
          bound := List.forall_mem_nil _
          distinct := List.nodup_nil
          given := List.forall_mem_nil _
          traced := List.forall_mem_nil _ }
      enrolled :=
        { distinct := List.nodup_nil
          given := List.forall_mem_nil _
          only := fun n attached => absurd (registered n) attached
          nested := List.forall_mem_nil _
          closed := List.forall_mem_nil _ } }

end World

/-- If it is known what was given out, then detaching takes back what is held, and nothing else. -/
theorem Ledger.Fits.takes_back {l : Ledger} {ys : List Zone} {a : Account} {w : World σ}
    (fits : l.Fits ys a w) (grounded : w.Grounded) : l.Detaches w := by
  obtain ⟨zs, ts, zones, sound⟩ := fits
  have known : l.known ⊆ (l.account.append a).instances := List.subset_append_left _ _
  have sublist : l.known.Sublist (l.account.append a).instances := List.sublist_append_left _ _
  have numbers : (l.numbers ++ (w.listenersOf l.known).filterMap (·.2.handler.number?)).Sublist
      ((l.account.append a).numbers ++ ((l.account.append a).listeners ++
        w.listenersOf (l.account.append a).instances).filterMap (·.2.handler.number?)) := by
    refine (List.sublist_append_left _ _).append (List.Sublist.filterMap _ ?_)
    exact (sublist.flatMap _).trans (List.sublist_append_right _ _)
  have gone : ∀ i ∈ l.known, ∀ j ∈ i.all, (i.detach w).registrations? j.serial = none :=
    fun i member j inside => by
      rw [(sound.detach_one (known member)).1, World.registrations?_clear]
      exact if_pos (List.mem_map_of_mem inside)
  exact
    { ticks := sound.ticketed.distinct.sublist
        ((List.sublist_append_left _ _).append (sublist.flatMap _))
      numbers := sound.claimed.distinct.sublist numbers
      serials := (List.nodup_append.1 sound.enrolled.distinct).1.sublist (sublist.map _)
      detach := fun i member => (sound.detach_one (known member)).1
      gone
      again := fun i member j inside => by
        obtain ⟨ts', after⟩ := (sound.detach_one (known member)).2
        rw [(after.detach_one (sound.enrolled.nested i (known member) j inside)).1]
        exact World.clear_unattached fun k below => gone i member k (i.all_sublist inside |>.subset below)
      order := fun is js first second same => by
        rw [(sound.detach (List.Subset.trans first known)).1,
          (sound.detach (List.Subset.trans second known)).1]
        exact World.clear_congr w (w.holdings_alike same)
      restores := fun z noted host there b free u =>
        sound.restores grounded (zones (List.mem_append_left _ noted)) there free u }

namespace Launched

/-- A user whose objects have all members, and whose code does nothing. -/
def user : UserCode Ledger where
  get _ _ s := (some (.text "v"), s)
  set _ _ _ s := (.ok (), s)
  call _ _ _ := return .ok .undefined
  handler _ := return
  refresh _ := return .ok ()
  construct _ _ s := s
  notice _ s := s
  holds _ _ := false

/-- A component with an output, and another in its place with an input. -/
def catalog : Catalog := [("O", ⟨"<i (x)=y>", [⟨"I", true⟩]⟩), ("I", ⟨"<b [z]=y>", []⟩)]

/-- A document with an element for the component. -/
def start : World Ledger where
  forest := ⟨#[{ data := .document, children := [1] },
    { data := .element .html "o" [], parent := some 0 }]⟩
  document := 0
  user := {}

/-- The application is started. -/
def launch : Run Ledger Unit := do
  let r ← Application.bootstrap user catalog ⟨"O", true⟩ {}
  modify fun w => { w with user := w.user.noteStart r }

/-- A handler is registered for the same event. -/
def listen : Run Ledger Unit :=
  modify fun w => w.addListener w.target ⟨1, "x", .named "own"⟩

theorem dealings : Dealings id (launch >>= fun _ => listen) := by
  refine .bind (.obtain (u := user) (fun w a v ran => ?_) ?_ fun _ _ _ => .pure _) fun _ => ?_
  · obtain ⟨r, x, started, noted⟩ := Run.bind_eq_some.1 ran
    obtain ⟨-, rfl⟩ := Prod.mk.inj (Option.some.inj noted)
    exact .application started rfl
  · exact ⟨fun _ _ _ => rfl, fun _ _ _ _ => rfl, fun _ _ _ => rfl, fun _ _ => rfl⟩
  · exact .deal (.total (fun _ => rfl) fun w => .listen (.inl rfl) trivial)

theorem fresh : start.Fresh where
  grounded := by
    refine ⟨nofun, fun k => ?_⟩
    match k with
    | 0 | 1 => decide
    | k + 2 => exact nofun
  dispatchers := rfl
  zones := rfl
  target := rfl
  attached := rfl

/-- How much is registered with the first zone and the dispatcher of the document, and how many
children the element has. -/
def shape (w : World Ledger) : Nat × Nat × Nat × Nat :=
  ((w.zone (.mk 0 (.dispatcher 0))).refreshes.length, (w.zone (.mk 0 (.dispatcher 0))).wrappers.length,
    (w.listeners 0).length, (w.forest.children 1).length)

set_option maxRecDepth 10000 in
theorem shapes : ((launch >>= fun _ => listen).run start).map (fun (_, v) =>
    (shape v, v.user.known.map fun i => shape (i.detach v))) =
      some ((1, 2, 2, 1), [(0, 1, 1, 0), (0, 2, 2, 1)]) := by
  cbv

end Launched

end LiveTemplates
