/-
# LiveTemplates.Proofs.Detaching.Keeping -- each change keeps accounts sound

Whatever is registered, taken back, attached or detached, it is known afterwards what was given out
to whom, if it was known before.

* `World.Sound.beside`, `World.Sound.newZone`, `World.Sound.newDispatcher`: nothing is registered;
* `World.Sound.addRefresh`, `World.Sound.addListener`, `World.Sound.removeListener`: something is
  registered, or taken back by who has registered it;
* `World.Sound.claim`, `World.Sound.reserve`, `World.Sound.enroll`: numbers are given out, and an
  instance is attached;
* `World.Sound.detach`, `World.Sound.removeRefresh`: something is cleared.
-/
import LiveTemplates.Proofs.Detaching.Accounts

namespace LiveTemplates.World

set_option autoImplicit false

variable {σ : Type}

namespace Sound

variable {w v : World σ} {zs : List Zone} {ts ts' : List Thread} {a b : Account}

/-! ## Nothing is registered -/

/-- At most nodes, the user's own state, what is held or busy, and what is counted are different. -/
theorem beside (sound : w.Sound zs ts a) (beside : w.Beside v) : v.Sound zs ts a := by
  have zones := Nat.le_of_eq beside.size.symm
  have dispatchers := Nat.le_of_eq (congrArg Array.size beside.dispatchers).symm
  have collected {α : Type} (f : Instance → Registrations → List α) :
      v.collected f a.instances = w.collected f a.instances := collected_attached beside.attached
  exact
    { there := fun z inside => (sound.there z inside).mono zones dispatchers
      alone := sound.alone
      aims := by
        rw [beside.target]
        exact sound.aims.mono dispatchers (List.Subset.refl _)
      strung := sound.strung.congr zones dispatchers
        (fun d => by rw [listeners, listeners, beside.dispatchers])
        (fun k => congrArg (·.wrappers) (beside.registry k)) beside.later
      starts := fun t member => (sound.starts t member).mono dispatchers (List.Subset.refl _)
      placed := sound.placed
      ticketed := by
        rw [ticksOf, collected]
        exact sound.ticketed.congr zones (fun k => congrArg (·.refreshes) (beside.registry k))
          fun k => congrArg (·.nextTick) (beside.registry k)
      claimed := by
        rw [listenersOf, collected]
        exact sound.claimed.later beside.later
      enrolled := sound.enrolled.congr beside.attached beside.later }

/-- Listeners of the document are registered with another target. -/
theorem aim (sound : w.Sound zs ts a) {t : Target} (known : w.Knows zs t) :
    ({ w with target := t } : World σ).Sound zs ts a :=
  { sound with
    aims := known
    ticketed := sound.ticketed.congr (Nat.le_refl _) (fun _ => rfl) fun _ => rfl
    strung := sound.strung.congr (Nat.le_refl _) (Nat.le_refl _) (fun _ => rfl) (fun _ => rfl)
      (Nat.le_refl _)
    enrolled := sound.enrolled.congr rfl (Nat.le_refl _) }

theorem newDispatcher (sound : w.Sound zs ts a) : w.newDispatcher.2.Sound zs ts a := by
  have size : w.dispatchers.size ≤ w.newDispatcher.2.dispatchers.size := by
    simp [World.newDispatcher]
  have lists (d : Nat) : w.newDispatcher.2.listeners d = w.listeners d := by
    rw [listeners, listeners, World.newDispatcher, Array.getElem?_push]
    split
    case isTrue last => simp [last]
    case isFalse => rfl
  exact
    { there := fun z inside => (sound.there z inside).mono (Nat.le_refl _) size
      alone := sound.alone
      aims := sound.aims.mono size (List.Subset.refl _)
      strung := sound.strung.congr (Nat.le_refl _) size lists (fun _ => rfl) (Nat.le_refl _)
      starts := fun t member => (sound.starts t member).mono size (List.Subset.refl _)
      placed := sound.placed
      ticketed := sound.ticketed.congr (Nat.le_refl _) (fun _ => rfl) fun _ => rfl
      claimed := sound.claimed
      enrolled := sound.enrolled.congr rfl (Nat.le_refl _) }

theorem newZone (sound : w.Sound zs ts a) {behind : Target} (known : w.Knows zs behind) :
    (w.newZone behind).2.Sound (zs ++ [(w.newZone behind).1]) ts a := by
  have size : w.zones.size ≤ (w.newZone behind).2.zones.size := by simp [World.newZone]
  have sub : zs ⊆ zs ++ [(w.newZone behind).1] := List.subset_append_left _ _
  have older : ∀ z ∈ zs, z.id < w.zones.size := by
    rintro ⟨id, next⟩ inside
    exact (sound.there _ inside).1.1
  have registry := registry_newZone w behind
  exact
    { there := by
        refine List.forall_mem_append.2 ⟨fun z inside =>
          (sound.there z inside).mono size (Nat.le_refl _), fun z new => ?_⟩
        obtain ⟨inside, root⟩ := sound.has known
        rw [List.mem_singleton.1 new]
        exact ⟨⟨by simp [World.newZone], inside⟩, root⟩
      alone := by
        intro y one z other same
        rcases List.mem_append.1 one with old | new <;> rcases List.mem_append.1 other with old' | new'
        · exact sound.alone y old z old' same
        · rw [List.mem_singleton.1 new'] at same
          exact absurd same (Nat.ne_of_lt (older y old))
        · rw [List.mem_singleton.1 new] at same
          exact absurd same.symm (Nat.ne_of_lt (older z old'))
        · rw [List.mem_singleton.1 new, List.mem_singleton.1 new']
      aims := sound.aims.mono (Nat.le_refl _) sub
      strung := sound.strung.congr size (Nat.le_refl _) (fun _ => rfl)
        (fun k => congrArg _ (registry k)) (Nat.le_refl _)
      starts := fun t member => (sound.starts t member).mono (Nat.le_refl _) sub
      placed := fun i member => sub (sound.placed i member)
      ticketed := sound.ticketed.congr size (fun k => congrArg _ (registry k))
        fun k => congrArg _ (registry k)
      claimed := sound.claimed
      enrolled := sound.enrolled.congr rfl (Nat.le_refl _) }

/-! ## Something is registered -/

theorem addRefresh (sound : w.Sound zs ts a) {z : Zone} (inside : z ∈ zs) (r : Refresh) :
    (w.addRefresh z r).2.Sound zs ts
      (a.append { ticks := [(z.id, (w.addRefresh z r).1)] }) := by
  have size : (w.addRefresh z r).2.zones.size = w.zones.size := by simp [World.addRefresh, onZone]
  have zones := Nat.le_of_eq size.symm
  have within : z.id < w.zones.size := by
    obtain ⟨id, behind⟩ := z
    exact (sound.there _ inside).1.1
  have added : (w.addRefresh z r).2.Sound zs ts
      { a with ticks := (z.id, (w.addRefresh z r).1) :: a.ticks } :=
    { there := fun y known => (sound.there y known).mono zones (Nat.le_refl _)
      alone := sound.alone
      aims := sound.aims.mono (Nat.le_refl _) (List.Subset.refl _)
      strung := sound.strung.congr zones (Nat.le_refl _) (fun _ => rfl) (fun k => by
        rw [World.addRefresh, registry_onZone]
        split <;> rfl) (Nat.le_refl _)
      starts := fun t member => (sound.starts t member).mono (Nat.le_refl _) (List.Subset.refl _)
      placed := sound.placed
      ticketed := sound.ticketed.addRefresh within r
      claimed := sound.claimed
      enrolled := sound.enrolled.congr rfl (Nat.le_refl _) }
  exact added.perm
    { Account.Perm.append_nothing a with ticks := (List.perm_append_singleton _ _).symm }

/-- A listener is registered that no zone has wrapped, and under a number that may be anywhere, if it
has one, or at the place where it is claimed. -/
theorem addListener (sound : w.Sound zs ts a) {t : Target} (known : w.Knows zs t) {l : Listener}
    (unwrapped : l.handler.wrapper? = none) (own : ∀ n, l.handler.number? = some n →
      n ∈ a.numbers ∨ ∃ c ∈ a.listeners, t = .zone c.1 ∧ l = c.2) :
    (World.addListener t l w).Sound zs (ts ++ [⟨t, l, w.serial⟩]) a := by
  have added := addListener_eq t l w
  have strung := sound.strung.add (sound.has known) unwrapped
  rw [added] at strung ⊢
  let v : World σ := { w.lay ⟨t, l, w.serial⟩ with serial := w.serial + t.depth }
  have zones : w.zones.size ≤ v.zones.size := by simp [v, lay, rewire]
  have dispatchers : w.dispatchers.size ≤ v.dispatchers.size := by simp [v, lay, rewire]
  have registry := registry_rewire_refreshes w (fun d ls => ls ++ Thread.lists ⟨t, l, w.serial⟩ d)
    (g := fun k s => { s with wrappers := s.wrappers ++ Thread.keeps ⟨t, l, w.serial⟩ k })
    fun _ _ => ⟨rfl, rfl⟩
  have starts : ∀ s ∈ ts ++ [(⟨t, l, w.serial⟩ : Thread)], w.Knows zs s.target :=
    List.forall_mem_append.2 ⟨sound.starts, by simpa using known⟩
  exact
    { there := fun z inside => (sound.there z inside).mono zones dispatchers
      alone := sound.alone
      aims := sound.aims.mono dispatchers (List.Subset.refl _)
      strung
      starts := fun s member => (starts s member).mono dispatchers (List.Subset.refl _)
      placed := sound.placed
      ticketed := sound.ticketed.congr zones (fun k => (registry k).1) fun k => (registry k).2
      claimed := (sound.claimed.later (Nat.le_add_right _ _)).add fun n number =>
        (own n number).imp_right (.imp fun _ => .imp_left (List.mem_append_left _))
      enrolled := sound.enrolled.congr rfl (Nat.le_add_right _ _) }

/-! ## Numbers are given out -/

theorem claim (sound : w.Sound zs ts a) (z : Zone) {l : Listener}
    (unwrapped : l.handler.wrapper? = none) (number : l.handler.number? = some w.serial) :
    ({ w with serial := w.serial + 1 } : World σ).Sound zs ts
      (a.append { listeners := [(z, l)] }) := by
  have claimed : ({ w with serial := w.serial + 1 } : World σ).Sound zs ts
      { a with listeners := (z, l) :: a.listeners } :=
    { sound with
      strung := sound.strung.congr (Nat.le_refl _) (Nat.le_refl _) (fun _ => rfl) (fun _ => rfl)
        (Nat.le_succ _)
      ticketed := sound.ticketed.congr (Nat.le_refl _) (fun _ => rfl) fun _ => rfl
      claimed := sound.claimed.claim z unwrapped number
      enrolled := sound.enrolled.congr rfl (Nat.le_succ _) }
  exact claimed.perm
    { Account.Perm.append_nothing a with listeners := (List.perm_append_singleton _ _).symm }

theorem reserve (sound : w.Sound zs ts a) :
    ({ w with serial := w.serial + 1 } : World σ).Sound zs ts (a.append { serials := [w.serial] }) := by
  have reserved : ({ w with serial := w.serial + 1 } : World σ).Sound zs ts
      { a with serials := w.serial :: a.serials } :=
    { sound with
      strung := sound.strung.congr (Nat.le_refl _) (Nat.le_refl _) (fun _ => rfl) (fun _ => rfl)
        (Nat.le_succ _)
      ticketed := sound.ticketed.congr (Nat.le_refl _) (fun _ => rfl) fun _ => rfl
      claimed := sound.claimed.later (Nat.le_succ _)
      enrolled := sound.enrolled.reserve }
  exact reserved.perm
    { Account.Perm.append_nothing a with serials := (List.perm_append_singleton _ _).symm }

/-- The numbers of some listeners may be anywhere from now on. -/
theorem release (sound : w.Sound zs ts a) {released rest : List (Zone × Listener)}
    (parts : a.listeners = released ++ rest) : w.Sound zs ts { a with
      numbers := a.numbers ++ released.filterMap (·.2.handler.number?)
      listeners := rest } := by
  have claimed := sound.claimed
  rw [parts, List.append_assoc] at claimed
  exact { sound with claimed := claimed.release }

/-! ## Something is taken back -/

/-- Some threads are taken back. -/
theorem take (sound : w.Sound zs ts a) (sub : ts'.Sublist ts) : (w.woven ts').Sound zs ts' a := by
  have zones : w.zones.size ≤ (w.woven ts').zones.size := by simp [World.woven, rewire]
  have dispatchers : w.dispatchers.size ≤ (w.woven ts').dispatchers.size := by
    simp [World.woven, rewire]
  have registry := registry_rewire_refreshes w (fun d _ => ts'.flatMap (·.lists d))
    (g := fun k s => { s with wrappers := ts'.flatMap (·.keeps k) }) fun _ _ => ⟨rfl, rfl⟩
  exact
    { there := fun z inside => (sound.there z inside).mono zones dispatchers
      alone := sound.alone
      aims := sound.aims.mono dispatchers (List.Subset.refl _)
      strung := sound.strung.take sub
      starts := fun t member =>
        (sound.starts t (sub.subset member)).mono dispatchers (List.Subset.refl _)
      placed := sound.placed
      ticketed := sound.ticketed.congr zones (fun k => (registry k).1) fun k => (registry k).2
      claimed := sound.claimed.sub sub.subset
      enrolled := sound.enrolled.congr rfl (Nat.le_refl _) }

/-- Whatever listener that no zone has wrapped is taken back. -/
theorem removeListener (sound : w.Sound zs ts a) {t : Target} (known : w.Knows zs t) {l : Listener}
    (unwrapped : l.handler.wrapper? = none) :
    ∃ ts', (World.removeListener t l w).2.Sound zs ts' a := by
  cases t with
  | dispatcher d =>
      have taken := removeListener_dispatcher w d ts unwrapped
      rw [sound.strung.woven] at taken
      rw [taken]
      exact ⟨_, sound.take (List.eraseP_sublist)⟩
  | zone z =>
      have own : ∀ t ∈ ts, t.startsAt z l = true → t.target = .zone z := by
        intro t member starts
        obtain ⟨y, target, same, -⟩ := Thread.startsAt_iff.1 starts
        have there := sound.starts t member
        rw [target] at there
        rw [target, sound.alone y there z known same]
      have taken := removeWrapped_zone (w := w) (sound.there z known).1 unwrapped own
        (fun t member => ⟨sound.strung.unwrapped t member, _, (sound.strung.there t member).1⟩)
        sound.strung.distinct
      rw [sound.strung.woven] at taken
      rw [World.removeListener, taken]
      exact ⟨_, sound.take List.filter_sublist⟩

/-- A refresh is taken back, by whoever has its number. -/
theorem removeRefresh (sound : w.Sound zs ts a) (z : Zone) (tick : Nat) :
    ∃ ts', (w.removeRefresh z tick).2.Sound zs ts' a := by
  rw [removeRefresh_eq]
  exact sound.clear nofun nofun nofun

/-- Some instances are detached, with those inside. -/
theorem detach (sound : w.Sound zs ts a) {is : List Instance} (known : is ⊆ a.instances) :
    Instance.detachAll is w = w.clear (w.holdings (Instance.allOf is)) ∧
      ∃ ts', (Instance.detachAll is w).Sound zs ts' a := by
  have orderly := sound.orderly
  have sub : Instance.allOf is ⊆ a.instances := by
    intro j member
    rw [Instance.allOf_eq] at member
    obtain ⟨i, inside, below⟩ := List.mem_flatMap.1 member
    exact orderly.nested i (known inside) j below
  have nested : ∀ i ∈ Instance.allOf is, ∀ j ∈ i.all, j ∈ Instance.allOf is :=
    fun i member => (Instance.allOf_sublist is member).subset
  have clears := Instance.detachAll_clears is (orderly.part sub nested)
  refine ⟨clears, ?_⟩
  rw [clears]
  have own : ∀ i ∈ a.instances, i.serial ∈ (w.holdings (Instance.allOf is)).serials →
      i ∈ Instance.allOf is := by
    intro i member listed
    obtain ⟨j, also, same⟩ := List.mem_map.1 listed
    rwa [← orderly.alone j (sub also) i member same]
  refine sound.clear (orderly.whole sub nested) (fun i member listed => ?_)
    fun i member listed c claim => ?_
  · exact collected_subset (List.cons_subset.2 ⟨own i member listed, List.nil_subset _⟩)
  · exact List.mem_map_of_mem
      (collected_subset (List.cons_subset.2 ⟨own i member listed, List.nil_subset _⟩) claim)

theorem detach_one (sound : w.Sound zs ts a) {i : Instance} (known : i ∈ a.instances) :
    i.detach w = w.clear (w.holdings i.all) ∧ ∃ ts', (i.detach w).Sound zs ts' a := by
  have sub : [i] ⊆ a.instances := List.cons_subset.2 ⟨known, List.nil_subset _⟩
  have one := sound.detach sub
  rwa [Instance.allOf, Instance.allOf, List.append_nil] at one

/-! ## An instance is attached -/

/-- What was given out for an instance is what it has recorded. -/
theorem enroll (sound : w.Sound zs ts a) {i : Instance} {serials : List Nat}
    (serial : a.serials = i.serial :: serials) (inside : ∀ j ∈ i.inside, j ∈ a.instances)
    (place : i.zone ∈ zs) {r : Registrations} {ticks : List (Nat × Nat)}
    {listeners : List (Zone × Listener)}
    (first : a.ticks = r.ticks.map (i.zone.id, ·) ++ ticks)
    (second : a.listeners = r.listeners.map (i.zone, ·) ++ listeners) (forest : Forest) :
    ({ w with forest := forest, attached := (i.serial, r) :: w.attached } : World σ).Sound zs ts
      { a with
        ticks := ticks
        listeners := listeners
        serials := serials
        instances := i :: a.instances } := by
  let v : World σ := { w with forest := forest, attached := (i.serial, r) :: w.attached }
  have enrolled := sound.enrolled
  rw [serial] at enrolled
  have others : ∀ j ∈ a.instances, v.registrations? j.serial = w.registrations? j.serial := by
    intro j member
    have distinct := (List.nodup_append.1 enrolled.distinct).2.2 _ (List.mem_map_of_mem member) _
      List.mem_cons_self
    exact (registrations?_attach w forest i.serial r _).trans (if_neg distinct)
  have own : v.recorded i = r := by
    rw [recorded, registrations?_attach, if_pos rfl]
    rfl
  -- what is collected of the instance is what was given out for it
  have collected {α : Type} (f : Instance → Registrations → List α) :
      v.collected f (i :: a.instances) = f i r ++ w.collected f a.instances := by
    rw [World.collected, List.flatMap_cons, own]
    exact congrArg _ (collected_congr others)
  have order {α : Type} (own others rest : List α) :
      (own ++ others ++ rest).Perm (others ++ (own ++ rest)) := by
    rw [List.append_assoc]
    exact List.perm_append_comm_assoc _ _ _
  have ticketed := sound.ticketed
  have claimed := sound.claimed
  rw [first] at ticketed
  rw [second] at claimed
  exact
    { there := sound.there
      alone := sound.alone
      aims := sound.aims
      strung := sound.strung.congr (Nat.le_refl _) (Nat.le_refl _) (fun _ => rfl) (fun _ => rfl)
        (Nat.le_refl _)
      starts := sound.starts
      placed := List.forall_mem_cons.2 ⟨place, sound.placed⟩
      ticketed := by
        rw [ticksOf, collected]
        exact (ticketed.congr (v := v) (Nat.le_refl _) (fun _ => rfl) fun _ => rfl).perm (order _ _ _)
      claimed := by
        rw [listenersOf, collected]
        exact claimed.perm (.refl _) (order _ _ _)
      enrolled := enrolled.enroll inside r forest }

end Sound

end LiveTemplates.World
