/-
# LiveTemplates.Proofs.Ownership.Shares -- what instances hold, and give back

All that is registered with zones is divided up: a share for each attached instance, and
the rest.  An instance that is detached gives back its share, and those of all instances
inside of it, and nothing else.

* `Divided`: the shares of some instances, and the rest, are all there is;
* `Divided.detach`: detaching an instance leaves the shares of the instances that are not inside
  of it, and the rest.
-/
import LiveTemplates.Proofs.Ownership.Diary

namespace LiveTemplates

set_option autoImplicit false

variable {σ : Type}

/-- The refreshes of shares, with the number of the zone. -/
def tableOf (hs : List (Nat × Share)) : List (Nat × Nat × Refresh) :=
  hs.flatMap fun h => h.2.refreshes.map (h.1, ·)

/-- The listeners of shares. -/
def listOf (hs : List (Nat × Share)) : List (Nat × Listener) :=
  hs.flatMap fun h => h.2.listeners.map (h.1, ·)

/-- The shares of instances, with the numbers of their zones. -/
def keyed (held : List (Instance × Share)) : List (Nat × Share) :=
  held.map fun p => (p.1.zone.id, p.2)

/-- What instances hold with one zone. -/
theorem filter_keyed {β : Type} (g : Share → List β) (held : List (Instance × Share))
    (n : Nat) :
    (((keyed held).flatMap fun h => (g h.2).map (h.1, ·)).filter (·.1 = n)).map (·.2) =
      (held.filter (·.1.zone.id = n)).flatMap fun p => g p.2 := by
  induction held with
  | nil => rfl
  | cons p rest ih =>
      rw [keyed, List.map_cons, List.flatMap_cons, List.filter_append, List.map_append]
      rw [keyed] at ih
      rw [ih, List.filter_cons]
      split
      case isTrue same =>
        have same : p.1.zone.id = n := of_decide_eq_true same
        simp [same, List.filter_map, Function.comp_def]
      case isFalse other =>
        have other : p.1.zone.id ≠ n := fun same => other (decide_eq_true same)
        simp [other, List.filter_map, Function.comp_def]

namespace Instance.Owns

variable {i : Instance} {h : Share} (owns : i.Owns σ h)

include owns

/-- What an instance holds of refreshes shows values of its object. -/
theorem refreshes_bound :
    ∀ r ∈ h.refreshes, ∃ live name e, r.2 = .bound live name e i.object := by
  obtain ⟨_, places, parts, -, each, refreshes, -⟩ := owns
  intro r member
  obtain ⟨part, inside, here⟩ := List.mem_flatMap.1 (refreshes.mem_iff.1 member)
  obtain ⟨b, -, live, -, holds⟩ := exists_left_of_forall₂ each inside
  cases holds with
  | broken | output => cases here
  | input =>
      rw [List.mem_singleton.1 here]
      exact ⟨_, _, _, rfl⟩

/-- What an instance holds of listeners acts on its object, and has numbers. -/
theorem listeners_bound :
    ∀ l ∈ h.listeners, ∃ n event e, l.handler = .bound n event e i.object := by
  obtain ⟨_, places, parts, -, each, -, listeners⟩ := owns
  intro l member
  obtain ⟨part, inside, here⟩ := List.mem_flatMap.1 (listeners.mem_iff.1 member)
  obtain ⟨b, -, live, -, holds⟩ := exists_left_of_forall₂ each inside
  cases holds with
  | broken | input => cases here
  | output =>
      rw [List.mem_singleton.1 here]
      exact ⟨_, _, _, rfl⟩

theorem numbered : ∀ l ∈ h.listeners, l.handler.number? ≠ none := by
  intro l member
  obtain ⟨n, event, e, bound⟩ := owns.listeners_bound l member
  rw [bound]
  exact nofun

end Instance.Owns

namespace World

/-! ## Giving back -/

theorem registrations?_forget (w : World σ) (n m : Nat) :
    (w.forget n).registrations? m = if m = n then none else w.registrations? m := by
  unfold registrations? forget
  induction w.attached with
  | nil => split <;> rfl
  | cons entry rest ih =>
      obtain ⟨k, r⟩ := entry
      by_cases same : k = n
      · subst same
        rw [List.filter_cons_of_neg (by simp), ih]
        split
        · rfl
        case isFalse other => rw [List.lookup_cons, show (m == k) = false by simpa using other]
      · rw [List.filter_cons_of_pos (by simpa using same), List.lookup_cons, List.lookup_cons, ih]
        by_cases own : m = k
        · subst own
          simp [same]
        · rw [show (m == k) = false by simpa using own]

/-- Taking back refreshes one after the other. -/
theorem foldl_removeRefresh {zs : List Zone} {z : Zone} (inside : z ∈ zs)
    {rs : List (Nat × Nat × Refresh)} : ∀ (mine : List (Nat × Refresh)) {w : World σ}, w.Laid zs →
      w.Tabled zs (mine.map (z.id, ·) ++ rs) →
        let v := (mine.map (·.1)).foldl (fun w tick => (w.removeRefresh z tick).2) w
        v.Tabled zs rs ∧ w.Retabled v
  | [], w, _, tabled => ⟨tabled, .refl w⟩
  | (tick, r) :: mine, w, laid, tabled => by
      have first : w.Retabled (w.removeRefresh z tick).2 := .removeRefresh w z tick
      have others := foldl_removeRefresh inside mine (laid.resize first.size)
        (tabled.removeFirst laid inside)
      exact ⟨others.1, first.trans others.2⟩

/-- Taking back listeners one after the other. -/
theorem foldl_removeWrapped {zs : List Zone} {z : Zone} (inside : z ∈ zs)
    {ls : List (Nat × Listener)} : ∀ {mine : List Listener} {w : World σ}, w.Laid zs →
      (∀ l ∈ mine, l.handler.number? ≠ none) → w.Listed zs (mine.map (z.id, ·) ++ ls) [] →
        let v := mine.foldl (fun w l => (w.removeWrapped z l).2) w
        v.Listed zs ls [] ∧ w.Rewired v
  | [], w, _, _, listed => ⟨listed, .refl w⟩
  | l :: mine, w, laid, numbered, listed => by
      obtain ⟨number, more⟩ := List.forall_mem_cons.1 numbered
      have first : w.Rewired (w.removeWrapped z l).2 := .removeWrapped z l w
      have others := foldl_removeWrapped inside (laid.resize first.size) more
        (Listed.removeWrapped z l laid inside number listed)
      exact ⟨others.1, first.trans others.2⟩

theorem foldl_remove (host : NodeId) : ∀ (mounted : List NodeId) (w : World σ), ∃ forest,
    mounted.foldl (fun w n => { w with forest := (w.forest.remove host n).2 }) w =
      { w with forest := forest }
  | [], w => ⟨w.forest, rfl⟩
  | n :: mounted, w => by
      obtain ⟨forest, same⟩ := foldl_remove host mounted
        { w with forest := (w.forest.remove host n).2 }
      exact ⟨forest, same⟩

/-- An instance gives back what it holds. -/
theorem takeBack_spec {zs : List Zone} {z : Zone} (inside : z ∈ zs) {h : Share}
    (numbered : ∀ l ∈ h.listeners, l.handler.number? ≠ none)
    {rs : List (Nat × Nat × Refresh)} {ls : List (Nat × Listener)} {w : World σ}
    (laid : w.Laid zs) (tabled : w.Tabled zs (h.refreshes.map (z.id, ·) ++ rs))
    (listed : w.Listed zs (h.listeners.map (z.id, ·) ++ ls) []) (host : NodeId)
    (mounted : List NodeId) :
    let v := w.takeBack z host ⟨h.refreshes.map (·.1), h.listeners, mounted⟩
    v.Laid zs ∧ v.Tabled zs rs ∧ v.Listed zs ls [] ∧ v.attached = w.attached := by
  obtain ⟨tabled, retabled⟩ := foldl_removeRefresh inside h.refreshes laid tabled
  have laid := laid.resize retabled.size
  obtain ⟨listed, rewired⟩ := foldl_removeWrapped inside laid numbered
    (listed.congr retabled.wrappers (Nat.le_of_eq retabled.serial.symm))
  obtain ⟨forest, same⟩ := foldl_remove host mounted (h.listeners.foldl
    (fun w l => (w.removeWrapped z l).2)
    ((h.refreshes.map (·.1)).foldl (fun w tick => (w.removeRefresh z tick).2) w))
  have laid := laid.resize rewired.size
  have tabled := tabled.congr rewired.toRefreshing
  simp only [takeBack, same]
  exact ⟨⟨laid.ids, laid.behind⟩, ⟨tabled.all, tabled.distinct, tabled.sorted, tabled.given⟩,
    listed.congr (fun _ => rfl) (Nat.le_refl _), rewired.attached.trans retabled.attached⟩

end World

/-! ## Parts of instances -/

/-- Some instances are those that are attached, and each has its share of what is registered.
The rest is that of two lists. -/
structure Divided (zs : List Zone) (rs : List (Nat × Nat × Refresh)) (ls : List (Nat × Listener))
    (held : List (Instance × Share)) (w : World σ) : Prop where
  laid : w.Laid zs
  tabled : w.Tabled zs (rs ++ tableOf (keyed held))
  listed : w.Listed zs (ls ++ listOf (keyed held)) []
  owns : ∀ p ∈ held, p.1.Owns σ p.2
  zones : ∀ p ∈ held, p.1.zone ∈ zs
  distinct : (held.map (·.1.serial)).Nodup
  recorded : ∀ p ∈ held, ∃ mounted, w.registrations? p.1.serial =
    some ⟨p.2.refreshes.map (·.1), p.2.listeners, mounted⟩
  only : ∀ n, w.registrations? n ≠ none → n ∈ held.map (·.1.serial)

/-- Instances of which each number stands for one.  Where one is not attached, none inside of it
is. -/
structure Nested (held : List (Instance × Share)) (is : List Instance) : Prop where
  distinct : (is.map (·.serial)).Nodup
  same : ∀ p ∈ held, ∀ i ∈ is, p.1.serial = i.serial → p.1 = i
  closed : ∀ i ∈ is, i.serial ∉ held.map (·.1.serial) →
    ∀ j ∈ i.all, j.serial ∉ held.map (·.1.serial)

namespace Divided

variable {zs : List Zone} {rs : List (Nat × Nat × Refresh)} {ls : List (Nat × Listener)}
  {held : List (Instance × Share)} {w v : World σ}

theorem beside (divided : Divided zs rs ls held w) (besides : w.Besides v) : Divided zs rs ls held v where
  laid := divided.laid.resize besides.size
  tabled := divided.tabled.congr besides.toRefreshing
  listed := divided.listed.congr besides.wrappers besides.later
  owns := divided.owns
  zones := divided.zones
  distinct := divided.distinct
  recorded := by
    simpa only [World.registrations?, besides.attached] using divided.recorded
  only := by
    simpa only [World.registrations?, besides.attached] using divided.only

theorem perm (divided : Divided zs rs ls held w) {held' : List (Instance × Share)}
    (perm : held.Perm held') : Divided zs rs ls held' w := by
  have parts : (keyed held).Perm (keyed held') := perm.map _
  have numbers := perm.map (·.1.serial)
  exact
    { laid := divided.laid
      tabled := divided.tabled.perm ((parts.flatMap_right _).append_left _)
      listed := divided.listed.perm ((parts.flatMap_right _).append_left _)
      owns := fun p member => divided.owns p (perm.mem_iff.2 member)
      zones := fun p member => divided.zones p (perm.mem_iff.2 member)
      distinct := numbers.nodup_iff.1 divided.distinct
      recorded := fun p member => divided.recorded p (perm.mem_iff.2 member)
      only := fun n registered => numbers.mem_iff.1 (divided.only n registered) }

/-- An instance whose number is forgotten leaves its share to the rest. -/
theorem forget {i : Instance} {h : Share} (divided : Divided zs rs ls ((i, h) :: held) w) :
    Divided zs (h.refreshes.map (i.zone.id, ·) ++ rs) (h.listeners.map (i.zone.id, ·) ++ ls) held
      (w.forget i.serial) := by
  obtain ⟨first, others⟩ := List.nodup_cons.1 divided.distinct
  obtain ⟨-, owns⟩ := List.forall_mem_cons.1 divided.owns
  obtain ⟨-, zones⟩ := List.forall_mem_cons.1 divided.zones
  obtain ⟨-, recorded⟩ := List.forall_mem_cons.1 divided.recorded
  refine ⟨divided.laid.resize rfl, ?_, ?_, owns, zones, others, fun p member => ?_, fun n => ?_⟩
  · refine (divided.tabled.congr (v := w.forget i.serial) (.of_zones rfl)).perm ?_
    rw [keyed, List.map_cons, tableOf, List.flatMap_cons, List.append_assoc]
    exact List.perm_append_comm_assoc _ _ _
  · refine (divided.listed.congr (v := w.forget i.serial) (fun _ => rfl) (Nat.le_refl _)).perm ?_
    rw [keyed, List.map_cons, listOf, List.flatMap_cons, List.append_assoc]
    exact List.perm_append_comm_assoc _ _ _
  · rw [World.registrations?_forget, if_neg]
    · exact recorded p member
    · exact fun same => first (List.mem_map.2 ⟨p, member, same⟩)
  · rw [World.registrations?_forget]
    split
    case isTrue => exact fun no => absurd rfl no
    case isFalse other =>
      exact fun registered => (List.mem_cons.1 (divided.only n registered)).resolve_left other

end Divided

namespace Nested

variable {held : List (Instance × Share)} {is js : List Instance}

theorem sub (nested : Nested held is) (sub : js.Sublist is) : Nested held js where
  distinct := nested.distinct.sublist (sub.map _)
  same p member i inside := nested.same p member i (sub.subset inside)
  closed i inside := nested.closed i (sub.subset inside)

theorem perm (nested : Nested held is) {held' : List (Instance × Share)}
    (perm : held.Perm held') : Nested held' is where
  distinct := nested.distinct
  same p member := nested.same p (perm.mem_iff.2 member)
  closed i inside gone j below listed := by
    have numbers := perm.map (·.1.serial)
    exact nested.closed i inside (fun here => gone (numbers.mem_iff.1 here)) j below
      (numbers.mem_iff.2 listed)

/-- Other instances with all inside of them are gone. -/
theorem without (nested : Nested held (js ++ is)) :
    Nested (held.filter fun p => p.1.serial ∉ js.map (·.serial)) is := by
  have later := nested.sub (List.sublist_append_right js is)
  have distinct := nested.distinct
  rw [List.map_append, List.nodup_append] at distinct
  refine ⟨later.distinct, fun p member => later.same p (List.mem_of_mem_filter member),
    fun i inside gone j below listed => ?_⟩
  obtain ⟨q, kept, same⟩ := List.mem_map.1 listed
  refine later.closed i inside (fun here => gone ?_) j below
    (List.mem_map.2 ⟨q, List.mem_of_mem_filter kept, same⟩)
  obtain ⟨p, member, same⟩ := List.mem_map.1 here
  refine List.mem_map.2 ⟨p, List.mem_filter.2 ⟨member, decide_eq_true fun taken => ?_⟩, same⟩
  exact distinct.2.2 _ taken _ (List.mem_map_of_mem inside) same

/-- One instance is gone, the others are inside of it. -/
theorem tail {i : Instance} {h : Share} (nested : Nested ((i, h) :: held) (i :: is)) :
    Nested held is := by
  have later := nested.sub (List.sublist_cons_self i is)
  have first := (List.nodup_cons.1 nested.distinct).1
  refine ⟨later.distinct, fun p member => later.same p (List.mem_cons_of_mem _ member),
    fun j inside gone k below listed => ?_⟩
  refine later.closed j inside (fun here => ?_) k below (List.mem_cons_of_mem _ listed)
  rcases List.mem_cons.1 here with same | other
  · exact first (List.mem_map.2 ⟨j, inside, same⟩)
  · exact gone other

end Nested

namespace Divided

variable {zs : List Zone} {held : List (Instance × Share)}

/-- Which others are apart from an instance and those inside. -/
theorem filter_apart {i : Instance} {h : Share} {front back : List (Instance × Share)}
    (first : i.serial ∉ (front ++ back).map (·.1.serial)) (is : List Instance) :
    ((front ++ (i, h) :: back).filter fun p => p.1.serial ∉ (i :: is).map (·.serial)) =
      (front ++ back).filter fun p => p.1.serial ∉ is.map (·.serial) := by
  have away : ∀ p ∈ front ++ back, p.1.serial ≠ i.serial := fun p member same =>
    first (List.mem_map.2 ⟨p, member, same⟩)
  have own {part : List (Instance × Share)} (subset : part ⊆ front ++ back) :
      (part.filter fun p => p.1.serial ∉ (i :: is).map (·.serial)) =
        part.filter fun p => p.1.serial ∉ is.map (·.serial) :=
    List.filter_congr fun p member => by simp [away p (subset member)]
  rw [List.filter_append, List.filter_append, List.filter_cons_of_neg (by simp),
    own (List.subset_append_left _ _), own (List.subset_append_right _ _)]

mutual

/-- Detaching an instance takes back its share and those of the instances inside. -/
theorem detach : ∀ (i : Instance) {rs : List (Nat × Nat × Refresh)} {ls : List (Nat × Listener)}
    {held : List (Instance × Share)} {w : World σ}, Divided zs rs ls held w →
      Nested held i.all → Divided zs rs ls
        (held.filter fun p => p.1.serial ∉ i.all.map (·.serial)) (i.detach w)
  | .mk serial b o os host z children, rs, ls, held, w, divided, nested => by
      let i : Instance := .mk serial b o os host z children
      rw [Instance.all] at nested ⊢
      rw [Instance.detach]
      split
      case h_1 none =>
        have gone : i.serial ∉ held.map (·.1.serial) := by
          intro member
          obtain ⟨p, inside, same⟩ := List.mem_map.1 member
          obtain ⟨_, found⟩ := divided.recorded p inside
          rw [same, show w.registrations? i.serial = _ from none] at found
          cases found
        rw [List.filter_eq_self.2]
        · exact divided
        · refine fun p member => decide_eq_true fun inside => ?_
          obtain ⟨j, below, same⟩ := List.mem_map.1 inside
          refine nested.closed i List.mem_cons_self gone j ?_ (List.mem_map.2 ⟨p, member, same.symm⟩)
          rw [Instance.all]
          exact below
      case h_2 r found =>
        obtain ⟨p, member, same⟩ := List.mem_map.1 (divided.only serial (by rw [found]; exact nofun))
        obtain ⟨j, h⟩ := p
        obtain rfl : j = i := nested.same _ member i List.mem_cons_self same
        obtain ⟨front, back, rfl⟩ := List.append_of_mem member
        have perm : (front ++ (i, h) :: back).Perm ((i, h) :: (front ++ back)) := List.perm_middle
        have divided := divided.perm perm
        obtain ⟨mounted, recorded⟩ := divided.recorded _ List.mem_cons_self
        obtain rfl := Option.some.inj (found.symm.trans recorded)
        have inside := divided.zones _ List.mem_cons_self
        have rest := detachAll children divided.forget (nested.perm perm).tail
        obtain ⟨laid, tabled, listed, attached⟩ := World.takeBack_spec inside
          (divided.owns _ List.mem_cons_self).numbered rest.laid
          (by simpa only [List.append_assoc] using rest.tabled)
          (by simpa only [List.append_assoc] using rest.listed) host mounted
        have known (n : Nat) := congrArg (List.lookup n) attached
        rw [filter_apart (List.nodup_cons.1 divided.distinct).1]
        exact
          { laid, tabled, listed
            owns := rest.owns
            zones := rest.zones
            distinct := rest.distinct
            recorded := fun p member =>
              (rest.recorded p member).imp fun _ found => (known _).trans found
            only := fun n registered => rest.only n fun none => registered ((known n).trans none) }

theorem detachAll : ∀ (is : List Instance) {rs : List (Nat × Nat × Refresh)}
    {ls : List (Nat × Listener)} {held : List (Instance × Share)} {w : World σ},
    Divided zs rs ls held w → Nested held (Instance.allOf is) → Divided zs rs ls
      (held.filter fun p => p.1.serial ∉ (Instance.allOf is).map (·.serial))
      (Instance.detachAll is w)
  | [], _, _, held, _, divided, _ => by
      simpa [Instance.allOf, Instance.detachAll] using divided
  | i :: is, rs, ls, held, w, divided, nested => by
      rw [Instance.allOf] at nested
      have first := detach i divided (nested.sub (List.sublist_append_left _ _))
      have others := detachAll is first nested.without
      rw [List.filter_filter] at others
      rw [Instance.detachAll, Instance.allOf]
      refine (congrArg (Divided zs rs ls · _) (List.filter_congr fun p _ => ?_)).mp others
      simp [Bool.and_comm]

end

end Divided

/-! ## Numbers -/

namespace World

/-- No number is taken back. -/
structure Onward (w v : World σ) : Prop where
  serial : w.serial ≤ v.serial
  ticks : ∀ z, (w.zone z).nextTick ≤ (v.zone z).nextTick

namespace Onward

variable {w v x : World σ}

theorem refl (w : World σ) : w.Onward w :=
  ⟨Nat.le_refl _, fun _ => Nat.le_refl _⟩

theorem trans (first : w.Onward v) (second : v.Onward x) : w.Onward x :=
  ⟨Nat.le_trans first.serial second.serial,
    fun z => Nat.le_trans (first.ticks z) (second.ticks z)⟩

theorem of_refreshing (same : w.Refreshing v) (later : w.serial ≤ v.serial) : w.Onward v :=
  ⟨later, fun z => Nat.le_of_eq (same.nextTick z).symm⟩

theorem onZone (w : World σ) (z : Zone) {f : ZoneState → ZoneState}
    (more : (w.zone z).nextTick ≤ (f (w.zone z)).nextTick) : w.Onward (w.onZone z f) := by
  refine ⟨Nat.le_refl _, fun y => ?_⟩
  rw [World.zone_onZone]
  split
  case isTrue same =>
    have own : w.zone y = w.zone z := by rw [World.zone, World.zone, same.1]
    rw [own]
    exact more
  case isFalse => exact Nat.le_refl _

theorem addRefresh (w : World σ) (z : Zone) (r : Refresh) : w.Onward (w.addRefresh z r).2 :=
  onZone w z (Nat.le_succ _)

theorem removeRefresh (w : World σ) (z : Zone) (tick : Nat) :
    w.Onward (w.removeRefresh z tick).2 :=
  onZone w z (Nat.le_refl _)

theorem newZone (w : World σ) (behind : Target) : w.Onward (w.newZone behind).2 := by
  refine ⟨Nat.le_refl _, fun z => ?_⟩
  rcases Nat.lt_trichotomy z.id w.zones.size with less | same | more
  · simp [World.newZone, World.zone, Array.getElem?_push, Nat.ne_of_lt less]
  · simp [World.zone, same]
  · simp [World.zone, Nat.le_of_lt more]

theorem takeBack (w : World σ) (z : Zone) (host : NodeId) (r : Registrations) :
    w.Onward (w.takeBack z host r) := by
  let untabled := r.ticks.foldl (fun w tick => (w.removeRefresh z tick).2) w
  let unlisted := r.listeners.foldl (fun w l => (w.removeWrapped z l).2) untabled
  have refreshes : w.Onward untabled :=
    List.foldlRecOn (motive := w.Onward) _ _ (refl w) fun v onward tick _ =>
      onward.trans (removeRefresh v z tick)
  have listeners : w.Onward unlisted := by
    refine List.foldlRecOn (motive := w.Onward) _ _ refreshes fun v onward l _ => ?_
    have same := Rewired.removeWrapped z l v
    exact onward.trans (of_refreshing same.toRefreshing same.later)
  obtain ⟨forest, same⟩ := foldl_remove host r.mounted unlisted
  have taken : w.takeBack z host r = { unlisted with forest := forest } := same
  rw [taken]
  exact ⟨listeners.serial, listeners.ticks⟩

end Onward

theorem Besides.onward {w v : World σ} (besides : w.Besides v) : w.Onward v :=
  .of_refreshing besides.toRefreshing besides.later

theorem Rewired.onward {w v : World σ} (rewired : w.Rewired v) : w.Onward v :=
  .of_refreshing rewired.toRefreshing rewired.later

end World

namespace Instance

mutual

/-- Detaching takes no numbers back. -/
theorem detach_onward : ∀ (i : Instance) (w : World σ), w.Onward (i.detach w)
  | .mk serial _ _ _ host z children, w => by
      rw [detach]
      split
      · exact .refl w
      · have forgotten : w.Onward (w.forget serial) :=
          .of_refreshing (.of_zones rfl) (Nat.le_refl _)
        exact forgotten.trans ((detachAll_onward children _).trans (.takeBack _ z host _))

theorem detachAll_onward : ∀ (is : List Instance) (w : World σ), w.Onward (detachAll is w)
  | [], w => .refl w
  | i :: is, w => (detach_onward i w).trans (detachAll_onward is (i.detach w))

end

mutual

/-- Those inside of an instance inside come in the same order. -/
theorem all_sublist : ∀ (i : Instance) {j : Instance}, j ∈ i.all → j.all.Sublist i.all
  | .mk _ _ _ _ _ _ children, j, member => by
      rw [all] at member ⊢
      rcases List.mem_cons.1 member with rfl | below
      · rw [all]
      · exact (allOf_sublist children below).cons _

theorem allOf_sublist : ∀ (is : List Instance) {j : Instance}, j ∈ allOf is →
    j.all.Sublist (allOf is)
  | i :: is, j, member => by
      rw [allOf] at member ⊢
      rcases List.mem_append.1 member with here | later
      · exact (all_sublist i here).trans (List.sublist_append_left _ _)
      · exact (allOf_sublist is later).trans (List.sublist_append_right _ _)

end

end Instance

end LiveTemplates
