/-
# LiveTemplates.Proofs.Detaching.Accounts -- every number stands for one thing

Numbers are given out for refreshes, outputs and instances, and none is given out twice.  If it is
known who was given which of them, then each entry of a registry belongs to somebody: to who
registered it directly, or to an instance that is attached and has it among its registrations.

* `Account`: what was given out to somebody;
* `World.Ticketed`, `World.Claimed`, `World.Enrolled`: what it says of refreshes, of threads and of
  the table of attached instances;
* `World.Sound`: all of it together;
* `World.Sound.orderly`: so detaching is clearing;
* `World.Sound.clear` and what follows it: each change of registries keeps accounts sound.
-/
import LiveTemplates.Proofs.Detaching.Clearing

namespace LiveTemplates

set_option autoImplicit false

variable {σ : Type}

/-! ## Registries by number -/

namespace World

/-- The registries of the zone of a number. -/
def registry (w : World σ) (k : Nat) : ZoneState :=
  (w.zones[k]?).getD {}

theorem registry_outside {w : World σ} {k : Nat} (outside : ¬ k < w.zones.size) :
    w.registry k = {} := by
  rw [registry, Array.getElem?_eq_none (Nat.le_of_not_lt outside)]
  rfl

theorem registry_rewire {w : World σ} {f : Nat → List Listener → List Listener}
    {g : Nat → ZoneState → ZoneState} {k : Nat} (inside : k < w.zones.size) :
    (w.rewire f g).registry k = g k (w.registry k) := by
  simp [registry, rewire, inside]

theorem registry_clear (w : World σ) (h : Holdings) (k : Nat) :
    (w.clear h).registry k = h.leaveIn k (w.registry k) := by
  by_cases inside : k < w.zones.size
  · exact registry_rewire (f := fun _ => h.leave) inside
  · rw [registry_outside inside, registry_outside (by rwa [size_clear])]
    rfl

theorem registry_onZone (w : World σ) (z : Zone) (f : ZoneState → ZoneState) (k : Nat) :
    (w.onZone z f).registry k =
      if z.id = k ∧ k < w.zones.size then f (w.registry k) else w.registry k := by
  rw [onZone_eq]
  by_cases inside : k < w.zones.size
  · rw [registry_rewire inside]
    simp [inside]
  · have outside : ¬ k < (w.rewire (fun _ ls => ls)
        fun y s => if z.id = y then f s else s).zones.size := by
      simpa [rewire] using inside
    rw [registry_outside inside, registry_outside outside, if_neg fun both => inside both.2]

/-- A new zone has nothing in its registries yet. -/
theorem registry_newZone (w : World σ) (behind : Target) (k : Nat) :
    (w.newZone behind).2.registry k = w.registry k := by
  rw [registry, registry, newZone, Array.getElem?_push]
  split
  case isTrue last => simp [last]
  case isFalse => rfl

/-- Threads are all there is if each list is what they make it. -/
theorem woven_iff {w : World σ} {ts : List Thread} : w.woven ts = w ↔
    (∀ d, d < w.dispatchers.size → w.listeners d = ts.flatMap (·.lists d)) ∧
      ∀ k, k < w.zones.size → (w.registry k).wrappers = ts.flatMap (·.keeps k) := by
  constructor
  · intro woven
    refine ⟨fun d less => ?_, fun k less => ?_⟩
    · rw [← woven]
      simp [World.woven, rewire, listeners, less]
    · rw [← woven]
      exact congrArg ZoneState.wrappers (registry_rewire less)
  · rintro ⟨lists, zones⟩
    refine (rewire_congr (fun d ls found => ?_) fun k s found => ?_).trans w.rewire_self
    · obtain ⟨less, -⟩ := Array.getElem?_eq_some_iff.1 found
      have same := lists d less
      rw [listeners, found] at same
      exact same.symm
    · obtain ⟨less, -⟩ := Array.getElem?_eq_some_iff.1 found
      have same := zones k less
      rw [registry, found] at same
      rw [← same]
      rfl

/-! ## Refreshes -/

/-- The numbers of refreshes that were given out are all different, and refreshes are registered
under no others. -/
structure Ticketed (w : World σ) (ticks : List (Nat × Nat)) : Prop where
  distinct : ticks.Nodup
  given : ∀ t ∈ ticks, t.1 < w.zones.size ∧ t.2 < (w.registry t.1).nextTick
  listed : ∀ k, ∀ r ∈ (w.registry k).refreshes, (k, r.1) ∈ ticks

namespace Ticketed

variable {w v : World σ} {ticks ticks' : List (Nat × Nat)}

theorem congr (ticketed : w.Ticketed ticks) (size : w.zones.size ≤ v.zones.size)
    (refreshes : ∀ k, (v.registry k).refreshes = (w.registry k).refreshes)
    (nextTick : ∀ k, (v.registry k).nextTick = (w.registry k).nextTick) : v.Ticketed ticks where
  distinct := ticketed.distinct
  given t member := by
    rw [nextTick]
    exact (ticketed.given t member).imp_left (Nat.lt_of_lt_of_le · size)
  listed k := by
    rw [refreshes]
    exact ticketed.listed k

theorem perm (ticketed : w.Ticketed ticks) (perm : ticks.Perm ticks') : w.Ticketed ticks' where
  distinct := perm.nodup_iff.1 ticketed.distinct
  given t member := ticketed.given t (perm.mem_iff.2 member)
  listed k r member := perm.mem_iff.1 (ticketed.listed k r member)

theorem addRefresh (ticketed : w.Ticketed ticks) {z : Zone} (inside : z.id < w.zones.size)
    (r : Refresh) : (w.addRefresh z r).2.Ticketed ((z.id, (w.addRefresh z r).1) :: ticks) := by
  have size : (w.addRefresh z r).2.zones.size = w.zones.size := by simp [World.addRefresh, onZone]
  have registry (k : Nat) : (w.addRefresh z r).2.registry k =
      if z.id = k then { w.registry k with
        refreshes := (w.registry k).refreshes ++ [((w.registry k).nextTick, r)]
        nextTick := (w.registry k).nextTick + 1 } else w.registry k := by
    rw [World.addRefresh, registry_onZone]
    by_cases here : z.id = k
    · subst here
      simp [inside, zone, World.registry]
    · simp [here]
  have next : (w.addRefresh z r).1 = (w.registry z.id).nextTick := rfl
  constructor
  · refine List.nodup_cons.2 ⟨fun member => ?_, ticketed.distinct⟩
    exact Nat.lt_irrefl _ (ticketed.given _ member).2
  · refine List.forall_mem_cons.2 ⟨?_, fun t member => ?_⟩
    · rw [size, registry, if_pos rfl, next]
      exact ⟨inside, Nat.lt_succ_self _⟩
    · obtain ⟨zone, less⟩ := ticketed.given t member
      rw [size, registry]
      refine ⟨zone, Nat.lt_of_lt_of_le less ?_⟩
      split
      · exact Nat.le_succ _
      · exact Nat.le_refl _
  · intro k r' member
    rw [registry] at member
    split at member
    case isTrue here =>
      subst here
      rcases List.mem_append.1 member with old | new
      · exact List.mem_cons_of_mem _ (ticketed.listed _ r' old)
      · rw [List.mem_singleton.1 new, next]
        exact List.mem_cons_self
    case isFalse => exact List.mem_cons_of_mem _ (ticketed.listed k r' member)

/-- Numbers are no longer somebody's if their refreshes are taken back. -/
theorem clear (ticketed : w.Ticketed ticks) {h : Holdings} (sub : ticks'.Sublist ticks)
    (kept : ∀ t ∈ ticks, t ∉ h.ticks → t ∈ ticks') : (w.clear h).Ticketed ticks' where
  distinct := ticketed.distinct.sublist sub
  given t member := by
    rw [size_clear, registry_clear]
    exact ticketed.given t (sub.subset member)
  listed k r member := by
    rw [registry_clear] at member
    obtain ⟨listed, stays⟩ := List.mem_filter.1 member
    exact kept _ (ticketed.listed k r listed) (by simpa using stays)

end Ticketed

/-! ## Threads -/

/-- Of the listeners with numbers, some belong to somebody, and stand at the start of threads at a
zone only.  All others have numbers of which it is not known where they are registered. -/
structure Claimed (ts : List Thread) (numbers : List Nat) (claims : List (Zone × Listener))
    (serial : Nat) : Prop where
  unwrapped : ∀ c ∈ claims, c.2.handler.wrapper? = none
  bound : ∀ c ∈ claims, c.2.handler.number? ≠ none
  distinct : (numbers ++ claims.filterMap (·.2.handler.number?)).Nodup
  given : ∀ n ∈ numbers ++ claims.filterMap (·.2.handler.number?), n < serial
  traced : ∀ t ∈ ts, ∀ n, t.listener.handler.number? = some n →
    n ∈ numbers ∨ ∃ c ∈ claims, t.target = .zone c.1 ∧ t.listener = c.2

namespace Claimed

variable {ts ts' : List Thread} {numbers numbers' : List Nat} {claims claims' : List (Zone × Listener)}
  {serial serial' : Nat}

theorem later (claimed : Claimed ts numbers claims serial) (later : serial ≤ serial') :
    Claimed ts numbers claims serial' :=
  { claimed with given := fun n member => Nat.lt_of_lt_of_le (claimed.given n member) later }

theorem sub (claimed : Claimed ts numbers claims serial) (sub : ts' ⊆ ts) :
    Claimed ts' numbers claims serial :=
  { claimed with traced := fun t member => claimed.traced t (sub member) }

theorem perm (claimed : Claimed ts numbers claims serial) (first : numbers.Perm numbers')
    (second : claims.Perm claims') : Claimed ts numbers' claims' serial := by
  have both := first.append (second.filterMap (·.2.handler.number?))
  exact
    { unwrapped := fun c member => claimed.unwrapped c (second.mem_iff.2 member)
      bound := fun c member => claimed.bound c (second.mem_iff.2 member)
      distinct := both.nodup_iff.1 claimed.distinct
      given := fun n member => claimed.given n (both.mem_iff.2 member)
      traced := fun t member n number => (claimed.traced t member n number).imp first.mem_iff.1
        fun ⟨c, claim, same⟩ => ⟨c, second.mem_iff.1 claim, same⟩ }

/-- Claims are given up if no threads start with their listeners. -/
theorem drop (claimed : Claimed ts numbers claims serial) (sub : claims'.Sublist claims)
    (kept : ∀ t ∈ ts, ∀ c ∈ claims, t.listener = c.2 → c ∈ claims') :
    Claimed ts numbers claims' serial := by
  have both := (List.Sublist.refl numbers).append (sub.filterMap (·.2.handler.number?))
  exact
    { unwrapped := fun c member => claimed.unwrapped c (sub.subset member)
      bound := fun c member => claimed.bound c (sub.subset member)
      distinct := claimed.distinct.sublist both
      given := fun n member => claimed.given n (both.subset member)
      traced := fun t member n number => (claimed.traced t member n number).imp_right
        fun ⟨c, claim, target, listener⟩ => ⟨c, kept t member c claim listener, target, listener⟩ }

/-- A thread starts, with a number that is free or at the place of a claim. -/
theorem add (claimed : Claimed ts numbers claims serial) {t : Thread}
    (known : ∀ n, t.listener.handler.number? = some n →
      n ∈ numbers ∨ ∃ c ∈ claims, t.target = .zone c.1 ∧ t.listener = c.2) :
    Claimed (ts ++ [t]) numbers claims serial :=
  { claimed with
    traced := fun s member => (List.mem_append.1 member).elim (claimed.traced s) fun last => by
      rw [List.mem_singleton.1 last]
      exact known }

/-- A number is given out for a listener. -/
theorem claim (claimed : Claimed ts numbers claims serial) (z : Zone) {l : Listener}
    (unwrapped : l.handler.wrapper? = none) (number : l.handler.number? = some serial) :
    Claimed ts numbers ((z, l) :: claims) (serial + 1) := by
  have cons : ((z, l) :: claims).filterMap (·.2.handler.number?) =
      serial :: claims.filterMap (·.2.handler.number?) := List.filterMap_cons_some number
  refine ⟨List.forall_mem_cons.2 ⟨unwrapped, claimed.unwrapped⟩,
    List.forall_mem_cons.2 ⟨by rw [number]; exact nofun, claimed.bound⟩, ?_, fun n member => ?_,
    fun t member n same => (claimed.traced t member n same).imp_right fun ⟨c, own, rest⟩ =>
      ⟨c, List.mem_cons_of_mem _ own, rest⟩⟩
  · rw [cons]
    refine List.perm_middle.nodup_iff.2 (List.nodup_cons.2 ⟨fun member => ?_, claimed.distinct⟩)
    exact Nat.lt_irrefl _ (claimed.given _ member)
  · rw [cons] at member
    rcases List.mem_cons.1 (List.perm_middle.mem_iff.1 member) with rfl | old
    · exact Nat.lt_succ_self _
    · exact Nat.lt_succ_of_lt (claimed.given n old)

/-- Claims are given up, and their numbers may be anywhere. -/
theorem release {released : List (Zone × Listener)}
    (claimed : Claimed ts numbers (released ++ claims) serial) :
    Claimed ts (numbers ++ released.filterMap (·.2.handler.number?)) claims serial where
  unwrapped c member := claimed.unwrapped c (List.mem_append_right _ member)
  bound c member := claimed.bound c (List.mem_append_right _ member)
  distinct := by
    rw [List.append_assoc, ← List.filterMap_append]
    exact claimed.distinct
  given := by
    rw [List.append_assoc, ← List.filterMap_append]
    exact claimed.given
  traced t member n number := by
    rcases claimed.traced t member n number with loose | ⟨c, claim, target, listener⟩
    · exact .inl (List.mem_append_left _ loose)
    · rcases List.mem_append.1 claim with given | kept
      · exact .inl (List.mem_append_right _ (List.mem_filterMap.2 ⟨c, given, listener ▸ number⟩))
      · exact .inr ⟨c, kept, target, listener⟩

/-- Each number stands for one claim. -/
theorem eq_of_number (claimed : Claimed ts numbers claims serial) {c d : Zone × Listener}
    (one : c ∈ claims) (other : d ∈ claims) (same : c.2.handler.number? = d.2.handler.number?) :
    c = d := by
  obtain ⟨-, distinct, -⟩ := List.nodup_append.1 claimed.distinct
  by_contra different
  have : Std.Symm fun c d : Zone × Listener => ∀ n, c.2.handler.number? = some n →
      ∀ m, d.2.handler.number? = some m → n ≠ m :=
    ⟨fun _ _ apart n first m second => (apart m second n first).symm⟩
  obtain ⟨n, number⟩ := Option.ne_none_iff_exists'.1 (claimed.bound c one)
  exact (List.pairwise_filterMap.1 distinct).forall one other different n number n
    (same ▸ number) rfl

/-- The listener of a claim stands at the start of threads at the zone only. -/
theorem heads (claimed : Claimed ts numbers claims serial) {c : Zone × Listener}
    (claim : c ∈ claims) : Heads ts c.1 c.2 := by
  refine ⟨claimed.unwrapped c claim, fun t member same => ?_⟩
  have alike := Listener.number?_eq same
  obtain ⟨n, number⟩ := Option.ne_none_iff_exists'.1 (claimed.bound c claim)
  rcases claimed.traced t member n (alike.trans number) with loose | ⟨d, other, target, listener⟩
  · obtain ⟨-, -, apart⟩ := List.nodup_append.1 claimed.distinct
    exact absurd rfl (apart n loose n (List.mem_filterMap.2 ⟨c, claim, number⟩))
  · obtain rfl := claimed.eq_of_number other claim (listener ▸ alike)
    exact target

end Claimed

/-! ## Instances -/

/-- The numbers of instances are all different, and instances are listed as attached under no others.
Where one is not attached, none inside of it is. -/
structure Enrolled (w : World σ) (is : List Instance) (serials : List Nat) : Prop where
  distinct : (is.map (·.serial) ++ serials).Nodup
  given : ∀ n ∈ is.map (·.serial) ++ serials, n < w.serial
  only : ∀ n, w.registrations? n ≠ none → n ∈ is.map (·.serial)
  nested : ∀ i ∈ is, ∀ j ∈ i.all, j ∈ is
  closed : ∀ i ∈ is, w.registrations? i.serial = none →
    ∀ j ∈ i.all, w.registrations? j.serial = none

theorem registrations?_attach (w : World σ) (forest : Forest) (serial : Nat) (r : Registrations)
    (n : Nat) : ({ w with
      forest := forest, attached := (serial, r) :: w.attached } : World σ).registrations? n =
        if n = serial then some r else w.registrations? n := by
  rw [registrations?, List.lookup_cons, Bool.beq_eq_decide_eq]
  by_cases same : n = serial <;> simp [same, registrations?]

namespace Enrolled

variable {w v : World σ} {is js : List Instance} {serials serials' : List Nat}

theorem alone (enrolled : w.Enrolled is serials) :
    ∀ i ∈ is, ∀ j ∈ is, i.serial = j.serial → i = j :=
  fun _ one _ other same =>
    List.inj_on_of_nodup_map (List.nodup_append.1 enrolled.distinct).1 one other same

theorem congr (enrolled : w.Enrolled is serials) (attached : v.attached = w.attached)
    (later : w.serial ≤ v.serial) : v.Enrolled is serials := by
  have same (n : Nat) : v.registrations? n = w.registrations? n :=
    congrArg (List.lookup n) attached
  exact
    { distinct := enrolled.distinct
      given := fun n member => Nat.lt_of_lt_of_le (enrolled.given n member) later
      only := fun n registered => enrolled.only n (same n ▸ registered)
      nested := enrolled.nested
      closed := fun i member none j inside =>
        (same _).trans (enrolled.closed i member ((same _).symm.trans none) j inside) }

theorem perm (enrolled : w.Enrolled is serials) (first : is.Perm js)
    (second : serials.Perm serials') : w.Enrolled js serials' := by
  have numbers := first.map (·.serial)
  have both := numbers.append second
  exact
    { distinct := both.nodup_iff.1 enrolled.distinct
      given := fun n member => enrolled.given n (both.mem_iff.2 member)
      only := fun n registered => numbers.mem_iff.1 (enrolled.only n registered)
      nested := fun i member j inside =>
        first.mem_iff.1 (enrolled.nested i (first.mem_iff.2 member) j inside)
      closed := fun i member => enrolled.closed i (first.mem_iff.2 member) }

theorem clear (enrolled : w.Enrolled is serials) {h : Holdings}
    (whole : ∀ i ∈ is, i.serial ∈ h.serials → ∀ j ∈ i.all, j.serial ∈ h.serials) :
    (w.clear h).Enrolled is serials where
  distinct := enrolled.distinct
  given := enrolled.given
  only n registered := by
    rw [registrations?_clear] at registered
    split at registered
    case isTrue => exact absurd rfl registered
    case isFalse => exact enrolled.only n registered
  nested := enrolled.nested
  closed i member none j inside := by
    rw [registrations?_clear] at none ⊢
    split at none
    case isTrue listed => rw [if_pos (whole i member listed j inside)]
    case isFalse =>
      rw [enrolled.closed i member none j inside]
      exact ite_self _

/-- A number is given out for an instance. -/
theorem reserve (enrolled : w.Enrolled is serials) :
    ({ w with serial := w.serial + 1 } : World σ).Enrolled is (w.serial :: serials) where
  distinct := by
    refine List.perm_middle.nodup_iff.2 (List.nodup_cons.2 ⟨fun member => ?_, enrolled.distinct⟩)
    exact Nat.lt_irrefl _ (enrolled.given _ member)
  given n member := by
    rcases List.mem_cons.1 (List.perm_middle.mem_iff.1 member) with rfl | old
    · exact Nat.lt_succ_self _
    · exact Nat.lt_succ_of_lt (enrolled.given n old)
  only := enrolled.only
  nested := enrolled.nested
  closed := enrolled.closed

/-- The instance of the number is attached, and those inside are known. -/
theorem enroll {i : Instance} (enrolled : w.Enrolled is (i.serial :: serials))
    (inside : ∀ j ∈ i.inside, j ∈ is) (r : Registrations) (forest : Forest) :
    ({ w with forest := forest, attached := (i.serial, r) :: w.attached } : World σ).Enrolled
      (i :: is) serials := by
  have distinct := List.perm_middle.nodup_iff.1 enrolled.distinct
  have listed := registrations?_attach w forest i.serial r
  have other : ∀ j ∈ is, j.serial ≠ i.serial := fun j member same =>
    (List.nodup_cons.1 distinct).1 (List.mem_append_left _ (same ▸ List.mem_map_of_mem member))
  exact
    { distinct
      given := fun n member => enrolled.given n (List.perm_middle.mem_iff.2 member)
      only := fun n registered => by
        rw [listed] at registered
        split at registered
        case isTrue same => exact same ▸ List.mem_cons_self
        case isFalse => exact List.mem_cons_of_mem _ (enrolled.only n registered)
      nested := by
        refine List.forall_mem_cons.2 ⟨fun j member => ?_, fun j member k below =>
          List.mem_cons_of_mem _ (enrolled.nested j member k below)⟩
        rw [Instance.all_eq] at member
        exact (List.mem_cons.1 member).elim (fun same => same ▸ List.mem_cons_self)
          fun below => List.mem_cons_of_mem _ (inside j below)
      closed := by
        refine List.forall_mem_cons.2 ⟨fun none => ?_, fun j member none k below => ?_⟩
        · rw [listed, if_pos rfl] at none
          cases none
        · rw [listed, if_neg (other j member)] at none
          rw [listed, if_neg (other k (enrolled.nested j member k below))]
          exact enrolled.closed j member none k below }

end Enrolled

end World

/-! ## Accounts -/

/-- What was given out to somebody. -/
structure Account where
  /-- The numbers of refreshes, each with that of the zone. -/
  ticks : List (Nat × Nat) := []
  /-- The numbers of outputs that may be registered anywhere. -/
  numbers : List Nat := []
  /-- The listeners that are registered with a zone each, and nowhere else. -/
  listeners : List (Zone × Listener) := []
  /-- The numbers of instances that are still to be attached. -/
  serials : List Nat := []
  instances : List Instance := []

namespace Account

/-- What was given out to two together. -/
def append (a b : Account) : Account where
  ticks := a.ticks ++ b.ticks
  numbers := a.numbers ++ b.numbers
  listeners := a.listeners ++ b.listeners
  serials := a.serials ++ b.serials
  instances := a.instances ++ b.instances

/-- The same in another order. -/
structure Perm (a b : Account) : Prop where
  ticks : a.ticks.Perm b.ticks
  numbers : a.numbers.Perm b.numbers
  listeners : a.listeners.Perm b.listeners
  serials : a.serials.Perm b.serials
  instances : a.instances.Perm b.instances

theorem append_assoc (a b c : Account) : (a.append b).append c = a.append (b.append c) := by
  simp [append]

theorem append_nothing (a : Account) : a.append {} = a := by
  simp [append]

theorem Perm.append_nothing (a : Account) : a.Perm (a.append {}) := by
  rw [Account.append_nothing]
  exact ⟨.refl _, .refl _, .refl _, .refl _, .refl _⟩

theorem Perm.comm (a b : Account) : (a.append b).Perm (b.append a) :=
  ⟨List.perm_append_comm, List.perm_append_comm, List.perm_append_comm, List.perm_append_comm,
    List.perm_append_comm⟩

/-- What was given out to two comes in either order. -/
theorem Perm.append_comm (a b c : Account) : ((a.append b).append c).Perm ((a.append c).append b) := by
  have swap {α : Type} (as bs cs : List α) : (as ++ bs ++ cs).Perm (as ++ cs ++ bs) := by
    rw [List.append_assoc, List.append_assoc]
    exact List.perm_append_comm.append_left as
  exact ⟨swap _ _ _, swap _ _ _, swap _ _ _, swap _ _ _, swap _ _ _⟩

end Account

namespace World

/-- A target that is a dispatcher, or one of some zones. -/
def Knows (w : World σ) (zs : List Zone) : Target → Prop
  | .dispatcher d => d < w.dispatchers.size
  | .zone z => z ∈ zs

theorem knows_clear {w : World σ} {h : Holdings} {zs : List Zone} {t : Target} :
    (w.clear h).Knows zs t ↔ w.Knows zs t := by
  cases t with
  | dispatcher d => rw [Knows, Knows, clear, rewire, Array.size_mapIdx]
  | zone z => exact Iff.rfl

/-- Threads are all that is registered.  All zones that they start at, that instances are in and
that the document's listeners are registered with are among some zones, which have numbers of their
own.  And it is known what was given out to whom. -/
structure Sound (w : World σ) (zs : List Zone) (ts : List Thread) (a : Account) : Prop where
  there : ∀ z ∈ zs, w.Has (.zone z)
  alone : ∀ y ∈ zs, ∀ z ∈ zs, y.id = z.id → y = z
  aims : w.Knows zs w.target
  strung : w.Strung ts
  starts : ∀ t ∈ ts, w.Knows zs t.target
  placed : ∀ i ∈ a.instances, i.zone ∈ zs
  ticketed : w.Ticketed (a.ticks ++ w.ticksOf a.instances)
  claimed : Claimed ts a.numbers (a.listeners ++ w.listenersOf a.instances) w.serial
  enrolled : w.Enrolled a.instances a.serials

namespace Sound

variable {w v : World σ} {zs : List Zone} {ts : List Thread} {a b : Account}

theorem has (sound : w.Sound zs ts a) {t : Target} (known : w.Knows zs t) : w.Has t := by
  cases t with
  | dispatcher d => exact ⟨trivial, known⟩
  | zone z => exact sound.there z known

/-- There is the document's dispatcher. -/
theorem knows_document (sound : w.Sound zs ts a) : w.Knows zs (.dispatcher 0) :=
  Nat.lt_of_le_of_lt (Nat.zero_le _) (sound.has sound.aims).2

/-- So detaching some of the instances is clearing. -/
theorem orderly (sound : w.Sound zs ts a) : w.Orderly ts a.instances where
  strung := sound.strung
  heads _ member := sound.claimed.heads (List.mem_append_right _ member)
  there i member := sound.there _ (sound.placed i member)
  nested := sound.enrolled.nested
  alone := sound.enrolled.alone
  closed := sound.enrolled.closed

theorem perm (sound : w.Sound zs ts a) (perm : a.Perm b) : w.Sound zs ts b :=
  { sound with
    placed := fun i member => sound.placed i (perm.instances.mem_iff.2 member)
    ticketed := sound.ticketed.perm (perm.ticks.append (perm.instances.flatMap_right _))
    claimed := sound.claimed.perm perm.numbers
      (perm.listeners.append (perm.instances.flatMap_right _))
    enrolled := sound.enrolled.perm perm.instances perm.serials }

/-- What instances hold is cleared as a whole. -/
theorem clear (sound : w.Sound zs ts a) {h : Holdings}
    (whole : ∀ i ∈ a.instances, i.serial ∈ h.serials → ∀ j ∈ i.all, j.serial ∈ h.serials)
    (ticks : ∀ i ∈ a.instances, i.serial ∈ h.serials → w.ticksOf [i] ⊆ h.ticks)
    (listeners : ∀ i ∈ a.instances, i.serial ∈ h.serials →
      ∀ c ∈ w.listenersOf [i], c.2 ∈ h.listeners) :
    ∃ ts', (w.clear h).Sound zs ts' a := by
  have stays : ∀ t ∈ ts.filter fun t => !h.concerns t.listener,
      ∀ c ∈ a.listeners ++ w.listenersOf a.instances, t.listener = c.2 →
        c ∈ a.listeners ++ (w.clear h).listenersOf a.instances := by
    intro t kept c claim same
    rcases List.mem_append.1 claim with own | part
    · exact List.mem_append_left _ own
    · obtain ⟨i, inside, here⟩ := mem_collected.1 part
      refine List.mem_append_right _ ((mem_collected_clear (f := fun i r =>
        r.listeners.map (i.zone, ·)) fun _ => rfl).2 ⟨i, inside, fun listed => ?_, here⟩)
      obtain ⟨member, free⟩ := List.mem_filter.1 kept
      have taken := listeners i inside listed c (mem_collected.2 ⟨i, List.mem_singleton_self i, here⟩)
      have concerned : h.concerns t.listener = true := by
        rw [Holdings.concerns, Listener.base_of_unwrapped (sound.strung.unwrapped t member), same]
        exact List.any_eq_true.2 ⟨c.2, taken, c.2.same_self⟩
      simp [concerned] at free
  exact ⟨ts.filter fun t => !h.concerns t.listener,
    { there := fun z inside => has_clear.2 (sound.there z inside)
      alone := sound.alone
      aims := knows_clear.2 sound.aims
      strung := sound.strung.clear h
      starts := fun t member => knows_clear.2 (sound.starts t (List.mem_of_mem_filter member))
      placed := sound.placed
      ticketed := sound.ticketed.clear
        ((List.Sublist.refl _).append (collected_clear_sublist (fun _ => rfl) h)) fun t given free => by
          rcases List.mem_append.1 given with own | part
          · exact List.mem_append_left _ own
          · obtain ⟨i, inside, here⟩ := mem_collected.1 part
            refine List.mem_append_right _ ((mem_collected_clear (f := fun i r =>
              r.ticks.map (i.zone.id, ·)) fun _ => rfl).2 ⟨i, inside, fun listed => free ?_, here⟩)
            exact ticks i inside listed (mem_collected.2 ⟨i, List.mem_singleton_self i, here⟩)
      claimed := (sound.claimed.sub List.filter_sublist.subset).drop
        ((List.Sublist.refl _).append (collected_clear_sublist (fun _ => rfl) h)) stays
      enrolled := sound.enrolled.clear whole }⟩

/-! ### What changes nothing of it -/

theorem collected_attached {α : Type} {f : Instance → Registrations → List α} {is : List Instance}
    (same : v.attached = w.attached) : v.collected f is = w.collected f is :=
  collected_congr fun i _ => congrArg (List.lookup i.serial) same

end Sound

/-- At most nodes, the user's own state, what is held or busy, and what is counted are different. -/
structure Beside (w v : World σ) : Prop where
  dispatchers : v.dispatchers = w.dispatchers
  size : v.zones.size = w.zones.size
  registry : ∀ k, { v.registry k with ticks := 0 } = { w.registry k with ticks := 0 }
  target : v.target = w.target
  attached : v.attached = w.attached
  later : w.serial ≤ v.serial

section Registries

variable {w v : World σ} {zs : List Zone} {ts ts' : List Thread} {t : Target} {l : Listener}

theorem Has.mono (has : w.Has t) (zones : w.zones.size ≤ v.zones.size)
    (dispatchers : w.dispatchers.size ≤ v.dispatchers.size) : v.Has t :=
  ⟨has.1.mono zones, Nat.lt_of_lt_of_le has.2 dispatchers⟩

theorem Knows.mono {zs' : List Zone} (knows : w.Knows zs t)
    (dispatchers : w.dispatchers.size ≤ v.dispatchers.size) (sub : zs ⊆ zs') : v.Knows zs' t := by
  cases t with
  | dispatcher d => exact Nat.lt_of_lt_of_le knows dispatchers
  | zone z => exact sub knows

/-- Registries list the same, or there are more of them that list nothing. -/
theorem Strung.congr (strung : w.Strung ts) (zones : w.zones.size ≤ v.zones.size)
    (dispatchers : w.dispatchers.size ≤ v.dispatchers.size)
    (lists : ∀ d, v.listeners d = w.listeners d)
    (wrappers : ∀ k, (v.registry k).wrappers = (w.registry k).wrappers)
    (later : w.serial ≤ v.serial) : v.Strung ts where
  woven := by
    obtain ⟨old, old'⟩ := woven_iff.1 strung.woven
    refine woven_iff.2 ⟨fun d _ => ?_, fun k _ => ?_⟩
    · rw [lists]
      by_cases inside : d < w.dispatchers.size
      · exact old d inside
      · have outside : w.listeners d = [] := by
          rw [listeners, Array.getElem?_eq_none (Nat.le_of_not_lt inside)]
          rfl
        rw [outside, eq_comm, List.flatMap_eq_nil_iff]
        refine fun t member => Target.lists_other _ _ _ fun same => inside ?_
        exact same ▸ (strung.there t member).2
    · rw [wrappers]
      by_cases inside : k < w.zones.size
      · exact old' k inside
      · rw [registry_outside inside, eq_comm, List.flatMap_eq_nil_iff]
        exact fun t member =>
          Target.keeps_newer (Nat.le_of_not_lt inside) _ _ _ (strung.there t member).1
  unwrapped := strung.unwrapped
  there t member := (strung.there t member).mono zones dispatchers
  distinct := strung.distinct
  given n member := Nat.lt_of_lt_of_le (strung.given n member) later

theorem woven_woven (w : World σ) (ts ts' : List Thread) : (w.woven ts).woven ts' = w.woven ts' := by
  rw [woven, woven, rewire_rewire]
  rfl

/-- Refreshes stay where only listeners are changed. -/
theorem registry_rewire_refreshes (w : World σ) (f : Nat → List Listener → List Listener)
    {g : Nat → ZoneState → ZoneState}
    (same : ∀ k s, (g k s).refreshes = s.refreshes ∧ (g k s).nextTick = s.nextTick) (k : Nat) :
    ((w.rewire f g).registry k).refreshes = (w.registry k).refreshes ∧
      ((w.rewire f g).registry k).nextTick = (w.registry k).nextTick := by
  by_cases inside : k < w.zones.size
  · rw [registry_rewire inside]
    exact same k _
  · rw [registry_outside inside, registry_outside (by simpa [rewire] using inside)]
    exact ⟨rfl, rfl⟩

/-- Some threads are all that is left. -/
theorem Strung.take (strung : w.Strung ts) (sub : ts'.Sublist ts) : (w.woven ts').Strung ts' where
  woven := woven_woven w ts' ts'
  unwrapped t member := strung.unwrapped t (sub.subset member)
  there t member := (strung.there t (sub.subset member)).mono
    (by simp [World.woven, rewire]) (by simp [World.woven, rewire])
  distinct := strung.distinct.sublist (sub.flatMap _)
  given n member := strung.given n ((sub.flatMap _).subset member)

/-- A thread is registered. -/
theorem Strung.add (strung : w.Strung ts) (has : w.Has t) (unwrapped : l.handler.wrapper? = none) :
    (addListener t l w).Strung (ts ++ [⟨t, l, w.serial⟩]) := by
  have added : addListener t l w =
      ({ w with serial := w.serial + t.depth } : World σ).woven (ts ++ [⟨t, l, w.serial⟩]) := by
    conv_lhs => rw [← strung.woven]
    exact addListener_woven w ts t l
  rw [added]
  have span : (ts ++ [(⟨t, l, w.serial⟩ : Thread)]).flatMap Thread.span =
      ts.flatMap Thread.span ++ List.range' w.serial t.depth := by
    rw [List.flatMap_append, List.flatMap_singleton]
    rfl
  exact
    { woven := woven_woven _ _ _
      unwrapped := List.forall_mem_append.2 ⟨strung.unwrapped, by simpa using unwrapped⟩
      there := by
        have all : ∀ s ∈ ts ++ [(⟨t, l, w.serial⟩ : Thread)], w.Has s.target :=
          List.forall_mem_append.2 ⟨strung.there, by simpa using has⟩
        exact fun s member => (all s member).mono (by simp [World.woven, rewire])
          (by simp [World.woven, rewire])
      distinct := by
        rw [span]
        refine List.nodup_append.2 ⟨strung.distinct, List.nodup_range', ?_⟩
        rintro n old m new rfl
        exact Nat.not_lt_of_le (List.mem_range'_1.1 new).1 (strung.given n old)
      given := by
        rw [span]
        refine List.forall_mem_append.2 ⟨fun n old => ?_, fun n new => (List.mem_range'_1.1 new).2⟩
        exact Nat.lt_of_lt_of_le (strung.given n old) (Nat.le_add_right _ _) }

end Registries

end World

end LiveTemplates
