/-
# LiveTemplates.Proofs.World.Registries -- what is registered with zones, as lists

A zone that stands in front of another registers its wrapped handlers there.  So what is
registered with a zone is of two kinds: what others have registered, and what the zones in
front of it have passed on.

* `World.Laid`: some zones are all there are, and the zones behind them are among them;
* `World.Tabled`: their refreshes are those of a list, under numbers that rise;
* `World.Listed`: their listeners are those of a list and those passed on, under wrappers whose
  numbers rise;
* `World.Tabled.addRefresh`, `World.Listed.addWrapped` and what follows them: each way of
  registering or taking back does the same to the list.
-/
import LiveTemplates.Proofs.World.Evolution

namespace LiveTemplates

set_option autoImplicit false

variable {σ : Type}

/-! ## Numbers -/

/-- The number of a handler that is not the user's own. -/
def Handler.number? : Handler → Option Nat
  | .named _ => none
  | .bound n .. => some n
  | .wrapped n .. => some n

theorem Handler.number?_eq {a b : Handler} (same : a.same b = true) : a.number? = b.number? := by
  cases a <;> cases b <;> simp_all [Handler.same, number?]

namespace Listener

variable {a b : Listener}

theorem isFor_of_same (same : a.same b = true) : a.node = b.node ∧ a.event = b.event := by
  simp_all [Listener.same, isFor]

theorem number?_eq (same : a.same b = true) : a.handler.number? = b.handler.number? :=
  Handler.number?_eq (Bool.and_eq_true_iff.1 same).2

theorem same_self (l : Listener) : l.same l = true := by
  obtain ⟨node, event, handler⟩ := l
  cases handler <;> simp [Listener.same, isFor, Handler.same]

end Listener

/-- What a zone passes on for a wrapper. -/
def Wrapper.outer (r : Wrapper) : Listener :=
  { r.inner with handler := r.handler }

/-- The number of a zone that is a target. -/
def Target.zone? : Target → Option Nat
  | .dispatcher _ => none
  | .zone z => some z.id

/-- The number of the zone that a zone stands in front of. -/
def Zone.next? (z : Zone) : Option Nat :=
  z.behind.zone?

namespace World

/-! ## Lists -/

/-- The refreshes of some zones, each with the number of the zone. -/
def tabled (w : World σ) (zs : List Zone) : List (Nat × Nat × Refresh) :=
  zs.flatMap fun z => (w.zone z).refreshes.map (z.id, ·)

/-- The listeners that are registered with some zones. -/
def listed (w : World σ) (zs : List Zone) : List (Nat × Listener) :=
  zs.flatMap fun z => (w.zone z).wrappers.map fun r => (z.id, r.inner)

/-- The listeners that some zones have passed on to others. -/
def passed (w : World σ) (zs : List Zone) : List (Nat × Listener) :=
  zs.flatMap fun z => (w.zone z).wrappers.filterMap fun r => z.next?.map (·, r.outer)

/-- The numbers of wrappers. -/
def numbers (w : World σ) (zs : List Zone) : List Nat :=
  zs.flatMap fun z => (w.zone z).wrappers.filterMap (·.handler.number?)

/-- The numbers of listeners that are not the user's own. -/
def numbered (ls : List (Nat × Listener)) : List Nat :=
  ls.filterMap (·.2.handler.number?)

theorem numbered_cons (n : Nat) (l : Listener) (ls : List (Nat × Listener)) :
    numbered ((n, l) :: ls) = l.handler.number?.toList ++ numbered ls := by
  rw [numbered, List.filterMap_cons]
  cases l.handler.number? <;> rfl

/-- Is this an entry of a zone for the same handler, event and node? -/
def concerns (z : Zone) (l : Listener) (e : Nat × Listener) : Bool :=
  e.1 == z.id && e.2.same l

/-- These are all zones. -/
structure Laid (w : World σ) (zs : List Zone) : Prop where
  ids : zs.map Zone.id = List.range w.zones.size
  behind : ∀ z ∈ zs, ∀ y, z.behind = .zone y → y ∈ zs

/-- The refreshes of zones are those of a list. -/
structure Tabled (w : World σ) (zs : List Zone) (rs : List (Nat × Nat × Refresh)) : Prop where
  all : (w.tabled zs).Perm rs
  distinct : (rs.map fun r => (r.1, r.2.1)).Nodup
  sorted : ∀ z ∈ zs, ((w.zone z).refreshes.map (·.1)).Pairwise (· < ·)
  given : ∀ z ∈ zs, ∀ r ∈ (w.zone z).refreshes, r.1 < (w.zone z).nextTick

/-- The listeners that are registered with zones are those of a list and those that are passed
on, but for some that are still missing. -/
structure Listed (w : World σ) (zs : List Zone) (ls missing : List (Nat × Listener)) : Prop where
  all : (w.listed zs ++ missing).Perm (ls ++ w.passed zs)
  wrapped : ∀ z ∈ zs, ∀ r ∈ (w.zone z).wrappers, ∃ n, r.handler = .wrapped n z r.inner.handler
  distinct : (numbered ls ++ w.numbers zs).Nodup
  sorted : ∀ z ∈ zs, ((w.zone z).wrappers.filterMap (·.handler.number?)).Pairwise (· < ·)
  given : ∀ n ∈ numbered ls ++ w.numbers zs, n < w.serial

/-! ## One zone of several -/

namespace Laid

variable {w : World σ} {zs : List Zone} (laid : w.Laid zs) {z y : Zone} (inside : z ∈ zs)

include laid

theorem eq_of_id (inside : z ∈ zs) (also : y ∈ zs) (same : z.id = y.id) : z = y := by
  have distinct : (zs.map Zone.id).Nodup := by
    rw [laid.ids]
    exact List.nodup_range
  exact List.inj_on_of_nodup_map distinct inside also same

include inside

theorem lt_size : z.id < w.zones.size := by
  have member := List.mem_map_of_mem (f := Zone.id) inside
  rwa [laid.ids, List.mem_range] at member

theorem zone_onZone (f : ZoneState → ZoneState) : (w.onZone z f).zone z = f (w.zone z) := by
  rw [World.zone_onZone, if_pos ⟨rfl, laid.lt_size inside⟩]

theorem zone_other (f : ZoneState → ZoneState) (also : y ∈ zs) (other : y ≠ z) :
    (w.onZone z f).zone y = w.zone y := by
  rw [World.zone_onZone, if_neg fun same => other (laid.eq_of_id also inside same.1.symm)]

/-- A change of a zone changes its part of what is collected from all zones. -/
theorem flatMap_onZone {β : Type} (g : Zone → ZoneState → List β) (f : ZoneState → ZoneState) :
    ∃ rest, (zs.flatMap fun y => g y (w.zone y)).Perm (g z (w.zone z) ++ rest) ∧
      (zs.flatMap fun y => g y ((w.onZone z f).zone y)).Perm (g z (f (w.zone z)) ++ rest) := by
  obtain ⟨front, back, rfl⟩ := List.append_of_mem inside
  have split : (front ++ z :: back).Perm (z :: (front ++ back)) := List.perm_middle
  have distinct : (z :: (front ++ back)).Nodup := by
    have ids : ((front ++ z :: back).map Zone.id).Nodup := by
      rw [laid.ids]
      exact List.nodup_range
    exact split.nodup_iff.1 (List.Nodup.of_map _ ids)
  refine ⟨(front ++ back).flatMap fun y => g y (w.zone y), ?_, ?_⟩
  · exact split.flatMap_right _
  · refine (split.flatMap_right _).trans ?_
    rw [List.flatMap_cons, laid.zone_onZone inside]
    refine .append_left _ (.of_eq ?_)
    refine List.flatMap_congr fun y member => ?_
    rw [laid.zone_other inside f (split.symm.subset (List.mem_cons_of_mem _ member))]
    rintro rfl
    exact (List.nodup_cons.1 distinct).1 member

/-- What is collected from all wrappers, where some of one zone are exchanged for others. -/
theorem filterMap_onZone {β : Type} (g : Zone → Wrapper → Option β) {f : ZoneState → ZoneState}
    {taken added : List Wrapper}
    (exchanged : (taken ++ (f (w.zone z)).wrappers).Perm (added ++ (w.zone z).wrappers)) :
    (taken.filterMap (g z) ++
      zs.flatMap fun y => ((w.onZone z f).zone y).wrappers.filterMap (g y)).Perm
        (added.filterMap (g z) ++ zs.flatMap fun y => (w.zone y).wrappers.filterMap (g y)) := by
  obtain ⟨rest, before, after⟩ := laid.flatMap_onZone inside
    (fun y s => s.wrappers.filterMap (g y)) f
  refine (after.append_left _).trans (.trans ?_ (before.symm.append_left _))
  rw [← List.append_assoc, ← List.append_assoc, ← List.filterMap_append, ← List.filterMap_append]
  exact (exchanged.filterMap _).append_right _

/-- A property of all zones is left to the one that is changed. -/
theorem forall_onZone {f : ZoneState → ZoneState} {P : Zone → ZoneState → Prop}
    (before : ∀ y ∈ zs, P y (w.zone y)) (own : P z (w.zone z) → P z (f (w.zone z))) :
    ∀ y ∈ zs, P y ((w.onZone z f).zone y) := by
  intro y also
  by_cases same : y = z
  · rw [same, laid.zone_onZone inside]
    exact own (before z inside)
  · rw [laid.zone_other inside f also same]
    exact before y also

omit inside in
theorem onZone (f : ZoneState → ZoneState) : (w.onZone z f).Laid zs :=
  ⟨by simpa [World.onZone] using laid.ids, laid.behind⟩

end Laid

/-! ## Refreshes -/

/-- There are as many zones, with the same refreshes. -/
structure Refreshing (w v : World σ) : Prop where
  size : v.zones.size = w.zones.size
  refreshes : ∀ z, (v.zone z).refreshes = (w.zone z).refreshes
  nextTick : ∀ z, (v.zone z).nextTick = (w.zone z).nextTick

theorem Refreshing.of_zones {w v : World σ} (same : v.zones = w.zones) : w.Refreshing v := by
  refine ⟨by rw [same], fun z => ?_, fun z => ?_⟩
  all_goals rw [zone, zone, same]

/-- At most listeners are different, and the numbers that were given out for them. -/
structure Rewired (w v : World σ) : Prop extends w.Refreshing v where
  attached : v.attached = w.attached
  user : v.user = w.user
  later : w.serial ≤ v.serial

namespace Rewired

variable {w v x : World σ}

theorem refl (w : World σ) : w.Rewired w :=
  ⟨.of_zones rfl, rfl, rfl, Nat.le_refl _⟩

theorem trans (first : w.Rewired v) (second : v.Rewired x) : w.Rewired x where
  size := second.size.trans first.size
  refreshes z := (second.refreshes z).trans (first.refreshes z)
  nextTick z := (second.nextTick z).trans (first.nextTick z)
  attached := second.attached.trans first.attached
  user := second.user.trans first.user
  later := Nat.le_trans first.later second.later

theorem onZone (w : World σ) (z : Zone) (f : List Wrapper → List Wrapper) :
    w.Rewired (w.onZone z fun s => { s with wrappers := f s.wrappers }) := by
  refine ⟨⟨by simp [World.onZone], fun y => ?_, fun y => ?_⟩, rfl, rfl, Nat.le_refl _⟩
  all_goals
    rw [World.zone_onZone]
    split <;> rfl

mutual

theorem addListener : ∀ (t : Target) (l : Listener) (w : World σ),
    w.Rewired (World.addListener t l w)
  | .dispatcher _, _, _ => ⟨.of_zones rfl, rfl, rfl, Nat.le_refl _⟩
  | .zone z, l, w => addWrapped z l w

theorem addWrapped : ∀ (z : Zone) (l : Listener) (w : World σ), w.Rewired (World.addWrapped z l w)
  | .mk id behind, l, w => by
      rw [World.addWrapped]
      have counted : w.Rewired { w with serial := w.serial + 1 } :=
        ⟨.of_zones rfl, rfl, rfl, Nat.le_succ _⟩
      let handler := Handler.wrapped w.serial (.mk id behind) l.handler
      exact (counted.trans (onZone _ (.mk id behind) (· ++ [⟨l, handler⟩]))).trans
        (addListener behind { l with handler := handler } _)

end

mutual

theorem removeListener : ∀ (t : Target) (l : Listener) (w : World σ),
    w.Rewired (World.removeListener t l w).2
  | .dispatcher _, _, _ => ⟨.of_zones rfl, rfl, rfl, Nat.le_refl _⟩
  | .zone z, l, w => removeWrapped z l w

theorem removeWrapped : ∀ (z : Zone) (l : Listener) (w : World σ),
    w.Rewired (World.removeWrapped z l w).2
  | .mk id behind, l, w => by
      rw [World.removeWrapped]
      refine (onZone w (.mk id behind) (·.filter fun r => !r.inner.same l)).trans ?_
      refine List.foldlRecOn (motive := fun state : Bool × World σ => Rewired _ state.2) _ _
        (refl _) fun state rewired r _ => rewired.trans ?_
      exact removeListener behind { l with handler := r.handler } state.2

end

end Rewired

/-- At most refreshes are different. -/
structure Retabled (w v : World σ) : Prop where
  size : v.zones.size = w.zones.size
  wrappers : ∀ z, (v.zone z).wrappers = (w.zone z).wrappers
  attached : v.attached = w.attached
  user : v.user = w.user
  serial : v.serial = w.serial

namespace Retabled

variable {w v x : World σ}

theorem refl (w : World σ) : w.Retabled w :=
  ⟨rfl, fun _ => rfl, rfl, rfl, rfl⟩

theorem trans (first : w.Retabled v) (second : v.Retabled x) : w.Retabled x where
  size := second.size.trans first.size
  wrappers z := (second.wrappers z).trans (first.wrappers z)
  attached := second.attached.trans first.attached
  user := second.user.trans first.user
  serial := second.serial.trans first.serial

theorem onZone (w : World σ) (z : Zone) {f : ZoneState → ZoneState}
    (same : ∀ s, (f s).wrappers = s.wrappers) : w.Retabled (w.onZone z f) := by
  refine ⟨by simp [World.onZone], fun y => ?_, rfl, rfl, rfl⟩
  rw [World.zone_onZone]
  split
  · exact same _
  · rfl

theorem addRefresh (w : World σ) (z : Zone) (r : Refresh) : w.Retabled (w.addRefresh z r).2 :=
  onZone w z fun _ => rfl

theorem removeRefresh (w : World σ) (z : Zone) (tick : Nat) :
    w.Retabled (w.removeRefresh z tick).2 :=
  onZone w z fun _ => rfl

end Retabled

namespace Laid

variable {w v : World σ} {zs : List Zone}

theorem resize (laid : w.Laid zs) (size : v.zones.size = w.zones.size) : v.Laid zs :=
  ⟨by rw [laid.ids, size], laid.behind⟩

theorem nil (none : w.zones = #[]) : w.Laid [] :=
  ⟨by simp [none], nofun⟩

/-- A new zone in front of a dispatcher, or of a zone that is there. -/
theorem newZone (laid : w.Laid zs) {behind : Target} (known : ∀ y, behind = .zone y → y ∈ zs) :
    (w.newZone behind).2.Laid (zs ++ [(w.newZone behind).1]) := by
  constructor
  · simp [World.newZone, laid.ids, List.range_succ, Zone.id]
  · intro z member y same
    rcases List.mem_append.1 member with old | new
    · exact List.mem_append_left _ (laid.behind z old y same)
    · rw [List.mem_singleton.1 new] at same
      exact List.mem_append_left _ (known y same)

theorem zone_newZone (laid : w.Laid zs) (behind : Target) :
    (∀ z ∈ zs, (w.newZone behind).2.zone z = w.zone z) ∧
      (w.newZone behind).2.zone (w.newZone behind).1 = {} := by
  refine ⟨fun z inside => ?_, ?_⟩
  · have less := laid.lt_size inside
    simp [World.newZone, World.zone, Array.getElem?_push, Nat.ne_of_lt less]
  · simp [World.newZone, World.zone, Zone.id]

/-- A property of all zones holds of one with nothing registered, too. -/
theorem forall_newZone (laid : w.Laid zs) (behind : Target) {P : Zone → ZoneState → Prop}
    (before : ∀ z ∈ zs, P z (w.zone z)) (empty : P (w.newZone behind).1 {}) :
    ∀ z ∈ zs ++ [(w.newZone behind).1], P z ((w.newZone behind).2.zone z) := by
  obtain ⟨old, new⟩ := laid.zone_newZone behind
  intro z member
  rcases List.mem_append.1 member with inside | last
  · rw [old z inside]
    exact before z inside
  · rw [List.mem_singleton.1 last, new]
    exact empty

/-- Nothing is collected from a new zone. -/
theorem flatMap_newZone (laid : w.Laid zs) (behind : Target) {β : Type}
    (g : Zone → ZoneState → List β) (empty : ∀ z, g z {} = []) :
    ((zs ++ [(w.newZone behind).1]).flatMap fun y => g y ((w.newZone behind).2.zone y)) =
      zs.flatMap fun y => g y (w.zone y) := by
  obtain ⟨old, new⟩ := laid.zone_newZone behind
  rw [List.flatMap_append, List.flatMap_congr fun y inside => by rw [old y inside]]
  simp [new, empty]

end Laid

namespace Tabled

variable {w v : World σ} {zs : List Zone} {rs : List (Nat × Nat × Refresh)}

theorem congr (tabled : w.Tabled zs rs) (same : w.Refreshing v) : v.Tabled zs rs := by
  refine ⟨?_, tabled.distinct, fun z inside => ?_, fun z inside => ?_⟩
  · rw [World.tabled, List.flatMap_congr fun z _ => by rw [same.refreshes z]]
    exact tabled.all
  · rw [same.refreshes]
    exact tabled.sorted z inside
  · rw [same.refreshes, same.nextTick]
    exact tabled.given z inside

theorem perm (tabled : w.Tabled zs rs) {rs' : List (Nat × Nat × Refresh)} (perm : rs.Perm rs') :
    w.Tabled zs rs' :=
  ⟨tabled.all.trans perm, (perm.map _).nodup_iff.1 tabled.distinct, tabled.sorted, tabled.given⟩

theorem nil (w : World σ) : w.Tabled [] [] :=
  ⟨.nil, List.nodup_nil, nofun, nofun⟩

theorem newZone (tabled : w.Tabled zs rs) (laid : w.Laid zs) (behind : Target) :
    (w.newZone behind).2.Tabled (zs ++ [(w.newZone behind).1]) rs := by
  refine ⟨?_, tabled.distinct,
    laid.forall_newZone behind (P := fun _ s => (s.refreshes.map (·.1)).Pairwise (· < ·))
      tabled.sorted .nil,
    laid.forall_newZone behind (P := fun _ s => ∀ r ∈ s.refreshes, r.1 < s.nextTick)
      tabled.given nofun⟩
  rw [World.tabled, laid.flatMap_newZone behind (fun y s => s.refreshes.map (y.id, ·)) fun _ => rfl]
  exact tabled.all

/-- A refresh is registered under a number that is higher than all others. -/
theorem addRefresh (tabled : w.Tabled zs rs) (laid : w.Laid zs) {z : Zone} (inside : z ∈ zs)
    (r : Refresh) :
    (w.addRefresh z r).2.Tabled zs ((z.id, (w.addRefresh z r).1, r) :: rs) := by
  obtain ⟨rest, before, after⟩ := laid.flatMap_onZone inside
    (fun y s => s.refreshes.map (y.id, ·)) fun s => { s with
      refreshes := s.refreshes ++ [((w.zone z).nextTick, r)], nextTick := (w.zone z).nextTick + 1 }
  refine ⟨?_, ?_, ?_, ?_⟩
  · refine after.trans (.trans ?_ ((before.symm.trans tabled.all).cons _))
    rw [List.map_append, List.append_assoc]
    exact List.perm_middle
  · refine List.nodup_cons.2 ⟨fun member => ?_, tabled.distinct⟩
    obtain ⟨entry, listed, same⟩ := List.mem_map.1 member
    obtain ⟨y, also, here⟩ := List.mem_flatMap.1 (tabled.all.mem_iff.2 listed)
    obtain ⟨s, registered, rfl⟩ := List.mem_map.1 here
    obtain ⟨id, tick⟩ := Prod.mk.inj same
    obtain rfl := laid.eq_of_id also inside id
    have less := tabled.given y also s registered
    rw [show s.1 = (w.zone y).nextTick from tick] at less
    exact Nat.lt_irrefl _ less
  · refine laid.forall_onZone inside (P := fun _ s => (s.refreshes.map (·.1)).Pairwise (· < ·))
      tabled.sorted fun sorted => ?_
    simp only [List.map_append, List.pairwise_append, sorted, true_and, List.map_cons,
      List.map_nil, List.pairwise_singleton, List.mem_singleton, forall_eq]
    intro tick member
    obtain ⟨s, registered, rfl⟩ := List.mem_map.1 member
    exact tabled.given z inside s registered
  · refine laid.forall_onZone inside (P := fun _ s => ∀ r ∈ s.refreshes, r.1 < s.nextTick)
      tabled.given fun given s member => ?_
    rcases List.mem_append.1 member with old | new
    · exact Nat.lt_succ_of_lt (given s old)
    · rw [List.mem_singleton.1 new]
      exact Nat.lt_succ_self _

/-- Taking back a refresh takes it from the list. -/
theorem removeRefresh (tabled : w.Tabled zs rs) (laid : w.Laid zs) {z : Zone} (inside : z ∈ zs)
    (tick : Nat) : (w.removeRefresh z tick).2.Tabled zs
      (rs.filter fun r => !(r.1 == z.id && r.2.1 == tick)) := by
  have same : (w.removeRefresh z tick).2.tabled zs =
      (w.tabled zs).filter fun r => !(r.1 == z.id && r.2.1 == tick) := by
    rw [World.tabled, World.tabled, List.filter_flatMap]
    refine List.flatMap_congr fun y also => ?_
    rw [World.removeRefresh, List.filter_map]
    by_cases own : y = z
    · subst own
      rw [laid.zone_onZone also]
      exact congrArg _ (List.filter_congr fun r _ => by simp [bne])
    · rw [laid.zone_other inside _ also own]
      refine congrArg _ (List.filter_eq_self.2 fun r _ => ?_).symm
      have other : y.id ≠ z.id := fun same => own (laid.eq_of_id also inside same)
      simp [other]
  refine ⟨same ▸ tabled.all.filter _, tabled.distinct.sublist (List.filter_sublist.map _), ?_, ?_⟩
  · refine laid.forall_onZone inside (P := fun _ s => (s.refreshes.map (·.1)).Pairwise (· < ·))
      tabled.sorted fun sorted => ?_
    exact sorted.sublist (List.filter_sublist.map _)
  · exact laid.forall_onZone inside (P := fun _ s => ∀ r ∈ s.refreshes, r.1 < s.nextTick)
      tabled.given fun given r member => given r (List.mem_of_mem_filter member)

/-- Taking back the first one. -/
theorem removeFirst {z : Zone} {tick : Nat} {r : Refresh}
    (tabled : w.Tabled zs ((z.id, tick, r) :: rs)) (laid : w.Laid zs) (inside : z ∈ zs) :
    (w.removeRefresh z tick).2.Tabled zs rs := by
  have rest := tabled.removeRefresh laid inside tick
  have first := (List.nodup_cons.1 tabled.distinct).1
  rw [List.filter_cons_of_neg (by simp), List.filter_eq_self.2 fun s member => ?_] at rest
  · exact rest
  · have other : ¬ (s.1 = z.id ∧ s.2.1 = tick) := fun ⟨id, same⟩ =>
      first (List.mem_map.2 ⟨s, member, by rw [id, same]⟩)
    simpa [← not_and_or] using other

end Tabled

/-! ## Listeners -/

namespace Listed

variable {w v : World σ} {zs : List Zone} {ls missing : List (Nat × Listener)}

theorem congr (listed : w.Listed zs ls missing)
    (same : ∀ z, (v.zone z).wrappers = (w.zone z).wrappers) (later : w.serial ≤ v.serial) :
    v.Listed zs ls missing := by
  have inner : v.listed zs = w.listed zs :=
    List.flatMap_congr fun z _ => by rw [same z]
  have outer : v.passed zs = w.passed zs :=
    List.flatMap_congr fun z _ => by rw [same z]
  have numbers : v.numbers zs = w.numbers zs :=
    List.flatMap_congr fun z _ => by rw [same z]
  refine ⟨?_, fun z inside => ?_, ?_, fun z inside => ?_, fun n member => ?_⟩
  · rw [inner, outer]
    exact listed.all
  · rw [same]
    exact listed.wrapped z inside
  · rw [numbers]
    exact listed.distinct
  · rw [same]
    exact listed.sorted z inside
  · rw [numbers] at member
    exact Nat.lt_of_lt_of_le (listed.given n member) later

theorem perm (listed : w.Listed zs ls missing) {ls' : List (Nat × Listener)} (perm : ls.Perm ls') :
    w.Listed zs ls' missing := by
  have numbers := (perm.filterMap (·.2.handler.number?)).append_right (w.numbers zs)
  exact ⟨listed.all.trans (perm.append_right _), listed.wrapped, numbers.nodup_iff.1 listed.distinct,
    listed.sorted, fun n member => listed.given n (numbers.mem_iff.2 member)⟩

theorem nil (w : World σ) : w.Listed [] [] [] :=
  ⟨.nil, nofun, List.nodup_nil, nofun, nofun⟩

theorem newZone (listed : w.Listed zs ls missing) (laid : w.Laid zs) (behind : Target) :
    (w.newZone behind).2.Listed (zs ++ [(w.newZone behind).1]) ls missing := by
  have same {β : Type} (g : Zone → ZoneState → List β) := laid.flatMap_newZone behind g
  have inner := same (fun z s => s.wrappers.map fun r => (z.id, r.inner)) fun _ => rfl
  have outer := same (fun z s => s.wrappers.filterMap fun r => z.next?.map (·, r.outer)) fun _ => rfl
  have numbers := same (fun _ s => s.wrappers.filterMap (·.handler.number?)) fun _ => rfl
  refine ⟨?_,
    laid.forall_newZone behind
      (P := fun z s => ∀ r ∈ s.wrappers, ∃ n, r.handler = .wrapped n z r.inner.handler)
      listed.wrapped nofun, ?_,
    laid.forall_newZone behind
      (P := fun _ s => (s.wrappers.filterMap (·.handler.number?)).Pairwise (· < ·))
      listed.sorted .nil, ?_⟩
  · rw [World.listed, World.passed, inner, outer]
    exact listed.all
  · rw [World.numbers, numbers]
    exact listed.distinct
  · rw [World.numbers, numbers]
    exact listed.given

/-! ### Registering -/

/-- A missing listener is registered with its zone.  Its wrapper is missing in the zone behind. -/
theorem wrap {z : Zone} {l : Listener} (listed : w.Listed zs ls ((z.id, l) :: missing))
    (laid : w.Laid zs) (inside : z ∈ zs) :
    let handler := Handler.wrapped w.serial z l.handler
    (({ w with serial := w.serial + 1 } : World σ).onZone z fun s =>
        { s with wrappers := s.wrappers ++ [⟨l, handler⟩] }).Listed zs ls
      ((z.next?.map (·, { l with handler := handler })).toList ++ missing) := by
  intro handler
  let counted : World σ := { w with serial := w.serial + 1 }
  have laid : counted.Laid zs := laid.resize rfl
  let f (s : ZoneState) : ZoneState := { s with wrappers := s.wrappers ++ [⟨l, handler⟩] }
  have more : ([] ++ (f (counted.zone z)).wrappers).Perm
      ([(⟨l, handler⟩ : Wrapper)] ++ (counted.zone z).wrappers) :=
    List.perm_append_singleton _ _
  have listed' : ((counted.onZone z f).listed zs).Perm ((z.id, l) :: w.listed zs) := by
    have all := laid.filterMap_onZone inside (fun z r => some (z.id, r.inner)) more
    simp only [List.filterMap_eq_map'] at all
    exact all
  have passed' : ((counted.onZone z f).passed zs).Perm
      ((z.next?.map (·, { l with handler := handler })).toList ++ w.passed zs) := by
    have single : [(⟨l, handler⟩ : Wrapper)].filterMap (fun r => z.next?.map (·, r.outer)) =
        (z.next?.map (·, { l with handler := handler })).toList := by
      cases z.next? <;> rfl
    rw [← single]
    exact laid.filterMap_onZone inside (fun z r => z.next?.map (·, r.outer)) more
  have numbers' : ((counted.onZone z f).numbers zs).Perm (w.serial :: w.numbers zs) :=
    laid.filterMap_onZone inside (fun _ r => r.handler.number?) more
  have all' : (numbered ls ++ (counted.onZone z f).numbers zs).Perm
      (w.serial :: (numbered ls ++ w.numbers zs)) :=
    (numbers'.append_left _).trans List.perm_middle
  refine ⟨?_, ?_, ?_, ?_, ?_⟩
  · refine (listed'.append_right _).trans ((List.perm_append_comm_assoc _ _ _).trans ?_)
    refine .trans (.append_left _ ?_)
      ((List.perm_append_comm_assoc _ _ _).trans (passed'.symm.append_left _))
    exact List.perm_middle.symm.trans listed.all
  · refine laid.forall_onZone inside
      (P := fun z s => ∀ r ∈ s.wrappers, ∃ n, r.handler = .wrapped n z r.inner.handler)
      listed.wrapped fun wrapped r member => ?_
    rcases List.mem_append.1 member with old | new
    · exact wrapped r old
    · rw [List.mem_singleton.1 new]
      exact ⟨w.serial, rfl⟩
  · refine all'.nodup_iff.2 (List.nodup_cons.2 ⟨fun member => ?_, listed.distinct⟩)
    exact Nat.lt_irrefl _ (listed.given _ member)
  · refine laid.forall_onZone inside
      (P := fun _ s => (s.wrappers.filterMap (·.handler.number?)).Pairwise (· < ·))
      listed.sorted fun sorted => ?_
    rw [List.filterMap_append, List.pairwise_append]
    refine ⟨sorted, List.pairwise_singleton _ _, fun n old m new => ?_⟩
    rw [show m = w.serial by simpa [Handler.number?, handler] using new]
    exact listed.given n (List.mem_append_right _ (List.mem_flatMap.2 ⟨z, inside, old⟩))
  · intro n member
    rcases List.mem_cons.1 (all'.mem_iff.1 member) with rfl | old
    · exact Nat.lt_succ_self _
    · exact Nat.lt_succ_of_lt (listed.given n old)

mutual

/-- Registering a missing listener with a target: nothing is missing of it any more. -/
theorem addListener_settles : ∀ (t : Target) (l : Listener) {w : World σ}, w.Laid zs →
    (∀ z, t = .zone z → z ∈ zs) → w.Listed zs ls ((t.zone?.map (·, l)).toList ++ missing) →
      (addListener t l w).Listed zs ls missing
  | .dispatcher _, _, _, _, _, listed => listed.congr (fun _ => rfl) (Nat.le_refl _)
  | .zone z, l, _, laid, inside, listed => addWrapped_settles z l laid (inside z rfl) listed

theorem addWrapped_settles : ∀ (z : Zone) (l : Listener) {w : World σ}, w.Laid zs → z ∈ zs →
    w.Listed zs ls ((z.id, l) :: missing) → (addWrapped z l w).Listed zs ls missing
  | .mk id behind, l, w, laid, inside, listed => by
      have settled := listed.wrap laid inside
      have counted : ({ w with serial := w.serial + 1 } : World σ).Laid zs := laid.resize rfl
      rw [World.addWrapped]
      exact addListener_settles behind _ (counted.onZone _)
        (fun y same => laid.behind _ inside y same) settled

end

/-- Registering a listener.  Its number, if it has one, is not used before. -/
theorem addWrapped (listed : w.Listed zs ls []) (laid : w.Laid zs) {z : Zone} (inside : z ∈ zs)
    {l : Listener} (new : ∀ n, l.handler.number? = some n →
      n < w.serial ∧ n ∉ numbered ls ++ w.numbers zs) :
    (World.addWrapped z l w).Listed zs ((z.id, l) :: ls) [] := by
  have perm : (w.listed zs ++ [(z.id, l)]).Perm ((z.id, l) :: ls ++ w.passed zs) :=
    List.perm_middle.trans (listed.all.cons _)
  refine addWrapped_settles z l laid inside ⟨perm, listed.wrapped, ?_, listed.sorted, ?_⟩
  · rw [numbered_cons]
    cases number : l.handler.number? with
    | none => exact listed.distinct
    | some n => exact List.nodup_cons.2 ⟨(new n number).2, listed.distinct⟩
  · rw [numbered_cons]
    cases number : l.handler.number? with
    | none => exact listed.given
    | some n => exact List.forall_mem_cons.2 ⟨(new n number).1, listed.given⟩

/-! ### Taking back -/

theorem number?_mem_numbers {w : World σ} {zs : List Zone} {e : Nat × Listener}
    (member : e ∈ w.passed zs) {n : Nat} (number : e.2.handler.number? = some n) :
    n ∈ w.numbers zs := by
  obtain ⟨z, inside, here⟩ := List.mem_flatMap.1 member
  obtain ⟨r, registered, same⟩ := List.mem_filterMap.1 here
  obtain ⟨m, -, rfl⟩ := Option.map_eq_some_iff.1 same
  exact List.mem_flatMap.2 ⟨z, inside, List.mem_filterMap.2 ⟨r, registered, number⟩⟩

/-- Taking the wrappers of a listener from its zone: what was passed on is now nobody's. -/
theorem unwrap {z : Zone} {l : Listener} (listed : w.Listed zs ls []) (laid : w.Laid zs)
    (inside : z ∈ zs) (apart : ∀ e ∈ w.passed zs, concerns z l e = false) :
    (w.onZone z fun s => { s with wrappers := s.wrappers.filter fun r => !r.inner.same l }).Listed zs
      (ls.filter (fun e => !concerns z l e) ++
        ((w.zone z).wrappers.filter (·.inner.same l)).filterMap
          fun r => z.next?.map (·, r.outer)) [] := by
  let f (s : ZoneState) : ZoneState :=
    { s with wrappers := s.wrappers.filter fun r => !r.inner.same l }
  let taken := (w.zone z).wrappers.filter (·.inner.same l)
  have parts : (taken ++ (f (w.zone z)).wrappers).Perm ([] ++ (w.zone z).wrappers) :=
    List.filter_append_perm _ _
  have listed' : (w.onZone z f).listed zs = (w.listed zs).filter fun e => !concerns z l e := by
    rw [World.listed, World.listed, List.filter_flatMap]
    refine List.flatMap_congr fun y also => ?_
    rw [List.filter_map]
    by_cases own : y = z
    · subst own
      rw [laid.zone_onZone also]
      exact congrArg _ (List.filter_congr fun r _ => by simp [concerns])
    · rw [laid.zone_other inside _ also own]
      refine congrArg _ (List.filter_eq_self.2 fun r _ => ?_).symm
      have other : y.id ≠ z.id := fun same => own (laid.eq_of_id also inside same)
      simp [concerns, other]
  have passed' : (w.passed zs).Perm
      (taken.filterMap (fun r => z.next?.map (·, r.outer)) ++ (w.onZone z f).passed zs) :=
    (laid.filterMap_onZone inside (fun z r => z.next?.map (·, r.outer)) parts).symm
  have numbers' : (w.numbers zs).Perm
      (taken.filterMap (·.handler.number?) ++ (w.onZone z f).numbers zs) :=
    (laid.filterMap_onZone inside (fun _ r => r.handler.number?) parts).symm
  have fewer : (numbered (ls.filter (fun e => !concerns z l e) ++
      taken.filterMap (fun r => z.next?.map (·, r.outer))) ++ (w.onZone z f).numbers zs).Subperm
        (numbered ls ++ w.numbers zs) := by
    have own : (numbered (taken.filterMap fun r => z.next?.map (·, r.outer))).Sublist
        (taken.filterMap (·.handler.number?)) := by
      rw [numbered, List.filterMap_filterMap]
      cases z.next? with
      | none => simp
      | some n => exact .refl _
    have kept : (numbered (ls.filter fun e => !concerns z l e)).Sublist (numbered ls) :=
      List.filter_sublist.filterMap _
    rw [numbered, List.filterMap_append, List.append_assoc]
    exact (kept.append (own.append_right _)).subperm.trans (numbers'.symm.append_left _).subperm
  refine ⟨?_, ?_, ?_, ?_, fun n member => listed.given n (fewer.subset member)⟩
  · rw [List.append_nil, listed']
    have stays : ((w.passed zs).filter fun e => !concerns z l e) = w.passed zs :=
      List.filter_eq_self.2 fun e member => by rw [apart e member, Bool.not_false]
    have all := listed.all.filter fun e => !concerns z l e
    rw [List.append_nil, List.filter_append, stays] at all
    rw [List.append_assoc]
    exact all.trans (passed'.append_left _)
  · refine laid.forall_onZone inside
      (P := fun z s => ∀ r ∈ s.wrappers, ∃ n, r.handler = .wrapped n z r.inner.handler)
      listed.wrapped fun wrapped r member => wrapped r (List.mem_of_mem_filter member)
  · obtain ⟨ns, perm, sublist⟩ := fewer
    exact perm.nodup_iff.1 (listed.distinct.sublist sublist)
  · refine laid.forall_onZone inside
      (P := fun _ s => (s.wrappers.filterMap (·.handler.number?)).Pairwise (· < ·))
      listed.sorted fun sorted => ?_
    exact sorted.sublist (List.filter_sublist.filterMap _)

/-- What no wrapper is left of is taken back, one after the other, from the target behind. -/
theorem foldl_takes (behind : Target) {l : Listener}
    (takes : ∀ (l : Listener) {w : World σ} {ls : List (Nat × Listener)}, w.Laid zs →
      l.handler.number? ≠ none → w.Listed zs ((behind.zone?.map (·, l)).toList ++ ls) [] →
        (removeListener behind l w).2.Listed zs ls []) :
    ∀ {rs : List Wrapper} (removed : Bool) {w : World σ}, w.Laid zs →
      (∀ r ∈ rs, r.inner.same l = true ∧ r.handler.number? ≠ none) →
        w.Listed zs (rs.filterMap (fun r => behind.zone?.map (·, r.outer)) ++ ls) [] →
          (rs.foldl (fun (removed, w) r =>
            let (one, w) := removeListener behind { l with handler := r.handler } w
            (removed || one, w)) (removed, w)).2.Listed zs ls []
  | [], _, _, _, _, listed => listed
  | r :: rs, removed, w, laid, each, listed => by
      obtain ⟨⟨same, number⟩, others⟩ := List.forall_mem_cons.1 each
      have own : r.outer = { l with handler := r.handler } := by
        obtain ⟨node, event⟩ := Listener.isFor_of_same same
        rw [Wrapper.outer, node, event]
      have first : (r :: rs).filterMap (fun r => behind.zone?.map (·, r.outer)) =
          (behind.zone?.map (·, r.outer)).toList ++
            rs.filterMap fun r => behind.zone?.map (·, r.outer) := by
        rw [List.filterMap_cons]
        cases behind.zone? <;> rfl
      rw [first, List.append_assoc, own] at listed
      let after := World.removeListener behind { l with handler := r.handler } w
      have laid' : after.2.Laid zs := laid.resize (Rewired.removeListener behind _ w).size
      exact foldl_takes behind takes (removed || after.1) laid' others (takes _ laid number listed)

theorem apart_of_numbered {z : Zone} {l : Listener} (listed : w.Listed zs ls [])
    {n : Nat} (number : l.handler.number? = some n) (used : n ∈ numbered ls) :
    ∀ e ∈ w.passed zs, concerns z l e = false := by
  intro e member
  rw [← Bool.not_eq_true]
  intro same
  have alike := Listener.number?_eq (Bool.and_eq_true_iff.1 same).2
  have also := number?_mem_numbers member (alike.trans number)
  exact (List.nodup_append.1 listed.distinct).2.2 n used n also rfl

theorem filter_concerns_cons {z : Zone} {l : Listener} {n : Nat}
    (number : l.handler.number? = some n) (distinct : (numbered ((z.id, l) :: ls)).Nodup) :
    ((z.id, l) :: ls).filter (fun e => !concerns z l e) = ls := by
  rw [List.filter_cons_of_neg (by simp [concerns, Listener.same_self])]
  refine List.filter_eq_self.2 fun e member => ?_
  rw [numbered_cons, number] at distinct
  by_contra same
  have same : concerns z l e = true := by simpa using same
  have alike := (Listener.number?_eq (Bool.and_eq_true_iff.1 same).2).trans number
  exact (List.nodup_cons.1 distinct).1 (List.mem_filterMap.2 ⟨e, member, alike⟩)

mutual

/-- Taking back a listener with a number takes it from the list, with all its wrappers. -/
theorem removeListener : ∀ (t : Target) (l : Listener) {w : World σ}
    {ls : List (Nat × Listener)}, w.Laid zs → (∀ z, t = .zone z → z ∈ zs) →
      l.handler.number? ≠ none → w.Listed zs ((t.zone?.map (·, l)).toList ++ ls) [] →
        (World.removeListener t l w).2.Listed zs ls []
  | .dispatcher _, _, _, _, _, _, _, listed => listed.congr (fun _ => rfl) (Nat.le_refl _)
  | .zone z, l, _, _, laid, inside, number, listed =>
      removeWrapped z l laid (inside z rfl) number listed

theorem removeWrapped : ∀ (z : Zone) (l : Listener) {w : World σ} {ls : List (Nat × Listener)},
    w.Laid zs → z ∈ zs → l.handler.number? ≠ none → w.Listed zs ((z.id, l) :: ls) [] →
      (World.removeWrapped z l w).2.Listed zs ls []
  | .mk id behind, l, w, ls, laid, inside, number, listed => by
      obtain ⟨n, number⟩ := Option.ne_none_iff_exists'.1 number
      have unwrapped := listed.unwrap laid inside (listed.apart_of_numbered number
        (by rw [numbered_cons, number]; exact List.mem_cons_self))
      rw [filter_concerns_cons number (List.nodup_append.1 listed.distinct).1] at unwrapped
      rw [World.removeWrapped]
      refine foldl_takes behind (fun l w ls laid number => removeListener behind l laid
        (fun y same => laid.behind _ inside y same) number) false (laid.onZone _) ?_
        (unwrapped.perm List.perm_append_comm)
      intro r member
      obtain ⟨registered, same⟩ := List.mem_filter.1 member
      obtain ⟨m, wrapped⟩ := listed.wrapped _ inside r registered
      exact ⟨same, by rw [wrapped]; simp [Handler.number?]⟩

end

/-- Taking back one of the user's own handlers takes all its entries for the zone from the
list. -/
theorem removeOwn {z : Zone} {l : Listener} (listed : w.Listed zs ls []) (laid : w.Laid zs)
    (inside : z ∈ zs) (own : l.handler.number? = none) :
    (World.removeWrapped z l w).2.Listed zs (ls.filter fun e => !concerns z l e) [] := by
  have apart : ∀ e ∈ w.passed zs, concerns z l e = false := by
    intro e member
    rw [← Bool.not_eq_true]
    intro same
    obtain ⟨y, also, here⟩ := List.mem_flatMap.1 member
    obtain ⟨r, registered, passed⟩ := List.mem_filterMap.1 here
    obtain ⟨_, -, rfl⟩ := Option.map_eq_some_iff.1 passed
    obtain ⟨n, wrapped⟩ := listed.wrapped y also r registered
    have alike : r.handler.number? = l.handler.number? :=
      Listener.number?_eq (Bool.and_eq_true_iff.1 same).2
    rw [own, wrapped] at alike
    cases alike
  have unwrapped := listed.unwrap laid inside apart
  obtain ⟨id, behind⟩ := z
  rw [World.removeWrapped]
  refine foldl_takes behind (fun l w ls laid number => removeListener behind l laid
    (fun y same => laid.behind _ inside y same) number) false (laid.onZone _) ?_
    (unwrapped.perm List.perm_append_comm)
  intro r member
  obtain ⟨registered, same⟩ := List.mem_filter.1 member
  obtain ⟨m, wrapped⟩ := listed.wrapped _ inside r registered
  exact ⟨same, by rw [wrapped]; simp [Handler.number?]⟩

end Listed

/-! ## Each zone by itself -/

/-- What is collected from all zones with their numbers, at one of them. -/
theorem Laid.filter_flatMap {w : World σ} {zs : List Zone} {β : Type} (laid : w.Laid zs)
    {z : Zone} (inside : z ∈ zs) (g : Zone → List β) :
    (zs.flatMap fun y => (g y).map (y.id, ·)).filter (·.1 = z.id) = (g z).map (z.id, ·) := by
  have others {ys : List Zone} (subset : ys ⊆ zs) (away : z ∉ ys) :
      (ys.flatMap fun y => (g y).map (y.id, ·)).filter (·.1 = z.id) = [] := by
    refine List.filter_eq_nil_iff.2 fun e member => ?_
    obtain ⟨y, also, here⟩ := List.mem_flatMap.1 member
    obtain ⟨_, -, rfl⟩ := List.mem_map.1 here
    have other : y.id ≠ z.id := fun same => away (laid.eq_of_id (subset also) inside same ▸ also)
    simpa using other
  have distinct : zs.Nodup := .of_map Zone.id (by rw [laid.ids]; exact List.nodup_range)
  obtain ⟨front, back, rfl⟩ := List.append_of_mem inside
  obtain ⟨-, after, apart⟩ := List.nodup_append.1 distinct
  rw [List.flatMap_append, List.flatMap_cons, List.filter_append, List.filter_append,
    others (by simp) fun before => apart z before z List.mem_cons_self rfl,
    others (by intro y member; simp [member]) (List.nodup_cons.1 after).1, List.nil_append,
    List.append_nil]
  exact List.filter_eq_self.2 fun e member => by
    obtain ⟨_, -, rfl⟩ := List.mem_map.1 member
    simp

/-- The refreshes of a zone. -/
theorem Tabled.at {w : World σ} {zs : List Zone} {rs : List (Nat × Nat × Refresh)}
    (tabled : w.Tabled zs rs) (laid : w.Laid zs) {z : Zone} (inside : z ∈ zs) :
    (w.zone z).refreshes.Perm ((rs.filter (·.1 = z.id)).map (·.2)) := by
  have own := (tabled.all.filter (·.1 = z.id)).map (·.2)
  rw [World.tabled, laid.filter_flatMap inside fun y => (w.zone y).refreshes, List.map_map] at own
  simpa [Function.comp_def] using own

/-- The wrappers of a zone are under numbers. -/
theorem Listed.numbered_at {w : World σ} {zs : List Zone}
    {ls missing : List (Nat × Listener)} (listed : w.Listed zs ls missing) {z : Zone} (inside : z ∈ zs) :
    (w.zone z).wrappers.map (·.handler.number?) =
      ((w.zone z).wrappers.filterMap (·.handler.number?)).map some := by
  have wrapped := listed.wrapped z inside
  rw [List.map_filterMap]
  generalize (w.zone z).wrappers = rs at wrapped ⊢
  induction rs with
  | nil => rfl
  | cons r rest ih =>
      obtain ⟨⟨n, first⟩, others⟩ := List.forall_mem_cons.1 wrapped
      have number : r.handler.number? = some n := by rw [first]; rfl
      simp [number, ih others]

/-- The listeners of a zone: those registered with it, and those passed on by the zones in
front. -/
theorem Listed.at {w : World σ} {zs : List Zone} {ls : List (Nat × Listener)}
    (listed : w.Listed zs ls []) (laid : w.Laid zs) {z : Zone} (inside : z ∈ zs) :
    ((w.zone z).wrappers.map (·.inner)).Perm ((ls.filter (·.1 = z.id)).map (·.2) ++
      (zs.filter (·.next? = some z.id)).flatMap fun y => (w.zone y).wrappers.map (·.outer)) := by
  have passed (ys : List Zone) : ((w.passed ys).filter (·.1 = z.id)).map (·.2) =
      (ys.filter (·.next? = some z.id)).flatMap fun y => (w.zone y).wrappers.map (·.outer) := by
    induction ys with
    | nil => rfl
    | cons y ys ih =>
        rw [World.passed, List.flatMap_cons, List.filter_append, List.map_append, List.filter_cons]
        rw [World.passed] at ih
        rw [ih]
        cases next : y.next? with
        | none => simp
        | some n =>
            by_cases same : n = z.id
            · simp [same, List.filter_map, Function.comp_def]
            · simp [same]
  have own := (listed.all.filter (·.1 = z.id)).map (·.2)
  rw [List.append_nil, List.filter_append, List.map_append, passed, World.listed] at own
  have mine := laid.filter_flatMap inside fun y => (w.zone y).wrappers.map (·.inner)
  simp only [List.map_map, Function.comp_def] at mine own
  rw [mine, List.map_map] at own
  simpa [Function.comp_def] using own

end World

end LiveTemplates
