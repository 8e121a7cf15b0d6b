/-
# LiveTemplates.Proofs.Detaching.Standing -- what stands of instances that were handed out

An instance that was handed out is attached, or it is not, and then none inside of it is.  What
its zone still runs of its refreshes is noted in its registrations, so nothing is left of them
when it is detached.  And no number of an instance or a refresh is given out again.

* `World.Calm`: changes that detach nothing, and register refreshes under new numbers only;
* `World.Loses`, `Instance.detach_loses`, `Instance.detach_gone`: what detaching takes;
* `Stands`: what stands in a world, as a record tells; `Stands.not_runs`: what is retired is not
  run again;
* `Watch.Good`, `Watch.Reaches`: states in which this stands, and what keeps it so.
-/
import LiveTemplates.Proofs.Detaching.Recording

namespace LiveTemplates

set_option autoImplicit false

variable {σ : Type}

/-! ## What a zone runs -/

namespace World

/-- A zone has a refresh under a number. -/
def Runs (w : World σ) (z : Zone) (n : Nat) : Prop :=
  ∃ r, (n, r) ∈ (w.zone z).refreshes

theorem zone_congr (w : World σ) {y z : Zone} (same : y.id = z.id) : w.zone y = w.zone z := by
  rw [zone, zone, same]

/-- What refreshes are registered get new numbers. -/
structure Steady (w v : World σ) : Prop extends w.Onward v where
  size : w.zones.size ≤ v.zones.size
  runs : ∀ z n, v.Runs z n → w.Runs z n ∨ (w.zone z).nextTick ≤ n ∧ n < (v.zone z).nextTick

/-- Besides, nothing is attached or detached. -/
structure Calm (w v : World σ) : Prop extends w.Steady v where
  attached : v.attached = w.attached

/-- The zones are as they were, but for what is wrapped. -/
theorem Steady.of_refreshing {w v : World σ} (same : w.Refreshing v) (later : w.serial ≤ v.serial) :
    w.Steady v where
  toOnward := .of_refreshing same later
  size := Nat.le_of_eq same.size.symm
  runs z n runs := by
    rw [Runs, same.refreshes] at runs
    exact .inl runs

namespace Calm

variable {w v x : World σ}

theorem trans (first : w.Calm v) (second : v.Calm x) : w.Calm x where
  toOnward := first.toOnward.trans second.toOnward
  size := Nat.le_trans first.size second.size
  attached := second.attached.trans first.attached
  runs z n runs := by
    rcases second.runs z n runs with before | ⟨less, more⟩
    · rcases first.runs z n before with old | ⟨less, more⟩
      · exact .inl old
      · exact .inr ⟨less, Nat.lt_of_lt_of_le more (second.ticks z)⟩
    · exact .inr ⟨Nat.le_trans (first.ticks z) less, more⟩

theorem of_refreshing (same : w.Refreshing v) (attached : v.attached = w.attached)
    (later : w.serial ≤ v.serial) : w.Calm v :=
  ⟨.of_refreshing same later, attached⟩

theorem of_zones (same : v.zones = w.zones) (attached : v.attached = w.attached)
    (later : w.serial ≤ v.serial) : w.Calm v :=
  of_refreshing (.of_zones same) attached later

theorem of_rewired (same : w.Rewired v) : w.Calm v :=
  of_refreshing same.toRefreshing same.attached same.later

theorem refl (w : World σ) : w.Calm w :=
  of_zones rfl rfl (Nat.le_refl _)

/-- The registries of a zone change. -/
theorem onZone (w : World σ) (z : Zone) {f : ZoneState → ZoneState}
    (more : (w.zone z).nextTick ≤ (f (w.zone z)).nextTick)
    (runs : ∀ e ∈ (f (w.zone z)).refreshes, e ∈ (w.zone z).refreshes ∨
      (w.zone z).nextTick ≤ e.1 ∧ e.1 < (f (w.zone z)).nextTick) : w.Calm (w.onZone z f) where
  toOnward := .onZone w z more
  size := by simp [World.onZone]
  attached := rfl
  runs y n := by
    rintro ⟨r, member⟩
    rw [World.zone_onZone] at member ⊢
    split at member
    case isTrue here =>
      rw [if_pos here, w.zone_congr here.1.symm]
      rw [w.zone_congr here.1.symm] at member
      refine (runs _ member).imp_left fun old => ⟨r, ?_⟩
      rw [w.zone_congr here.1.symm]
      exact old
    case isFalse => exact .inl ⟨r, member⟩

theorem addRefresh (w : World σ) (z : Zone) (r : Refresh) : w.Calm (w.addRefresh z r).2 := by
  refine onZone w z (Nat.le_succ _) fun e member => ?_
  rcases List.mem_append.1 member with old | new
  · exact .inl old
  · rw [List.mem_singleton.1 new]
    exact .inr ⟨Nat.le_refl _, Nat.lt_succ_self _⟩

theorem removeRefresh (w : World σ) (z : Zone) (n : Nat) : w.Calm (w.removeRefresh z n).2 :=
  onZone w z (Nat.le_refl _) fun _ member => .inl (List.mem_of_mem_filter member)

theorem newZone (w : World σ) (behind : Target) : w.Calm (w.newZone behind).2 := by
  have same (z : Zone) : (w.newZone behind).2.zone z = w.zone z := by
    rcases Nat.lt_trichotomy z.id w.zones.size with less | same | more
    · simp [World.newZone, World.zone, Array.getElem?_push, Nat.ne_of_lt less]
    · simp [World.newZone, World.zone, same]
    · have apart : z.id ≠ w.zones.size := Nat.ne_of_gt more
      simp [World.newZone, World.zone, Array.getElem?_push, apart]
  refine ⟨⟨.newZone w behind, by simp [World.newZone], fun z n runs => ?_⟩, rfl⟩
  rw [Runs, same] at runs
  exact .inl runs

end Calm

/-! ## What detaching takes -/

/-- Some registrations are taken back, and with each of them what one zone ran for it. -/
structure Loses (z : Zone) (serials : List Nat) (w v : World σ) : Prop extends w.Onward v where
  size : v.zones.size = w.zones.size
  runs : ∀ y n, v.Runs y n → w.Runs y n
  kept : ∀ q, v.registrations? q = w.registrations? q ∨ q ∈ serials ∧ v.registrations? q = none ∧
    ∀ r, w.registrations? q = some r → ∀ n ∈ r.ticks, ¬ v.Runs z n

namespace Loses

variable {z : Zone} {serials : List Nat} {w v x : World σ}

theorem refl (w : World σ) : Loses z serials w w :=
  ⟨.refl w, rfl, fun _ _ => id, fun _ => .inl rfl⟩

theorem trans (first : Loses z serials w v) (second : Loses z serials v x) :
    Loses z serials w x where
  toOnward := first.toOnward.trans second.toOnward
  size := second.size.trans first.size
  runs y n runs := first.runs y n (second.runs y n runs)
  kept q := by
    rcases first.kept q with same | ⟨inside, none, ended⟩
    · rw [← same]
      exact second.kept q
    · refine .inr ⟨inside, ?_, fun r found n member runs => ?_⟩
      · rcases second.kept q with same | ⟨-, gone, -⟩
        · exact same.trans none
        · exact gone
      · exact ended r found n member (second.runs z n runs)

theorem none {q : Nat} (loses : Loses z serials w v) (gone : w.registrations? q = none) :
    v.registrations? q = Option.none := by
  rcases loses.kept q with same | ⟨-, gone, -⟩
  · exact same.trans gone
  · exact gone

theorem mono {others : List Nat} (loses : Loses z serials w v) (sub : ∀ q ∈ serials, q ∈ others) :
    Loses z others w v where
  toOnward := loses.toOnward
  size := loses.size
  runs := loses.runs
  kept q := (loses.kept q).imp_right fun lost => ⟨sub q lost.1, lost.2⟩

end Loses

/-- Taking back refreshes takes them from their zone. -/
theorem runs_foldl_removeRefresh (z : Zone) : ∀ (ticks : List Nat) {w : World σ} {y : Zone}
    {n : Nat}, (ticks.foldl (fun w n => (w.removeRefresh z n).2) w).Runs y n →
      w.Runs y n ∧ (y.id = z.id → n ∉ ticks)
  | [], _, _, _, runs => ⟨runs, fun _ => List.not_mem_nil⟩
  | tick :: ticks, w, y, n, runs => by
      obtain ⟨⟨r, member⟩, others⟩ := runs_foldl_removeRefresh z ticks runs
      have member : (n, r) ∈ ((w.onZone z fun s =>
          { s with refreshes := s.refreshes.filter (·.1 != tick) }).zone y).refreshes := member
      rw [zone_onZone] at member
      split at member
      case isTrue here =>
        obtain ⟨old, other⟩ := List.mem_filter.1 member
        refine ⟨⟨r, old⟩, fun same listed => ?_⟩
        rcases List.mem_cons.1 listed with rfl | later
        · simp at other
        · exact others same later
      case isFalse outside =>
        refine ⟨⟨r, member⟩, fun same => ?_⟩
        have room : ¬ y.id < w.zones.size := fun less => outside ⟨same.symm, same ▸ less⟩
        have empty : w.zone y = {} := by simp [zone, room]
        rw [empty] at member
        cases member

/-- What a zone still runs when an instance has given back what it has registered. -/
theorem runs_takeBack {w : World σ} {z y : Zone} {host : NodeId} {r : Registrations} {n : Nat}
    (runs : (w.takeBack z host r).Runs y n) : w.Runs y n ∧ (y.id = z.id → n ∉ r.ticks) := by
  let untabled := r.ticks.foldl (fun w tick => (w.removeRefresh z tick).2) w
  let unlisted := r.listeners.foldl (fun w l => (w.removeWrapped z l).2) untabled
  have listeners : untabled.Rewired unlisted :=
    List.foldlRecOn (motive := untabled.Rewired) _ _ (.refl _) fun v rewired l _ =>
      rewired.trans (.removeWrapped z l v)
  obtain ⟨forest, same⟩ := foldl_remove host r.mounted unlisted
  have taken : w.takeBack z host r = { unlisted with forest := forest } := same
  rw [taken] at runs
  have before : untabled.Runs y n := by
    rw [Runs, ← listeners.refreshes]
    exact runs
  exact runs_foldl_removeRefresh z r.ticks before

theorem takeBack_same (w : World σ) (z : Zone) (host : NodeId) (r : Registrations) :
    (w.takeBack z host r).attached = w.attached ∧
      (w.takeBack z host r).zones.size = w.zones.size := by
  let untabled := r.ticks.foldl (fun w tick => (w.removeRefresh z tick).2) w
  let unlisted := r.listeners.foldl (fun w l => (w.removeWrapped z l).2) untabled
  have ticks : w.Retabled untabled :=
    List.foldlRecOn (motive := w.Retabled) _ _ (.refl _) fun v retabled tick _ =>
      retabled.trans (.removeRefresh v z tick)
  have listeners : untabled.Rewired unlisted :=
    List.foldlRecOn (motive := untabled.Rewired) _ _ (.refl _) fun v rewired l _ =>
      rewired.trans (.removeWrapped z l v)
  obtain ⟨forest, same⟩ := foldl_remove host r.mounted unlisted
  have taken : w.takeBack z host r = { unlisted with forest := forest } := same
  rw [taken]
  exact ⟨listeners.attached.trans ticks.attached, listeners.size.trans ticks.size⟩

end World

namespace Instance

mutual

/-- Detaching an instance takes nothing but registrations of instances inside, and all that the
zone ran for these. -/
theorem detach_loses : ∀ (i : Instance) {z : Zone} {serials : List Nat} (w : World σ),
    (∀ j ∈ i.all, j.zone = z ∧ j.serial ∈ serials) → w.Loses z serials (i.detach w)
  | .mk serial b o os host z' children, z, serials, w, inside => by
      rw [all] at inside
      obtain ⟨⟨zone, own⟩, below⟩ := List.forall_mem_cons.1 inside
      obtain rfl : z' = z := zone
      rw [detach]
      split
      case h_1 => exact .refl w
      case h_2 r found =>
        let v := detachAll children (w.forget serial)
        have inner : (w.forget serial).Loses z' serials v := detachAll_loses children _ below
        obtain ⟨attached, size⟩ := v.takeBack_same z' host r
        have registrations (q : Nat) : (v.takeBack z' host r).registrations? q = v.registrations? q :=
          congrArg (List.lookup q) attached
        have forgotten : w.Onward (w.forget serial) :=
          .of_refreshing (.of_zones rfl) (Nat.le_refl _)
        refine ⟨forgotten.trans (inner.toOnward.trans (.takeBack v z' host r)),
          size.trans inner.size, fun y n runs => inner.runs y n (World.runs_takeBack runs).1,
          fun q => ?_⟩
        rw [registrations]
        by_cases same : q = serial
        case pos =>
          subst same
          refine .inr ⟨own, inner.none ?_, fun r' also n member runs => ?_⟩
          · rw [World.registrations?_forget, if_pos rfl]
          · obtain rfl := Option.some.inj (found.symm.trans also)
            exact (World.runs_takeBack runs).2 rfl member
        case neg =>
          have before : (w.forget serial).registrations? q = w.registrations? q := by
            rw [World.registrations?_forget, if_neg same]
          rw [← before]
          refine (inner.kept q).imp_right fun ⟨member, gone, ended⟩ => ⟨member, gone, ?_⟩
          exact fun r found n listed runs => ended r found n listed (World.runs_takeBack runs).1

theorem detachAll_loses : ∀ (is : List Instance) {z : Zone} {serials : List Nat} (w : World σ),
    (∀ j ∈ allOf is, j.zone = z ∧ j.serial ∈ serials) → w.Loses z serials (detachAll is w)
  | [], _, _, w, _ => .refl w
  | i :: is, z, serials, w, inside => by
      rw [allOf] at inside
      obtain ⟨first, others⟩ := List.forall_mem_append.1 inside
      rw [detachAll]
      exact (detach_loses i w first).trans (detachAll_loses is (i.detach w) others)

end

/-- Where one of some instances is not attached, none inside of it is. -/
def Closed (w : World σ) (is : List Instance) : Prop :=
  ∀ i ∈ is, w.registrations? i.serial = none → ∀ j ∈ i.all, w.registrations? j.serial = none

/-- This is left to some of them, if they are as attached as before. -/
theorem Closed.congr {w v : World σ} {is js : List Instance} (closed : Closed w is) (sub : js ⊆ is)
    (inside : ∀ i ∈ js, ∀ j ∈ i.all, j ∈ js)
    (same : ∀ i ∈ js, v.registrations? i.serial = w.registrations? i.serial) : Closed v js := by
  intro i member none j below
  rw [same i member] at none
  rw [same j (inside i member j below)]
  exact closed i (sub member) none j below

mutual

/-- What is detached is not attached, with all inside. -/
theorem detach_gone : ∀ (i : Instance) {z : Zone} {w : World σ}, (∀ j ∈ i.all, j.zone = z) →
    (i.all.map (·.serial)).Nodup → Closed w i.all →
      ∀ j ∈ i.all, (i.detach w).registrations? j.serial = none
  | .mk serial b o os host z' children, z, w, zone, distinct, closed => by
      intro j member
      rw [detach]
      split
      case h_1 none =>
        exact closed _ (mem_all_self _) none j member
      case h_2 r found =>
        rw [all] at zone distinct closed member
        obtain ⟨own, distinct⟩ := List.nodup_cons.1 distinct
        obtain ⟨-, zone⟩ := List.forall_mem_cons.1 zone
        let v := detachAll children (w.forget serial)
        have forgotten : (w.forget serial).registrations? serial = none := by
          rw [World.registrations?_forget, if_pos rfl]
        have closed : Closed (w.forget serial) (allOf children) := by
          refine closed.congr (List.subset_cons_self _ _)
            (fun i member j below => (allOf_sublist children member).subset below)
            fun i member => ?_
          rw [World.registrations?_forget, if_neg]
          exact fun same => own (List.mem_map.2 ⟨i, member, same⟩)
        have loses : (w.forget serial).Loses z ((allOf children).map (·.serial)) v :=
          detachAll_loses children _ fun j below => ⟨zone j below, List.mem_map_of_mem below⟩
        have same : (v.takeBack z' host r).registrations? j.serial = v.registrations? j.serial :=
          congrArg (List.lookup _) (v.takeBack_same z' host r).1
        rw [same]
        rcases List.mem_cons.1 member with rfl | below
        · exact loses.none forgotten
        · exact detachAll_gone children zone distinct closed j below

theorem detachAll_gone : ∀ (is : List Instance) {z : Zone} {w : World σ},
    (∀ j ∈ allOf is, j.zone = z) → ((allOf is).map (·.serial)).Nodup → Closed w (allOf is) →
      ∀ j ∈ allOf is, (detachAll is w).registrations? j.serial = none
  | [], _, _, _, _, _ => by
      intro j member
      cases member
  | i :: is, z, w, zone, distinct, closed => by
      intro j member
      rw [allOf] at zone distinct closed member
      obtain ⟨here, others⟩ := List.forall_mem_append.1 zone
      rw [List.map_append] at distinct
      obtain ⟨first, later, apart⟩ := List.nodup_append.1 distinct
      have own : Closed w i.all := closed.congr (List.subset_append_left _ _)
        (fun j member k below => (i.all_sublist member).subset below) fun _ _ => rfl
      have loses : w.Loses z (i.all.map (·.serial)) (i.detach w) :=
        detach_loses i w fun j below => ⟨here j below, List.mem_map_of_mem below⟩
      have rest : Closed (i.detach w) (allOf is) := by
        refine closed.congr (List.subset_append_right _ _)
          (fun j member k below => (allOf_sublist is member).subset below) fun j member => ?_
        refine (loses.kept j.serial).resolve_right fun lost => ?_
        exact apart _ lost.1 _ (List.mem_map_of_mem member) rfl
      have losesAll : (i.detach w).Loses z ((allOf is).map (·.serial))
          (detachAll is (i.detach w)) :=
        detachAll_loses is _ fun j below => ⟨others j below, List.mem_map_of_mem below⟩
      rw [detachAll]
      rcases List.mem_append.1 member with inside | below
      · exact losesAll.none (detach_gone i here first own j inside)
      · exact detachAll_gone is others later rest j below

end

end Instance

/-! ## What stands -/

/-- What a record tells of instances stands in a world. -/
structure Stands (log : List Moment) (w : World σ) : Prop where
  opened : ∀ m ∈ log, ∀ z, m.what = .opened z → z.id < w.zones.size
  unique : ∀ i j, HandedOut log i → HandedOut log j → i.serial = j.serial → i = j
  distinct : ∀ i, HandedOut log i → (i.all.map (·.serial)).Nodup
  uniform : ∀ i, HandedOut log i → ∀ j ∈ i.all, j.zone = i.zone
  given : ∀ i, HandedOut log i → i.serial < w.serial
  closed : ∀ i, HandedOut log i → Instance.Closed w i.all
  gone : ∀ i, Detached log i → HandedOut log i ∧ w.registrations? i.serial = none
  ticks : ∀ j n, Owned log j n → n < (w.zone j.zone).nextTick
  noted : ∀ j n, Owned log j n → w.Runs j.zone n →
    ∃ r, w.registrations? j.serial = some r ∧ n ∈ r.ticks
  running : ∀ z n, w.Runs z n → n < (w.zone z).nextTick

namespace Stands

variable {log : List Moment} {w v : World σ}

/-- What is retired is not run by its zone. -/
theorem not_runs (stands : Stands log w) {z : Zone} {n : Nat} (retired : Retired log z.id n) :
    ¬ w.Runs z n := by
  obtain ⟨i, detached, j, inside, same, owned⟩ := retired
  obtain ⟨handed, none⟩ := stands.gone i detached
  have away : w.registrations? j.serial = Option.none :=
    stands.closed i handed i i.mem_all_self none j inside
  intro runs
  rw [World.Runs, ← w.zone_congr same] at runs
  obtain ⟨r, found, -⟩ := stands.noted j n owned runs
  rw [away] at found
  cases found

end Stands

namespace Watch

/-- What a record tells stands, and what is still to run of retired refreshes is excused. -/
structure Good (s : Watch σ) : Prop where
  abides : Abides s.log
  excused : Excused s.log s.calls
  stands : Stands s.log s.world
  numbers : ∀ c ∈ s.calls, ∀ (z : Zone) (n : Nat), c.call = .refresh z.id n →
    n < (s.world.zone z).nextTick

/-- No number was given out again, and what was registered for somebody unknown is left. -/
structure Goes (s t : Watch σ) : Prop extends s.world.Onward t.world where
  log : s.log <:+ t.log
  size : s.world.zones.size ≤ t.world.zones.size
  handed : ∀ i, HandedOut t.log i → i.serial < s.world.serial → HandedOut s.log i
  kept : ∀ q < s.world.serial, (∀ i, HandedOut s.log i → i.serial ≠ q) →
    t.world.registrations? q = s.world.registrations? q
  owned : ∀ j n, Owned t.log j n → n < (s.world.zone j.zone).nextTick → Owned s.log j n

/-- A good state is reached behind the same calls. -/
structure Reaches (s t : Watch σ) : Prop extends s.Goes t, t.Good where
  calls : t.calls = s.calls

namespace Goes

variable {s t r : Watch σ}

theorem trans (first : s.Goes t) (second : t.Goes r) : s.Goes r where
  toOnward := first.toOnward.trans second.toOnward
  log := first.log.trans second.log
  size := Nat.le_trans first.size second.size
  handed i handed less :=
    first.handed i (second.handed i handed (Nat.lt_of_lt_of_le less first.serial)) less
  kept q less unknown := by
    have later : ∀ i, HandedOut t.log i → i.serial ≠ q := by
      rintro i handed rfl
      exact unknown i (first.handed i handed less) rfl
    rw [second.kept q (Nat.lt_of_lt_of_le less first.serial) later, first.kept q less unknown]
  owned j n owned less :=
    first.owned j n (second.owned j n owned (Nat.lt_of_lt_of_le less (first.ticks j.zone))) less

/-- Nothing is attached or detached in between. -/
theorem silent (silent : s.Silent [] t) (calm : s.world.Calm t.world) : s.Goes t where
  toOnward := calm.toOnward
  log := silent.log
  size := calm.size
  handed i handed _ := silent.handed i handed
  kept q _ _ := congrArg (List.lookup q) calm.attached
  owned j n owned _ := silent.owned j n owned

end Goes

namespace Good

variable {s t : Watch σ}

/-- Nothing is detached in between, and what is attached is nobody's that was handed out. -/
theorem settle (good : s.Good) (silent : s.Silent [] t) (steady : s.world.Steady t.world)
    (same : ∀ i, HandedOut s.log i →
      t.world.registrations? i.serial = s.world.registrations? i.serial)
    (calls : ∀ c ∈ t.calls, c ∈ s.calls ∨ ∀ z n, c.call ≠ .refresh z n) : t.Good := by
  obtain ⟨abides, excused⟩ := silent.clear good.abides good.excused
  have stands := good.stands
  refine ⟨abides, excused, ?_, fun c member z n refresh => ?_⟩
  · exact
      { opened := fun m member z what =>
          Nat.lt_of_lt_of_le (stands.opened m (silent.opened m member z what) z what) steady.size
        unique := fun i j first second =>
          stands.unique i j (silent.handed i first) (silent.handed j second)
        distinct := fun i handed => stands.distinct i (silent.handed i handed)
        uniform := fun i handed => stands.uniform i (silent.handed i handed)
        given := fun i handed =>
          Nat.lt_of_lt_of_le (stands.given i (silent.handed i handed)) steady.serial
        closed := fun i handed => (stands.closed i (silent.handed i handed)).congr
          (List.Subset.refl _) (fun j member k below => (i.all_sublist member).subset below)
          fun j member => same j ((silent.handed i handed).inside member)
        gone := fun i detached => by
          obtain ⟨handed, none⟩ :=
            stands.gone i ((silent.detached i detached).resolve_right List.not_mem_nil)
          exact ⟨handed.later silent.log, (same i handed).trans none⟩
        ticks := fun j n owned => Nat.lt_of_lt_of_le (stands.ticks j n (silent.owned j n owned))
          (steady.ticks j.zone)
        noted := fun j n owned runs => by
          have owned := silent.owned j n owned
          rcases steady.runs j.zone n runs with before | ⟨less, -⟩
          · rw [same j owned.handedOut]
            exact stands.noted j n owned before
          · exact absurd (stands.ticks j n owned) (Nat.not_lt.2 less)
        running := fun z n runs => by
          rcases steady.runs z n runs with before | ⟨-, more⟩
          · exact Nat.lt_of_lt_of_le (stands.running z n before) (steady.ticks z)
          · exact more }
  · rcases calls c member with old | other
    · exact Nat.lt_of_lt_of_le (good.numbers c old z n refresh) (steady.ticks z)
    · exact absurd refresh (other z.id n)

/-- Nothing is attached or detached in between. -/
theorem silent (good : s.Good) (silent : s.Silent [] t) (calm : s.world.Calm t.world)
    (calls : ∀ c ∈ t.calls, c ∈ s.calls ∨ ∀ z n, c.call ≠ .refresh z n) : t.Good :=
  good.settle silent calm.toSteady (fun _ _ => congrArg (List.lookup _) calm.attached) calls

/-- An instance that was handed out is detached. -/
theorem detach (good : s.Good) {i : Instance} (handed : HandedOut s.log i)
    (silent : s.Silent i.all t) (world : t.world = i.detach s.world) (calls : t.calls = s.calls) :
    s.Goes t ∧ t.Good := by
  have stands := good.stands
  obtain ⟨abides, excused⟩ := silent.clear good.abides good.excused
  have loses : s.world.Loses i.zone (i.all.map (·.serial)) t.world := by
    rw [world]
    exact i.detach_loses s.world fun j inside =>
      ⟨stands.uniform i handed j inside, List.mem_map_of_mem inside⟩
  have gone : ∀ j ∈ i.all, t.world.registrations? j.serial = none := by
    rw [world]
    exact i.detach_gone (stands.uniform i handed) (stands.distinct i handed)
      (stands.closed i handed)
  -- what is taken from an instance that was handed out, is taken from one inside
  have inside {j : Instance} (also : HandedOut s.log j)
      (member : j.serial ∈ i.all.map (·.serial)) : j ∈ i.all := by
    obtain ⟨k, below, same⟩ := List.mem_map.1 member
    rwa [← stands.unique k j (handed.inside below) also same]
  refine ⟨⟨loses.toOnward, silent.log, Nat.le_of_eq loses.size.symm, fun j also _ =>
    silent.handed j also, fun q less unknown => ?_, fun j n owned _ => silent.owned j n owned⟩,
    abides, excused, ?_, fun c member z n refresh => ?_⟩
  · refine (loses.kept q).resolve_right fun lost => ?_
    obtain ⟨k, below, same⟩ := List.mem_map.1 lost.1
    exact unknown k (handed.inside below) same
  · exact
      { opened := fun m member z what => by
          rw [loses.size]
          exact stands.opened m (silent.opened m member z what) z what
        unique := fun j k first second =>
          stands.unique j k (silent.handed j first) (silent.handed k second)
        distinct := fun j also => stands.distinct j (silent.handed j also)
        uniform := fun j also => stands.uniform j (silent.handed j also)
        given := fun j also =>
          Nat.lt_of_lt_of_le (stands.given j (silent.handed j also)) loses.serial
        closed := fun j also k below none l deeper => by
          have also := silent.handed j also
          have own := also.inside below
          rcases loses.kept k.serial with same | lost
          · refine loses.none (stands.closed k own k k.mem_all_self ?_ l deeper)
            exact same.symm.trans none
          · exact gone l ((i.all_sublist (inside own lost.1)).subset deeper)
        gone := fun j detached => by
          rcases silent.detached j detached with old | below
          · obtain ⟨also, none⟩ := stands.gone j old
            exact ⟨also.later silent.log, loses.none none⟩
          · exact ⟨(handed.inside below).later silent.log, gone j below⟩
        ticks := fun j n owned =>
          Nat.lt_of_lt_of_le (stands.ticks j n (silent.owned j n owned)) (loses.ticks j.zone)
        noted := fun j n owned runs => by
          have owned := silent.owned j n owned
          obtain ⟨r, found, member⟩ := stands.noted j n owned (loses.runs j.zone n runs)
          rcases loses.kept j.serial with same | ⟨lost, -, ended⟩
          · exact ⟨r, same.trans found, member⟩
          · have below := inside owned.handedOut lost
            rw [stands.uniform i handed j below] at runs
            exact absurd runs (ended r found n member)
        running := fun z n runs =>
          Nat.lt_of_lt_of_le (stands.running z n (loses.runs z n runs)) (loses.ticks z) }
  · rw [calls] at member
    exact Nat.lt_of_lt_of_le (good.numbers c member z n refresh) (loses.ticks z)

end Good

namespace Reaches

variable {s t r : Watch σ}

theorem refl (good : s.Good) : s.Reaches s :=
  ⟨.silent (.refl [] s) (.refl _), good, rfl⟩

theorem trans (first : s.Reaches t) (second : t.Reaches r) : s.Reaches r :=
  ⟨first.toGoes.trans second.toGoes, second.toGood, second.calls.trans first.calls⟩

/-- Nothing is attached or detached in between. -/
theorem silent (good : s.Good) (silent : s.Silent [] t) (calm : s.world.Calm t.world)
    (calls : t.calls = s.calls) : s.Reaches t :=
  ⟨.silent silent calm, good.silent silent calm fun _ member => .inl (calls ▸ member), calls⟩

end Reaches

end Watch

end LiveTemplates
