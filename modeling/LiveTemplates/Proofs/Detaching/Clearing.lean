/-
# LiveTemplates.Proofs.Detaching.Clearing -- detaching takes back what is held, and no more

An instance is detached with the instances inside of it, one registration after the other.  Each
of its listeners stands at the start of a thread of its own, so no other registration is met, and
what is done comes to the same as clearing the world of all that the instances hold.

* `World.Strung`: threads are all that is registered, under numbers of their own;
* `World.Orderly`: so it is, and the listeners of some instances are registered with their zones;
* `Instance.detach_clears`, `Instance.detachAll_clears`: detaching is clearing;
* `World.Orderly.clear`: what is not cleared is as orderly as before.
-/
import LiveTemplates.Proofs.World.Clearing

namespace LiveTemplates

set_option autoImplicit false

variable {σ : Type}

namespace World

/-! ## Threads that are all there is -/

/-- There are the zones of a target, and the dispatcher behind them. -/
def Has (w : World σ) (t : Target) : Prop :=
  t.Inside w.zones.size ∧ t.root < w.dispatchers.size

/-- Some threads are all that is registered with dispatchers and zones.  They start with listeners
that no zone has wrapped, and no two of them have wrappers of the same number. -/
structure Strung (w : World σ) (ts : List Thread) : Prop where
  woven : w.woven ts = w
  unwrapped : ∀ t ∈ ts, t.listener.handler.wrapper? = none
  there : ∀ t ∈ ts, w.Has t.target
  distinct : (ts.flatMap Thread.span).Nodup
  given : ∀ n ∈ ts.flatMap Thread.span, n < w.serial

/-- A listener that no zone has wrapped stands at the start of threads at a zone, and of no others. -/
def Heads (ts : List Thread) (z : Zone) (l : Listener) : Prop :=
  l.handler.wrapper? = none ∧ ∀ t ∈ ts, t.listener.same l = true → t.target = .zone z

variable {w : World σ} {ts : List Thread} {z : Zone}

theorem has_clear {h : Holdings} {t : Target} : (w.clear h).Has t ↔ w.Has t := by
  rw [Has, Has, size_clear, clear, rewire, Array.size_mapIdx]

theorem Heads.filter {l : Listener} (heads : Heads ts z l) (p : Thread → Bool) :
    Heads (ts.filter p) z l :=
  ⟨heads.1, fun t member => heads.2 t (List.mem_of_mem_filter member)⟩

/-- Where threads are all that is left, it does not matter which listeners were there. -/
theorem woven_clear_listeners (w : World σ) (ls : List Listener) (ts : List Thread) :
    (w.clear { listeners := ls }).woven ts = w.woven ts := by
  have cleared : w.clear { listeners := ls } =
      w.rewire (fun _ => Holdings.leave { listeners := ls }) (Holdings.leaveIn { listeners := ls }) := by
    rw [World.clear, Forest.without_nil]
    simp [rewire]
  rw [cleared, woven, woven, rewire_rewire]
  exact rewire_congr (fun d ls _ => rfl) fun z s _ => by simp [Holdings.leaveIn]

namespace Strung

theorem clear (strung : w.Strung ts) (h : Holdings) :
    (w.clear h).Strung (ts.filter fun t => !h.concerns t.listener) where
  woven := by rw [← clear_woven, strung.woven]
  unwrapped t member := strung.unwrapped t (List.mem_of_mem_filter member)
  there t member := has_clear.2 (strung.there t (List.mem_of_mem_filter member))
  distinct := strung.distinct.sublist (List.filter_sublist.flatMap _)
  given n member := by
    obtain ⟨t, kept, inside⟩ := List.mem_flatMap.1 member
    exact strung.given n (List.mem_flatMap.2 ⟨t, List.mem_of_mem_filter kept, inside⟩)

/-- Taking back a listener takes back the threads that it starts. -/
theorem removeWrapped (strung : w.Strung ts) (there : w.Has (.zone z)) {l : Listener}
    (heads : Heads ts z l) : (World.removeWrapped z l w).2 = w.clear { listeners := [l] } := by
  have starts : (ts.filter fun t => !t.startsAt z l) =
      ts.filter fun t => !Holdings.concerns { listeners := [l] } t.listener := by
    refine List.filter_congr fun t member => ?_
    have base := Listener.base_of_unwrapped (strung.unwrapped t member)
    have same : t.startsAt z l = t.listener.same l := by
      rw [Bool.eq_iff_iff, Thread.startsAt_iff]
      exact ⟨fun ⟨_, _, _, same⟩ => same, fun same => ⟨z, heads.2 t member same, rfl, same⟩⟩
    simp [Holdings.concerns, base, same]
  have taken := removeWrapped_zone (w := w) there.1 heads.1
    (fun t member start => heads.2 t member (Thread.startsAt_iff.1 start).choose_spec.2.2)
    (fun t member => ⟨strung.unwrapped t member, _, (strung.there t member).1⟩) strung.distinct
  rw [strung.woven, starts, ← woven_clear_listeners, ← clear_woven, strung.woven] at taken
  exact taken

theorem foldl_removeWrapped : ∀ (ls : List Listener) {w : World σ} {ts : List Thread},
    w.Strung ts → w.Has (.zone z) → (∀ l ∈ ls, Heads ts z l) →
      ls.foldl (fun w l => (World.removeWrapped z l w).2) w = w.clear { listeners := ls }
  | [], w, _, _, _, _ => w.clear_nothing.symm
  | l :: ls, w, ts, strung, there, heads => by
      obtain ⟨first, others⟩ := List.forall_mem_cons.1 heads
      rw [List.foldl_cons, strung.removeWrapped there first,
        foldl_removeWrapped ls (strung.clear _) (has_clear.2 there)
          fun l member => (others l member).filter _, clear_clear]
      rfl

/-- What an instance has registered and mounted is taken back. -/
theorem takeBack (strung : w.Strung ts) (there : w.Has (.zone z)) (host : NodeId) {r : Registrations}
    (heads : ∀ l ∈ r.listeners, Heads ts z l) :
    w.takeBack z host r = w.clear
      { ticks := r.ticks.map (z.id, ·), listeners := r.listeners, mounted := r.mounted.map (host, ·) } := by
  rw [World.takeBack, foldl_removeRefresh_eq, foldl_removeWrapped r.listeners (strung.clear _)
    (has_clear.2 there) fun l member => (heads l member).filter _, foldl_remove_eq, clear_clear,
    clear_clear]
  refine congrArg w.clear ?_
  simp [Holdings.append]

end Strung

/-! ## Instances -/

/-- Threads are all that is registered, and those with a listener of one of some instances start with
it, at the zone of that instance.  Each number stands for one of the instances, and where one is not
attached none inside of it is. -/
structure Orderly (w : World σ) (ts : List Thread) (is : List Instance) : Prop where
  strung : w.Strung ts
  heads : ∀ c ∈ w.listenersOf is, Heads ts c.1 c.2
  there : ∀ i ∈ is, w.Has (.zone i.zone)
  nested : ∀ i ∈ is, ∀ j ∈ i.all, j ∈ is
  alone : ∀ i ∈ is, ∀ j ∈ is, i.serial = j.serial → i = j
  closed : ∀ i ∈ is, w.registrations? i.serial = none →
    ∀ j ∈ i.all, w.registrations? j.serial = none

namespace Orderly

variable {is js ks : List Instance}

/-- Some of the instances, with those inside. -/
theorem part (orderly : w.Orderly ts is) (sub : js ⊆ is) (nested : ∀ i ∈ js, ∀ j ∈ i.all, j ∈ js) :
    w.Orderly ts js where
  strung := orderly.strung
  heads c member := orderly.heads c (collected_subset sub member)
  there i member := orderly.there i (sub member)
  nested := nested
  alone i member j also := orderly.alone i (sub member) j (sub also)
  closed i member := orderly.closed i (sub member)

/-- What is not cleared is as orderly as before. -/
theorem clear (orderly : w.Orderly ts is) {h : Holdings}
    (whole : ∀ i ∈ is, i.serial ∈ h.serials → ∀ j ∈ i.all, j.serial ∈ h.serials) :
    (w.clear h).Orderly (ts.filter fun t => !h.concerns t.listener) is where
  strung := orderly.strung.clear h
  heads c member := by
    obtain ⟨i, inside, -, here⟩ := (mem_collected_clear fun _ => rfl).1 member
    exact (orderly.heads c (mem_collected.2 ⟨i, inside, here⟩)).filter _
  there i member := has_clear.2 (orderly.there i member)
  nested := orderly.nested
  alone := orderly.alone
  closed i member none j inside := by
    rw [registrations?_clear] at none ⊢
    split at none
    case isTrue listed => rw [if_pos (whole i member listed j inside)]
    case isFalse =>
      rw [orderly.closed i member none j inside]
      exact ite_self _

/-- What some instances with those inside hold is held by whole instances. -/
theorem whole (orderly : w.Orderly ts is) (sub : js ⊆ is) (nested : ∀ i ∈ js, ∀ j ∈ i.all, j ∈ js) :
    ∀ i ∈ is, i.serial ∈ (w.holdings js).serials →
      ∀ j ∈ i.all, j.serial ∈ (w.holdings js).serials := by
  intro i member listed j inside
  obtain ⟨k, also, same⟩ := List.mem_map.1 listed
  obtain rfl := orderly.alone k (sub also) i member same
  exact List.mem_map_of_mem (nested k also j inside)

/-- What is collected when some instances have been cleared was collected of others before. -/
theorem mem_collected (orderly : w.Orderly ts is) (first : js ⊆ is) (second : ks ⊆ is) {α : Type}
    {f : Instance → Registrations → List α} (none : ∀ i, f i {} = []) (a : α) :
    a ∈ w.collected f js ++ (w.clear (w.holdings js)).collected f ks ↔
      a ∈ w.collected f (js ++ ks) := by
  rw [collected_append, List.mem_append, List.mem_append, mem_collected_clear none]
  constructor
  · exact Or.imp_right fun ⟨k, inside, _, here⟩ => World.mem_collected.2 ⟨k, inside, here⟩
  · refine fun either => either.elim .inl fun member => ?_
    obtain ⟨k, inside, here⟩ := World.mem_collected.1 member
    by_cases listed : k.serial ∈ js.map (·.serial)
    · obtain ⟨j, also, same⟩ := List.mem_map.1 listed
      obtain rfl := orderly.alone j (first also) k (second inside) same
      exact .inl (World.mem_collected.2 ⟨j, also, here⟩)
    · exact .inr ⟨k, inside, listed, here⟩

/-- Clearing what some instances hold, and then what others do. -/
theorem clear_holdings (orderly : w.Orderly ts is) (first : js ⊆ is) (second : ks ⊆ is) :
    (w.clear (w.holdings js)).clear ((w.clear (w.holdings js)).holdings ks) =
      w.clear (w.holdings (js ++ ks)) := by
  rw [clear_clear]
  refine clear_congr w ⟨fun n => ?_, fun t => ?_, fun l => ?_, fun p => ?_⟩
  · simp [Holdings.append, holdings]
  · exact orderly.mem_collected first second
      (f := fun i r => r.ticks.map (i.zone.id, ·)) (fun _ => rfl) t
  · have same := orderly.mem_collected first second
      (f := fun i r => r.listeners.map (i.zone, ·)) fun _ => rfl
    have all : (w.listenersOf js ++ (w.clear (w.holdings js)).listenersOf ks).map (·.2) =
        (w.listenersOf js).map (·.2) ++ ((w.clear (w.holdings js)).listenersOf ks).map (·.2) :=
      List.map_append
    exact (Iff.of_eq (congrArg (l ∈ ·) all.symm)).trans
      (List.mem_map.trans ((exists_congr fun c => and_congr_left fun _ => same c).trans
        List.mem_map.symm))
  · exact orderly.mem_collected first second
      (f := fun i r => r.mounted.map (i.host, ·)) (fun _ => rfl) p

end Orderly

theorem holdings_congr {v : World σ} {is : List Instance}
    (same : ∀ i ∈ is, v.registrations? i.serial = w.registrations? i.serial) :
    v.holdings is = w.holdings is := by
  have ticks : v.ticksOf is = w.ticksOf is := collected_congr same
  have listeners : v.listenersOf is = w.listenersOf is := collected_congr same
  have mounted : v.mountedOf is = w.mountedOf is := collected_congr same
  rw [holdings, holdings, ticks, listeners, mounted]

/-- What an instance holds can be put behind what others do. -/
theorem holdings_cons (w : World σ) (i : Instance) (is : List Instance) :
    (Holdings.append { serials := [i.serial] } ((w.holdings is).append
      { ticks := (w.recorded i).ticks.map (i.zone.id, ·)
        listeners := (w.recorded i).listeners
        mounted := (w.recorded i).mounted.map (i.host, ·) })).Alike (w.holdings (i :: is)) where
  serials n := by simp [Holdings.append, holdings]
  ticks t := by
    have both : t ∈ w.ticksOf is ++ (w.recorded i).ticks.map (i.zone.id, ·) ↔
        t ∈ (w.recorded i).ticks.map (i.zone.id, ·) ++ w.ticksOf is :=
      List.perm_append_comm.mem_iff
    exact both
  listeners l := by
    have own : (w.listenersOf (i :: is)).map (·.2) =
        (w.recorded i).listeners ++ (w.listenersOf is).map (·.2) := by
      have cons : w.listenersOf (i :: is) =
          (w.recorded i).listeners.map (i.zone, ·) ++ w.listenersOf is := rfl
      rw [cons, List.map_append, List.map_map]
      exact congrArg (· ++ _) (List.map_id _)
    have both : l ∈ (w.listenersOf is).map (·.2) ++ (w.recorded i).listeners ↔
        l ∈ (w.listenersOf (i :: is)).map (·.2) := by
      rw [own]
      exact List.perm_append_comm.mem_iff
    exact both
  mounted p := by
    have both : p ∈ w.mountedOf is ++ (w.recorded i).mounted.map (i.host, ·) ↔
        p ∈ (w.recorded i).mounted.map (i.host, ·) ++ w.mountedOf is :=
      List.perm_append_comm.mem_iff
    exact both

/-- Instances that are not attached hold nothing. -/
theorem clear_unattached {is : List Instance} (gone : ∀ i ∈ is, w.registrations? i.serial = none) :
    w.clear (w.holdings is) = w := by
  have attached : (w.attached.filter fun a => a.1 ∉ is.map (·.serial)) = w.attached := by
    refine List.filter_eq_self.2 fun a member => decide_eq_true fun listed => ?_
    obtain ⟨i, inside, same⟩ := List.mem_map.1 listed
    have none := List.lookup_eq_none_iff.1 (gone i inside) a member
    simp [same] at none
  have ticks : w.ticksOf is = [] := collected_unattached (fun _ => rfl) gone
  have listeners : w.listenersOf is = [] := collected_unattached (fun _ => rfl) gone
  have mounted : w.mountedOf is = [] := collected_unattached (fun _ => rfl) gone
  have held : w.holdings is = { serials := is.map (·.serial) } := by
    rw [holdings, ticks, listeners, mounted]
    rfl
  rw [held, clear_unregistered w rfl rfl, Forest.without_nil]
  exact congrArg (fun attached => { w with attached := attached }) attached

end World

/-! ## Detaching -/

namespace Instance

/-- No instance is inside of itself. -/
theorem ne_of_inside (i : Instance) : ∀ j ∈ i.inside, j ≠ i := by
  rintro j inside rfl
  have length := (allOf_sublist j.children inside).length_le
  rw [all_eq, List.length_cons] at length
  exact Nat.not_succ_le_self _ length

open World in
mutual

/-- Detaching an instance takes back all that it and the instances inside of it hold. -/
theorem detach_clears : ∀ (i : Instance) {w : World σ} {ts : List Thread}, w.Orderly ts i.all →
    i.detach w = w.clear (w.holdings i.all)
  | .mk serial b o os host z children, w, ts, orderly => by
      let i : Instance := .mk serial b o os host z children
      have all : i.all = i :: allOf children := by rw [Instance.all]
      rw [detach]
      split
      case h_1 none =>
        exact (clear_unattached (orderly.closed i i.mem_all_self none)).symm
      case h_2 r found =>
        have inside : ∀ k ∈ allOf children, k.serial ∉ [serial] := by
          intro k member same
          have listed : k ∈ i.all := all ▸ List.mem_cons_of_mem _ member
          refine i.ne_of_inside k member (orderly.alone k listed i i.mem_all_self ?_)
          exact List.mem_singleton.1 same
        have own : w.recorded i = r := congrArg (·.getD {}) found
        have heads : ∀ l ∈ r.listeners, Heads ts z l := fun l member =>
          orderly.heads (z, l) (mem_collected.2 ⟨i, i.mem_all_self,
            List.mem_map_of_mem (own.symm ▸ member)⟩)
        have nested : ∀ j ∈ allOf children, ∀ k ∈ j.all, k ∈ allOf children := fun j member =>
          (allOf_sublist children member).subset
        have below : w.Orderly ts (allOf children) :=
          orderly.part (fun j member => all ▸ List.mem_cons_of_mem _ member) nested
        have forgotten := below.clear (h := { serials := [serial] }) fun k member listed =>
          absurd listed (inside k member)
        have same : (w.clear { serials := [serial] }).holdings (allOf children) =
            w.holdings (allOf children) := holdings_congr fun k member => by
          rw [registrations?_clear, if_neg (inside k member)]
        have rest := forgotten.clear (forgotten.whole (List.Subset.refl _) nested)
        have there : ((w.clear { serials := [serial] }).clear
            (w.holdings (allOf children))).Has (.zone z) :=
          has_clear.2 (has_clear.2 (orderly.there i i.mem_all_self))
        rw [same] at rest
        rw [forget_eq, detachAll_clears children forgotten, same,
          rest.strung.takeBack there host fun l member => ((heads l member).filter _).filter _,
          clear_clear, clear_clear, all, ← own]
        exact clear_congr w (w.holdings_cons i (allOf children))

/-- So does detaching several instances. -/
theorem detachAll_clears : ∀ (is : List Instance) {w : World σ} {ts : List Thread},
    w.Orderly ts (allOf is) → detachAll is w = w.clear (w.holdings (allOf is))
  | [], w, _, _ => w.clear_nothing.symm
  | i :: is, w, ts, orderly => by
      rw [allOf] at orderly
      have first := detach_clears i (orderly.part (List.subset_append_left _ _) fun j inside =>
        (i.all_sublist inside).subset)
      have cleared := orderly.clear (orderly.whole (List.subset_append_left _ _) fun j inside =>
        (i.all_sublist inside).subset)
      rw [detachAll, first, detachAll_clears is (cleared.part (List.subset_append_right _ _)
        fun j inside => (allOf_sublist is inside).subset), allOf]
      exact orderly.clear_holdings (List.subset_append_left _ _) (List.subset_append_right _ _)

end

end Instance

end LiveTemplates
