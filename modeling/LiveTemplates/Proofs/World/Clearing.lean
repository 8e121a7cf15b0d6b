/-
# LiveTemplates.Proofs.World.Clearing -- taking back what somebody holds, in one step

What is to be taken back can be said in advance: the numbers of refreshes, listeners, nodes on
their hosts, and the entries of attached instances.  To clear a world of all of it is a change of
each registry by itself, so nothing else changes, and neither order nor repetitions matter.

* `Holdings`, `World.clear`: what is to be taken back, and the world without it;
* `World.clear_clear`, `World.clear_congr`: clearing twice is clearing of both, and only what is
  among the holdings matters;
* `World.holdings`: what some instances hold, as long as they are attached;
* `World.forget_eq`, `World.removeRefresh_eq`, `World.remove_eq`: single steps in these terms;
* `World.clear_woven`: what is registered is cleared thread by thread.
-/
import LiveTemplates.Proofs.Ownership.Shares
import LiveTemplates.Proofs.World.Threads

namespace LiveTemplates

set_option autoImplicit false

variable {σ : Type}

/-! ## Nodes -/

namespace Forest

/-- Is a node among those that are taken off a host that they are children of? -/
def takesOff (f : Forest) (pairs : List (NodeId × NodeId)) (n : NodeId) : Prop :=
  ∃ p ∈ pairs, p.2 = n ∧ n ∈ f.children p.1

instance (f : Forest) (pairs : List (NodeId × NodeId)) (n : NodeId) :
    Decidable (f.takesOff pairs n) :=
  inferInstanceAs (Decidable (∃ p ∈ pairs, _))

/-- The forest in which some nodes are no longer children of their hosts, as far as they were. -/
def without (f : Forest) (pairs : List (NodeId × NodeId)) : Forest :=
  ⟨f.nodes.mapIdx fun n node => { node with
    parent := if f.takesOff pairs n then none else node.parent
    children := node.children.filter fun c => (n, c) ∉ pairs }⟩

variable (f : Forest) {pairs others : List (NodeId × NodeId)}

theorem children_without (n : NodeId) :
    (f.without pairs).children n = (f.children n).filter fun c => (n, c) ∉ pairs := by
  rw [children, children, without, Array.getElem?_mapIdx]
  cases f.nodes[n]? <;> rfl

theorem without_congr (same : ∀ p, p ∈ pairs ↔ p ∈ others) : f.without pairs = f.without others := by
  have taken (n : NodeId) : f.takesOff pairs n ↔ f.takesOff others n :=
    exists_congr fun p => and_congr_left fun _ => same p
  simp only [without, taken, same]

theorem without_nil : f.without [] = f := by
  have taken (n : NodeId) : ¬ f.takesOff [] n := nofun
  simp [without, taken, mapIdx_self]

theorem without_without (pairs others : List (NodeId × NodeId)) :
    (f.without pairs).without others = f.without (pairs ++ others) := by
  -- a node that is taken off by the second is taken off by both, unless it was off already
  have taken (n : NodeId) : f.takesOff (pairs ++ others) n ↔
      f.takesOff pairs n ∨ (f.without pairs).takesOff others n := by
    constructor
    · rintro ⟨p, listed, rfl, child⟩
      rcases List.mem_append.1 listed with first | second
      · exact .inl ⟨p, first, rfl, child⟩
      · by_cases also : p ∈ pairs
        · exact .inl ⟨p, also, rfl, child⟩
        · refine .inr ⟨p, second, rfl, ?_⟩
          rw [children_without]
          exact List.mem_filter.2 ⟨child, decide_eq_true also⟩
    · rintro (⟨p, listed, rfl, child⟩ | ⟨p, listed, rfl, child⟩)
      · exact ⟨p, List.mem_append_left _ listed, rfl, child⟩
      · rw [children_without] at child
        exact ⟨p, List.mem_append_right _ listed, rfl, List.mem_of_mem_filter child⟩
  refine congrArg Forest.mk (Array.ext_getElem? fun n => ?_)
  simp only [without, Array.getElem?_mapIdx, Option.map_map]
  refine congrArg (Option.map · f.nodes[n]?) (funext fun node => ?_)
  have parent : (if (f.without pairs).takesOff others n then none
      else if f.takesOff pairs n then none else node.parent) =
        if f.takesOff (pairs ++ others) n then none else node.parent := by
    by_cases first : f.takesOff pairs n <;> by_cases second : (f.without pairs).takesOff others n <;>
      simp [taken, first, second]
  have children : (node.children.filter fun c => (n, c) ∉ pairs).filter (fun c => (n, c) ∉ others) =
      node.children.filter fun c => (n, c) ∉ pairs ++ others := by
    rw [List.filter_filter]
    refine List.filter_congr fun c _ => ?_
    simp [Bool.and_comm]
  exact congrArg₂ (fun parent children => { node with parent := parent, children := children })
    parent children

/-- Taking a node off a host. -/
theorem remove_eq (host n : NodeId) : (f.remove host n).2 = f.without [(host, n)] := by
  have taken (m : NodeId) : f.takesOff [(host, n)] m ↔ n = m ∧ m ∈ f.children host := by
    simp [takesOff]
  have kept (k c : NodeId) : (k, c) ∉ [(host, n)] ↔ ¬ (host = k ∧ n = c) := by
    simp [eq_comm]
  rw [remove]
  split
  case isTrue child =>
    refine congrArg Forest.mk (Array.ext_getElem? fun m => ?_)
    simp only [unlist, modify, Array.getElem?_modify, Array.getElem?_mapIdx, taken, kept]
    cases f.nodes[m]? with
    | none => split <;> split <;> rfl
    | some node =>
        by_cases same : n = m <;> by_cases here : host = m <;> simp_all [eq_comm]
  case isFalse off =>
    refine congrArg Forest.mk (Array.ext_getElem? fun m => ?_)
    simp only [Array.getElem?_mapIdx, taken, kept]
    cases found : f.nodes[m]? with
    | none => rfl
    | some node =>
        have parent : ¬ (n = m ∧ m ∈ f.children host) := by
          rintro ⟨rfl, child⟩
          exact off child
        have children : (node.children.filter fun c => ¬ (host = m ∧ n = c)) = node.children := by
          refine List.filter_eq_self.2 fun c child => decide_eq_true ?_
          rintro ⟨rfl, rfl⟩
          exact off (by simpa [Forest.children, found] using child)
        rw [Option.map_some, if_neg parent, children]

end Forest

/-! ## Listeners -/

/-- A handler as it was before any zone had wrapped it. -/
def Handler.base : Handler → Handler
  | .named name => .named name
  | .bound n event action object => .bound n event action object
  | .wrapped _ _ inner => inner.base

/-- A listener with a handler that no zone has wrapped. -/
def Listener.base (l : Listener) : Listener :=
  { l with handler := l.handler.base }

theorem Listener.base_of_unwrapped {l : Listener} (unwrapped : l.handler.wrapper? = none) :
    l.base = l := by
  obtain ⟨node, event, handler⟩ := l
  cases handler with
  | named | bound => rfl
  | wrapped => cases unwrapped

/-! ## Clearing -/

/-- What is to be taken back. -/
structure Holdings where
  /-- The numbers of instances that are no longer to be attached. -/
  serials : List Nat := []
  /-- The numbers of refreshes, each with that of the zone. -/
  ticks : List (Nat × Nat) := []
  listeners : List Listener := []
  /-- Nodes, each behind its host. -/
  mounted : List (NodeId × NodeId) := []

namespace Holdings

/-- All of some holdings and of others. -/
def append (h k : Holdings) : Holdings where
  serials := h.serials ++ k.serials
  ticks := h.ticks ++ k.ticks
  listeners := h.listeners ++ k.listeners
  mounted := h.mounted ++ k.mounted

/-- Is this one of the listeners, however often it is wrapped? -/
def concerns (h : Holdings) (l : Listener) : Bool :=
  h.listeners.any (l.base.same ·)

/-- What is left of the listeners of a dispatcher. -/
def leave (h : Holdings) (ls : List Listener) : List Listener :=
  ls.filter fun l => !h.concerns l

/-- What is left in the registries of the zone of a number. -/
def leaveIn (h : Holdings) (z : Nat) (s : ZoneState) : ZoneState :=
  { s with
    refreshes := s.refreshes.filter fun r => !h.ticks.contains (z, r.1)
    wrappers := s.wrappers.filter fun r => !h.concerns r.inner }

/-- The same is to be taken back. -/
structure Alike (h k : Holdings) : Prop where
  serials : ∀ n, n ∈ h.serials ↔ n ∈ k.serials
  ticks : ∀ t, t ∈ h.ticks ↔ t ∈ k.ticks
  listeners : ∀ l, l ∈ h.listeners ↔ l ∈ k.listeners
  mounted : ∀ p, p ∈ h.mounted ↔ p ∈ k.mounted

variable {h k : Holdings}

theorem concerns_append (l : Listener) :
    (h.append k).concerns l = (h.concerns l || k.concerns l) :=
  List.any_append

theorem leave_leave (ls : List Listener) : k.leave (h.leave ls) = (h.append k).leave ls := by
  rw [leave, leave, List.filter_filter]
  exact List.filter_congr fun l _ => by simp [concerns_append, Bool.and_comm]

theorem leaveIn_leaveIn (z : Nat) (s : ZoneState) :
    k.leaveIn z (h.leaveIn z s) = (h.append k).leaveIn z s := by
  have refreshes : (s.refreshes.filter fun r => !h.ticks.contains (z, r.1)).filter
      (fun r => !k.ticks.contains (z, r.1)) =
      s.refreshes.filter fun r => !(h.ticks ++ k.ticks).contains (z, r.1) := by
    rw [List.filter_filter]
    exact List.filter_congr fun r _ => by simp [Bool.and_comm]
  have wrappers : (s.wrappers.filter fun r => !h.concerns r.inner).filter
      (fun r => !k.concerns r.inner) = s.wrappers.filter fun r => !(h.append k).concerns r.inner := by
    rw [List.filter_filter]
    exact List.filter_congr fun r _ => by simp [concerns_append, Bool.and_comm]
  exact congrArg₂ (fun refreshes wrappers => { s with refreshes := refreshes, wrappers := wrappers })
    refreshes wrappers

theorem leave_of_none (none : h.listeners = []) (ls : List Listener) : h.leave ls = ls :=
  List.filter_eq_self.2 fun l _ => by simp [concerns, none]

theorem leaveIn_of_none (ticks : h.ticks = []) (listeners : h.listeners = []) (z : Nat)
    (s : ZoneState) : h.leaveIn z s = s := by
  simp [leaveIn, concerns, ticks, listeners]

namespace Alike

variable (alike : h.Alike k)

include alike

theorem concerns (l : Listener) : h.concerns l = k.concerns l := by
  rw [Bool.eq_iff_iff]
  simp only [Holdings.concerns, List.any_eq_true, alike.listeners]

theorem leave (ls : List Listener) : h.leave ls = k.leave ls :=
  List.filter_congr fun l _ => by rw [alike.concerns]

theorem leaveIn (z : Nat) (s : ZoneState) : h.leaveIn z s = k.leaveIn z s := by
  have ticks (t : Nat × Nat) : h.ticks.contains t = k.ticks.contains t :=
    Bool.eq_iff_iff.2 (by simp only [List.contains_iff_mem, alike.ticks])
  simp only [Holdings.leaveIn, alike.concerns, ticks]

end Alike

end Holdings

namespace World

/-- The world in which some holdings are taken back. -/
def clear (w : World σ) (h : Holdings) : World σ :=
  { w.rewire (fun _ => h.leave) h.leaveIn with
    forest := w.forest.without h.mounted
    attached := w.attached.filter fun a => a.1 ∉ h.serials }

theorem clear_clear (w : World σ) (h k : Holdings) : (w.clear h).clear k = w.clear (h.append k) := by
  have registries : (w.rewire (fun _ => h.leave) h.leaveIn).rewire (fun _ => k.leave) k.leaveIn =
      w.rewire (fun _ => (h.append k).leave) (h.append k).leaveIn := by
    rw [rewire_rewire]
    exact rewire_congr (fun d ls _ => Holdings.leave_leave ls) fun z s _ =>
      Holdings.leaveIn_leaveIn z s
  have attached : (w.attached.filter fun a => a.1 ∉ h.serials).filter (fun a => a.1 ∉ k.serials) =
      w.attached.filter fun a => a.1 ∉ h.serials ++ k.serials := by
    rw [List.filter_filter]
    exact List.filter_congr fun a _ => by simp [Bool.and_comm]
  have both : (w.clear h).clear k =
      { (w.rewire (fun _ => h.leave) h.leaveIn).rewire (fun _ => k.leave) k.leaveIn with
        forest := (w.forest.without h.mounted).without k.mounted
        attached := (w.attached.filter fun a => a.1 ∉ h.serials).filter
          fun a => a.1 ∉ k.serials } := rfl
  rw [both, registries, Forest.without_without, attached]
  rfl

/-- Only what is among the holdings matters. -/
theorem clear_congr (w : World σ) {h k : Holdings} (alike : h.Alike k) : w.clear h = w.clear k := by
  have registries : w.rewire (fun _ => h.leave) h.leaveIn = w.rewire (fun _ => k.leave) k.leaveIn :=
    rewire_congr (fun d ls _ => alike.leave ls) fun z s _ => alike.leaveIn z s
  rw [clear, clear, registries, w.forest.without_congr alike.mounted]
  simp only [alike.serials]

/-- If nothing is to be taken out of registries, these stay. -/
theorem clear_unregistered (w : World σ) {h : Holdings} (ticks : h.ticks = [])
    (listeners : h.listeners = []) : w.clear h = { w with
      forest := w.forest.without h.mounted
      attached := w.attached.filter fun a => a.1 ∉ h.serials } := by
  have registries : w.rewire (fun _ => h.leave) h.leaveIn = w := by
    refine (rewire_congr (fun d ls _ => ?_) fun z s _ => ?_).trans w.rewire_self
    · exact Holdings.leave_of_none listeners ls
    · exact Holdings.leaveIn_of_none ticks listeners z s
  rw [clear, registries]

theorem clear_nothing (w : World σ) : w.clear {} = w := by
  rw [clear_unregistered w rfl rfl, Forest.without_nil]
  simp

/-! ## Single steps -/

theorem forget_eq (w : World σ) (serial : Nat) : w.forget serial = w.clear { serials := [serial] } := by
  have attached : (w.attached.filter fun a => a.1 ∉ [serial]) =
      w.attached.filter (·.1 != serial) :=
    List.filter_congr fun a _ => by simp [bne, Bool.beq_eq_decide_eq]
  rw [clear_unregistered w rfl rfl, Forest.without_nil, attached]
  rfl

theorem remove_eq (w : World σ) (host n : NodeId) :
    ({ w with forest := (w.forest.remove host n).2 } : World σ) =
      w.clear { mounted := [(host, n)] } := by
  rw [clear_unregistered w rfl rfl, Forest.remove_eq]
  simp

theorem removeRefresh_eq (w : World σ) (z : Zone) (tick : Nat) :
    (w.removeRefresh z tick).2 = w.clear { ticks := [(z.id, tick)] } := by
  have registries : w.rewire (fun _ => Holdings.leave { ticks := [(z.id, tick)] })
      (Holdings.leaveIn { ticks := [(z.id, tick)] }) =
        w.onZone z fun s => { s with refreshes := s.refreshes.filter (·.1 != tick) } := by
    rw [onZone_eq]
    refine rewire_congr (fun d ls _ => Holdings.leave_of_none rfl ls) fun y s _ => ?_
    split
    case isTrue here =>
      subst here
      simp [Holdings.leaveIn, Holdings.concerns, bne, Bool.beq_eq_decide_eq]
    case isFalse other =>
      have away (n : Nat) : (y, n) ≠ (z.id, tick) := fun same => other (Prod.mk.inj same).1.symm
      simp [Holdings.leaveIn, Holdings.concerns, away]
  rw [clear, registries, Forest.without_nil]
  simp [removeRefresh, onZone]

theorem foldl_removeRefresh_eq (z : Zone) (ticks : List Nat) (w : World σ) :
    ticks.foldl (fun w tick => (w.removeRefresh z tick).2) w =
      w.clear { ticks := ticks.map (z.id, ·) } := by
  induction ticks generalizing w with
  | nil => exact w.clear_nothing.symm
  | cons tick rest ih =>
      rw [List.foldl_cons, ih, removeRefresh_eq, clear_clear]
      rfl

theorem foldl_remove_eq (host : NodeId) (ns : List NodeId) (w : World σ) :
    ns.foldl (fun w n => { w with forest := (w.forest.remove host n).2 }) w =
      w.clear { mounted := ns.map (host, ·) } := by
  induction ns generalizing w with
  | nil => exact w.clear_nothing.symm
  | cons n rest ih =>
      rw [List.foldl_cons, ih, remove_eq, clear_clear]
      rfl

end World

/-! ## Threads -/

namespace Target

mutual

/-- However often it is wrapped, it is the same listener. -/
theorem lists_base {d : Nat} {e : Listener} : ∀ (t : Target) (l : Listener) (n : Nat),
    e ∈ t.lists d l n → e.base = l.base
  | .dispatcher c, l, n, member => by
      rw [lists] at member
      split at member
      case isTrue => rw [List.mem_singleton.1 member]
      case isFalse => cases member
  | .zone z, l, n, member => zoneLists_base z l n member

theorem zoneLists_base {d : Nat} {e : Listener} : ∀ (z : Zone) (l : Listener) (n : Nat),
    e ∈ zoneLists d z l n → e.base = l.base
  | .mk id behind, l, n, member => lists_base behind (l.wrap n (.mk id behind)) (n + 1) member

end

mutual

theorem keeps_base {y : Nat} {r : Wrapper} : ∀ (t : Target) (l : Listener) (n : Nat),
    r ∈ t.keeps y l n → r.inner.base = l.base
  | .dispatcher _, _, _, member => by cases member
  | .zone z, l, n, member => zoneKeeps_base z l n member

theorem zoneKeeps_base {y : Nat} {r : Wrapper} : ∀ (z : Zone) (l : Listener) (n : Nat),
    r ∈ zoneKeeps y z l n → r.inner.base = l.base
  | .mk id behind, l, n, member => by
      rw [zoneKeeps] at member
      rcases List.mem_append.1 member with own | passed
      · split at own
        case isTrue => rw [List.mem_singleton.1 own]
        case isFalse => cases own
      · exact keeps_base behind (l.wrap n (.mk id behind)) (n + 1) passed

end

end Target

/-- What is collected of some is left where it is told by where it is from. -/
theorem filter_flatMap_of_iff {α β : Type} {g : α → List β} {p : α → Bool} {q : β → Bool}
    (told : ∀ a, ∀ b ∈ g a, q b = p a) (as : List α) :
    (as.flatMap g).filter q = (as.filter p).flatMap g := by
  induction as with
  | nil => rfl
  | cons a rest ih =>
      rw [List.flatMap_cons, List.filter_append, ih, List.filter_cons]
      split
      case isTrue stays =>
        rw [List.filter_eq_self.2 fun b member => (told a b member).trans stays, List.flatMap_cons]
      case isFalse goes =>
        rw [List.filter_eq_nil_iff.2 fun b member => by rwa [told a b member], List.nil_append]

namespace World

/-- Clearing takes whole threads. -/
theorem clear_woven (w : World σ) (ts : List Thread) (h : Holdings) :
    (w.woven ts).clear h = (w.clear h).woven (ts.filter fun t => !h.concerns t.listener) := by
  have registries : (w.rewire (fun d _ => ts.flatMap (·.lists d)) fun z s =>
      { s with wrappers := ts.flatMap (·.keeps z) }).rewire (fun _ => h.leave) h.leaveIn =
      (w.rewire (fun _ => h.leave) h.leaveIn).rewire
        (fun d _ => (ts.filter fun t => !h.concerns t.listener).flatMap (·.lists d)) fun z s =>
          { s with wrappers := (ts.filter fun t => !h.concerns t.listener).flatMap (·.keeps z) } := by
    rw [rewire_rewire, rewire_rewire]
    refine rewire_congr (fun d ls _ => ?_) fun z s _ => ?_
    · refine filter_flatMap_of_iff (fun t e member => ?_) ts
      rw [Holdings.concerns, Target.lists_base _ _ _ member]
      rfl
    · refine congrArg (fun wrappers => { h.leaveIn z s with wrappers := wrappers }) ?_
      refine filter_flatMap_of_iff (fun t r member => ?_) ts
      rw [Holdings.concerns, Target.keeps_base _ _ _ member]
      rfl
  have both : (w.woven ts).clear h =
      { (w.rewire (fun d _ => ts.flatMap (·.lists d)) fun z s =>
          { s with wrappers := ts.flatMap (·.keeps z) }).rewire (fun _ => h.leave) h.leaveIn with
        forest := w.forest.without h.mounted
        attached := w.attached.filter fun a => a.1 ∉ h.serials } := rfl
  rw [both, registries]
  rfl

theorem size_clear (w : World σ) (h : Holdings) : (w.clear h).zones.size = w.zones.size :=
  Array.size_mapIdx

theorem lookup_filter {α : Type} (p : Nat → Bool) (n : Nat) (as : List (Nat × α)) :
    (as.filter fun a => p a.1).lookup n = if p n then as.lookup n else none := by
  induction as with
  | nil => split <;> rfl
  | cons a rest ih =>
      obtain ⟨k, a⟩ := a
      rw [List.filter_cons]
      by_cases same : n = k
      · subst same
        cases kept : p n <;> simp [ih, kept]
      · have other : (n == k) = false := by simpa using same
        cases p k <;> simp [List.lookup_cons, ih, other]

theorem registrations?_clear (w : World σ) (h : Holdings) (n : Nat) :
    (w.clear h).registrations? n = if n ∈ h.serials then none else w.registrations? n := by
  rw [registrations?, clear, lookup_filter (fun n => decide (n ∉ h.serials))]
  by_cases listed : n ∈ h.serials <;> simp [listed, registrations?]

/-! ## What instances hold -/

/-- What an instance has registered and mounted, as long as it is attached. -/
def recorded (w : World σ) (i : Instance) : Registrations :=
  (w.registrations? i.serial).getD {}

/-- What some instances have recorded. -/
def collected {α : Type} (w : World σ) (f : Instance → Registrations → List α)
    (is : List Instance) : List α :=
  is.flatMap fun i => f i (w.recorded i)

/-- The numbers of the refreshes of some instances, each with that of the zone. -/
def ticksOf (w : World σ) (is : List Instance) : List (Nat × Nat) :=
  w.collected (fun i r => r.ticks.map (i.zone.id, ·)) is

/-- The listeners of some instances, each with the zone. -/
def listenersOf (w : World σ) (is : List Instance) : List (Zone × Listener) :=
  w.collected (fun i r => r.listeners.map (i.zone, ·)) is

/-- The nodes that some instances have mounted, each with the host. -/
def mountedOf (w : World σ) (is : List Instance) : List (NodeId × NodeId) :=
  w.collected (fun i r => r.mounted.map (i.host, ·)) is

/-- What some instances hold that are still attached. -/
def holdings (w : World σ) (is : List Instance) : Holdings where
  serials := is.map (·.serial)
  ticks := w.ticksOf is
  listeners := (w.listenersOf is).map (·.2)
  mounted := w.mountedOf is

section Collecting

variable {α : Type} {w : World σ} {f : Instance → Registrations → List α} {is js : List Instance}

theorem mem_collected {a : α} : a ∈ w.collected f is ↔ ∃ i ∈ is, a ∈ f i (w.recorded i) :=
  List.mem_flatMap

theorem collected_append : w.collected f (is ++ js) = w.collected f is ++ w.collected f js :=
  List.flatMap_append

theorem collected_subset (sub : is ⊆ js) : w.collected f is ⊆ w.collected f js := by
  intro a member
  obtain ⟨i, inside, here⟩ := mem_collected.1 member
  exact mem_collected.2 ⟨i, sub inside, here⟩

/-- Only registrations matter. -/
theorem collected_congr {v : World σ}
    (same : ∀ i ∈ is, v.registrations? i.serial = w.registrations? i.serial) :
    v.collected f is = w.collected f is :=
  List.flatMap_congr fun i member => by rw [recorded, recorded, same i member]

variable (none : ∀ i, f i {} = [])

include none

theorem mem_collected_clear {h : Holdings} {a : α} : a ∈ (w.clear h).collected f is ↔
    ∃ i ∈ is, i.serial ∉ h.serials ∧ a ∈ f i (w.recorded i) := by
  refine mem_collected.trans (exists_congr fun i => and_congr_right fun _ => ?_)
  rw [recorded, registrations?_clear]
  split
  case isTrue listed => simp [none, listed]
  case isFalse away => simp [recorded, away]

theorem collected_clear_sublist (h : Holdings) :
    ((w.clear h).collected f is).Sublist (w.collected f is) := by
  refine List.Sublist.flatMap_right is fun i _ => ?_
  rw [recorded, registrations?_clear]
  split
  case isTrue =>
    rw [Option.getD_none, none]
    exact List.nil_sublist _
  case isFalse => exact List.Sublist.refl _

theorem collected_unattached (gone : ∀ i ∈ is, w.registrations? i.serial = .none) :
    w.collected f is = [] := by
  refine List.flatMap_eq_nil_iff.2 fun i member => ?_
  rw [recorded, gone i member]
  exact none i

end Collecting

end World

end LiveTemplates
