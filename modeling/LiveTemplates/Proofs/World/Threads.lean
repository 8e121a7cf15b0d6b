/-
# LiveTemplates.Proofs.World.Threads -- what is registered, thread by thread

A listener that is registered with a target runs through all zones there, wrapped once more by
each of them, to the dispatcher behind.  So what zones remember and what dispatchers list are the
traces of threads, in the order in which these were registered (`World.woven`).

* `Thread`: a listener with its target and the number of its first wrapper; `Thread.keeps`,
  `Thread.lists`: its traces;
* `World.addListener_woven`: registering a listener adds a thread;
* `World.removeListener_woven`: taking back what stands alone takes its thread;
* `World.removeWrapped_zone`, `World.removeListener_dispatcher`: taking back a listener that no
  zone has wrapped takes all its threads that start at the zone, or the first at the dispatcher.
-/
import LiveTemplates.Proofs.World.Lockstep

namespace LiveTemplates

set_option autoImplicit false

variable {σ : Type}

/-! ## Changes of all registries -/

theorem mapIdx_self {α : Type} (as : Array α) : as.mapIdx (fun _ a => a) = as := by
  apply Array.ext_getElem?
  intro i
  rw [Array.getElem?_mapIdx, Option.map_id']

theorem modify_eq_mapIdx {α : Type} (as : Array α) (i : Nat) (f : α → α) :
    as.modify i f = as.mapIdx fun j a => if i = j then f a else a := by
  apply Array.ext_getElem?
  intro j
  rw [Array.getElem?_modify, Array.getElem?_mapIdx]
  split
  · rfl
  · exact Option.map_id'.symm

namespace World

/-- Changes what dispatchers list and what zones have in their registries, each by itself. -/
def rewire (w : World σ) (f : Nat → List Listener → List Listener)
    (g : Nat → ZoneState → ZoneState) : World σ :=
  { w with dispatchers := w.dispatchers.mapIdx f, zones := w.zones.mapIdx g }

theorem rewire_self (w : World σ) : w.rewire (fun _ ls => ls) (fun _ s => s) = w := by
  rw [rewire, mapIdx_self, mapIdx_self]

theorem rewire_rewire (w : World σ) (f f' : Nat → List Listener → List Listener)
    (g g' : Nat → ZoneState → ZoneState) :
    (w.rewire f g).rewire f' g' = w.rewire (fun d ls => f' d (f d ls)) fun z s => g' z (g z s) := by
  simp only [rewire, Array.mapIdx_mapIdx]
  rfl

theorem rewire_congr {w : World σ} {f f' : Nat → List Listener → List Listener}
    {g g' : Nat → ZoneState → ZoneState}
    (lists : ∀ d ls, w.dispatchers[d]? = some ls → f d ls = f' d ls)
    (zones : ∀ z s, w.zones[z]? = some s → g z s = g' z s) : w.rewire f g = w.rewire f' g' := by
  have first : w.dispatchers.mapIdx f = w.dispatchers.mapIdx f' :=
    Array.mapIdx_eq_mapIdx_iff.2 fun d less => lists d _ (Array.getElem?_eq_getElem less)
  have second : w.zones.mapIdx g = w.zones.mapIdx g' :=
    Array.mapIdx_eq_mapIdx_iff.2 fun z less => zones z _ (Array.getElem?_eq_getElem less)
  rw [rewire, rewire, first, second]

theorem onListeners_eq (w : World σ) (d : Nat) (f : List Listener → List Listener) :
    w.onListeners d f = w.rewire (fun e ls => if d = e then f ls else ls) fun _ s => s := by
  rw [rewire, mapIdx_self, onListeners, modify_eq_mapIdx]

theorem onZone_eq (w : World σ) (z : Zone) (f : ZoneState → ZoneState) :
    w.onZone z f = w.rewire (fun _ ls => ls) fun y s => if z.id = y then f s else s := by
  rw [rewire, mapIdx_self, onZone, modify_eq_mapIdx]

end World

/-! ## Threads -/

/-- A listener as a zone passes it on under a number. -/
def Listener.wrap (l : Listener) (n : Nat) (z : Zone) : Listener :=
  { l with handler := .wrapped n z l.handler }

namespace Target

mutual

/-- What a dispatcher lists of a listener that is registered with a target, the first wrapper
under a number and each further one under the next. -/
def lists (d : Nat) : Target → Listener → Nat → List Listener
  | .dispatcher e, l, _ => if e = d then [l] else []
  | .zone z, l, n => zoneLists d z l n

def zoneLists (d : Nat) : Zone → Listener → Nat → List Listener
  | .mk id behind, l, n => lists d behind (l.wrap n (.mk id behind)) (n + 1)

end

mutual

/-- What a zone keeps of it. -/
def keeps (y : Nat) : Target → Listener → Nat → List Wrapper
  | .dispatcher _, _, _ => []
  | .zone z, l, n => zoneKeeps y z l n

def zoneKeeps (y : Nat) : Zone → Listener → Nat → List Wrapper
  | .mk id behind, l, n =>
    (if id = y then [⟨l, .wrapped n (.mk id behind) l.handler⟩] else []) ++
      keeps y behind (l.wrap n (.mk id behind)) (n + 1)

end

mutual

/-- The number of zones of a target. -/
def depth : Target → Nat
  | .dispatcher _ => 0
  | .zone z => zoneDepth z

def zoneDepth : Zone → Nat
  | .mk _ behind => behind.depth + 1

end

mutual

/-- The zones of a target are older than some number, each older than the one in front. -/
def Inside (n : Nat) : Target → Prop
  | .dispatcher _ => True
  | .zone z => ZoneInside n z

def ZoneInside (n : Nat) : Zone → Prop
  | .mk id behind => id < n ∧ Inside id behind

end

mutual

/-- The dispatcher behind all zones of a target. -/
def root : Target → Nat
  | .dispatcher d => d
  | .zone z => zoneRoot z

def zoneRoot : Zone → Nat
  | .mk _ behind => behind.root

end

end Target

/-- A listener that is registered with a target, and the number of its first wrapper. -/
structure Thread where
  target : Target
  listener : Listener
  first : Nat

namespace Thread

/-- What a dispatcher lists of it. -/
def lists (t : Thread) (d : Nat) : List Listener :=
  t.target.lists d t.listener t.first

/-- What a zone keeps of it. -/
def keeps (t : Thread) (z : Nat) : List Wrapper :=
  t.target.keeps z t.listener t.first

/-- The numbers of its wrappers. -/
def span (t : Thread) : List Nat :=
  List.range' t.first t.target.depth

/-- The numbers of all wrappers that are in it. -/
def tags (t : Thread) : List Nat :=
  t.listener.handler.wrapper?.toList ++ t.span

end Thread

namespace World

/-- The world in which some threads are all that is registered with dispatchers and zones. -/
def woven (w : World σ) (ts : List Thread) : World σ :=
  w.rewire (fun d _ => ts.flatMap (·.lists d)) fun z s => { s with wrappers := ts.flatMap (·.keeps z) }

/-! ## Registering -/

/-- The world in which one more thread is registered. -/
def lay (w : World σ) (t : Thread) : World σ :=
  w.rewire (fun d ls => ls ++ t.lists d) fun z s => { s with wrappers := s.wrappers ++ t.keeps z }

theorem lay_dispatcher (w : World σ) (d : Nat) (l : Listener) (n : Nat) :
    w.lay ⟨.dispatcher d, l, n⟩ = w.onListeners d (· ++ [l]) := by
  rw [lay, onListeners_eq]
  refine rewire_congr (fun e ls _ => ?_) fun z s _ => ?_
  · rw [Thread.lists, Target.lists]
    split <;> simp
  · simp [Thread.keeps, Target.keeps]

theorem lay_zone (w : World σ) (id : Nat) (behind : Target) (l : Listener) (n : Nat) :
    w.lay ⟨.zone (.mk id behind), l, n⟩ =
      (w.onZone (.mk id behind) fun s => { s with wrappers := s.wrappers ++
        [⟨l, .wrapped n (.mk id behind) l.handler⟩] }).lay
          ⟨behind, l.wrap n (.mk id behind), n + 1⟩ := by
  rw [lay, lay, onZone_eq, rewire_rewire]
  refine rewire_congr (fun d ls _ => rfl) fun z s _ => ?_
  by_cases here : id = z <;> simp [Thread.keeps, Target.keeps, Target.zoneKeeps, Zone.id, here]

mutual

/-- Registering a listener adds its thread. -/
theorem addListener_eq : ∀ (t : Target) (l : Listener) (w : World σ),
    addListener t l w = { w.lay ⟨t, l, w.serial⟩ with serial := w.serial + t.depth }
  | .dispatcher d, l, w => by
      rw [addListener, lay_dispatcher]
      rfl
  | .zone z, l, w => addWrapped_eq z l w

theorem addWrapped_eq : ∀ (z : Zone) (l : Listener) (w : World σ),
    addWrapped z l w =
      { w.lay ⟨.zone z, l, w.serial⟩ with serial := w.serial + (Target.zone z).depth }
  | .mk id behind, l, w => by
      have depth : w.serial + (Target.zone (.mk id behind)).depth = w.serial + 1 + behind.depth := by
        rw [Target.depth, Target.zoneDepth]
        omega
      rw [addWrapped, addListener_eq behind, lay_zone, depth]
      rfl

end

theorem lay_woven (w : World σ) (ts : List Thread) (t : Thread) :
    (w.woven ts).lay t = w.woven (ts ++ [t]) := by
  rw [lay, woven, rewire_rewire]
  exact rewire_congr (fun d ls _ => by simp) fun z s _ => by simp

theorem addListener_woven (w : World σ) (ts : List Thread) (t : Target) (l : Listener) :
    addListener t l (w.woven ts) =
      ({ w with serial := w.serial + t.depth } : World σ).woven (ts ++ [⟨t, l, w.serial⟩]) := by
  rw [addListener_eq, ← lay_woven]
  rfl

end World

/-! ## Where wrappers are met -/

namespace Target

mutual

/-- What a dispatcher lists is the listener itself, if it stands at the start, or a wrapper. -/
theorem lists_cases {d : Nat} {e : Listener} : ∀ (t : Target) (l : Listener) (n : Nat),
    e ∈ t.lists d l n → t = .dispatcher d ∧ e = l ∨
      ∃ k ∈ List.range' n t.depth, e.handler.wrapper? = some k
  | .dispatcher c, l, n, member => by
      rw [lists] at member
      split at member
      case isTrue same => exact .inl ⟨by rw [same], List.mem_singleton.1 member⟩
      case isFalse => cases member
  | .zone z, l, n, member => .inr (zoneLists_cases z l n member)

theorem zoneLists_cases {d : Nat} {e : Listener} : ∀ (z : Zone) (l : Listener) (n : Nat),
    e ∈ zoneLists d z l n → ∃ k ∈ List.range' n (zoneDepth z), e.handler.wrapper? = some k
  | .mk id behind, l, n, member => by
      rw [zoneDepth, List.range'_succ]
      rcases lists_cases behind _ _ member with ⟨-, rfl⟩ | ⟨k, inside, same⟩
      · exact ⟨n, List.mem_cons_self, rfl⟩
      · exact ⟨k, List.mem_cons_of_mem _ inside, same⟩

end

mutual

/-- What a zone keeps is of the listener itself, if it stands at the start, or of a wrapper. -/
theorem keeps_cases {y : Nat} {r : Wrapper} : ∀ (t : Target) (l : Listener) (n : Nat),
    r ∈ t.keeps y l n → (∃ z, t = .zone z ∧ z.id = y ∧ r = ⟨l, .wrapped n z l.handler⟩) ∨
      ∃ k ∈ List.range' n t.depth, r.inner.handler.wrapper? = some k
  | .dispatcher _, l, n, member => by cases member
  | .zone z, l, n, member =>
      (zoneKeeps_cases z l n member).imp_left fun own => ⟨z, rfl, own⟩

theorem zoneKeeps_cases {y : Nat} {r : Wrapper} : ∀ (z : Zone) (l : Listener) (n : Nat),
    r ∈ zoneKeeps y z l n → z.id = y ∧ r = ⟨l, .wrapped n z l.handler⟩ ∨
      ∃ k ∈ List.range' n (zoneDepth z), r.inner.handler.wrapper? = some k
  | .mk id behind, l, n, member => by
      rw [zoneKeeps] at member
      rcases List.mem_append.1 member with own | passed
      · split at own
        case isTrue same => exact .inl ⟨same, List.mem_singleton.1 own⟩
        case isFalse => cases own
      · rw [zoneDepth, List.range'_succ]
        rcases keeps_cases behind _ _ passed with ⟨z, -, -, rfl⟩ | ⟨k, inside, same⟩
        · exact .inr ⟨n, List.mem_cons_self, rfl⟩
        · exact .inr ⟨k, List.mem_cons_of_mem _ inside, same⟩

end

theorem Inside.mono {m n : Nat} (more : m ≤ n) {t : Target} (inside : t.Inside m) :
    t.Inside n := by
  rcases t with e | ⟨id, behind⟩
  · exact inside
  · exact ⟨Nat.lt_of_lt_of_le inside.1 more, inside.2⟩

mutual

/-- Newer zones keep nothing. -/
theorem keeps_newer {m y : Nat} (newer : m ≤ y) : ∀ (t : Target) (l : Listener) (n : Nat),
    t.Inside m → t.keeps y l n = []
  | .dispatcher _, _, _, _ => rfl
  | .zone z, l, n, inside => zoneKeeps_newer newer z l n inside

theorem zoneKeeps_newer {m y : Nat} (newer : m ≤ y) : ∀ (z : Zone) (l : Listener) (n : Nat),
    ZoneInside m z → zoneKeeps y z l n = []
  | .mk id behind, l, n, ⟨older, inside⟩ => by
      rw [zoneKeeps, if_neg (Nat.ne_of_lt (Nat.lt_of_lt_of_le older newer)), List.nil_append]
      exact keeps_newer (Nat.le_of_lt (Nat.lt_of_lt_of_le older newer)) behind _ _ inside

end

mutual

/-- Other dispatchers than the one behind list nothing. -/
theorem lists_other {d : Nat} : ∀ (t : Target) (l : Listener) (n : Nat),
    d ≠ t.root → t.lists d l n = []
  | .dispatcher _, _, _, other => if_neg fun same => other same.symm
  | .zone z, l, n, other => zoneLists_other z l n other

theorem zoneLists_other {d : Nat} : ∀ (z : Zone) (l : Listener) (n : Nat),
    d ≠ zoneRoot z → zoneLists d z l n = []
  | .mk id behind, l, n, other => lists_other behind (l.wrap n (.mk id behind)) (n + 1) other

end

/-- The zone at the start keeps the listener itself. -/
theorem keeps_own {m : Nat} {z : Zone} (inside : (Target.zone z).Inside m) (l : Listener)
    (n : Nat) : (Target.zone z).keeps z.id l n = [⟨l, .wrapped n z l.handler⟩] := by
  obtain ⟨id, behind⟩ := z
  rw [keeps, zoneKeeps, Zone.id, if_pos rfl, keeps_newer (Nat.le_refl _) behind _ _ inside.2]
  rfl

end Target

namespace Thread

/-- The listeners of a thread that are registered with a target. -/
def stands (t : Thread) : Target → List Listener
  | .dispatcher d => t.lists d
  | .zone z => (t.keeps z.id).map (·.inner)

/-- Wrappers that are registered are among those of the thread. -/
theorem mem_tags {t : Thread} {place : Target} {e : Listener} (member : e ∈ t.stands place) {k : Nat}
    (wrapper : e.handler.wrapper? = some k) : k ∈ t.tags := by
  have cases : e = t.listener ∨ ∃ j ∈ t.span, e.handler.wrapper? = some j := by
    cases place with
    | dispatcher d => exact (Target.lists_cases _ _ _ member).imp_left And.right
    | zone z =>
        obtain ⟨r, kept, rfl⟩ := List.mem_map.1 member
        refine (Target.keeps_cases _ _ _ kept).imp_left ?_
        rintro ⟨z, -, -, rfl⟩
        rfl
  rcases cases with rfl | ⟨j, inside, same⟩
  · exact List.mem_append_left _ (by simp [wrapper])
  · obtain rfl : k = j := Option.some.inj (wrapper.symm.trans same)
    exact List.mem_append_right _ inside

/-- Nothing of a thread is taken for a listener that is registered with a target, nor for one of its
wrappers. -/
structure Apart (t : Thread) (target : Target) (l : Listener) (n : Nat) : Prop where
  unlike : ∀ e ∈ t.stands target, e.same l = false
  tags : ∀ k ∈ t.tags, k ∉ List.range' n target.depth

theorem Apart.behind {t : Thread} {z : Zone} {l : Listener} {n : Nat}
    (apart : t.Apart (.zone z) l n) : t.Apart z.behind (l.wrap n z) (n + 1) := by
  obtain ⟨id, behind⟩ := z
  have tags : ∀ k ∈ t.tags, k ≠ n ∧ k ∉ List.range' (n + 1) behind.depth := by
    intro k member
    have away := apart.tags k member
    rw [Target.depth, Target.zoneDepth, List.range'_succ, List.mem_cons, not_or] at away
    exact away
  refine ⟨fun e member => ?_, fun k member => (tags k member).2⟩
  rw [← Bool.not_eq_true]
  intro same
  exact (tags n (mem_tags member (Handler.wrapper?_of_same (Bool.and_eq_true_iff.1 same).2))).1 rfl

/-- Does it start at a zone, with this listener? -/
def startsAt (t : Thread) (z : Zone) (l : Listener) : Bool :=
  match t.target with
  | .dispatcher _ => false
  | .zone y => y.id == z.id && t.listener.same l

/-- Does it stand at a dispatcher, with this listener? -/
def standsAt (t : Thread) (d : Nat) (l : Listener) : Bool :=
  match t.target with
  | .dispatcher e => e == d && t.listener.same l
  | .zone _ => false

theorem standsAt_iff {t : Thread} {d : Nat} {l : Listener} : t.standsAt d l = true ↔
    t.target = .dispatcher d ∧ t.listener.same l = true := by
  rw [standsAt]
  cases t.target <;> simp

/-- A thread without its first wrapper. -/
def peel : Thread → Thread
  | ⟨.dispatcher d, l, n⟩ => ⟨.dispatcher d, l, n⟩
  | ⟨.zone z, l, n⟩ => ⟨z.behind, l.wrap n z, n + 1⟩

/-- If a zone takes back a listener, it takes it for what a thread starts with there, and for no
wrapper that runs through. -/
structure Plain (t : Thread) (z : Zone) (l : Listener) : Prop where
  inside : t.startsAt z l = true → ∃ m, t.target.Inside m
  alike : ∀ r ∈ t.keeps z.id, r.inner.same l = t.startsAt z l

section Peeling

variable {t : Thread} {z : Zone} {l : Listener}

theorem startsAt_iff : t.startsAt z l = true ↔
    ∃ y, t.target = .zone y ∧ y.id = z.id ∧ t.listener.same l = true := by
  rw [startsAt]
  cases t.target <;> simp

theorem listener_stands (starts : t.startsAt z l = true) : t.listener ∈ t.stands (.zone z) := by
  obtain ⟨⟨id, behind⟩, target, same, -⟩ := startsAt_iff.1 starts
  have here : id = z.id := same
  simp [stands, keeps, target, Target.keeps, Target.zoneKeeps, here]

theorem keeps_of_startsAt (inside : ∃ m, t.target.Inside m) (starts : t.startsAt z l = true) :
    ∃ y, t.target = .zone y ∧ y.id = z.id ∧
      t.keeps z.id = [⟨t.listener, .wrapped t.first y t.listener.handler⟩] := by
  obtain ⟨y, target, same, -⟩ := startsAt_iff.1 starts
  obtain ⟨m, inside⟩ := inside
  rw [target] at inside
  exact ⟨y, target, same, by rw [keeps, target, ← same, Target.keeps_own inside]⟩

theorem lists_peel (t : Thread) (d : Nat) : t.peel.lists d = t.lists d := by
  obtain ⟨_ | ⟨id, behind⟩, l, n⟩ := t <;> rfl

theorem keeps_peel_other {y : Nat} (starts : t.startsAt z l = true) (other : z.id ≠ y) :
    t.peel.keeps y = t.keeps y := by
  obtain ⟨x, target, same, -⟩ := startsAt_iff.1 starts
  obtain ⟨target', l', n⟩ := t
  obtain rfl : target' = .zone x := target
  obtain ⟨id, behind⟩ := x
  have away : id ≠ y := fun here => other (same.symm.trans here)
  simp [peel, keeps, Target.keeps, Target.zoneKeeps, away, Zone.behind]

theorem keeps_peel (inside : ∃ m, t.target.Inside m) (starts : t.startsAt z l = true) :
    t.peel.keeps z.id = [] := by
  obtain ⟨x, target, same, -⟩ := startsAt_iff.1 starts
  obtain ⟨m, inside⟩ := inside
  obtain ⟨target', l', n⟩ := t
  obtain rfl : target' = .zone x := target
  obtain ⟨id, behind⟩ := x
  rw [← same]
  exact Target.keeps_newer (Nat.le_refl _) behind _ _ inside.2

/-- What nothing of it is taken for does not start it. -/
theorem Apart.plain {n : Nat} (apart : t.Apart (.zone z) l n) :
    t.startsAt z l = false ∧ t.Plain z l := by
  have starts : t.startsAt z l = false := by
    rw [← Bool.not_eq_true]
    intro starts
    obtain ⟨_, -, -, same⟩ := startsAt_iff.1 starts
    rw [apart.unlike _ (listener_stands starts)] at same
    cases same
  refine ⟨starts, fun here => ?_, fun r kept => ?_⟩
  · rw [starts] at here
    cases here
  · rw [apart.unlike _ (List.mem_map_of_mem kept), starts]

end Peeling

end Thread

namespace World

/-! ## Taking back -/

theorem wrappers_woven {w : World σ} {z : Zone} (less : z.id < w.zones.size) (ts : List Thread) :
    ((w.woven ts).zone z).wrappers = ts.flatMap (·.keeps z.id) := by
  simp [zone, woven, rewire, less]

section Unwrapping

variable {w : World σ} {z : Zone} {l : Listener} {ts : List Thread}
  (plain : ∀ t ∈ ts, t.Plain z l)

include plain

/-- The wrappers that a zone takes back. -/
theorem matching_woven (less : z.id < w.zones.size) :
    ((w.woven ts).zone z).wrappers.filter (·.inner.same l) =
      (ts.filter (·.startsAt z l)).flatMap (·.keeps z.id) := by
  rw [wrappers_woven less]
  induction ts with
  | nil => rfl
  | cons t rest ih =>
      obtain ⟨own, others⟩ := List.forall_mem_cons.1 plain
      rw [List.flatMap_cons, List.filter_append, ih others, List.filter_cons]
      cases starts : t.startsAt z l with
      | true =>
          rw [if_pos rfl, List.flatMap_cons,
            List.filter_eq_self.2 fun r kept => (own.alike r kept).trans starts]
      | false =>
          rw [if_neg Bool.false_ne_true, List.filter_eq_nil_iff.2 fun r kept => by
            simp [own.alike r kept, starts], List.nil_append]

/-- Without them, the threads that they start stand at the target behind. -/
theorem unwrap_woven : (w.woven ts).onZone z (fun s =>
    { s with wrappers := s.wrappers.filter fun r => !r.inner.same l }) =
      w.woven (ts.map fun t => if t.startsAt z l then t.peel else t) := by
  rw [onZone_eq, woven, rewire_rewire]
  refine rewire_congr (fun d ls _ => ?_) fun y s _ => ?_
  · rw [List.flatMap_map]
    refine List.flatMap_congr fun t _ => ?_
    split
    · exact (t.lists_peel d).symm
    · rfl
  · rw [List.flatMap_map]
    split
    case isTrue here =>
      subst here
      rw [List.filter_flatMap]
      refine congrArg (fun wrappers => { s with wrappers := wrappers }) ?_
      refine List.flatMap_congr fun t member => ?_
      cases starts : t.startsAt z l with
      | true =>
          rw [if_pos rfl, Thread.keeps_peel ((plain t member).inside starts) starts]
          exact List.filter_eq_nil_iff.2 fun r kept => by
            simp [(plain t member).alike r kept, starts]
      | false =>
          rw [if_neg Bool.false_ne_true]
          exact List.filter_eq_self.2 fun r kept => by
            simp [(plain t member).alike r kept, starts]
    case isFalse other =>
      refine congrArg (fun wrappers => { s with wrappers := wrappers }) ?_
      refine List.flatMap_congr fun t _ => ?_
      split
      case isTrue starts => exact (Thread.keeps_peel_other starts other).symm
      case isFalse => rfl

end Unwrapping

mutual

/-- Taking back a listener that nothing else is taken for takes its thread. -/
theorem removeListener_woven : ∀ (t : Target) (l : Listener) (n : Nat) {w : World σ}
    {front back : List Thread}, t.Inside w.zones.size → (∀ th ∈ front ++ back, th.Apart t l n) →
      (removeListener t l (w.woven (front ++ ⟨t, l, n⟩ :: back))).2 = w.woven (front ++ back)
  | .dispatcher e, l, n, w, front, back, _, apart => by
      rw [removeListener, onListeners_eq, woven, rewire_rewire]
      refine rewire_congr (fun c ls _ => ?_) fun z s _ => by simp [Thread.keeps, Target.keeps]
      split
      case isTrue here =>
        subst here
        have first : ∀ x ∈ front.flatMap (·.lists e), ¬ x.same l = true := by
          intro x member
          obtain ⟨th, listed, own⟩ := List.mem_flatMap.1 member
          rw [(apart th (List.mem_append_left _ listed)).unlike x own]
          exact Bool.false_ne_true
        have own : Thread.lists ⟨.dispatcher e, l, n⟩ e = [l] := if_pos rfl
        rw [List.flatMap_append, List.flatMap_append, List.eraseP_append_right _ first,
          List.flatMap_cons, own]
        exact congrArg _ (List.eraseP_cons_of_pos (Listener.same_self l))
      case isFalse other =>
        have own : Thread.lists ⟨.dispatcher e, l, n⟩ c = [] := if_neg other
        simp [own]
  | .zone z, l, n, w, front, back, inside, apart => removeWrapped_woven z l n inside apart

theorem removeWrapped_woven : ∀ (z : Zone) (l : Listener) (n : Nat) {w : World σ}
    {front back : List Thread}, Target.ZoneInside w.zones.size z →
      (∀ th ∈ front ++ back, th.Apart (.zone z) l n) →
        (removeWrapped z l (w.woven (front ++ ⟨.zone z, l, n⟩ :: back))).2 =
          w.woven (front ++ back)
  | .mk id behind, l, n, w, front, back, inside, apart => by
      let z := Zone.mk id behind
      let own : Thread := ⟨.zone z, l, n⟩
      have whole : own.target.Inside w.zones.size := inside
      have starts : own.startsAt z l = true := by
        simp [own, Thread.startsAt, Listener.same_self]
      have kept : own.keeps z.id = [⟨l, .wrapped n z l.handler⟩] := Target.keeps_own whole l n
      have others : ∀ th ∈ front ++ back, th.startsAt z l = false := fun th member =>
        (apart th member).plain.1
      have plain : ∀ th ∈ front ++ own :: back, th.Plain z l := by
        refine List.forall_mem_append.2 ⟨fun th member => ?_, List.forall_mem_cons.2 ⟨?_, ?_⟩⟩
        · exact (apart th (List.mem_append_left _ member)).plain.2
        · refine ⟨fun _ => ⟨_, whole⟩, fun r member => ?_⟩
          rw [kept] at member
          rw [List.mem_singleton.1 member, starts]
          exact Listener.same_self l
        · exact fun th member => (apart th (List.mem_append_right _ member)).plain.2
      have away {ts : List Thread} (sub : ts ⊆ front ++ back) : ts.filter (·.startsAt z l) = [] :=
        List.filter_eq_nil_iff.2 fun th member => by rw [others th (sub member)]; simp
      have stays {ts : List Thread} (sub : ts ⊆ front ++ back) :
          (ts.map fun th => if th.startsAt z l then th.peel else th) = ts := by
        refine (List.map_congr_left fun th member => ?_).trans (List.map_id ts)
        rw [others th (sub member)]
        rfl
      have matching : ((w.woven (front ++ own :: back)).zone z).wrappers.filter (·.inner.same l) =
          [⟨l, .wrapped n z l.handler⟩] := by
        rw [matching_woven plain inside.1, List.filter_append, List.filter_cons, if_pos starts,
          away (List.subset_append_left _ _), away (List.subset_append_right _ _)]
        simp [kept]
      have unwrapped := unwrap_woven (w := w) plain
      rw [List.map_append, List.map_cons, stays (List.subset_append_left _ _),
        stays (List.subset_append_right _ _), if_pos starts] at unwrapped
      rw [removeWrapped]
      dsimp only
      rw [matching, unwrapped]
      exact removeListener_woven behind (l.wrap n z) (n + 1)
        (inside.2.mono (Nat.le_of_lt inside.1)) fun th member => (apart th member).behind

end

end World

/-! ## Taking back what no zone has wrapped -/

namespace Thread

variable {t : Thread} {z : Zone} {l : Listener}

/-- A listener that no zone has wrapped is taken for what is at the start only. -/
theorem plain_of_unwrapped (inside : ∃ m, t.target.Inside m)
    (unwrapped : l.handler.wrapper? = none) : t.Plain z l := by
  refine ⟨fun _ => inside, fun r kept => ?_⟩
  rcases Target.keeps_cases _ _ _ kept with ⟨y, target, same, rfl⟩ | ⟨k, -, wrapper⟩
  · rw [startsAt, target]
    simp [same]
  · -- a wrapper that runs through
    have unlike : r.inner.same l = false := by
      rw [← Bool.not_eq_true]
      intro same
      have alike := Handler.wrapper?_of_same (Bool.and_eq_true_iff.1 same).2
      rw [wrapper, unwrapped] at alike
      cases alike
    rw [unlike, eq_comm, ← Bool.not_eq_true]
    intro starts
    obtain ⟨y, -, -, only⟩ := keeps_of_startsAt inside starts
    rw [only] at kept
    rw [List.mem_singleton.1 kept] at unlike
    obtain ⟨_, -, -, same⟩ := startsAt_iff.1 starts
    exact absurd (same.symm.trans unlike) (by decide)

theorem tags_of_unwrapped (unwrapped : t.listener.handler.wrapper? = none) : t.tags = t.span := by
  rw [tags, unwrapped]
  rfl

/-- The first wrapper is now what the thread starts with. -/
theorem tags_peel (starts : t.startsAt z l = true) : t.peel.tags = t.span := by
  obtain ⟨⟨id, behind⟩, target, -, -⟩ := startsAt_iff.1 starts
  obtain ⟨target', l', n⟩ := t
  obtain rfl : target' = .zone (.mk id behind) := target
  exact (List.range'_succ ..).symm

/-- No wrapper of a thread is in another one. -/
theorem apart_of_disjoint {th : Thread} (target : t.target = .zone z)
    (disjoint : ∀ k ∈ t.span, k ∉ th.tags) :
    th.Apart z.behind (t.listener.wrap t.first z) (t.first + 1) := by
  obtain ⟨target', l', n⟩ := t
  obtain rfl : target' = .zone z := target
  obtain ⟨id, behind⟩ := z
  have span : (⟨.zone (.mk id behind), l', n⟩ : Thread).span = n :: List.range' (n + 1) behind.depth :=
    List.range'_succ ..
  rw [span] at disjoint
  refine ⟨fun e member => ?_, fun k tagged inside => ?_⟩
  · rw [← Bool.not_eq_true]
    intro same
    have wrapper := Handler.wrapper?_of_same (Bool.and_eq_true_iff.1 same).2
    exact disjoint n List.mem_cons_self (mem_tags member wrapper)
  · exact disjoint k (List.mem_cons_of_mem _ inside) tagged

end Thread

namespace World

/-- Taking back what some threads start with, one after the other, takes these threads. -/
theorem foldl_woven {w : World σ} {id : Nat} {behind : Target} {l : Listener}
    (inside : (Target.zone (.mk id behind)).Inside w.zones.size) :
    ∀ (ts kept : List Thread) (removed : Bool),
      (∀ t ∈ ts, t.startsAt (.mk id behind) l = true → t.target = .zone (.mk id behind)) →
      (∀ t ∈ kept ++ ts, t.listener.handler.wrapper? = none) →
      ((kept ++ ts).flatMap Thread.span).Nodup →
      (((ts.filter (·.startsAt (.mk id behind) l)).flatMap (·.keeps id)).foldl
        (fun (removed, w) r =>
          let (one, w) := removeListener behind { l with handler := r.handler } w
          (removed || one, w))
        (removed, w.woven (kept ++ ts.map fun t =>
          if t.startsAt (.mk id behind) l then t.peel else t))).2 =
        w.woven (kept ++ ts.filter fun t => !t.startsAt (.mk id behind) l)
  | [], _, _, _, _, _ => rfl
  | t :: ts, kept, removed, own, unwrapped, distinct => by
      obtain ⟨first, others⟩ := List.forall_mem_cons.1 own
      rw [List.filter_cons, List.map_cons, List.filter_cons]
      cases starts : t.startsAt (.mk id behind) l with
      | false =>
          have split : ∀ {α : Type} (a : α) (as bs : List α), bs ++ a :: as = (bs ++ [a]) ++ as := by
            simp
          rw [split] at unwrapped distinct
          simpa using foldl_woven inside ts (kept ++ [t]) removed others unwrapped distinct
      | true =>
          obtain ⟨target, l', n⟩ := t
          obtain rfl : target = .zone (.mk id behind) := first starts
          obtain ⟨y, same, -, keeps⟩ := Thread.keeps_of_startsAt ⟨_, inside⟩ starts
          obtain rfl : Zone.mk id behind = y := Target.zone.inj same
          have wrapped : ({ l with handler := .wrapped n (.mk id behind) l'.handler } : Listener) =
              l'.wrap n (.mk id behind) := by
            obtain ⟨_, -, -, alike⟩ := Thread.startsAt_iff.1 starts
            obtain ⟨node, event⟩ := Listener.isFor_of_same alike
            rw [Listener.wrap, ← node, ← event]
          let t : Thread := ⟨.zone (.mk id behind), l', n⟩
          let rest := ts.map fun t => if t.startsAt (.mk id behind) l then t.peel else t
          -- what is left of the others is wrapped under other numbers
          have apart : ∀ th ∈ kept ++ rest, th.Apart behind (l'.wrap n (.mk id behind)) (n + 1) := by
            rw [List.flatMap_append, List.flatMap_cons] at distinct
            have disjoint : ∀ th ∈ kept ++ ts, ∀ k ∈ t.span, k ∉ th.span := by
              obtain ⟨-, later, before⟩ := List.nodup_append.1 distinct
              obtain ⟨-, -, behind⟩ := List.nodup_append.1 later
              intro th member k own also
              rcases List.mem_append.1 member with earlier | after
              · exact before k (List.mem_flatMap.2 ⟨th, earlier, also⟩) k
                  (List.mem_append_left _ own) rfl
              · exact behind k own k (List.mem_flatMap.2 ⟨th, after, also⟩) rfl
            have tags : ∀ th ∈ kept ++ rest, ∃ th' ∈ kept ++ ts, th.tags = th'.span := by
              intro th member
              rcases List.mem_append.1 member with earlier | after
              · exact ⟨th, List.mem_append_left _ earlier,
                  Thread.tags_of_unwrapped (unwrapped th (List.mem_append_left _ earlier))⟩
              · obtain ⟨th', listed, rfl⟩ := List.mem_map.1 after
                refine ⟨th', List.mem_append_right _ listed, ?_⟩
                split
                case isTrue starts => exact Thread.tags_peel starts
                case isFalse =>
                  exact Thread.tags_of_unwrapped
                    (unwrapped th' (List.mem_append_right _ (List.mem_cons_of_mem _ listed)))
            intro th member
            obtain ⟨th', listed, same⟩ := tags th member
            exact Thread.apart_of_disjoint (t := t) rfl (same ▸ disjoint th' listed)
          have one := removeListener_woven behind (l'.wrap n (.mk id behind)) (n + 1) (w := w)
            (inside.2.mono (Nat.le_of_lt inside.1)) apart
          have distinct' : ((kept ++ ts).flatMap Thread.span).Nodup := by
            refine distinct.sublist ?_
            rw [List.flatMap_append, List.flatMap_append, List.flatMap_cons]
            exact .append_left (List.sublist_append_right _ _) _
          have unwrapped' : ∀ t ∈ kept ++ ts, t.listener.handler.wrapper? = none := by
            intro th member
            refine unwrapped th ?_
            rcases List.mem_append.1 member with earlier | after
            · exact List.mem_append_left _ earlier
            · exact List.mem_append_right _ (List.mem_cons_of_mem _ after)
          have keeps : Thread.keeps ⟨.zone (.mk id behind), l', n⟩ id =
              [⟨l', .wrapped n (.mk id behind) l'.handler⟩] := keeps
          simp only [if_true, List.flatMap_cons, keeps, List.singleton_append, List.foldl_cons,
            Bool.not_true, wrapped, Bool.false_eq_true, if_false]
          rw [show Thread.peel ⟨.zone (.mk id behind), l', n⟩ =
            ⟨behind, l'.wrap n (.mk id behind), n + 1⟩ from rfl, one]
          exact foldl_woven inside ts kept _ others unwrapped' distinct'

/-- Taking back a listener that no zone has wrapped takes all its threads that start at the
zone. -/
theorem removeWrapped_zone {w : World σ} {z : Zone} {l : Listener} {ts : List Thread}
    (inside : (Target.zone z).Inside w.zones.size) (unwrapped : l.handler.wrapper? = none)
    (own : ∀ t ∈ ts, t.startsAt z l = true → t.target = .zone z)
    (each : ∀ t ∈ ts, t.listener.handler.wrapper? = none ∧ ∃ m, t.target.Inside m)
    (distinct : (ts.flatMap Thread.span).Nodup) :
    (removeWrapped z l (w.woven ts)).2 = w.woven (ts.filter fun t => !t.startsAt z l) := by
  obtain ⟨id, behind⟩ := z
  have plain : ∀ t ∈ ts, t.Plain (.mk id behind) l := fun t member =>
    Thread.plain_of_unwrapped (each t member).2 unwrapped
  rw [removeWrapped]
  dsimp only
  rw [matching_woven plain inside.1, unwrap_woven plain]
  exact foldl_woven inside ts [] false own (fun t member => (each t member).1) distinct

/-- Erasing one of those of which nothing is collected. -/
theorem flatMap_eraseP {α β : Type} {p : α → Bool} {g : α → List β}
    (empty : ∀ a, p a = true → g a = []) (as : List α) : (as.eraseP p).flatMap g = as.flatMap g := by
  induction as with
  | nil => rfl
  | cons a rest ih =>
      cases here : p a with
      | true => rw [List.eraseP_cons_of_pos here, List.flatMap_cons, empty a here, List.nil_append]
      | false =>
          rw [List.eraseP_cons_of_neg (by simp [here]), List.flatMap_cons, List.flatMap_cons, ih]

/-- A dispatcher takes back the first thread that stands there with a listener. -/
theorem removeListener_dispatcher (w : World σ) (d : Nat) {l : Listener} (ts : List Thread)
    (unwrapped : l.handler.wrapper? = none) :
    (removeListener (.dispatcher d) l (w.woven ts)).2 =
      w.woven (ts.eraseP (·.standsAt d l)) := by
  rw [removeListener, onListeners_eq, woven, rewire_rewire]
  refine rewire_congr (fun e ls _ => ?_) fun z s _ => ?_
  · split
    case isTrue here =>
      subst here
      induction ts with
      | nil => rfl
      | cons t rest ih =>
          rw [List.flatMap_cons]
          cases standing : t.standsAt d l with
          | true =>
              obtain ⟨target, same⟩ := Thread.standsAt_iff.1 standing
              have own : t.lists d = [t.listener] := by
                rw [Thread.lists, target, Target.lists, if_pos rfl]
              rw [List.eraseP_cons_of_pos (p := fun t : Thread => t.standsAt d l) standing, own]
              exact List.eraseP_cons_of_pos same
          | false =>
              have none : ∀ x ∈ t.lists d, ¬ x.same l = true := by
                intro x member same
                rcases Target.lists_cases _ _ _ member with ⟨target, rfl⟩ | ⟨k, -, wrapper⟩
                · rw [Thread.standsAt_iff.2 ⟨target, same⟩] at standing
                  cases standing
                · have alike := Handler.wrapper?_of_same (Bool.and_eq_true_iff.1 same).2
                  rw [wrapper, unwrapped] at alike
                  cases alike
              rw [List.eraseP_append_right _ none, List.eraseP_cons_of_neg (by simp [standing]),
                List.flatMap_cons, ih]
    case isFalse other =>
      refine (flatMap_eraseP (fun t standing => ?_) ts).symm
      obtain ⟨target, -⟩ := Thread.standsAt_iff.1 standing
      rw [Thread.lists, target, Target.lists, if_neg other]
  · refine congrArg (fun wrappers => { s with wrappers := wrappers }) ?_
    refine (flatMap_eraseP (fun t standing => ?_) ts).symm
    obtain ⟨target, -⟩ := Thread.standsAt_iff.1 standing
    rw [Thread.keeps, target, Target.keeps]

end World

end LiveTemplates
