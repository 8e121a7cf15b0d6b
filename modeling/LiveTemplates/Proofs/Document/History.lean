/-
# LiveTemplates.Proofs.Document.History -- what was registered on a document, and where

Listeners of the document are registered with its target, which is its dispatcher at first
and a zone in front of it from each successful start of an application on.  What was done
with a document, one call after the other, tells all about the user's own handlers on it:

* `Document.standing`: the targets with which a handler is registered, by the calls so far.
  Taking a handler back takes it back from the target of the moment, so it stands with
  an earlier target until that is the target again, which it never is;
* `Document.Reflects`: the dispatcher and the zones hold what stands by the calls;
* `Document.Reflects.add`, `Document.Reflects.remove`, `Document.Reflects.swap`: each call
  keeps to this, and so does all that leaves the user's own handlers alone (`World.Aloof`).
-/
import LiveTemplates.Proofs.World.Listeners

namespace LiveTemplates

set_option autoImplicit false

variable {σ : Type}

/-! ## Calls -/

/-- What is asked of a document: that one of the user's own handlers is run for an event on a
node. -/
structure Request where
  node : NodeId
  event : String
  name : String
deriving Repr, DecidableEq

namespace Request

/-- The listener to be registered. -/
def listener (k : Request) : Listener :=
  ⟨k.node, k.event, .named k.name⟩

/-- Does a listener come down to the handler, for this event on this node? -/
def reaches (k : Request) (l : Listener) : Bool :=
  l.isFor k.node k.event && l.handler.name? == some k.name

variable {k k' : Request} {l : Listener}

theorem reaches_iff : k.reaches l = true ↔
    l.node = k.node ∧ l.event = k.event ∧ l.handler.name? = some k.name := by
  simp [reaches, Listener.isFor, and_assoc]

theorem eq_of_reaches (one : k.reaches l = true) (other : k'.reaches l = true) : k = k' := by
  obtain ⟨node, event, name⟩ := reaches_iff.1 one
  obtain ⟨node', event', name'⟩ := reaches_iff.1 other
  obtain ⟨n, e, s⟩ := k
  obtain ⟨n', e', s'⟩ := k'
  simp_all

/-- The same listener is one that comes down to the handler and is not wrapped. -/
theorem same_listener : l.same k.listener = (k.reaches l && l.handler.front? == none) := by
  rw [Bool.eq_iff_iff, Bool.and_eq_true, beq_iff_eq, Listener.same, Bool.and_eq_true, listener,
    Handler.same_named, reaches, Bool.and_eq_true, beq_iff_eq, and_assoc]

theorem reaches_listener : k'.reaches k.listener = decide (k = k') := by
  rw [Bool.eq_iff_iff, decide_eq_true_iff]
  refine ⟨fun reaches => ?_, fun same => ?_⟩
  · exact eq_of_reaches (reaches_iff.2 ⟨rfl, rfl, rfl⟩) reaches
  · exact same ▸ reaches_iff.2 ⟨rfl, rfl, rfl⟩

end Request

namespace Document

/-- One thing that is done with a document: a listener is registered or taken back, or an
application starts and puts its zone in front. -/
inductive Call where
  | add (k : Request)
  | remove (k : Request)
  | swap (z : Zone)

/-- What was done with a document, latest first. -/
abbrev History := List Call

/-- The zones that were put in front, latest first. -/
def fronts (h : History) : List Zone :=
  h.filterMap fun
    | .swap z => some z
    | _ => none

/-- The target of the document. -/
def targetOf (h : History) : Target :=
  match (fronts h).head? with
  | none => .dispatcher 0
  | some z => .zone z

/-- The number of the zone that is the target, if one is. -/
def front? (h : History) : Option Nat :=
  (fronts h).head?.map Zone.id

/-- A dispatcher takes back the first of several, a zone all of them. -/
def without (front : Option Nat) (ts : List (Option Nat)) : List (Option Nat) :=
  match front with
  | none => ts.erase none
  | some n => ts.filter (· != some n)

/-- The targets that a handler is registered with: the dispatcher, or zones of some numbers. -/
def standing (k : Request) : History → List (Option Nat)
  | [] => []
  | .add k' :: h => if k' = k then standing k h ++ [front? h] else standing k h
  | .remove k' :: h => if k' = k then without (front? h) (standing k h) else standing k h
  | .swap _ :: h => standing k h

section Standing

variable {k : Request} {h before later : History}

theorem targetOf_nil (none : fronts h = []) : targetOf h = .dispatcher 0 := by
  rw [targetOf, none, List.head?_nil]

theorem targetOf_cons {z : Zone} {rest : List Zone} (zones : fronts h = z :: rest) :
    targetOf h = .zone z := by
  rw [targetOf, zones, List.head?_cons]

theorem fronts_append : fronts (later ++ h) = fronts later ++ fronts h :=
  List.filterMap_append

theorem mem_fronts {z : Zone} : z ∈ fronts h ↔ .swap z ∈ h := by
  rw [fronts, List.mem_filterMap]
  constructor
  · rintro ⟨c, member, same⟩
    cases c with
    | swap y => exact Option.some.inj same ▸ member
    | _ => cases same
  · exact fun member => ⟨_, member, rfl⟩

theorem mem_of_mem_without {front : Option Nat} {ts : List (Option Nat)} {t : Option Nat}
    (member : t ∈ without front ts) : t ∈ ts := by
  cases front with
  | none => exact List.mem_of_mem_erase member
  | some n => exact List.mem_of_mem_filter member

/-- A handler stands with no zone that was never in front. -/
theorem mem_fronts_of_standing {n : Nat} (stands : some n ∈ standing k h) :
    n ∈ (fronts h).map Zone.id := by
  induction h with
  | nil => cases stands
  | cons c h ih =>
      cases c with
      | add k' =>
          rw [standing] at stands
          split at stands
          · rcases List.mem_append.1 stands with old | new
            · exact ih old
            · obtain ⟨z, first, rfl⟩ := Option.map_eq_some_iff.1 (List.mem_singleton.1 new).symm
              exact List.mem_map_of_mem (List.mem_of_mem_head? first)
          · exact ih stands
      | remove k' =>
          rw [standing] at stands
          split at stands
          · exact ih (mem_of_mem_without stands)
          · exact ih stands
      | swap z => exact List.mem_cons_of_mem _ (ih stands)

/-- A handler that stands nowhere does so until it is registered again. -/
theorem standing_nil (none : standing k h = []) (absent : .add k ∉ later) :
    standing k (later ++ h) = [] := by
  induction later with
  | nil => exact none
  | cons c later ih =>
      have ih := ih fun member => absent (List.mem_cons_of_mem _ member)
      cases c with
      | add k' =>
          have other : k' ≠ k := by
            rintro rfl
            exact absent List.mem_cons_self
          rw [List.cons_append, standing, if_neg other, ih]
      | remove k' =>
          rw [List.cons_append, standing, ih]
          split
          · cases front? (later ++ h) <;> rfl
          · rfl
      | swap z => exact ih

/-- Where a handler stands does not change until it is registered or taken back. -/
theorem standing_append (absent : .add k ∉ later) (kept : .remove k ∉ later) :
    standing k (later ++ h) = standing k h := by
  induction later with
  | nil => rfl
  | cons c later ih =>
      have ih := ih (fun member => absent (List.mem_cons_of_mem _ member))
        fun member => kept (List.mem_cons_of_mem _ member)
      cases c with
      | add k' =>
          have other : k' ≠ k := by
            rintro rfl
            exact absent List.mem_cons_self
          rw [List.cons_append, standing, if_neg other, ih]
      | remove k' =>
          have other : k' ≠ k := by
            rintro rfl
            exact kept List.mem_cons_self
          rw [List.cons_append, standing, if_neg other, ih]
      | swap z => exact ih

/-- A handler that was registered once, and was not taken back, stands with the target that it
was registered with. -/
theorem standing_once (once : .add k ∉ later ++ before) (kept : .remove k ∉ later) :
    standing k (later ++ .add k :: before) = [front? before] := by
  have none : standing k before = [] := by
    have := standing_nil (k := k) (h := []) rfl fun member =>
      once (List.mem_append_right later member)
    rwa [List.append_nil] at this
  rw [standing_append (fun member => once (List.mem_append_left _ member)) kept, standing,
    if_pos rfl, none, List.nil_append]

/-- The target is the same as before, as long as no zone is put in front. -/
theorem front?_append (unswapped : fronts later = []) : front? (later ++ h) = front? h := by
  rw [front?, front?, fronts_append, unswapped, List.nil_append]

/-- A zone that is put in front is another than those before. -/
theorem front?_append_ne (swapped : fronts later ≠ [])
    (distinct : ((fronts (later ++ h)).map Zone.id).Nodup) :
    front? (later ++ h) ≠ front? h := by
  obtain ⟨z, rest, zones⟩ := List.exists_cons_of_ne_nil swapped
  rw [fronts_append, zones, List.cons_append] at distinct
  rw [front?, front?, fronts_append, zones]
  intro same
  obtain ⟨y, first, equal⟩ := Option.map_eq_some_iff.1 same.symm
  have outside := (List.nodup_cons.1 distinct).1
  rw [List.map_append, ← equal] at outside
  exact outside (List.mem_append_right _ (List.mem_map_of_mem (List.mem_of_mem_head? first)))

end Standing

end Document

/-! ## Leaving the user's own handlers alone -/

/-- Does a listener come down to one of the user's own handlers? -/
def Listener.own (l : Listener) : Bool :=
  l.handler.name?.isSome

theorem Request.own_of_reaches {k : Request} {l : Listener} (reaches : k.reaches l = true) :
    l.own = true := by
  rw [Listener.own, (Request.reaches_iff.1 reaches).2.2]
  rfl

/-- The user's own handlers are registered as before, and the document has the same target. -/
structure World.Undisturbed (w v : World σ) : Prop where
  target : v.target = w.target
  dispatchers : w.dispatchers.size ≤ v.dispatchers.size
  zones : w.zones.size ≤ v.zones.size
  listeners : (v.listeners 0).filter Listener.own = (w.listeners 0).filter Listener.own
  wrappers : ∀ z, (v.zone z).wrappers.filter (·.inner.own) =
    (w.zone z).wrappers.filter (·.inner.own)

/-- Moreover, what the document's dispatcher lists can still be told apart. -/
structure World.Aloof (w v : World σ) : Prop extends w.Undisturbed v where
  numbered : w.Numbered 0 → v.Numbered 0

namespace World

variable {w v x : World σ}

theorem Undisturbed.trans (first : w.Undisturbed v) (second : v.Undisturbed x) :
    w.Undisturbed x where
  target := second.target.trans first.target
  dispatchers := Nat.le_trans first.dispatchers second.dispatchers
  zones := Nat.le_trans first.zones second.zones
  listeners := second.listeners.trans first.listeners
  wrappers z := (second.wrappers z).trans (first.wrappers z)

theorem onListeners_outside {d : Nat} (outside : ¬ d < w.dispatchers.size)
    (f : List Listener → List Listener) : w.onListeners d f = w := by
  have none : w.dispatchers.modify d f = w.dispatchers := by
    apply Array.ext_getElem?
    intro i
    rw [Array.getElem?_modify]
    split
    case isTrue same =>
      subst same
      rw [Array.getElem?_eq_none (Nat.not_lt.1 outside)]
      rfl
    case isFalse => rfl
  rw [onListeners, none]

mutual

theorem Undisturbed.addListener : ∀ (t : Target) (l : Listener) (w : World σ), l.own = false →
    w.Undisturbed (World.addListener t l w)
  | .dispatcher d, l, w, foreign => by
      rw [World.addListener]
      refine ⟨rfl, by simp [onListeners], Nat.le_refl _, ?_, fun _ => rfl⟩
      by_cases here : d < w.dispatchers.size
      · rw [listeners_onListeners w here]
        split <;> simp [foreign]
      · rw [onListeners_outside here]
  | .zone z, l, w, foreign => Undisturbed.addWrapped z l w foreign

theorem Undisturbed.addWrapped : ∀ (z : Zone) (l : Listener) (w : World σ), l.own = false →
    w.Undisturbed (World.addWrapped z l w)
  | .mk id behind, l, w, foreign => by
      let handler := Handler.wrapped w.serial (.mk id behind) l.handler
      let noted := ({ w with serial := w.serial + 1 } : World σ).onZone (.mk id behind) fun s =>
        { s with wrappers := s.wrappers ++ [⟨l, handler⟩] }
      have wrapped : w.Undisturbed noted := by
        refine ⟨rfl, Nat.le_refl _, by simp [noted, onZone], rfl, fun z => ?_⟩
        rw [zone_onZone]
        split
        case isTrue => simp [zone, foreign]
        case isFalse => rfl
      have passed := Undisturbed.addListener behind { l with handler := handler } noted foreign
      exact wrapped.trans passed

end

mutual

/-- A listener can be registered under a number that is not listed yet. -/
theorem Numbered.addListener : ∀ (t : Target) (l : Listener) {w : World σ}, w.Numbered 0 →
    (∀ n, l.handler.number? = some n →
      n ∉ (w.listeners 0).filterMap (·.handler.number?) ∧ n < w.serial) →
    (World.addListener t l w).Numbered 0
  | .dispatcher d, l, w, numbered, new => by
      rw [World.addListener]
      by_cases here : d < w.dispatchers.size
      case neg =>
        rw [onListeners_outside here]
        exact numbered
      have after := listeners_onListeners w here 0 (· ++ [l])
      split at after
      case isFalse => exact ⟨after ▸ numbered.distinct, after ▸ numbered.given⟩
      case isTrue =>
        have all : ((w.onListeners d (· ++ [l])).listeners 0).filterMap (·.handler.number?) =
            (w.listeners 0).filterMap (·.handler.number?) ++ l.handler.number?.toList := by
          rw [after, List.filterMap_append]
          cases number : l.handler.number? <;> simp [number]
        refine ⟨?_, fun n member => ?_⟩
        · rw [all]
          refine numbered.distinct.append ?_ fun n old last => ?_
          · cases l.handler.number? <;> simp
          · exact (new n (Option.mem_toList.1 last)).1 old
        · rw [all] at member
          rcases List.mem_append.1 member with old | last
          · exact numbered.given n old
          · exact (new n (Option.mem_toList.1 last)).2
  | .zone z, l, _, numbered, _ => Numbered.addWrapped z l numbered

theorem Numbered.addWrapped : ∀ (z : Zone) (l : Listener) {w : World σ}, w.Numbered 0 →
    (World.addWrapped z l w).Numbered 0
  | .mk id behind, l, w, numbered => by
      refine Numbered.addListener behind _ ⟨numbered.distinct, fun n member => ?_⟩
        fun n number => ?_
      · exact Nat.lt_succ_of_lt (numbered.given n member)
      · cases number
        exact ⟨fun member => Nat.lt_irrefl _ (numbered.given _ member), Nat.lt_succ_self _⟩

end

namespace Aloof

theorem trans (first : w.Aloof v) (second : v.Aloof x) : w.Aloof x :=
  ⟨first.toUndisturbed.trans second.toUndisturbed, fun numbered =>
    second.numbered (first.numbered numbered)⟩

/-- What is registered with dispatchers and zones stays the same. -/
theorem of_same (target : v.target = w.target) (dispatchers : v.dispatchers = w.dispatchers)
    (zones : w.zones.size ≤ v.zones.size)
    (wrappers : ∀ z, (v.zone z).wrappers = (w.zone z).wrappers) (later : w.serial ≤ v.serial) :
    w.Aloof v := by
  have same : v.listeners 0 = w.listeners 0 := by rw [listeners, listeners, dispatchers]
  refine ⟨⟨target, Nat.le_of_eq (congrArg Array.size dispatchers).symm, zones, by rw [same],
    fun z => by rw [wrappers]⟩, fun numbered => ⟨same ▸ numbered.distinct, fun n member => ?_⟩⟩
  exact Nat.lt_of_lt_of_le (numbered.given n (same ▸ member)) later

theorem plain (target : v.target = w.target) (dispatchers : v.dispatchers = w.dispatchers)
    (zones : v.zones = w.zones) (later : w.serial ≤ v.serial) : w.Aloof v :=
  of_same target dispatchers (Nat.le_of_eq (congrArg Array.size zones).symm)
    (fun z => by rw [zone, zone, zones]) later

theorem newZone (w : World σ) (behind : Target) : w.Aloof (w.newZone behind).2 := by
  refine of_same rfl rfl (by simp [World.newZone]) (fun z => ?_) (Nat.le_refl _)
  simp only [World.newZone, zone, Array.getElem?_push]
  split
  case isTrue last => rw [last, Array.getElem?_eq_none (Nat.le_refl _)]; rfl
  case isFalse => rfl

theorem addRefresh (w : World σ) (z : Zone) (r : Refresh) : w.Aloof (w.addRefresh z r).2 := by
  have same := Retabled.addRefresh w z r
  exact of_same rfl rfl (Nat.le_of_eq same.size.symm) same.wrappers (Nat.le_of_eq same.serial.symm)

theorem count (w : World σ) (z : Zone) :
    w.Aloof (w.onZone z fun s => { s with ticks := s.ticks + 1 }) := by
  refine of_same rfl rfl (by simp [onZone]) (fun z' => ?_) (Nat.le_refl _)
  rw [zone_onZone]
  split
  case isTrue => rfl
  case isFalse => rfl

/-- A zone registers a listener that is not one of the user's own handlers. -/
theorem addWrapped (z : Zone) {l : Listener} (foreign : l.own = false) (w : World σ) :
    w.Aloof (World.addWrapped z l w) :=
  ⟨.addWrapped z l w foreign, .addWrapped z l⟩

end Aloof

end World

/-! ## What a history tells -/

namespace Document

/-- The dispatcher and the zones of a document hold what stands by its history. -/
structure Reflects (h : History) (w : World σ) : Prop where
  present : 0 < w.dispatchers.size
  target : w.target = targetOf h
  fronts : ∀ z ∈ fronts h, z.behind = .dispatcher 0 ∧ z.id < w.zones.size
  distinct : ((Document.fronts h).map Zone.id).Nodup
  listed : ∀ k : Request, ((w.listeners 0).filter k.reaches).map (·.handler.front?) = standing k h
  tables : ∀ k : Request, ∀ z ∈ Document.fronts h,
    ((w.zone z).wrappers.filter (·.inner.same k.listener)).map Wrapper.outer =
      (w.listeners 0).filter fun l => k.reaches l && l.handler.front? == some z.id
  others : ∀ z : Zone, z.id ∉ (Document.fronts h).map Zone.id →
    (w.zone z).wrappers.filter (·.inner.own) = []
  numbered : w.Numbered 0

namespace Reflects

variable {h : History} {w v : World σ} {k : Request}

/-- At first, nothing is registered. -/
theorem start (dispatchers : w.dispatchers = #[[]]) (zones : w.zones = #[])
    (target : w.target = .dispatcher 0) : Reflects [] w where
  present := by simp [dispatchers]
  target := target
  fronts := nofun
  distinct := List.nodup_nil
  listed k := by simp [World.listeners, dispatchers, standing]
  tables := nofun
  others z _ := by simp [World.zone, zones]
  numbered := ⟨by simp [World.listeners, dispatchers], by simp [World.listeners, dispatchers]⟩

theorem aloof (reflects : Reflects h w) (aloof : w.Aloof v) : Reflects h v := by
  have reached (k : Request) (p : Listener → Bool)
      (reaches : ∀ l, p l = true → k.reaches l = true) :
      (v.listeners 0).filter p = (w.listeners 0).filter p := by
    have own : ∀ l, (p l && l.own) = p l := fun l => by
      cases holds : p l with
      | false => rfl
      | true => rw [Request.own_of_reaches (reaches l holds)]; rfl
    have same := congrArg (List.filter p) aloof.listeners
    simpa only [List.filter_filter, own] using same
  have wrapped (k : Request) (z : Zone) : (v.zone z).wrappers.filter (·.inner.same k.listener) =
      (w.zone z).wrappers.filter (·.inner.same k.listener) := by
    have own : ∀ r : Wrapper, (r.inner.same k.listener && r.inner.own) =
        r.inner.same k.listener := fun r => by
      cases same : r.inner.same k.listener with
      | false => rfl
      | true =>
          rw [Request.same_listener, Bool.and_eq_true] at same
          rw [Request.own_of_reaches same.1]
          rfl
    have same := congrArg (List.filter fun r : Wrapper => r.inner.same k.listener)
      (aloof.wrappers z)
    simpa only [List.filter_filter, own] using same
  exact
    { present := Nat.lt_of_lt_of_le reflects.present aloof.dispatchers
      target := aloof.target.trans reflects.target
      fronts := fun z member => ⟨(reflects.fronts z member).1,
        Nat.lt_of_lt_of_le (reflects.fronts z member).2 aloof.zones⟩
      distinct := reflects.distinct
      listed := fun k => by rw [reached k k.reaches fun _ => id, reflects.listed]
      tables := fun k z member => by
        rw [wrapped, reflects.tables k z member, reached k _ fun l holds => ?_]
        exact (Bool.and_eq_true_iff.1 holds).1
      others := fun z outside => by rw [aloof.wrappers, reflects.others z outside]
      numbered := aloof.numbered reflects.numbered }

/-- The target is the dispatcher, or the zone that is in front, which stands directly in front
of the dispatcher. -/
theorem target_cases (reflects : Reflects h w) :
    (w.target = .dispatcher 0 ∧ front? h = none) ∨
      ∃ n, w.target = .zone (.mk n (.dispatcher 0)) ∧ front? h = some n ∧
        Zone.mk n (.dispatcher 0) ∈ Document.fronts h := by
  have target := reflects.target
  cases zones : Document.fronts h with
  | nil => exact .inl ⟨target.trans (targetOf_nil zones), by rw [front?, zones]; rfl⟩
  | cons z rest =>
      have member : z ∈ Document.fronts h := zones ▸ List.mem_cons_self
      have behind := (reflects.fronts z member).1
      have front : front? h = some z.id := by
        rw [front?, zones]
        rfl
      rw [targetOf_cons zones] at target
      obtain ⟨n, _⟩ := z
      obtain rfl := behind
      exact .inr ⟨n, target, front, List.mem_cons_self⟩

/-- A zone that was not in front before, and has nothing of the user's own, is put in front. -/
theorem swap (reflects : Reflects h w) {z : Zone} (behind : z.behind = .dispatcher 0)
    (inside : z.id < w.zones.size) (new : z.id ∉ (Document.fronts h).map Zone.id) :
    Reflects (.swap z :: h) { w with target := .zone z } := by
  have zones : Document.fronts (.swap z :: h) = z :: Document.fronts h := rfl
  have outside (k : Request) : ∀ l ∈ w.listeners 0, k.reaches l = true →
      l.handler.front? ≠ some z.id := by
    intro l member reaches same
    have stands : some z.id ∈ standing k h := by
      rw [← reflects.listed, ← same]
      exact List.mem_map_of_mem (List.mem_filter.2 ⟨member, reaches⟩)
    exact new (mem_fronts_of_standing stands)
  exact
    { present := reflects.present
      target := (targetOf_cons zones).symm
      fronts := by
        rw [zones]
        rintro y (_ | ⟨_, member⟩)
        · exact ⟨behind, inside⟩
        · exact reflects.fronts y member
      distinct := by
        rw [zones, List.map_cons, List.nodup_cons]
        exact ⟨new, reflects.distinct⟩
      listed := reflects.listed
      tables := by
        rw [zones]
        rintro k y (_ | ⟨_, member⟩)
        · have none : (w.zone z).wrappers.filter (·.inner.same k.listener) = [] := by
            refine List.filter_eq_nil_iff.2 fun r member same => ?_
            rw [Request.same_listener, Bool.and_eq_true] at same
            have own : (w.zone z).wrappers.filter (·.inner.own) = [] := reflects.others z new
            exact List.filter_eq_nil_iff.1 own r member (Request.own_of_reaches same.1)
          have unlisted : (w.listeners 0).filter (fun l => k.reaches l &&
              l.handler.front? == some z.id) = [] := by
            refine List.filter_eq_nil_iff.2 fun l member holds => ?_
            obtain ⟨reaches, same⟩ := Bool.and_eq_true_iff.1 holds
            exact outside k l member reaches (by simpa using same)
          exact (congrArg (List.map Wrapper.outer) none).trans unlisted.symm
        · exact reflects.tables k y member
      others := by
        rw [zones]
        intro y apart
        exact reflects.others y fun member => apart (List.mem_cons_of_mem _ member)
      numbered := ⟨reflects.numbered.distinct, reflects.numbered.given⟩ }

/-! ### Registering -/

/-- One listener more is listed, and the zones remember it as far as they have registered it. -/
theorem listing (reflects : Reflects h w) {l : Listener} (reaches : k.reaches l = true)
    (front : l.handler.front? = front? h) (present : 0 < v.dispatchers.size)
    (target : v.target = w.target) (zones : v.zones.size = w.zones.size)
    (listeners : v.listeners 0 = w.listeners 0 ++ [l])
    (wrappers : ∀ z, ∃ news : List Wrapper, (v.zone z).wrappers = (w.zone z).wrappers ++ news ∧
      (z.id ∉ (Document.fronts h).map Zone.id → news = []) ∧
      ∀ k' : Request, (news.filter (·.inner.same k'.listener)).map Wrapper.outer =
        if k = k' ∧ l.handler.front? = some z.id then [l] else [])
    (numbered : v.Numbered 0) : Reflects (.add k :: h) v := by
  have other (k' : Request) : k'.reaches l = decide (k = k') := by
    rw [Bool.eq_iff_iff, decide_eq_true_iff]
    exact ⟨fun also => Request.eq_of_reaches reaches also, fun same => same ▸ reaches⟩
  exact
    { present
      target := target.trans reflects.target
      fronts := fun z member => ⟨(reflects.fronts z member).1, zones ▸ (reflects.fronts z member).2⟩
      distinct := reflects.distinct
      listed := fun k' => by
        rw [listeners, List.filter_append, List.map_append, reflects.listed, standing]
        by_cases same : k = k' <;> simp [other, same, front]
      tables := fun k' z member => by
        obtain ⟨news, all, -, own⟩ := wrappers z
        rw [all, List.filter_append, List.map_append, own, reflects.tables k' z member, listeners,
          List.filter_append]
        congr 1
        by_cases same : k = k' <;> by_cases here : l.handler.front? = some z.id <;>
          simp [other, same, here]
      others := fun z outside => by
        obtain ⟨news, all, none, -⟩ := wrappers z
        rw [all, none outside, List.append_nil, reflects.others z outside]
      numbered }

/-- As long as no application has started, the target is the dispatcher. -/
theorem add_unfronted (reflects : Reflects h w) (target : w.target = .dispatcher 0)
    (front : front? h = none) :
    Reflects (.add k :: h) (World.addListener w.target k.listener w) := by
  rw [target]
  refine reflects.listing (l := k.listener) ?_ ?_ ?_ rfl rfl ?_ (fun z => ⟨[], ?_⟩) ?_
  · exact Request.reaches_iff.2 ⟨rfl, rfl, rfl⟩
  · exact front.symm
  · simpa [World.addListener, World.onListeners] using reflects.present
  · exact World.listeners_self reflects.present _
  · exact ⟨(List.append_nil _).symm, fun _ => rfl, by simp [Request.listener, Handler.front?]⟩
  · exact reflects.numbered.addListener _ _ fun _ number => by cases number

/-- Later it is the zone in front, which wraps the listener and remembers it. -/
theorem add_fronted (reflects : Reflects h w) {n : Nat}
    (target : w.target = .zone (.mk n (.dispatcher 0))) (front : front? h = some n)
    (member : Zone.mk n (.dispatcher 0) ∈ Document.fronts h) :
    Reflects (.add k :: h) (World.addListener w.target k.listener w) := by
  have inside : n < w.zones.size := (reflects.fronts _ member).2
  let z : Zone := .mk n (.dispatcher 0)
  let handler := Handler.wrapped w.serial z k.listener.handler
  let l : Listener := { k.listener with handler := handler }
  have fronted : l.handler.front? = some n := rfl
  rw [target]
  refine reflects.listing (l := l) ?_ (fronted.trans front.symm) ?_ rfl ?_ ?_ (fun y => ?_)
    (reflects.numbered.addWrapped z k.listener)
  · exact Request.reaches_iff.2 ⟨rfl, rfl, rfl⟩
  · simpa [World.addListener, World.addWrapped, World.onListeners, World.onZone] using
      reflects.present
  · simp [World.addListener, World.addWrapped, World.onListeners, World.onZone]
  · exact World.listeners_self reflects.present _
  · have own (k' : Request) : k.listener.same k'.listener = decide (k = k') := by
      rw [Request.same_listener, Request.reaches_listener]
      simp [Request.listener, Handler.front?]
    rw [fronted]
    by_cases same : n = y.id
    · refine ⟨[⟨k.listener, handler⟩], ?_, fun outside => ?_, fun k' => ?_⟩
      · refine (congrArg ZoneState.wrappers (World.zone_onZone _ z y _)).trans ?_
        rw [if_pos ⟨same, inside⟩]
        rfl
      · rw [← same] at outside
        exact absurd (List.mem_map_of_mem (f := Zone.id) member) outside
      · simp only [List.filter_cons, List.filter_nil, own]
        by_cases equal : k = k' <;> simp [equal, same, Wrapper.outer, l]
    · refine ⟨[], ?_, fun _ => rfl, fun k' => ?_⟩
      · refine (congrArg ZoneState.wrappers (World.zone_onZone _ z y _)).trans ?_
        rw [if_neg fun both => same both.1, List.append_nil]
        rfl
      · simp [same]

/-- A listener is registered with the target of the moment. -/
theorem add (reflects : Reflects h w) :
    Reflects (.add k :: h) (World.addListener w.target k.listener w) := by
  rcases reflects.target_cases with ⟨target, front⟩ | ⟨n, target, front, member⟩
  · exact reflects.add_unfronted target front
  · exact reflects.add_fronted target front member

/-! ### Taking back -/

/-- Of listeners that come down to a handler, the first that is not wrapped goes. -/
theorem eraseP_unwrapped (k : Request) (ls : List Listener) :
    ((ls.eraseP fun l => k.reaches l && l.handler.front? == none).filter k.reaches).map
      (·.handler.front?) = ((ls.filter k.reaches).map (·.handler.front?)).erase none := by
  induction ls with
  | nil => rfl
  | cons l rest ih =>
      by_cases reaches : k.reaches l = true
      · cases front : l.handler.front? with
        | none => simp [reaches, front]
        | some n => simpa [reaches, front] using ih
      · simpa [reaches] using ih

/-- What is listed for a handler and the target of the moment goes, in whole or in part, and
where this is a zone, what it remembers goes with it. -/
theorem unlisting (reflects : Reflects h w) (present : 0 < v.dispatchers.size)
    (target : v.target = w.target) (zones : v.zones.size = w.zones.size)
    (serial : v.serial = w.serial) (sub : (v.listeners 0).Sublist (w.listeners 0))
    (own : ((v.listeners 0).filter k.reaches).map (·.handler.front?) =
      without (front? h) (standing k h))
    (rest : ∀ q : Listener → Bool,
      (∀ l, q l = true → k.reaches l = true → l.handler.front? ≠ front? h) →
        (v.listeners 0).filter q = (w.listeners 0).filter q)
    (wrappers : ∀ z : Zone, (v.zone z).wrappers =
      if front? h = some z.id then (w.zone z).wrappers.filter fun r => !r.inner.same k.listener
      else (w.zone z).wrappers) : Reflects (.remove k :: h) v where
  present
  target := target.trans reflects.target
  fronts z member := ⟨(reflects.fronts z member).1, zones ▸ (reflects.fronts z member).2⟩
  distinct := reflects.distinct
  listed k' := by
    rw [standing]
    split
    case isTrue same => exact same ▸ own
    case isFalse other =>
      rw [rest k'.reaches fun l reaches also => absurd (Request.eq_of_reaches also reaches) other]
      exact reflects.listed k'
  tables k' z member := by
    rw [wrappers]
    by_cases same : k = k' ∧ front? h = some z.id
    · obtain ⟨rfl, here⟩ := same
      have none : (v.listeners 0).filter
          (fun l => k.reaches l && l.handler.front? == some z.id) = [] := by
        refine List.filter_eq_nil_iff.2 fun l member holds => ?_
        obtain ⟨reaches, front⟩ := Bool.and_eq_true_iff.1 holds
        have stands : some z.id ∈ without (front? h) (standing k h) := by
          rw [← own, ← (beq_iff_eq.1 front : l.handler.front? = some z.id)]
          exact List.mem_map_of_mem (List.mem_filter.2 ⟨member, reaches⟩)
        rw [here] at stands
        simp [without] at stands
      rw [none, if_pos here, List.filter_filter]
      simp
    · rw [rest _ ?_, ← reflects.tables k' z member]
      · split
        case isTrue here =>
          have other : k ≠ k' := fun equal => same ⟨equal, here⟩
          rw [List.filter_filter]
          refine congrArg (List.map Wrapper.outer) (List.filter_congr fun r _ => ?_)
          cases also : r.inner.same k'.listener with
          | false => rfl
          | true =>
              rw [Bool.true_and, Bool.not_eq_true']
              rw [Request.same_listener, Bool.and_eq_true] at also
              by_contra both
              rw [Bool.not_eq_false, Request.same_listener, Bool.and_eq_true] at both
              exact other (Request.eq_of_reaches both.1 also.1)
        case isFalse => rfl
      · intro l holds reaches front
        obtain ⟨reaches', front'⟩ := Bool.and_eq_true_iff.1 holds
        exact same ⟨Request.eq_of_reaches reaches reaches', front.symm.trans (beq_iff_eq.1 front')⟩
  others z outside := by
    have own := reflects.others z outside
    rw [wrappers]
    split
    · refine List.filter_eq_nil_iff.2 fun r member => ?_
      exact List.filter_eq_nil_iff.1 own r (List.mem_of_mem_filter member)
    · exact own
  numbered := ⟨reflects.numbered.distinct.sublist (sub.filterMap _), fun n member =>
    serial ▸ reflects.numbered.given n ((sub.filterMap _).subset member)⟩

/-- What stands with a target is listed. -/
theorem any_listed (reflects : Reflects h w) (k : Request) (t : Option Nat) :
    ((w.listeners 0).any fun l => k.reaches l && l.handler.front? == t) =
      (standing k h).contains t := by
  rw [Bool.eq_iff_iff, List.any_eq_true, List.contains_iff_mem, ← reflects.listed, List.mem_map]
  refine exists_congr fun l => ?_
  rw [List.mem_filter, Bool.and_eq_true, beq_iff_eq, and_assoc]

/-- The dispatcher takes back the first listener that is not wrapped. -/
theorem remove_unfronted (reflects : Reflects h w) (target : w.target = .dispatcher 0)
    (raw : front? h = none) :
    (World.removeListener w.target k.listener w).1 = (standing k h).contains (front? h) ∧
      Reflects (.remove k :: h) (World.removeListener w.target k.listener w).2 := by
  let p := fun l : Listener => k.reaches l && l.handler.front? == front? h
  have step : World.removeListener w.target k.listener w =
      ((w.listeners 0).any p, w.onListeners 0 (·.eraseP p)) := by
    have same : p = (·.same k.listener) := funext fun l => by
      rw [Request.same_listener, ← raw]
    rw [target, same]
    rfl
  have after := World.listeners_self reflects.present (·.eraseP p)
  rw [step]
  refine ⟨reflects.any_listed k _, reflects.unlisting ?_ rfl rfl rfl ?_ ?_ (fun q apart => ?_)
    fun z => ?_⟩
  · simpa [World.onListeners] using reflects.present
  · rw [after]
    exact List.eraseP_sublist
  · rw [after]
    simp only [p, raw]
    rw [eraseP_unwrapped, reflects.listed]
    rfl
  · rw [after]
    rcases List.exists_or_eq_self_of_eraseP p (w.listeners 0) with
      same | ⟨l, front, back, -, holds, split, erased⟩
    · rw [same]
    · have out : ¬ q l = true := fun inside => by
        obtain ⟨reaches, front⟩ := Bool.and_eq_true_iff.1 holds
        exact apart l inside reaches (beq_iff_eq.1 front)
      rw [erased, split, List.filter_append, List.filter_append, List.filter_cons_of_neg out]
  · rw [raw]
    rfl

/-- The zone in front takes back all of its own. -/
theorem remove_fronted (reflects : Reflects h w) {n : Nat}
    (target : w.target = .zone (.mk n (.dispatcher 0))) (fronted : front? h = some n)
    (member : Zone.mk n (.dispatcher 0) ∈ Document.fronts h) :
    (World.removeListener w.target k.listener w).1 = (standing k h).contains (front? h) ∧
      Reflects (.remove k :: h) (World.removeListener w.target k.listener w).2 := by
  let p := fun l : Listener => k.reaches l && l.handler.front? == front? h
  have holds_iff {l : Listener} :
      p l = true ↔ k.reaches l = true ∧ l.handler.front? = front? h := by
    rw [Bool.and_eq_true, beq_iff_eq]
  have inside : n < w.zones.size := (reflects.fronts _ member).2
  have table := reflects.tables k _ member
  rw [show some (Zone.mk n (.dispatcher 0)).id = front? h from fronted.symm] at table
  let kept := w.onZone (.mk n (.dispatcher 0)) fun s =>
    { s with wrappers := s.wrappers.filter fun r => !r.inner.same k.listener }
  have wrapped : ∀ l ∈ w.listeners 0, p l = true → l.handler.number? ≠ none :=
    fun l _ holds => Handler.number?_of_front? ((holds_iff.1 holds).2.trans fronted)
  have step : World.removeListener w.target k.listener w =
      ((w.listeners 0).any p, kept.onListeners 0 (·.filter (!p ·))) := by
    rw [target]
    exact World.removeWrapped_front reflects.present reflects.numbered wrapped table
  have after : (kept.onListeners 0 (·.filter (!p ·))).listeners 0 =
      (w.listeners 0).filter (!p ·) := World.listeners_self (w := kept) reflects.present _
  rw [step]
  refine ⟨reflects.any_listed k _, reflects.unlisting ?_ rfl ?_ rfl ?_ ?_ (fun q apart => ?_)
    fun y => ?_⟩
  · simpa [kept, World.onListeners, World.onZone] using reflects.present
  · simp [kept, World.onListeners, World.onZone]
  · rw [after]
    exact List.filter_sublist
  · rw [after, fronted, without, ← reflects.listed, List.filter_map, List.filter_filter,
      List.filter_filter]
    refine congrArg (List.map _) (List.filter_congr fun l _ => ?_)
    cases reaches : k.reaches l with
    | false => simp
    | true => simp [p, reaches, fronted, bne]
  · rw [after, List.filter_filter]
    refine List.filter_congr fun l _ => ?_
    cases holds : q l with
    | false => rfl
    | true =>
        rw [Bool.true_and, Bool.not_eq_true', ← Bool.not_eq_true, holds_iff]
        exact fun both => apart l holds both.1 both.2
  · rw [fronted]
    refine (congrArg ZoneState.wrappers (World.zone_onZone w _ y _)).trans ?_
    by_cases same : n = y.id
    · rw [if_pos ⟨same, inside⟩, if_pos (congrArg some same)]
    · rw [if_neg fun both => same both.1, if_neg fun both => same (Option.some.inj both)]

/-- A listener is taken back from the target of the moment, if it stands with that. -/
theorem remove (reflects : Reflects h w) :
    (World.removeListener w.target k.listener w).1 = (standing k h).contains (front? h) ∧
      Reflects (.remove k :: h) (World.removeListener w.target k.listener w).2 := by
  rcases reflects.target_cases with ⟨target, front⟩ | ⟨n, target, front, member⟩
  · exact reflects.remove_unfronted target front
  · exact reflects.remove_fronted target front member

end Reflects

end Document

end LiveTemplates
