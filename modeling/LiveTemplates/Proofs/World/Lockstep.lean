/-
# LiveTemplates.Proofs.World.Lockstep -- zones side by side in front of one dispatcher

Zones in front of a dispatcher register their wrappers with it, each among the listeners of
the others and those that are registered with the dispatcher itself.  A zone takes back all
wrappers of a handler and the dispatcher the first listener that is the same; that no two
wrappers have the same number is what keeps their lists in step.

* `Errand`: a call to a dispatcher, or to a zone in front of it;
* `InStep`: of the wrappers of each zone, the dispatcher lists those that the zone remembers,
  in the same order;
* `InStep.removeWrapped_eq`: what taking back through a zone answers and leaves;
* `Errand.keep_step`: so it is after calls of any number, in any order.
-/
import LiveTemplates.Proofs.World.Listeners

namespace LiveTemplates

set_option autoImplicit false

variable {σ : Type}

/-! ## Wrappers among listeners -/

/-- The number of a wrapper. -/
def Handler.wrapper? : Handler → Option Nat
  | .wrapped n _ _ => some n
  | _ => none

/-- What a wrapper was made of. -/
def Handler.inner? : Handler → Option Handler
  | .wrapped _ _ inner => some inner
  | _ => none

theorem Handler.wrapper?_of_same {a b : Handler} (same : a.same b = true) :
    a.wrapper? = b.wrapper? := by
  cases a <;> cases b <;> simp_all [Handler.same, wrapper?]

namespace Listener

/-- Is it a wrapper of a zone? -/
def isOf (x : Listener) (z : Zone) : Bool :=
  x.handler.front? == some z.id

/-- Is it a wrapper that a zone has made of a listener? -/
def isFrom (x : Listener) (z : Zone) (l : Listener) : Bool :=
  x.isOf z && x.isFor l.node l.event && x.handler.inner?.any (·.same l.handler)

theorem isOf_of_isFrom {z : Zone} {l x : Listener} (made : x.isFrom z l = true) :
    x.isOf z = true :=
  (Bool.and_eq_true_iff.1 (Bool.and_eq_true_iff.1 made).1).1

end Listener

namespace Wrapper

variable {r : Wrapper} {z : Zone} {n : Nat}

theorem outer_isOf (wrapped : r.handler = .wrapped n z r.inner.handler) (y : Zone) :
    r.outer.isOf y = (z.id == y.id) := by
  rw [Listener.isOf, outer, wrapped]
  rfl

/-- What a zone has passed on is a wrapper of what it remembers. -/
theorem outer_isFrom (wrapped : r.handler = .wrapped n z r.inner.handler) (l : Listener) :
    r.outer.isFrom z l = r.inner.same l := by
  have inner : r.outer.handler.inner? = some r.inner.handler := by
    rw [outer, wrapped]
    rfl
  rw [Listener.isFrom, outer_isOf wrapped, beq_self_eq_true, Bool.true_and, Listener.same, inner]
  rfl

end Wrapper

/-! ## In step -/

/-- Zones stand in front of a dispatcher, and of the wrappers of each of them this lists those
that the zone remembers, in the same order. -/
structure InStep (d : Nat) (zs : List Zone) (w : World σ) : Prop where
  present : d < w.dispatchers.size
  zones : ∀ z ∈ zs, z.behind = .dispatcher d ∧ z.id < w.zones.size
  known : ∀ x ∈ w.listeners d, ∀ n, x.handler.front? = some n → ∃ z ∈ zs, z.id = n
  wrapped : ∀ z ∈ zs, ∀ r ∈ (w.zone z).wrappers, ∃ n, r.handler = .wrapped n z r.inner.handler
  tables : ∀ z ∈ zs, (w.listeners d).filter (·.isOf z) = (w.zone z).wrappers.map Wrapper.outer
  distinct : ((w.listeners d).filterMap (·.handler.wrapper?)).Nodup
  given : ∀ n ∈ (w.listeners d).filterMap (·.handler.wrapper?), n < w.serial

namespace InStep

variable {d : Nat} {zs : List Zone} {w v : World σ} {z y : Zone}

/-- Nothing is wrapped yet, and there are no zones. -/
theorem nil (present : d < w.dispatchers.size)
    (own : ∀ x ∈ w.listeners d, x.handler.front? = none) : InStep d [] w := by
  have unwrapped : (w.listeners d).filterMap (·.handler.wrapper?) = [] := by
    refine List.filterMap_eq_nil_iff.2 fun x member => ?_
    have none := own x member
    cases handler : x.handler <;> simp_all [Handler.front?, Handler.wrapper?]
  refine ⟨present, List.forall_mem_nil _, fun x member n front => ?_, List.forall_mem_nil _,
    List.forall_mem_nil _, ?_, ?_⟩
  · rw [own x member] at front
    cases front
  · rw [unwrapped]
    exact List.nodup_nil
  · rw [unwrapped]
    exact List.forall_mem_nil _

/-- One more zone. -/
theorem newZone (step : InStep d zs w) :
    InStep d (zs ++ [(w.newZone (.dispatcher d)).1]) (w.newZone (.dispatcher d)).2 := by
  have old : ∀ z ∈ zs, (w.newZone (.dispatcher d)).2.zone z = w.zone z := by
    intro z member
    have apart := Nat.ne_of_lt (step.zones z member).2
    simp [World.newZone, World.zone, Array.getElem?_push, apart]
  have new : (w.newZone (.dispatcher d)).2.zone (w.newZone (.dispatcher d)).1 = {} := by
    simp [World.newZone, World.zone, Zone.id]
  -- the dispatcher lists nothing of a zone that was not there
  have unlisted : (w.listeners d).filter (·.isOf (w.newZone (.dispatcher d)).1) = [] := by
    refine List.filter_eq_nil_iff.2 fun x member same => ?_
    obtain ⟨z, inside, number⟩ := step.known x member _ (beq_iff_eq.1 same)
    exact Nat.ne_of_lt (step.zones z inside).2 number
  have own {P : Zone → Prop} (before : ∀ z ∈ zs, P z) (last : P (w.newZone (.dispatcher d)).1) :
      ∀ z ∈ zs ++ [(w.newZone (.dispatcher d)).1], P z :=
    List.forall_mem_append.2 ⟨before, List.forall_mem_singleton.2 last⟩
  refine ⟨step.present, own (fun z member => ?_) ?_, fun x member n front => ?_,
    own (fun z member => ?_) ?_, own (fun z member => ?_) ?_, step.distinct, step.given⟩
  · exact ⟨(step.zones z member).1, by
      simpa [World.newZone] using Nat.lt_succ_of_lt (step.zones z member).2⟩
  · exact ⟨rfl, by simp [World.newZone, Zone.id]⟩
  · obtain ⟨z, inside, number⟩ := step.known x member n front
    exact ⟨z, List.mem_append_left _ inside, number⟩
  · rw [old z member]
    exact step.wrapped z member
  · rw [new]
    exact List.forall_mem_nil _
  · rw [old z member]
    exact step.tables z member
  · rw [new]
    exact unlisted

/-- Zones of one number are one. -/
theorem eq_of_id (step : InStep d zs w) (inside : z ∈ zs) (also : y ∈ zs) (same : z.id = y.id) :
    z = y := by
  have behind := (step.zones z inside).1.trans (step.zones y also).1.symm
  cases z
  cases y
  exact congr (congrArg Zone.mk same) behind

/-! ### Calls to the dispatcher -/

/-- The listeners of a dispatcher change, and none that is a wrapper. -/
theorem onListeners (step : InStep d zs w) {f : List Listener → List Listener}
    (same : (f (w.listeners d)).filter (·.handler.front?.isSome) =
      (w.listeners d).filter (·.handler.front?.isSome)) : InStep d zs (w.onListeners d f) := by
  have listed := World.listeners_self step.present f
  -- what is told of the listeners is told of the wrappers among them
  have wrappers {p : Listener → Bool} (only : ∀ x, p x = true → x.handler.front?.isSome = true) :
      (f (w.listeners d)).filter p = (w.listeners d).filter p := by
    have narrow (ls : List Listener) : ls.filter p = (ls.filter (·.handler.front?.isSome)).filter p := by
      rw [List.filter_filter]
      exact List.filter_congr fun x _ => by cases holds : p x <;> simp_all
    rw [narrow, same, ← narrow]
  have numbers : (f (w.listeners d)).filterMap (·.handler.wrapper?) =
      (w.listeners d).filterMap (·.handler.wrapper?) := by
    have narrow (ls : List Listener) : ls.filterMap (·.handler.wrapper?) =
        (ls.filter (·.handler.front?.isSome)).filterMap (·.handler.wrapper?) := by
      rw [List.filterMap_filter]
      refine List.filterMap_congr fun x _ => ?_
      rcases x with ⟨node, event, _ | _ | _⟩ <;> rfl
    rw [narrow, same, ← narrow]
  refine ⟨by simpa [World.onListeners] using step.present, step.zones, fun x member n front => ?_,
    step.wrapped, fun z inside => ?_, ?_, ?_⟩
  · rw [listed] at member
    have some : x.handler.front?.isSome = true := by rw [front]; rfl
    have before : x ∈ (w.listeners d).filter (·.handler.front?.isSome) :=
      same ▸ List.mem_filter.2 ⟨member, some⟩
    exact step.known x (List.mem_of_mem_filter before) n front
  · rw [listed, wrappers fun x own => ?_]
    · exact step.tables z inside
    · rw [beq_iff_eq.1 own]
      rfl
  · rw [listed, numbers]
    exact step.distinct
  · rw [listed, numbers]
    exact step.given

/-- A handler that no zone has wrapped is registered with the dispatcher. -/
theorem addListener (step : InStep d zs w) {l : Listener} (own : l.handler.front? = none) :
    InStep d zs (World.addListener (.dispatcher d) l w) := by
  refine step.onListeners ?_
  rw [List.filter_append, List.filter_singleton, own]
  exact List.append_nil _

/-- What is taken back of another kind leaves those of a kind. -/
theorem filter_eraseP {α : Type} {p q : α → Bool} (apart : ∀ x, q x = true → p x = false) :
    ∀ xs : List α, (xs.eraseP q).filter p = xs.filter p
  | [] => rfl
  | x :: xs => by
      cases here : q x with
      | true => rw [List.eraseP_cons_of_pos here, List.filter_cons_of_neg (by simp [apart x here])]
      | false =>
          rw [List.eraseP_cons_of_neg (by simp [here]), List.filter_cons, List.filter_cons,
            filter_eraseP apart xs]

/-- A handler that no zone has wrapped is taken back from the dispatcher. -/
theorem removeListener (step : InStep d zs w) {l : Listener} (own : l.handler.front? = none) :
    InStep d zs (World.removeListener (.dispatcher d) l w).2 := by
  refine step.onListeners (filter_eraseP (fun x same => ?_) _)
  have alike := (Bool.and_eq_true_iff.1 same).2
  rcases x with ⟨node, event, handler⟩
  rcases l with ⟨node', event', handler'⟩
  cases handler <;> cases handler' <;> simp_all [Handler.front?, Handler.same]

/-! ### Calls to a zone -/

section Zones

variable (step : InStep d zs w) (inside : z ∈ zs)

include step inside

theorem zone_onZone (f : ZoneState → ZoneState) : (w.onZone z f).zone z = f (w.zone z) := by
  rw [World.zone_onZone, if_pos ⟨rfl, (step.zones z inside).2⟩]

theorem zone_other (f : ZoneState → ZoneState) (also : y ∈ zs) (other : y ≠ z) :
    (w.onZone z f).zone y = w.zone y := by
  rw [World.zone_onZone, if_neg fun same => other (step.eq_of_id also inside same.1.symm)]

/-- A zone registers a wrapper under a new number. -/
theorem addWrapped (l : Listener) : InStep d zs (w.addWrapped z l) := by
  let handler := Handler.wrapped w.serial z l.handler
  let f (s : ZoneState) : ZoneState := { s with wrappers := s.wrappers ++ [⟨l, handler⟩] }
  let x : Listener := { l with handler := handler }
  have added : w.addWrapped z l =
      ({ w with serial := w.serial + 1 }.onZone z f).onListeners d (· ++ [x]) := by
    obtain ⟨id, behind⟩ := z
    obtain rfl : behind = .dispatcher d := (step.zones _ inside).1
    rfl
  have listed : (w.addWrapped z l).listeners d = w.listeners d ++ [x] := by
    rw [added]
    exact World.listeners_self (w := World.onZone _ z f) step.present _
  have zones (y : Zone) : (w.addWrapped z l).zone y = (w.onZone z f).zone y := by
    rw [added]
    rfl
  have own : (w.addWrapped z l).zone z = f (w.zone z) := by
    rw [zones, step.zone_onZone inside]
  have others (y : Zone) (also : y ∈ zs) (other : y ≠ z) :
      (w.addWrapped z l).zone y = w.zone y := by
    rw [zones, step.zone_other inside f also other]
  have numbers : ((w.addWrapped z l).listeners d).filterMap (·.handler.wrapper?) =
      (w.listeners d).filterMap (·.handler.wrapper?) ++ [w.serial] := by
    rw [listed, List.filterMap_append]
    rfl
  refine ⟨?_, fun y also => ⟨(step.zones y also).1, ?_⟩, fun x member n front => ?_,
    fun y also => ?_, fun y also => ?_, ?_, ?_⟩
  · rw [added]
    simpa [World.onListeners, World.onZone] using step.present
  · rw [added]
    simpa [World.onListeners, World.onZone] using (step.zones y also).2
  · rw [listed] at member
    rcases List.mem_append.1 member with old | new
    · exact step.known x old n front
    · rw [List.mem_singleton.1 new] at front
      exact ⟨z, inside, Option.some.inj front⟩
  · by_cases same : y = z
    · subst same
      rw [own]
      refine List.forall_mem_append.2 ⟨step.wrapped y also, List.forall_mem_singleton.2 ?_⟩
      exact ⟨w.serial, rfl⟩
    · rw [others y also same]
      exact step.wrapped y also
  · rw [listed, List.filter_append, step.tables y also, List.filter_singleton]
    by_cases same : y = z
    · subst same
      have new : x.isOf y = true := by simp [x, handler, Listener.isOf, Handler.front?]
      rw [own, new, List.map_append]
      rfl
    · have other : x.isOf y = false := by
        refine beq_eq_false_iff_ne.2 fun number => same ?_
        exact step.eq_of_id also inside (Option.some.inj number).symm
      rw [others y also same, other]
      exact List.append_nil _
  · rw [numbers]
    refine List.nodup_append.2 ⟨step.distinct, List.nodup_singleton _, fun n old m new same => ?_⟩
    have less := step.given n old
    rw [same, List.mem_singleton.1 new] at less
    exact Nat.lt_irrefl _ less
  · rw [numbers, added]
    intro n member
    rcases List.mem_append.1 member with old | new
    · exact Nat.lt_succ_of_lt (step.given n old)
    · rw [List.mem_singleton.1 new]
      exact Nat.lt_succ_self _

/-- What the dispatcher lists of the wrappers of a listener is what the zone remembers. -/
theorem table (l : Listener) :
    ((w.zone z).wrappers.filter (·.inner.same l)).map Wrapper.outer =
      (w.listeners d).filter (·.isFrom z l) := by
  have narrow : (w.listeners d).filter (·.isFrom z l) =
      ((w.listeners d).filter (·.isOf z)).filter (·.isFrom z l) := by
    rw [List.filter_filter]
    refine List.filter_congr fun x _ => ?_
    cases made : x.isFrom z l with
    | true => rw [Listener.isOf_of_isFrom made, Bool.true_and]
    | false => rw [Bool.false_and]
  rw [narrow, step.tables z inside, List.filter_map]
  refine congrArg (List.map _) (List.filter_congr fun r member => ?_)
  obtain ⟨n, wrapped⟩ := step.wrapped z inside r member
  exact (Wrapper.outer_isFrom wrapped l).symm

omit inside in
/-- No other listener is taken for a wrapper. -/
theorem apart (l : Listener) : ∀ x ∈ w.listeners d, ∀ y ∈ w.listeners d, y.isFrom z l = true →
    x.same y = true → x.isFrom z l = true := by
  intro x member y also made same
  have front := beq_iff_eq.1 (Listener.isOf_of_isFrom made)
  obtain ⟨n, number⟩ : ∃ n, y.handler.wrapper? = some n := by
    cases handler : y.handler with
    | wrapped n _ _ => exact ⟨n, rfl⟩
    | _ => rw [handler] at front; cases front
  have alike : x.handler.wrapper? = some n :=
    (Handler.wrapper?_of_same (Bool.and_eq_true_iff.1 same).2).trans number
  rw [eq_of_key step.distinct member also alike number]
  exact made

/-- What taking back through a zone answers, and what it leaves. -/
theorem removeWrapped_eq (l : Listener) :
    w.removeWrapped z l = ((w.zone z).wrappers.any (·.inner.same l),
      (w.onZone z fun s => { s with wrappers := s.wrappers.filter fun r => !r.inner.same l }).onListeners
        d (·.filter fun x => !x.isFrom z l)) := by
  have table := step.table inside l
  have answer : (w.listeners d).any (·.isFrom z l) = (w.zone z).wrappers.any (·.inner.same l) := by
    have count := congrArg List.length table
    rw [List.length_map, ← List.countP_eq_length_filter, ← List.countP_eq_length_filter] at count
    rw [Bool.eq_iff_iff, List.any_eq_true, List.any_eq_true, ← List.countP_pos_iff,
      ← List.countP_pos_iff, count]
  rw [← answer]
  obtain ⟨id, behind⟩ := z
  obtain rfl : behind = .dispatcher d := (step.zones _ inside).1
  exact World.removeWrapped_apart step.present (step.apart l) table

/-- A zone takes back all wrappers of a listener, and leaves all others in their order. -/
theorem removeWrapped (l : Listener) : InStep d zs (w.removeWrapped z l).2 := by
  let f (s : ZoneState) : ZoneState :=
    { s with wrappers := s.wrappers.filter fun r => !r.inner.same l }
  let left := (w.listeners d).filter fun x => !x.isFrom z l
  have removed : (w.removeWrapped z l).2 =
      (w.onZone z f).onListeners d (·.filter fun x => !x.isFrom z l) := by
    rw [step.removeWrapped_eq inside l]
  have listed : (w.removeWrapped z l).2.listeners d = left := by
    rw [removed]
    exact World.listeners_self (w := w.onZone z f) step.present _
  have zones (y : Zone) : (w.removeWrapped z l).2.zone y = (w.onZone z f).zone y := by
    rw [removed]
    rfl
  have own : (w.removeWrapped z l).2.zone z = f (w.zone z) := by
    rw [zones, step.zone_onZone inside]
  have others (y : Zone) (also : y ∈ zs) (other : y ≠ z) :
      (w.removeWrapped z l).2.zone y = w.zone y := by
    rw [zones, step.zone_other inside f also other]
  have numbers : ((left.filterMap (·.handler.wrapper?)).Sublist
      ((w.listeners d).filterMap (·.handler.wrapper?))) := List.filter_sublist.filterMap _
  refine ⟨?_, fun y also => ⟨(step.zones y also).1, ?_⟩, fun x member n front => ?_,
    fun y also => ?_, fun y also => ?_, ?_, ?_⟩
  · rw [removed]
    simpa [World.onListeners, World.onZone] using step.present
  · rw [removed]
    simpa [World.onListeners, World.onZone] using (step.zones y also).2
  · rw [listed] at member
    exact step.known x (List.mem_of_mem_filter member) n front
  · by_cases same : y = z
    · subst same
      rw [own]
      exact fun r member => step.wrapped y also r (List.mem_of_mem_filter member)
    · rw [others y also same]
      exact step.wrapped y also
  · rw [listed, List.filter_filter]
    by_cases same : y = z
    · subst same
      rw [own, ← List.filter_filter, List.filter_comm, step.tables y also, List.filter_map]
      refine congrArg (List.map _) (List.filter_congr fun r member => ?_)
      obtain ⟨n, wrapped⟩ := step.wrapped y also r member
      exact congrArg (!·) (Wrapper.outer_isFrom wrapped l)
    · rw [others y also same, ← step.tables y also]
      refine List.filter_congr fun x _ => ?_
      cases made : x.isFrom z l with
      | false => exact Bool.and_true _
      | true =>
          -- a wrapper of one zone is none of another
          have front := beq_iff_eq.1 (Listener.isOf_of_isFrom made)
          have other : x.isOf y = false := by
            refine beq_eq_false_iff_ne.2 fun number => same ?_
            exact step.eq_of_id also inside (Option.some.inj (number.symm.trans front))
          rw [other]
          rfl
  · rw [listed]
    exact step.distinct.sublist numbers
  · rw [listed, removed]
    exact fun n member => step.given n (numbers.subset member)

end Zones

end InStep

/-! ## Calls of any number -/

/-- A call to a dispatcher, or to a zone in front of it by its place among these. -/
inductive Errand where
  /-- A zone is made in front of the dispatcher. -/
  | newZone
  | add (l : Listener)
  | remove (l : Listener)
  | addThrough (zone : Nat) (l : Listener)
  | removeThrough (zone : Nat) (l : Listener)

namespace Errand

/-- Does a call to a dispatcher.  Where there is no zone at the place, nothing is done. -/
def run (d : Nat) : List Zone × World σ → Errand → List Zone × World σ
  | (zs, w), .newZone => (zs ++ [(w.newZone (.dispatcher d)).1], (w.newZone (.dispatcher d)).2)
  | (zs, w), .add l => (zs, World.addListener (.dispatcher d) l w)
  | (zs, w), .remove l => (zs, (World.removeListener (.dispatcher d) l w).2)
  | (zs, w), .addThrough k l => (zs, zs[k]?.elim w fun z => w.addWrapped z l)
  | (zs, w), .removeThrough k l => (zs, zs[k]?.elim w fun z => (w.removeWrapped z l).2)

/-- Who calls the dispatcher itself does not have the wrappers of any zone. -/
def Own : Errand → Prop
  | .add l | .remove l => l.handler.front? = none
  | _ => True

/-- Each call keeps what is listed in step. -/
theorem run_step {d : Nat} {s : List Zone × World σ} {e : Errand} (own : e.Own)
    (step : InStep d s.1 s.2) : InStep d (run d s e).1 (run d s e).2 := by
  obtain ⟨zs, w⟩ := s
  cases e with
  | newZone => exact step.newZone
  | add l => exact step.addListener own
  | remove l => exact step.removeListener own
  | addThrough k l =>
      rw [run]
      cases found : zs[k]? with
      | none => exact step
      | some z => exact step.addWrapped (List.mem_of_getElem? found) l
  | removeThrough k l =>
      rw [run]
      cases found : zs[k]? with
      | none => exact step
      | some z => exact step.removeWrapped (List.mem_of_getElem? found) l

theorem runs_step {d : Nat} {errands : List Errand} (own : ∀ e ∈ errands, e.Own)
    {s : List Zone × World σ} (step : InStep d s.1 s.2) :
    InStep d (errands.foldl (run d) s).1 (errands.foldl (run d) s).2 := by
  induction errands generalizing s with
  | nil => exact step
  | cons e rest ih =>
      obtain ⟨first, others⟩ := List.forall_mem_cons.1 own
      exact ih others (run_step first step)

/-- Zones are made in front of a dispatcher with which nothing is registered through a zone,
and calls follow to any of them and to the dispatcher, in any order.  Then the dispatcher lists,
of the wrappers of each zone, those that the zone remembers, in the same order.  A zone that
takes back a listener answers whether it remembered one for this event on this node with this
handler.  Behind it neither the zone nor the dispatcher has any of these left, and all others
stand in their order. -/
theorem keep_step {d : Nat} {w : World σ} (present : d < w.dispatchers.size)
    (own : ∀ x ∈ w.listeners d, x.handler.front? = none) (errands : List Errand)
    (direct : ∀ e ∈ errands, e.Own) {zs : List Zone} {v : World σ}
    (ran : errands.foldl (run d) ([], w) = (zs, v)) :
    (∀ z ∈ zs, (v.listeners d).filter (·.isOf z) = (v.zone z).wrappers.map Wrapper.outer) ∧
    ∀ z ∈ zs, ∀ l : Listener,
      ((v.removeWrapped z l).1 = true ↔ ∃ r ∈ (v.zone z).wrappers, r.inner.same l = true) ∧
      ((v.removeWrapped z l).2.zone z).wrappers =
        (v.zone z).wrappers.filter (fun r => !r.inner.same l) ∧
      (v.removeWrapped z l).2.listeners d =
        (v.listeners d).filter (fun x => !x.isFrom z l) ∧
      ∀ y ∈ zs, y ≠ z → (v.removeWrapped z l).2.zone y = v.zone y := by
  have step : InStep d zs v := by
    have after := runs_step direct (s := ([], w)) (.nil present own)
    rwa [ran] at after
  refine ⟨step.tables, fun z inside l => ?_⟩
  rw [step.removeWrapped_eq inside l]
  refine ⟨List.any_eq_true, ?_, World.listeners_self (w := v.onZone z _) step.present _,
    fun y also other => step.zone_other inside _ also other⟩
  have left := step.zone_onZone inside fun s =>
    { s with wrappers := s.wrappers.filter fun r => !r.inner.same l }
  exact congrArg ZoneState.wrappers left

/-! ### Two zones and the dispatcher itself -/

namespace Crossed

/-- A document that is one element. -/
def blank : World Unit where
  forest := ⟨#[{ data := .element .html "a" [] }]⟩
  document := 0
  user := ()

def own (event : String) : Listener :=
  ⟨0, event, .named "own"⟩

/-- One handler is registered twice with a zone for one event, and once each for another event,
with another zone, and with the dispatcher, which takes it back once. -/
def errands : List Errand :=
  [.newZone, .newZone, .add (own "x"), .addThrough 0 (own "x"), .addThrough 1 (own "x"),
    .add (own "x"), .addThrough 0 (own "y"), .addThrough 0 (own "x"), .remove (own "x")]

/-- The numbers of wrappers that a dispatcher lists, each with its event. -/
def shape (w : World Unit) : List (String × Option Nat) :=
  (w.listeners 0).map fun x => (x.event, x.handler.wrapper?)

theorem shapes :
    let (zs, v) := errands.foldl (run 0) ([], blank)
    (zs.map Zone.id, shape v, zs.head?.map fun z => shape (v.removeWrapped z (own "x")).2) =
      ([0, 1], [("x", some 0), ("x", some 1), ("x", none), ("y", some 2), ("x", some 3)],
        some [("x", some 1), ("x", none), ("y", some 2)]) := by
  decide

end Crossed

open Crossed in
/-- One of two zones takes back a handler that it has registered twice for an event: the other
zone's wrapper, the listener without one and that for another event are left. -/
theorem keep_step_crossed : ∃ (y z : Zone) (v : World Unit),
    0 < blank.dispatchers.size ∧ (∀ x ∈ blank.listeners 0, x.handler.front? = none) ∧
    (∀ e ∈ errands, e.Own) ∧ errands.foldl (run 0) ([], blank) = ([y, z], v) ∧
    (v.listeners 0).filter (·.isOf y) = (v.zone y).wrappers.map Wrapper.outer ∧
    ((v.removeWrapped y (own "x")).1 = true ↔
      ∃ r ∈ (v.zone y).wrappers, r.inner.same (own "x") = true) ∧
    (v.removeWrapped y (own "x")).2.zone z = v.zone z ∧
    shape v = [("x", some 0), ("x", some 1), ("x", none), ("y", some 2), ("x", some 3)] ∧
    shape (v.removeWrapped y (own "x")).2 = [("x", some 1), ("x", none), ("y", some 2)] := by
  have present : 0 < blank.dispatchers.size := by decide
  have unwrapped : ∀ x ∈ blank.listeners 0, x.handler.front? = none := nofun
  have direct : ∀ e ∈ errands, e.Own := by simp [errands, Own, own, Handler.front?]
  obtain ⟨⟨zs, v⟩, ran⟩ : ∃ s, errands.foldl (run 0) ([], blank) = s := ⟨_, rfl⟩
  have seen := shapes
  rw [ran] at seen
  obtain ⟨ids, before, after⟩ := by simpa only [Prod.mk.injEq] using seen
  obtain ⟨y, rest, rfl, first, more⟩ := List.map_eq_cons_iff.1 ids
  obtain ⟨z, last, rfl, second, none⟩ := List.map_eq_cons_iff.1 more
  obtain rfl := List.map_eq_nil_iff.1 none
  have other : z ≠ y := by
    rintro rfl
    cases first.symm.trans second
  obtain ⟨tables, removals⟩ := keep_step present unwrapped errands direct ran
  obtain ⟨answer, -, -, others⟩ := removals y (by simp) (own "x")
  exact ⟨y, z, v, present, unwrapped, direct, ran, tables y (by simp), answer,
    others z (by simp) other, before, Option.some.inj after⟩

end Errand

end LiveTemplates
