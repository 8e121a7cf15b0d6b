/-
# LiveTemplates.Proofs.World.Listeners -- wrappers in front of a dispatcher

A zone in front of a dispatcher remembers a wrapper for each listener, and the dispatcher
lists the wrapped handler.  Taking a listener back through the zone takes back what the zone
remembers.  Handlers that are not the user's own have numbers, by which they are told
apart (`World.Numbered`); so as long as the dispatcher lists just what the zone remembers
for a listener, nothing else goes with it (`World.removeWrapped_front`).

Whatever it is wrapped in, a handler comes down to one of the user's own or to the action of
an output (`Handler.name?`).
-/
import LiveTemplates.Proofs.World.Registries

namespace LiveTemplates

set_option autoImplicit false

variable {σ : Type}

namespace Handler

/-- The name of the user's own handler that it comes down to, however often it is wrapped. -/
def name? : Handler → Option String
  | .named name => some name
  | .bound .. => none
  | .wrapped _ _ inner => inner.name?

/-- The number of the zone that has wrapped it, if one has. -/
def front? : Handler → Option Nat
  | .wrapped _ z _ => some z.id
  | _ => none

theorem number?_of_front? {h : Handler} {n : Nat} (front : h.front? = some n) :
    h.number? ≠ none := by
  cases h <;> simp_all [front?, number?]

/-- The user's own handlers have no numbers as long as they are not wrapped. -/
theorem same_named {h : Handler} {name : String} :
    h.same (.named name) = true ↔ h.name? = some name ∧ h.front? = none := by
  cases h <;> simp [same, name?, front?]

end Handler

/-- With distinct keys, what has a key is the only one that has it. -/
theorem eq_of_key {α κ : Type} {key : α → Option κ} {as : List α}
    (distinct : (as.filterMap key).Nodup) {a b : α} {k : κ} (member : a ∈ as) (also : b ∈ as)
    (first : key a = some k) (second : key b = some k) : a = b := by
  induction as with
  | nil => cases member
  | cons x rest ih =>
      have later {y : α} (inside : y ∈ rest) (own : key y = some k) :
          k ∈ rest.filterMap key := List.mem_filterMap.2 ⟨y, inside, own⟩
      rw [List.filterMap_cons] at distinct
      rcases List.mem_cons.1 member with rfl | inside <;>
        rcases List.mem_cons.1 also with rfl | below
      · rfl
      · rw [first] at distinct
        exact absurd (later below second) (List.nodup_cons.1 distinct).1
      · rw [second] at distinct
        exact absurd (later inside first) (List.nodup_cons.1 distinct).1
      · refine ih ?_ inside below
        split at distinct
        · exact distinct
        · exact (List.nodup_cons.1 distinct).2

/-- With distinct numbers, a handler that has one is taken for itself only. -/
theorem Listener.eq_of_same {ls : List Listener}
    (distinct : (ls.filterMap (·.handler.number?)).Nodup) {a b : Listener} (member : a ∈ ls)
    (also : b ∈ ls) (numbered : b.handler.number? ≠ none) (same : a.same b = true) : a = b := by
  obtain ⟨n, number⟩ := Option.ne_none_iff_exists'.1 numbered
  exact eq_of_key distinct member also ((Listener.number?_eq same).trans number)
    number

namespace World

variable {w : World σ} {d : Nat}

/-! ## The listeners of a dispatcher -/

theorem listeners_onListeners (w : World σ) {d : Nat} (here : d < w.dispatchers.size) (e : Nat)
    (f : List Listener → List Listener) :
    (w.onListeners d f).listeners e = if d = e then f (w.listeners e) else w.listeners e := by
  simp only [listeners, onListeners, Array.getElem?_modify]
  by_cases same : d = e
  · subst same
    simp [here]
  · simp [same]

theorem listeners_self (here : d < w.dispatchers.size) (f : List Listener → List Listener) :
    (w.onListeners d f).listeners d = f (w.listeners d) := by
  rw [listeners_onListeners w here, if_pos rfl]

/-- A change that makes no difference. -/
theorem onListeners_eq_self {f : List Listener → List Listener}
    (same : f (w.listeners d) = w.listeners d) : w.onListeners d f = w := by
  have dispatchers : w.dispatchers.modify d f = w.dispatchers := by
    apply Array.ext_getElem?
    intro i
    rw [Array.getElem?_modify]
    split
    case isTrue here =>
      subst here
      cases found : w.dispatchers[d]? with
      | none => rfl
      | some ls => simpa [listeners, found] using same
    case isFalse => rfl
  rw [onListeners, dispatchers]

theorem onListeners_onListeners (w : World σ) (d : Nat) (f g : List Listener → List Listener) :
    (w.onListeners d f).onListeners d g = w.onListeners d fun ls => g (f ls) := by
  have dispatchers : (w.dispatchers.modify d f).modify d g =
      w.dispatchers.modify d fun ls => g (f ls) := by
    apply Array.ext_getElem?
    intro i
    simp only [Array.getElem?_modify]
    split
    · rw [Option.map_map]
      rfl
    · rfl
  rw [onListeners, onListeners, onListeners, dispatchers]

theorem onListeners_congr {f g : List Listener → List Listener}
    (same : f (w.listeners d) = g (w.listeners d)) : w.onListeners d f = w.onListeners d g := by
  have dispatchers : w.dispatchers.modify d f = w.dispatchers.modify d g := by
    apply Array.ext_getElem?
    intro i
    rw [Array.getElem?_modify, Array.getElem?_modify]
    split
    case isTrue here =>
      subst here
      cases found : w.dispatchers[d]? with
      | none => rfl
      | some ls => simpa [listeners, found] using same
    case isFalse => rfl
  rw [onListeners, onListeners, dispatchers]

/-! ## Taking back through a zone -/

/-- The numbers of what a dispatcher lists are distinct, and were given out. -/
structure Numbered (w : World σ) (d : Nat) : Prop where
  distinct : ((w.listeners d).filterMap (·.handler.number?)).Nodup
  given : ∀ n ∈ (w.listeners d).filterMap (·.handler.number?), n < w.serial

/-- Taking back what is listed of one kind, one after the other, leaves the rest, if nothing else
is taken for one of them. -/
theorem foldl_takeBack {l : Listener} {p : Listener → Bool} {rs : List Wrapper}
    (outer : ∀ r ∈ rs, { l with handler := r.handler } = r.outer) (here : d < w.dispatchers.size)
    (apart : ∀ x ∈ w.listeners d, ∀ y ∈ w.listeners d, p y = true → x.same y = true → p x = true)
    (table : rs.map Wrapper.outer = (w.listeners d).filter p) (removed : Bool) :
    (rs.foldl (fun (removed, w) r =>
      let (one, w) := removeListener (.dispatcher d) { l with handler := r.handler } w
      (removed || one, w)) (removed, w)) =
      (removed || !rs.isEmpty, w.onListeners d (·.filter (!p ·))) := by
  induction rs generalizing w removed with
  | nil =>
      have none : (w.listeners d).filter p = [] := table.symm
      have same : (w.listeners d).filter (!p ·) = w.listeners d :=
        List.filter_eq_self.2 fun x member => by simpa using List.filter_eq_nil_iff.1 none x member
      rw [onListeners_eq_self same]
      simp
  | cons r rest ih =>
      rw [List.map_cons] at table
      obtain ⟨front, back, split, before, first, later⟩ := List.filter_eq_cons_iff.1 table.symm
      have listed : r.outer ∈ w.listeners d := by
        rw [split]
        simp
      -- what stands in front of it is of another kind, so it is not taken for it
      have other : ∀ x ∈ front, ¬ x.same r.outer = true := by
        intro x member same
        have inside : x ∈ w.listeners d := by
          rw [split]
          exact List.mem_append_left _ member
        exact before x member (apart x inside _ listed first same)
      have erased : (w.listeners d).eraseP (·.same r.outer) = front ++ back := by
        rw [split, List.eraseP_append_right _ other]
        exact congrArg (front ++ ·) (List.eraseP_cons_of_pos (Listener.same_self r.outer))
      have any : (w.listeners d).any (·.same r.outer) = true :=
        List.any_eq_true.2 ⟨_, listed, Listener.same_self _⟩
      let v := w.onListeners d (·.eraseP (·.same r.outer))
      have left : v.listeners d = front ++ back := by rw [listeners_self here, erased]
      have sub : (front ++ back).Sublist (w.listeners d) := by
        rw [split]
        exact (List.sublist_cons_self _ _).append_left _
      have step : removeListener (.dispatcher d) { l with handler := r.handler } w = (true, v) := by
        rw [outer r (by simp), removeListener, any]
      have none : front.filter p = [] := List.filter_eq_nil_iff.2 before
      rw [List.foldl_cons]
      dsimp only
      rw [step]
      dsimp only
      have others : ∀ r ∈ rest, { l with handler := r.handler } = r.outer := fun r member =>
        outer r (List.mem_cons_of_mem _ member)
      have apart' : ∀ x ∈ v.listeners d, ∀ y ∈ v.listeners d, p y = true → x.same y = true →
          p x = true :=
        left ▸ fun x member y also => apart x (sub.subset member) y (sub.subset also)
      have table' : rest.map Wrapper.outer = (v.listeners d).filter p := by
        rw [left, List.filter_append, none, List.nil_append, later]
      rw [ih others (by simpa [v, onListeners]) apart' table' (removed || true)]
      have same : ((w.listeners d).eraseP (·.same r.outer)).filter (!p ·) =
          (w.listeners d).filter (!p ·) := by
        rw [erased, split]
        simp [first]
      rw [onListeners_onListeners, onListeners_congr (g := fun ls => ls.filter (!p ·)) same]
      simp

/-- Where a dispatcher lists what a zone in front of it remembers for a listener, and nothing
else is taken for one of these, taking the listener back through the zone takes back just
these. -/
theorem removeWrapped_apart {id : Nat} {l : Listener} {p : Listener → Bool}
    (here : d < w.dispatchers.size)
    (apart : ∀ x ∈ w.listeners d, ∀ y ∈ w.listeners d, p y = true → x.same y = true → p x = true)
    (table : ((w.zone (.mk id (.dispatcher d))).wrappers.filter (·.inner.same l)).map
      Wrapper.outer = (w.listeners d).filter p) :
    removeWrapped (.mk id (.dispatcher d)) l w =
      ((w.listeners d).any p, (w.onZone (.mk id (.dispatcher d)) fun s =>
        { s with wrappers := s.wrappers.filter fun r => !r.inner.same l }).onListeners d
          (·.filter (!p ·))) := by
  rw [removeWrapped]
  dsimp only
  rw [foldl_takeBack (w := w.onZone _ _) (p := p) ?_ here apart table]
  · refine Prod.ext ?_ rfl
    have count := congrArg List.length table
    rw [List.length_map, ← List.countP_eq_length_filter (p := p)] at count
    cases any : (w.listeners d).any p with
    | true =>
        obtain ⟨x, member, holds⟩ := List.any_eq_true.1 any
        have some : 0 < (w.listeners d).countP p := List.countP_pos_iff.2 ⟨x, member, holds⟩
        rw [← count] at some
        simpa [List.isEmpty_iff, ← List.length_eq_zero_iff] using Nat.ne_of_gt some
    | false =>
        have none : (w.listeners d).countP p = 0 :=
          List.countP_eq_zero.2 fun x member => by simpa using List.any_eq_false.1 any x member
        rw [none] at count
        simp [List.length_eq_zero_iff.1 count]
  · intro r member
    obtain ⟨node, event⟩ := Listener.isFor_of_same (of_decide_eq_true (by
      simpa using (List.mem_filter.1 member).2))
    simp [Wrapper.outer, node, event]

/-- So it is where the handlers that are listed for it have numbers, and these are distinct. -/
theorem removeWrapped_front {id : Nat} {l : Listener} {p : Listener → Bool}
    (here : d < w.dispatchers.size) (numbered : w.Numbered d)
    (wrapped : ∀ x ∈ w.listeners d, p x = true → x.handler.number? ≠ none)
    (table : ((w.zone (.mk id (.dispatcher d))).wrappers.filter (·.inner.same l)).map
      Wrapper.outer = (w.listeners d).filter p) :
    removeWrapped (.mk id (.dispatcher d)) l w =
      ((w.listeners d).any p, (w.onZone (.mk id (.dispatcher d)) fun s =>
        { s with wrappers := s.wrappers.filter fun r => !r.inner.same l }).onListeners d
          (·.filter (!p ·))) := by
  refine removeWrapped_apart here (fun x member y also holds same => ?_) table
  rw [Listener.eq_of_same numbered.distinct member also (wrapped y also holds) same]
  exact holds

end World

end LiveTemplates
