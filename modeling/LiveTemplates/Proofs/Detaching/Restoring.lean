/-
# LiveTemplates.Proofs.Detaching.Restoring -- detaching at once what was attached

What attaching has added belongs to the new instance and those inside of it, and has numbers that
nothing else has.  So clearing the world of what these hold leaves what was there before, if nothing
else was done meanwhile.

* `World.Extends.concerns_old`, `World.Extends.concerns_new`: whom an entry concerns that was there
  before, and one that is new;
* `World.Restored`: a world is as it was before;
* `World.Sound.restores`: it is so once more when an instance was attached and detached.
-/
import LiveTemplates.Proofs.Detaching.Dealings
import LiveTemplates.Proofs.Detaching.Extending

namespace LiveTemplates

set_option autoImplicit false

variable {σ : Type}

namespace World

/-! ## What is registered -/

namespace Strung

variable {w : World σ} {ts : List Thread}

/-- A listener of a dispatcher belongs to a thread. -/
theorem listener_thread (strung : w.Strung ts) {d : Nat} {l : Listener} (listed : l ∈ w.listeners d) :
    ∃ t ∈ ts, l.base = t.listener := by
  have inside : d < w.dispatchers.size := by
    by_contra outside
    rw [listeners, Array.getElem?_eq_none (Nat.le_of_not_lt outside)] at listed
    cases listed
  rw [(woven_iff.1 strung.woven).1 d inside] at listed
  obtain ⟨t, member, here⟩ := List.mem_flatMap.1 listed
  refine ⟨t, member, (Target.lists_base _ _ _ here).trans ?_⟩
  exact Listener.base_of_unwrapped (strung.unwrapped t member)

/-- So does a listener of a zone. -/
theorem wrapper_thread (strung : w.Strung ts) {k : Nat} {r : Wrapper}
    (listed : r ∈ (w.registry k).wrappers) : ∃ t ∈ ts, r.inner.base = t.listener := by
  have inside : k < w.zones.size := by
    by_contra outside
    rw [registry_outside outside] at listed
    cases listed
  rw [(woven_iff.1 strung.woven).2 k inside] at listed
  obtain ⟨t, member, here⟩ := List.mem_flatMap.1 listed
  refine ⟨t, member, (Target.keeps_base _ _ _ here).trans ?_⟩
  exact Listener.base_of_unwrapped (strung.unwrapped t member)

end Strung

/-! ## Clearing what is new -/

theorem registrations?_ne_none {w : World σ} {p : Nat × Registrations} (member : p ∈ w.attached) :
    w.registrations? p.1 ≠ none := fun none => by
  have other := List.lookup_eq_none_iff.1 none p member
  simp at other

/-- Registries hold what they did, and the same instances are attached. -/
structure Registers (w v : World σ) : Prop where
  refreshes : ∀ z, (v.zone z).refreshes = (w.zone z).refreshes
  wrappers : ∀ z, (v.zone z).wrappers = (w.zone z).wrappers
  dispatchers : v.dispatchers = w.dispatchers
  attached : v.attached = w.attached

section Clearing

variable {w x : World σ} {zs ys : List Zone} {ts ts' : List Thread} {a : Account}
  {is : List Instance} (before : w.Sound zs ts a)
  (after : x.Sound ys ts' (a.append { instances := is })) (grown : w.Extends x)

include before grown

/-- Instances that were known before have recorded what they had. -/
theorem Extends.registrations? : ∀ i ∈ a.instances,
    x.registrations? i.serial = w.registrations? i.serial := by
  intro i known
  obtain ⟨new, all, later⟩ := grown.attached
  have given := before.enrolled.given _ (List.mem_append_left _ (List.mem_map_of_mem known))
  have none : new.lookup i.serial = none := List.lookup_eq_none_iff.2 fun p member => by
    simpa using (Nat.ne_of_gt (Nat.lt_of_lt_of_le given (later p member))).symm
  rw [World.registrations?, World.registrations?, all, List.lookup_append, none]
  rfl

theorem Extends.collected {α : Type} (f : Instance → Registrations → List α) :
    x.collected f (a.instances ++ is) = w.collected f a.instances ++ x.collected f is := by
  rw [collected_append, collected_congr (Extends.registrations? before grown)]

include after

/-- A refresh that is registered is new if it is one of the new instances. -/
theorem Extends.refreshes_clear (k : Nat) :
    ((x.clear (x.holdings is)).registry k).refreshes = (w.registry k).refreshes := by
  have ticketed := after.ticketed
  rw [ticksOf, Account.append, Extends.collected before grown] at ticketed
  simp only [List.append_nil] at ticketed
  rw [← List.append_assoc] at ticketed
  rw [registry_clear]
  refine (grown.refreshes k).filter_eq (fun r old => ?_) fun r listed new => ?_
  · have known := before.ticketed.listed k r old
    have stays : (k, r.1) ∉ x.ticksOf is := fun taken =>
      (List.nodup_append.1 ticketed.distinct).2.2 _ known _ taken rfl
    simpa [holdings] using stays
  · have own : (k, r.1) ∈ x.ticksOf is :=
      (List.mem_append.1 (ticketed.listed k r listed)).resolve_left fun known =>
        Nat.not_lt_of_le new (before.ticketed.given _ known).2
    simpa [holdings] using own

/-- The claims of the new instances come after those that were there before. -/
theorem Extends.claimed : Claimed ts' a.numbers
    (a.listeners ++ w.listenersOf a.instances ++ x.listenersOf is) x.serial := by
  have claimed := after.claimed
  rw [listenersOf, Account.append, Extends.collected before grown] at claimed
  simp only [List.append_nil] at claimed
  rwa [← List.append_assoc] at claimed

/-- A listener that was there before is none of the new instances. -/
theorem Extends.concerns_old {l : Listener} (thread : ∃ t ∈ ts, l.base = t.listener) :
    (x.holdings is).concerns l = false := by
  have claimed := Extends.claimed before after grown
  obtain ⟨t, member, base⟩ := thread
  by_contra concerned
  obtain ⟨e, listed, same⟩ := List.any_eq_true.1 (Bool.eq_true_of_not_eq_false concerned)
  obtain ⟨c, taken, rfl⟩ := List.mem_map.1 listed
  obtain ⟨n, number⟩ := Option.ne_none_iff_exists'.1
    (claimed.bound c (List.mem_append_right _ taken))
  rw [base] at same
  -- the number is known from before, and once more from the new instances
  have known : n ∈ a.numbers ++ (a.listeners ++ w.listenersOf a.instances).filterMap
      (·.2.handler.number?) := by
    have own := (Listener.number?_eq same).trans number
    rcases before.claimed.traced t member n own with loose | ⟨d, claim, -, listener⟩
    · exact List.mem_append_left _ loose
    · exact List.mem_append_right _ (List.mem_filterMap.2 ⟨d, claim, listener ▸ own⟩)
  have distinct := claimed.distinct
  rw [List.filterMap_append, ← List.append_assoc] at distinct
  exact (List.nodup_append.1 distinct).2.2 n known n (List.mem_filterMap.2 ⟨c, taken, number⟩) rfl

/-- A listener with a new number is one of the new instances. -/
theorem Extends.concerns_new {l : Listener} (thread : ∃ t ∈ ts', l.base = t.listener)
    (new : l.Since w.serial) : (x.holdings is).concerns l = true := by
  obtain ⟨t, member, base⟩ := thread
  obtain ⟨n, later, number⟩ := new
  have old {m : Nat} (known : m ∈ a.numbers ++ (a.listeners ++ w.listenersOf a.instances).filterMap
      (·.2.handler.number?)) : m ≠ n :=
    Nat.ne_of_lt (Nat.lt_of_lt_of_le (before.claimed.given m known) later)
  rw [base] at number
  rcases (Extends.claimed before after grown).traced t member n number with loose | ⟨c, claim, -, own⟩
  · exact absurd rfl (old (List.mem_append_left _ loose))
  · rcases List.mem_append.1 claim with known | taken
    · exact absurd rfl (old (List.mem_append_right _ (List.mem_filterMap.2 ⟨c, known, own ▸ number⟩)))
    · refine List.any_eq_true.2 ⟨c.2, List.mem_map_of_mem taken, ?_⟩
      rw [base, own]
      exact c.2.same_self

/-- So registries hold what they did, and the same instances are attached, when what the new
instances hold is cleared. -/
theorem Extends.clear_registers : w.Registers (x.clear (x.holdings is)) where
  refreshes z := Extends.refreshes_clear before after grown z.id
  wrappers z := by
    have cleared := registry_clear x (x.holdings is) z.id
    refine (congrArg (·.wrappers) cleared).trans ((grown.wrappers z.id).filter_eq ?_ ?_)
    · intro r old
      rw [Extends.concerns_old before after grown (before.strung.wrapper_thread old)]
      rfl
    · intro r listed new
      rw [Extends.concerns_new before after grown (after.strung.wrapper_thread listed) new]
      rfl
  dispatchers := by
    refine Array.ext_getElem? fun d => ?_
    have cleared : (x.clear (x.holdings is)).dispatchers[d]? =
        (x.dispatchers[d]?).map (x.holdings is).leave := Array.getElem?_mapIdx
    rw [cleared]
    by_cases inside : d < w.dispatchers.size
    · have also : d < x.dispatchers.size := grown.dispatchers ▸ inside
      have left : (x.holdings is).leave (x.listeners d) = w.listeners d := by
        refine (grown.listeners d).filter_eq (fun l old => ?_) fun l listed new => ?_
        · rw [Extends.concerns_old before after grown (before.strung.listener_thread old)]
          rfl
        · rw [Extends.concerns_new before after grown (after.strung.listener_thread listed) new]
          rfl
      simpa [World.listeners, inside, also] using left
    · have also : ¬ d < x.dispatchers.size := grown.dispatchers ▸ inside
      simp [inside, also]
  attached := by
    obtain ⟨new, all, later⟩ := grown.attached
    have distinct := (List.nodup_append.1 after.enrolled.distinct).1
    rw [Account.append, List.map_append] at distinct
    have cleared : (x.clear (x.holdings is)).attached =
        (new ++ w.attached).filter fun p => p.1 ∉ is.map (·.serial) := by rw [← all]; rfl
    have gone : (new.filter fun p => p.1 ∉ is.map (·.serial)) = [] := by
      refine List.filter_eq_nil_iff.2 fun p member free => of_decide_eq_true free ?_
      have listed := after.enrolled.only p.1 (registrations?_ne_none
        (all ▸ List.mem_append_left _ member))
      rw [Account.append, List.map_append] at listed
      refine (List.mem_append.1 listed).resolve_left fun known => ?_
      have given := before.enrolled.given _ (List.mem_append_left _ known)
      exact Nat.not_lt_of_le (later p member) given
    rw [cleared, List.filter_append, gone, List.nil_append]
    refine List.filter_eq_self.2 fun p member => decide_eq_true fun taken => ?_
    have known := before.enrolled.only p.1 (registrations?_ne_none member)
    exact (List.nodup_append.1 distinct).2.2 _ known _ taken rfl

end Clearing

/-! ## Nodes that are new -/

/-- The nodes of a world are all the nodes of some trees in another, and what was attached since has
mounted others. -/
structure Puts (w v : World σ) : Prop where
  closed : v.Reserves (· < w.forest.size)
  attached : ∃ new, v.attached = new ++ w.attached ∧
    ∀ p ∈ new, ∀ n ∈ p.2.mounted, ¬ n < w.forest.size

theorem guards_puts (w : World σ) : Guards (· < w.forest.size) w.Puts := by
  have guards := Reserves.guards (σ := σ) (· < w.forest.size)
  exact
    { closed := fun puts => puts.closed
      agrees := fun puts agrees => ⟨guards.agrees puts.closed agrees, agrees.attached ▸ puts.attached⟩
      forest := fun puts leaves => ⟨guards.forest puts.closed leaves, puts.attached⟩
      refresh := fun puts free z attr e o => ⟨guards.refresh puts.closed free z attr e o, puts.attached⟩
      wrapped := fun {v _} puts free z event h => ⟨guards.wrapped puts.closed free z event h,
        (Rewired.addWrapped z ⟨_, event, h⟩ v).attached ▸ puts.attached⟩
      enroll := fun puts _ mounted serial => by
        obtain ⟨new, all, each⟩ := puts.attached
        exact ⟨puts.closed, _ :: new, congrArg (_ :: ·) all,
          List.forall_mem_cons.2 ⟨fun n member => (mounted n member).away, each⟩⟩ }

theorem Grounded.puts {w : World σ} (grounded : w.Grounded) : w.Puts w where
  closed :=
    { inside := fun _ less => less
      listed := fun k n child => by
        have there := (grounded.listed k n child).1
        refine ⟨there, fun _ => ?_, fun _ => there⟩
        by_contra outside
        rw [Forest.children, Array.getElem?_eq_none (Nat.le_of_not_lt outside)] at child
        cases child }
  attached := ⟨[], rfl, nofun⟩

end World

/-- Where nodes were put at the end of a node's children and taken off again, the node is as it was,
if neither the node nor any other of its children was taken off. -/
theorem Forest.getElem?_without {f g : Forest} {pairs : List (NodeId × NodeId)} {host n : NodeId}
    {ms : List NodeId} (put : g.nodes[n]? = if n = host then
      (f.nodes[n]?).map fun node => { node with children := node.children ++ ms } else f.nodes[n]?)
    (own : ∀ m ∈ ms, (host, m) ∈ pairs) (others : ∀ c ∈ f.children n, (n, c) ∉ pairs)
    (off : ∀ p ∈ pairs, p.2 ≠ n) : (g.without pairs).nodes[n]? = f.nodes[n]? := by
  have stays : ¬ g.takesOff pairs n := fun ⟨p, member, same, _⟩ => off p member same
  rw [without, Array.getElem?_mapIdx, put]
  simp only [if_neg stays]
  cases found : f.nodes[n]? with
  | none => split <;> rfl
  | some node =>
      have kept : (node.children.filter fun c => (n, c) ∉ pairs) = node.children :=
        List.filter_eq_self.2 fun c child => decide_eq_true
          (others c (by rw [Forest.children, found]; exact child))
      split
      case isTrue here =>
        subst here
        have gone : (ms.filter fun m => (n, m) ∉ pairs) = [] :=
          List.filter_eq_nil_iff.2 fun m member free => of_decide_eq_true free (own m member)
        simp only [Option.map_some, List.filter_append, kept, gone, List.append_nil]
      case isFalse => simp only [Option.map_some, kept]

namespace World

/-! ## Attaching and detaching -/

/-- A world is as it was, apart from nodes that are new. -/
structure Restored (w v : World σ) : Prop extends w.Registers v where
  nodes : ∀ n, n < w.forest.size → v.forest.nodes[n]? = w.forest.nodes[n]?

section Attaching

variable {w x : World σ} {zs ys : List Zone} {ts ts' : List Thread} {a : Account} {i : Instance}
  (before : w.Sound zs ts a) (after : x.Sound ys ts' (a.append { instances := i.all }))

include before after

/-- What the new instances have mounted is new. -/
theorem mounted_new {new : List (Nat × Registrations)} (all : x.attached = new ++ w.attached)
    (each : ∀ p ∈ new, ∀ n ∈ p.2.mounted, ¬ n < w.forest.size) :
    ∀ p ∈ x.mountedOf i.all, ¬ p.2 < w.forest.size := by
  intro p member
  obtain ⟨j, inside, here⟩ := mem_collected.1 member
  obtain ⟨n, mounted, rfl⟩ := List.mem_map.1 here
  have distinct := (List.nodup_append.1 after.enrolled.distinct).1
  rw [Account.append, List.map_append] at distinct
  -- none of them was attached before, so the registrations are among the new ones
  have none : w.attached.lookup j.serial = none := by
    by_contra registered
    exact (List.nodup_append.1 distinct).2.2 _ (before.enrolled.only _ registered) _
      (List.mem_map_of_mem inside) rfl
  rw [recorded, registrations?, all, List.lookup_append, none, Option.or_none] at mounted
  cases found : new.lookup j.serial with
  | none =>
      rw [found] at mounted
      cases mounted
  | some r =>
      rw [found] at mounted
      obtain ⟨front, back, parts, -⟩ := List.lookup_eq_some_iff.1 found
      exact each (j.serial, r) (by simp [parts]) n mounted

end Attaching

/-- Attaching an instance and detaching it at once leaves everything as it was, apart from nodes that
are new. -/
theorem Sound.restores {w : World σ} {zs : List Zone} {ts : List Thread} {a : Account}
    (before : w.Sound zs ts a) (grounded : w.Grounded) {z : Zone} (inside : z ∈ zs) {host : NodeId}
    (there : host < w.forest.size) {b : Blueprint} (free : b.CallFree) (u : UserCode σ) :
    ∃ i x, (b.attach u host z).run w = some (i, x) ∧ w.Restored (i.detach x) := by
  obtain ⟨i, x, ran⟩ := free.attach_halts u host z w
  have grown := free.attach_extends ran
  refine ⟨i, x, ran, ?_⟩
  rw [← free.attach_deaf] at ran
  have spares : u.deaf.Spares fun _ => ({} : Ledger) :=
    ⟨fun _ _ _ => rfl, fun _ _ _ _ => rfl, fun _ _ _ => rfl, fun _ _ => rfl⟩
  have given := (Grants.gives spares z).attach UserCode.keeps_deaf ran
  obtain ⟨ys, ts', -, after⟩ := given.fits zs a (List.cons_subset.2 ⟨inside, List.nil_subset _⟩)
    ⟨zs, ts, List.Subset.refl _, before⟩
  have after : x.Sound ys ts' (a.append { instances := i.all }) := after
  obtain ⟨rfl, -, y, r, puts, noted, away, nodes⟩ :=
    (guards_puts w).attach_within UserCode.keeps_deaf grounded.puts there ran
  obtain ⟨new, all, each⟩ := puts.attached
  have entries : x.attached = ((i.serial, r) :: new) ++ w.attached := by
    rw [noted, all]
    rfl
  have mounted := mounted_new before after entries
    (List.forall_mem_cons.2 ⟨away, each⟩)
  have own : ∀ n ∈ r.mounted, (i.host, n) ∈ x.mountedOf i.all := fun n member => by
    refine mem_collected.2 ⟨i, i.mem_all_self, List.mem_map_of_mem ?_⟩
    rw [recorded, registrations?, noted, List.lookup_cons_self]
    exact member
  rw [(after.detach_one (List.mem_append_right _ i.mem_all_self)).1]
  refine ⟨Extends.clear_registers before after grown, fun n less => ?_⟩
  refine Forest.getElem?_without (nodes n less) own (fun c child taken => ?_) fun p taken same => ?_
  · exact mounted _ taken (grounded.listed n c child).1
  · exact mounted p taken (same ▸ less)

end World

end LiveTemplates
