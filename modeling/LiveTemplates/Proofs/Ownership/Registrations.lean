/-
# LiveTemplates.Proofs.Ownership.Registrations -- nothing is left behind

Whatever is attached and detached, in any order and while whatever else goes on, the
registries of a zone hold three things and no others: what was registered with it directly and
was not taken back, what belongs to the instances on it that are attached, and what the zones
in front of it pass on.

* `Play.conserves`: activities that note what they do conserve the books;
* `Play.fresh`: instances that are noted have objects of their own;
* `Diary.Accounts`: what a diary tells about all registries;
* `Play.accounts`: from a world with no zones, whatever goes on, the diary accounts for all
  that is registered.
-/
import LiveTemplates.Proofs.Instance.Objects
import LiveTemplates.Proofs.Ownership.Attaching
import LiveTemplates.Proofs.Ownership.Deeds

namespace LiveTemplates

set_option autoImplicit false

variable {σ : Type}

/-! ## Conserving the books -/

/-- Activities that note what they do conserve the books. -/
theorem Play.conserves {diary : σ → Diary} {α : Type} {x : Run σ α} (play : Play diary x) :
    Keeps (Conserves diary) x :=
  play.keeps (fun _ _ _ => .trans) Move.conserves Conserves.hosts Attaches.conserves

/-! ## Objects of their own -/

/-- Some objects were made, and those of the instances that were noted meanwhile. -/
def Fresh (diary : σ → Diary) (xs : List (ClassRef × ObjectId)) (w v : World σ) : Prop :=
  ∃ news : List Instance, (diary v.user).known = (diary w.user).known ++ news ∧
    Serials (xs ++ news.map Instance.entry) w v

namespace Fresh

variable {diary : σ → Diary} {w v : World σ}

theorem of_same (same : (diary v.user).known = (diary w.user).known)
    (later : w.serial ≤ v.serial) : Fresh diary [] w v :=
  ⟨[], by rw [same, List.append_nil], later, List.nodup_nil, nofun⟩

theorem append {xs ys : List (ClassRef × ObjectId)} {x : World σ} (first : Fresh diary xs w v)
    (second : Fresh diary ys v x) : Fresh diary (xs ++ ys) w x := by
  obtain ⟨news, same, made⟩ := first
  obtain ⟨news', same', made'⟩ := second
  refine ⟨news ++ news', by rw [same', same, List.append_assoc], (made.append made').perm ?_⟩
  rw [List.map_append, List.append_assoc, List.append_assoc]
  exact (List.perm_append_comm_assoc _ _ _).append_left xs

theorem tallies {u : UserCode σ} (discreet : u.Discreet diary) : Tallies u (Fresh diary) where
  hosts := by
    refine ⟨⟨fun _ _ _ => append, fun step => ?_, fun _ _ _ borrowed => ?_⟩,
      fun _ _ _ _ => of_same rfl (Nat.le_refl _)⟩
    · cases step with
      | read o member => exact of_same (congrArg _ (discreet.get o member _)) (Nat.le_refl _)
      | write o member v => exact of_same (congrArg _ (discreet.set o member v _)) (Nat.le_refl _)
      | report n => exact of_same (congrArg _ (discreet.notice n _)) (Nat.le_refl _)
      | _ => exact of_same rfl (Nat.le_refl _)
    · obtain ⟨news, same, made⟩ := borrowed
      exact ⟨news, same, made.later, made.distinct, made.new⟩
  append := append
  perm same fresh := by
    obtain ⟨news, known, made⟩ := fresh
    exact ⟨news, known, made.perm (same.append_right _)⟩
  plain same later := of_same (by rw [same]) later
  construct c w := by
    refine ⟨[], ?_, Serials.construct u c w⟩
    rw [List.append_nil]
    exact congrArg _ (discreet.construct c w.serial w.user)

end Fresh

namespace Move

variable {diary : σ → Diary} {w v : World σ} (move : Move diary w v)

include move

/-- No instance is noted but where one is attached. -/
theorem known : (diary v.user).known = (diary w.user).known := by
  cases move with
  | beside _ same => exact congrArg Diary.known same
  | newZone _ note => exact (congrArg Diary.known note :)
  | onTick _ note => exact (congrArg Diary.known note :)
  | removeTick _ _ note => exact (congrArg Diary.known note :)
  | listen _ note => exact (congrArg Diary.known note :)
  | unlisten _ note => exact (congrArg Diary.known note :)
  | detach _ note => exact (congrArg Diary.known note :)

theorem later : w.serial ≤ v.serial := by
  cases move with
  | beside besides => exact besides.later
  | newZone | onTick | removeTick => exact Nat.le_refl _
  | listen => exact (World.Rewired.addWrapped _ _ w).later
  | unlisten => exact (World.Rewired.removeWrapped _ _ w).later
  | @detach i => exact (i.detach_onward w).serial

theorem fresh : Fresh diary [] w v :=
  .of_same move.known move.later

end Move

theorem Attaches.fresh {diary : σ → Diary} {u : UserCode σ} (discreet : u.Discreet diary)
    (call : ∀ o method args, Keeps (Fresh diary []) (u.call o method args)) {w v : World σ}
    (attaches : Attaches diary u w v) : Fresh diary [] w v := by
  cases attaches with
  | @intro b made host z _ i v ran s noted =>
      obtain ⟨news, same, serials⟩ := (Fresh.tallies discreet).attach call made ran
      refine ⟨news ++ i.all, ?_, ?_⟩
      · rw [noted, Diary.attach, same, List.append_assoc]
      · have noted : Serials [] v { v with user := s } := .nil (Nat.le_refl _)
        refine (serials.append noted).perm ?_
        rw [List.append_nil, List.nil_append, List.map_append]
        exact List.perm_append_comm

/-- Instances that are noted have objects of their own. -/
theorem Play.fresh {diary : σ → Diary} {α : Type} {x : Run σ α} (play : Play diary x) :
    Keeps (Fresh diary []) x :=
  play.keeps (fun _ _ _ => Fresh.append) Move.fresh
    (fun discreet => (Fresh.tallies discreet).hosts) Attaches.fresh

/-! ## What a diary tells -/

/-- The object that a refresh belongs to, if it is not the user's own. -/
def Refresh.object? : Refresh → Option ObjectId
  | .named _ => none
  | .bound _ _ _ o => some o

/-- The object that a handler belongs to, however often it is wrapped. -/
def Handler.object? : Handler → Option ObjectId
  | .named _ => none
  | .bound _ _ _ o => some o
  | .wrapped _ _ inner => inner.object?

namespace Diary

/-- The refreshes that are noted for a zone, under their numbers. -/
def refreshesOn (d : Diary) (z : Zone) : List (Nat × Refresh) :=
  (d.refreshes.filter (·.1 = z.id)).map fun r => (r.2.1, .named r.2.2)

/-- The listeners that are noted for a zone. -/
def listenersOn (d : Diary) (z : Zone) : List Listener :=
  (d.listeners.filter (·.1 = z.id)).map (·.2)

/-- What a diary tells about all zones there are, with what each attached instance holds.  The
numbers of refreshes and of wrappers are given out in the order in which these are registered,
so where they rise, entries are in this order. -/
structure Accounts (d : Diary) (held : List (Instance × Share)) (w : World σ) : Prop where
  laid : w.Laid d.zones
  live : (held.map (·.1)).Perm d.live
  known : d.live ⊆ d.known
  objects : (d.known.map (·.object)).Nodup
  attached : ∀ i ∈ d.known, w.registrations? i.serial ≠ none ↔ i ∈ d.live
  owns : ∀ p ∈ held, p.1.Owns σ p.2
  refreshes : ∀ z ∈ d.zones, (w.zone z).refreshes.Perm
    (d.refreshesOn z ++ (held.filter (·.1.zone.id = z.id)).flatMap (·.2.refreshes))
  listeners : ∀ z ∈ d.zones, ((w.zone z).wrappers.map (·.inner)).Perm
    (d.listenersOn z ++ (held.filter (·.1.zone.id = z.id)).flatMap (·.2.listeners) ++
      (d.zones.filter (·.next? = some z.id)).flatMap fun y => (w.zone y).wrappers.map (·.outer))
  ticks : ∀ z ∈ d.zones, ((w.zone z).refreshes.map (·.1)).Pairwise (· < ·)
  numbers : ∀ z ∈ d.zones, ∃ ns : List Nat, ns.Pairwise (· < ·) ∧
    (w.zone z).wrappers.map (·.handler.number?) = ns.map some
  gone : ∀ i ∈ d.known, i ∉ d.live → ∀ z ∈ d.zones,
    (∀ r ∈ (w.zone z).refreshes, r.2.object? ≠ some i.object) ∧
    ∀ r ∈ (w.zone z).wrappers, r.inner.handler.object? ≠ some i.object

end Diary

namespace Books

variable {d : Diary} {held : List (Instance × Share)} {w : World σ}

/-- Nothing is registered yet. -/
theorem blank (none : w.zones = #[]) (unattached : w.attached = []) :
    Books (σ := σ) {} {} [] w where
  sound := ⟨nofun, nofun, nofun, nofun, nofun⟩
  live := .nil
  divided :=
    { laid := .nil none
      tabled := .nil w
      listed := .nil w
      owns := nofun
      zones := nofun
      distinct := List.nodup_nil
      recorded := nofun
      only := fun n registered => by simp [World.registrations?, unattached] at registered }
  bound := nofun
  numbers := List.nodup_nil
  given := nofun
  ticks := nofun
  apart := nofun

theorem refreshes_at (books : Books d {} held w) {z : Zone} (inside : z ∈ d.zones) :
    (w.zone z).refreshes.Perm
      (d.refreshesOn z ++ (held.filter (·.1.zone.id = z.id)).flatMap (·.2.refreshes)) := by
  have own := books.divided.tabled.at books.divided.laid inside
  rw [List.filter_append, List.map_append, List.append_nil] at own
  rw [← filter_keyed (·.refreshes)]
  refine own.trans (.of_eq (congrArg (· ++ _) ?_))
  simp [Diary.table, tableOf, Diary.refreshesOn, List.filter_map, Function.comp_def]

theorem listeners_at (books : Books d {} held w) {z : Zone} (inside : z ∈ d.zones) :
    ((w.zone z).wrappers.map (·.inner)).Perm
      (d.listenersOn z ++ (held.filter (·.1.zone.id = z.id)).flatMap (·.2.listeners) ++
        (d.zones.filter (·.next? = some z.id)).flatMap fun y => (w.zone y).wrappers.map (·.outer)) := by
  have own := books.divided.listed.at books.divided.laid inside
  rw [List.filter_append, List.map_append, List.append_nil] at own
  rw [← filter_keyed (·.listeners)]
  refine own.trans (.of_eq (congrArg (· ++ _ ++ _) ?_))
  simp [listOf, Diary.listenersOn]

/-- A refresh that belongs to an object belongs to that of an attached instance. -/
theorem refresh_live (books : Books d {} held w) {z : Zone} (inside : z ∈ d.zones)
    {r : Nat × Refresh} (registered : r ∈ (w.zone z).refreshes) {o : ObjectId}
    (belongs : r.2.object? = some o) : ∃ i ∈ d.live, i.object = o := by
  rcases List.mem_append.1 ((books.refreshes_at inside).mem_iff.1 registered) with direct | part
  · obtain ⟨_, -, rfl⟩ := List.mem_map.1 direct
    cases belongs
  · obtain ⟨p, member, here⟩ := List.mem_flatMap.1 part
    have member := List.mem_of_mem_filter member
    obtain ⟨live, name, e, bound⟩ :=
      (books.divided.owns p (List.mem_append_left _ member)).refreshes_bound r here
    rw [bound] at belongs
    exact ⟨p.1, books.live.mem_iff.1 (List.mem_map_of_mem member), Option.some.inj belongs⟩

/-- A listener of a zone is the user's own, or belongs to an attached instance, or is passed on
by a zone in front. -/
theorem listener_cases (books : Books d {} held w) {z : Zone} (inside : z ∈ d.zones)
    {r : Wrapper} (registered : r ∈ (w.zone z).wrappers) :
    r.inner.handler.number? = none ∨
      (∃ i ∈ d.live, r.inner.handler.object? = some i.object) ∨
        ∃ y ∈ d.zones, ∃ r' ∈ (w.zone y).wrappers, ∃ n,
          r.inner.handler = .wrapped n y r'.inner.handler := by
  have listed := (books.listeners_at inside).mem_iff.1 (List.mem_map_of_mem registered)
  rcases List.mem_append.1 listed with near | passed
  · rcases List.mem_append.1 near with direct | part
    · obtain ⟨e, noted, same⟩ := List.mem_map.1 direct
      rw [← same]
      exact .inl (books.sound.own e (List.mem_of_mem_filter noted))
    · obtain ⟨p, member, here⟩ := List.mem_flatMap.1 part
      have member := List.mem_of_mem_filter member
      obtain ⟨n, event, e, bound⟩ :=
        (books.divided.owns p (List.mem_append_left _ member)).listeners_bound _ here
      exact .inr (.inl ⟨p.1, books.live.mem_iff.1 (List.mem_map_of_mem member), by rw [bound]; rfl⟩)
  · obtain ⟨y, member, here⟩ := List.mem_flatMap.1 passed
    have also := List.mem_of_mem_filter member
    obtain ⟨r', there, same⟩ := List.mem_map.1 here
    obtain ⟨n, wrapped⟩ := books.divided.listed.wrapped y also r' there
    refine .inr (.inr ⟨y, also, r', there, n, ?_⟩)
    rw [← same]
    exact wrapped

/-- A listener that belongs to an object belongs to that of an attached instance, in however
many zones it is wrapped. -/
theorem listener_live (books : Books d {} held w) {o : ObjectId} {h : Handler}
    (belongs : h.object? = some o) {z : Zone} (inside : z ∈ d.zones) {r : Wrapper}
    (registered : r ∈ (w.zone z).wrappers) (same : r.inner.handler = h) :
    ∃ i ∈ d.live, i.object = o := by
  induction h generalizing z r with
  | named => cases belongs
  | bound =>
      rcases books.listener_cases inside registered with own | ⟨i, live, object⟩ | ⟨_, _, _, _, _, no⟩
      · rw [same] at own
        cases own
      · rw [same, belongs] at object
        exact ⟨i, live, (Option.some.inj object).symm⟩
      · cases same.symm.trans no
  | wrapped n y inner ih =>
      rcases books.listener_cases inside registered with
        own | ⟨i, live, object⟩ | ⟨y', also, r', there, n', wrapped⟩
      · rw [same] at own
        cases own
      · rw [same, belongs] at object
        exact ⟨i, live, (Option.some.inj object).symm⟩
      · obtain ⟨-, -, inner⟩ := Handler.wrapped.inj (same.symm.trans wrapped)
        exact ih belongs also there inner.symm

/-- Of the instances that are known, those that are live are attached. -/
theorem attached_iff (books : Books d {} held w) : ∀ i ∈ d.known,
    w.registrations? i.serial ≠ none ↔ i ∈ d.live := by
  intro i known
  constructor
  · intro registered
    have listed := (books.mem_live_iff known).1 (books.divided.only _ registered)
    obtain ⟨j, live, same⟩ := List.mem_map.1 listed
    have numbers := (List.nodup_append.1 (List.nodup_append.1 books.numbers).1).1
    rwa [← List.inj_on_of_nodup_map numbers (books.sound.known j live) known same]
  · intro live
    obtain ⟨p, member, rfl⟩ := List.mem_map.1 (books.live.mem_iff.2 live)
    obtain ⟨_, found⟩ := books.divided.recorded p (List.mem_append_left _ member)
    rw [found]
    exact nofun

/-- What the books tell about all registries. -/
theorem tell (books : Books d {} held w) (objects : (d.known.map (·.object)).Nodup) :
    d.Accounts held w := by
  have known : d.live ⊆ d.known := fun i live => books.sound.known i live
  have different {i : Instance} (member : i ∈ d.known) (gone : i ∉ d.live) :
      ¬ ∃ j ∈ d.live, j.object = i.object := by
    rintro ⟨j, live, same⟩
    exact gone (List.inj_on_of_nodup_map objects (known live) member same ▸ live)
  exact
    { laid := books.divided.laid
      live := books.live
      known
      objects
      attached := books.attached_iff
      owns := fun p member => books.divided.owns p (List.mem_append_left _ member)
      refreshes := fun z => books.refreshes_at
      listeners := fun z => books.listeners_at
      ticks := books.divided.tabled.sorted
      numbers := fun z inside => ⟨_, books.divided.listed.sorted z inside,
        books.divided.listed.numbered_at inside⟩
      gone := fun i member gone z inside =>
        ⟨fun r registered belongs => different member gone
            (books.refresh_live inside registered belongs),
          fun r registered belongs => different member gone
            (books.listener_live belongs inside registered rfl)⟩ }

end Books

/-- From a world without zones, whatever goes on: behind activities that note what they do, the
diary accounts for all that is registered. -/
theorem Play.accounts {diary : σ → Diary} {α : Type} {x : Run σ α} (play : Play diary x)
    {w v : World σ} {a : α} (none : w.zones = #[]) (unattached : w.attached = [])
    (blank : diary w.user = {}) (ran : x.run w = some (a, v)) :
    ∃ held, (diary v.user).Accounts held v := by
  have start : Books (diary w.user) {} [] w := blank ▸ .blank none unattached
  obtain ⟨held, books⟩ := (play.conserves w a v ran).books start
  obtain ⟨news, known, made⟩ := play.fresh w a v ran
  refine ⟨held, books.tell ?_⟩
  have distinct := made.distinct
  rw [List.nil_append, List.map_map] at distinct
  rw [known, blank]
  exact distinct

/-! ### A zone in front of another -/

namespace Stacked

/-- A component with an output, and another in its place with an input. -/
def catalog : Catalog := [("O", ⟨"<i (x)=y>", [⟨"I", true⟩]⟩), ("I", ⟨"<b [z]=y>", []⟩)]

/-- A document that is one element. -/
def blank : World Diary where
  forest := ⟨#[{ data := .element .html "div" [] }]⟩
  document := 0
  user := {}

/-- Whatever the user's code is called for, it detaches the component. -/
def away (_ : String) : List Deed := [.detach 0]

/-- The component is mounted in a zone in front of another. -/
def mounting : Run Diary Unit :=
  Deed.script (.acting away 1) [.newZone none, .newZone (some 0), .attach catalog ⟨"O", true⟩ 0 1]

/-- More is registered with both zones, and the component is detached when an event happens. -/
def leaving : Run Diary Unit :=
  Deed.script (.acting away 1) [.onTick 1 "own", .listen 0 0 "x" "away", .dispatch 0 "x"]

/-- How much is registered with each zone. -/
def shape (w : World Diary) : List (Nat × List Nat × Nat) :=
  w.user.zones.map fun z => (z.id, (w.zone z).refreshes.map (·.1), (w.zone z).wrappers.length)

set_option maxRecDepth 10000 in
theorem shapes :
    (mounting.run blank).bind (fun (_, w) => (leaving.run w).map fun (_, v) =>
      ((w.user.live.map (·.zone.id), w.user.listeners.length, shape w),
        (v.user.known.length, v.user.live.length, shape v))) =
      some (([1, 1], 0, [(0, [], 1), (1, [0], 1)]), (2, 0, [(0, [], 1), (1, [1], 0)])) := by
  cbv

theorem plays : Play id mounting ∧ Play id (mounting >>= fun _ => leaving) := by
  have all := UserCode.acting_script_plays away 1
  exact ⟨all _, .bind (all _) fun _ => all _⟩

end Stacked

/-- After a component was detached while an event was handled, only what was registered
directly is left. -/
theorem Play.accounts_stacked : ∃ (v : World Diary) (held : List (Instance × Share)),
    Play id (Stacked.mounting >>= fun _ => Stacked.leaving) ∧
    Stacked.blank.zones = #[] ∧ Stacked.blank.attached = [] ∧ id Stacked.blank.user = {} ∧
    (Stacked.mounting >>= fun _ => Stacked.leaving).run Stacked.blank = some ((), v) ∧
    (id v.user).Accounts held v ∧ v.user.known.length = 2 ∧ v.user.live.length = 0 ∧
    Stacked.shape v = [(0, [], 1), (1, [1], 0)] := by
  obtain ⟨⟨_, w⟩, first, rest⟩ := Option.bind_eq_some_iff.1 Stacked.shapes
  obtain ⟨⟨_, v⟩, second, facts⟩ := Option.map_eq_some_iff.1 rest
  obtain ⟨known, live, shape⟩ : v.user.known.length = 2 ∧ v.user.live.length = 0 ∧
      Stacked.shape v = [(0, [], 1), (1, [1], 0)] := by
    simpa only [Prod.mk.injEq] using (Prod.mk.inj facts).2
  have ran : (Stacked.mounting >>= fun _ => Stacked.leaving).run Stacked.blank = some ((), v) :=
    Run.bind_eq_some.2 ⟨(), w, first, second⟩
  obtain ⟨held, accounts⟩ := Play.accounts Stacked.plays.2 rfl rfl rfl ran
  exact ⟨v, held, Stacked.plays.2, rfl, rfl, rfl, ran, accounts, known, live, shape⟩

/-- While a component is mounted in a zone in front of another, the zone behind has a listener
that was not registered with it directly, and is not for a component in it. -/
theorem stacked_passed_on : ∃ v : World Diary,
    Play id Stacked.mounting ∧ Stacked.mounting.run Stacked.blank = some ((), v) ∧
    ¬ ∃ held : List (Instance × Share), (held.map (·.1)).Perm v.user.live ∧
      (∀ p ∈ held, p.1.Owns Diary p.2) ∧
      ∀ z ∈ v.user.zones, ((v.zone z).wrappers.map (·.inner)).Perm
        (v.user.listenersOn z ++ (held.filter (·.1.zone.id = z.id)).flatMap (·.2.listeners)) := by
  obtain ⟨⟨_, w⟩, ran, rest⟩ := Option.bind_eq_some_iff.1 Stacked.shapes
  obtain ⟨_, -, facts⟩ := Option.map_eq_some_iff.1 rest
  obtain ⟨ids, direct, shape⟩ : w.user.live.map (·.zone.id) = [1, 1] ∧
      w.user.listeners.length = 0 ∧ Stacked.shape w = [(0, [], 1), (1, [0], 1)] := by
    simpa only [Prod.mk.injEq] using (Prod.mk.inj facts).1
  refine ⟨w, Stacked.plays.1, ran, ?_⟩
  rintro ⟨held, live, -, each⟩
  obtain ⟨z, ys, zones, first, -⟩ := List.map_eq_cons_iff.1 shape
  obtain ⟨number, -, count⟩ : z.id = 0 ∧ (w.zone z).refreshes.map (·.1) = [] ∧
      (w.zone z).wrappers.length = 1 := by
    simpa only [Prod.mk.injEq] using first
  have apart : held.filter (·.1.zone.id = z.id) = [] := by
    refine List.filter_eq_nil_iff.2 fun p member same => ?_
    have inside := live.mem_iff.1 (List.mem_map_of_mem member)
    have listed : p.1.zone.id ∈ w.user.live.map (·.zone.id) := List.mem_map_of_mem inside
    rw [ids, of_decide_eq_true same, number] at listed
    exact absurd listed (by decide)
  have none : w.user.listenersOn z = [] := by
    rw [Diary.listenersOn, List.length_eq_zero_iff.1 direct]
    rfl
  have length := (each z (by rw [zones]; exact List.mem_cons_self)).length_eq
  rw [apart, none, List.length_map, count] at length
  cases length

end LiveTemplates
