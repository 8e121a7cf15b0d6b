/-
# LiveTemplates.Proofs.Ownership.Attaching -- what attaching adds to the books

While a blueprint is mounted, what its bindings register and the instances inside are added
to the frame, one after the other, whatever is done by methods that are called on the way.
In the end all that was registered for its bindings is the share of the new instance.

* `Adds`: the books agree afterwards, with these shares and instances added to the frame;
* `Adds.binding`, `Adds.wires`: what attaching a binding and wiring copies adds;
* `Adds.attach`: attaching adds the new instance and all instances inside of it, each with its
  share;
* `Attaches.conserves`: if the new instance is noted, the books are conserved.
-/
import LiveTemplates.Proofs.Ownership.Books

namespace LiveTemplates

set_option autoImplicit false

variable {σ : Type}

/-! ## Frames that grow -/

/-- A frame with more shares and instances. -/
def Frame.more (x : Frame) (hs : List (Nat × Share)) (is : List (Instance × Share)) : Frame :=
  { x with held := x.held ++ is, loose := x.loose ++ hs }

/-- Whatever goes on around it, diary and world are in agreement afterwards, with something
added to the frame. -/
structure Adds (diary : σ → Diary) (hs : List (Nat × Share)) (is : List (Instance × Share))
    (w v : World σ) : Prop where
  zones : (diary w.user).zones ⊆ (diary v.user).zones
  books : ∀ {x : Frame} {held : List (Instance × Share)}, Books (diary w.user) x held w →
    ∃ held', Books (diary v.user) (x.more hs is) held' v

namespace Adds

variable {diary : σ → Diary} {hs hs' : List (Nat × Share)} {is is' : List (Instance × Share)}
  {w v y : World σ}

theorem trans (first : Adds diary hs is w v) (second : Adds diary hs' is' v y) :
    Adds diary (hs ++ hs') (is ++ is') w y where
  zones := List.Subset.trans first.zones second.zones
  books books := by
    obtain ⟨held, books⟩ := first.books books
    obtain ⟨held', books⟩ := second.books books
    refine ⟨held', ?_⟩
    simpa only [Frame.more, List.append_assoc] using books

theorem of_conserves (conserves : Conserves diary w v) : Adds diary [] [] w v where
  zones := conserves.zones
  books books := by
    obtain ⟨held, books⟩ := conserves.books books
    refine ⟨held, ?_⟩
    simpa only [Frame.more, List.append_nil] using books

theorem conserves (adds : Adds diary [] [] w v) : Conserves diary w v where
  zones := adds.zones
  books books := by
    obtain ⟨held, books⟩ := adds.books books
    refine ⟨held, ?_⟩
    simpa only [Frame.more, List.append_nil] using books

end Adds

namespace Conserves

variable {diary : σ → Diary} {w v y : World σ}

theorem trans (first : Conserves diary w v) (second : Conserves diary v y) :
    Conserves diary w y :=
  ((Adds.of_conserves first).trans (Adds.of_conserves second)).conserves

theorem beside (besides : w.Besides v) (same : diary v.user = diary w.user) :
    Conserves diary w v :=
  (Move.beside besides same).conserves

/-- The diary is kept by what evaluations, ticks and dispatches do by themselves. -/
theorem hosts {u : UserCode σ} (discreet : u.Discreet diary) : Hosts u (Conserves diary) where
  trans _ _ _ := trans
  minor step := by
    have user (w : World σ) (s : σ) : w.Besides { w with user := s } :=
      .of_zones rfl rfl (Nat.le_refl _)
    cases step with
    | read o member => exact beside (user _ _) (discreet.get o member _)
    | write o member v => exact beside (user _ _) (discreet.set o member v _)
    | report n => exact beside (user _ _) (discreet.notice n _)
    | count z =>
        refine beside ⟨⟨by simp [World.onZone], fun y => ?_, fun y => ?_⟩, fun y => ?_, rfl,
          Nat.le_refl _⟩ rfl
        all_goals
          rw [World.zone_onZone]
          split <;> rfl
    | _ => exact beside (.of_zones rfl rfl (Nat.le_refl _)) rfl
  shows _ _ _ _ := beside (.of_zones rfl rfl (Nat.le_refl _)) rfl
  borrowed w v o borrowed := by
    have aside (w : World σ) (busy : List ObjectId) : Conserves diary w { w with busy := busy } :=
      beside (.of_zones rfl rfl (Nat.le_refl _)) rfl
    exact ((aside w (o :: w.busy)).trans borrowed).trans (aside v _)

end Conserves

/-! ## Bindings -/

namespace Books

variable {d : Diary} {x : Frame} {held : List (Instance × Share)} {w v : World σ} {z : Zone}

/-- Something is registered for somebody. -/
theorem addShare (books : Books d x held w) {h : Share} (onward : w.Onward v)
    (numbered : ∀ l ∈ h.listeners, l.handler.number? ≠ none)
    (new : ∀ r ∈ h.refreshes, (z.id, r.1) ∉ d.ticks)
    (divided : Divided d.zones (h.refreshes.map (z.id, ·) ++ (d.table ++ tableOf x.loose))
      (h.listeners.map (z.id, ·) ++ (d.listeners ++ listOf x.loose)) (held ++ x.held) v) :
    Books d (x.more [(z.id, h)] []) held v where
  sound := books.sound
  live := books.live
  divided := by
    simp only [Frame.more, List.append_nil, tableOf, listOf, List.flatMap_append,
      List.flatMap_singleton]
    refine divided.rest ?_ ?_
    all_goals
      refine List.perm_append_comm.trans (.of_eq ?_)
      rw [List.append_assoc]
      rfl
  bound := by
    intro g member
    rcases List.mem_append.1 member with old | own
    · exact books.bound g old
    · rw [List.mem_singleton.1 own]
      exact numbered
  numbers := by simpa only [Frame.more, List.append_nil] using books.numbers
  given := by
    simp only [Frame.more, List.append_nil]
    exact books.given_onward onward
  ticks := books.ticks_onward onward
  apart := by
    have apart := books.apart
    simp only [Frame.table, List.forall_mem_append] at apart
    simp only [Frame.table, Frame.more, tableOf, List.append_nil, List.flatMap_append,
      List.flatMap_singleton, List.forall_mem_append, List.forall_mem_map]
    exact ⟨⟨apart.1, new⟩, apart.2⟩

/-- Nothing is registered for somebody. -/
theorem addNothing (books : Books d x held w) (z : Zone) : Books d (x.more [(z.id, {})] []) held w :=
  books.addShare (.refl w) nofun nofun books.divided

/-- A refresh is registered for somebody. -/
theorem addRefresh (books : Books d x held w) (inside : z ∈ d.zones) (r : Refresh) :
    Books d (x.more [(z.id, { refreshes := [((w.addRefresh z r).1, r)] })] []) held
      (w.addRefresh z r).2 := by
  refine books.addShare (.addRefresh w z r) nofun (fun s member => ?_)
    (books.divided.addRefresh inside r)
  rw [List.mem_singleton.1 member]
  exact books.tick_new inside

/-- A listener is registered for somebody, under a new number. -/
theorem addWrapped (books : Books d x held w) (inside : z ∈ d.zones) {l : Listener}
    (number : l.handler.number? = some w.serial) :
    Books d (x.more [(z.id, { listeners := [l] })] []) held
      (World.addWrapped z l { w with serial := w.serial + 1 }) := by
  have counted : w.Besides { w with serial := w.serial + 1 } :=
    .of_zones rfl rfl (Nat.le_succ _)
  have onward := counted.onward.trans
    (World.Rewired.addWrapped z l { w with serial := w.serial + 1 }).onward
  have divided := (books.divided.beside counted).addWrapped inside (l := l) (by
    intro n same
    obtain rfl : w.serial = n := Option.some.inj (number.symm.trans same)
    exact ⟨Nat.lt_succ_self _, fun used => Nat.lt_irrefl _ (books.divided.listed.given _ used)⟩)
  refine books.addShare onward (fun l' member => ?_) nofun divided
  rw [List.mem_singleton.1 member, number]
  exact nofun

end Books

namespace Adds

variable {diary : σ → Diary} {u : UserCode σ} (discreet : u.Discreet diary)
  (call : ∀ o method args, Keeps (Conserves diary) (u.call o method args))

include discreet call in
/-- What an input registers: its refresh. -/
theorem input {b : Binding} {e : Expression} {live : NodeId} {o : ObjectId} {z : Zone}
    {w v : World σ} {tick : Nat} (inside : z ∈ (diary w.user).zones)
    (ran : (b.attachInput u e live o z).run w = some (tick, v)) :
    Adds diary [(z.id, { refreshes := [(tick, .bound live b.name e o)] })] [] w v := by
  have hosts := Conserves.hosts discreet
  obtain ⟨_, w₁, added, later⟩ := Run.bind_eq_some.1 ran
  obtain ⟨rfl, rfl⟩ := Prod.mk.inj (Option.some.inj added)
  obtain ⟨r, w₂, shown, later⟩ := Run.bind_eq_some.1 later
  have shows := Keeps.refreshBound hosts.toBears call
    (fun w => hosts.shows w live b.name) e o _ _ _ shown
  let refresh := Refresh.bound live b.name e o
  have first : Adds diary [(z.id, { refreshes := [((w.addRefresh z refresh).1, refresh)] })] []
      w (w.addRefresh z refresh).2 :=
    ⟨List.Subset.refl _, fun books => ⟨_, books.addRefresh inside _⟩⟩
  have rest : Conserves diary w₂ v ∧ tick = (w.addRefresh z refresh).1 := by
    cases r with
    | error e =>
        obtain ⟨_, w₃, noticed, last⟩ := Run.bind_eq_some.1 later
        obtain ⟨rfl, rfl⟩ := Run.pure_eq_some.1 last
        exact ⟨Keeps.notice hosts.toBears _ _ _ _ noticed, rfl⟩
    | ok _ =>
        obtain ⟨rfl, rfl⟩ := Run.pure_eq_some.1 later
        exact ⟨hosts.minor .same, rfl⟩
  obtain ⟨rest, rfl⟩ := rest
  exact first.trans (.of_conserves (shows.trans rest))

/-- What an output registers: its listener, under a new number. -/
theorem output {b : Binding} {e : Expression} {live : NodeId} {o : ObjectId} {z : Zone}
    {w v : World σ} {l : Listener} (inside : z ∈ (diary w.user).zones)
    (ran : (b.attachOutput e live o z).run w = some (l, v)) :
    l = ⟨live, b.name, .bound w.serial b.name e o⟩ ∧
      Adds diary [(z.id, { listeners := [l] })] [] w v := by
  obtain ⟨_, w₁, counted, later⟩ := Run.bind_eq_some.1 ran
  obtain ⟨rfl, rfl⟩ := Prod.mk.inj (Option.some.inj counted)
  obtain ⟨_, w₂, added, last⟩ := Run.bind_eq_some.1 later
  obtain ⟨-, rfl⟩ := Prod.mk.inj (Option.some.inj added)
  obtain ⟨rfl, rfl⟩ := Run.pure_eq_some.1 last
  let l : Listener := ⟨live, b.name, .bound w.serial b.name e o⟩
  have same := World.Rewired.addWrapped z l { w with serial := w.serial + 1 }
  refine ⟨rfl, ?_, fun {_ held} books => ⟨held, ?_⟩⟩
  · rw [same.user]
    exact List.Subset.refl _
  · rw [same.user]
    exact books.addWrapped inside rfl

include discreet call

/-- What is registered when a binding is attached. -/
theorem binding {b : Binding} {live : NodeId} {o : ObjectId} {z : Zone} {w v : World σ}
    {a : Option Attachment} (inside : z ∈ (diary w.user).zones)
    (ran : (b.attach u live o z).run w = some (a, v)) :
    ∃ h, b.Holds live o h ∧ (Attachment.tick? a).toList = h.refreshes.map (·.1) ∧
      (Attachment.listener? a).toList = h.listeners ∧ Adds diary [(z.id, h)] [] w v := by
  unfold Binding.attach at ran
  cases compiled : b.expression with
  | error e =>
      rw [compiled] at ran
      obtain ⟨_, w₁, noticed, last⟩ := Run.bind_eq_some.1 ran
      obtain ⟨rfl, rfl⟩ := Run.pure_eq_some.1 last
      have conserves : Conserves diary w w₁ :=
        Keeps.notice (Conserves.hosts discreet).toBears _ _ _ _ noticed
      refine ⟨{}, .broken compiled, rfl, rfl, conserves.zones, fun books => ?_⟩
      obtain ⟨held, books⟩ := conserves.books books
      exact ⟨held, books.addNothing z⟩
  | ok e =>
      rw [compiled] at ran
      cases kind : b.kind with
      | input =>
          rw [kind] at ran
          obtain ⟨tick, v', attached, last⟩ := Run.bind_eq_some.1 ran
          obtain ⟨rfl, rfl⟩ := Run.pure_eq_some.1 last
          exact ⟨_, .input kind compiled _, rfl, rfl, input discreet call inside attached⟩
      | output =>
          rw [kind] at ran
          obtain ⟨l, v', attached, last⟩ := Run.bind_eq_some.1 ran
          obtain ⟨rfl, rfl⟩ := Run.pure_eq_some.1 last
          obtain ⟨rfl, adds⟩ := output inside attached
          exact ⟨_, .output kind compiled _, rfl, rfl, adds⟩

/-- What is registered when the bindings of an element are attached. -/
theorem bindings {live : NodeId} {o : ObjectId} {z : Zone} {bs : List (Spot × Binding)}
    {new : List (Option Attachment)} {w v : World σ} (inside : z ∈ (diary w.user).zones)
    (row : Run.Row (bs.map fun b => b.2.attach u live o z) w new v) :
    ∃ parts : List Share, List.Forall₂ (fun b part => b.2.Holds live o part) bs parts ∧
      new.filterMap Attachment.tick? = parts.flatMap (·.refreshes.map (·.1)) ∧
      new.filterMap Attachment.listener? = parts.flatMap (·.listeners) ∧
      Adds diary (parts.map (z.id, ·)) [] w v := by
  induction bs generalizing new w with
  | nil =>
      cases row
      exact ⟨[], .nil, rfl, rfl, .of_conserves ((Conserves.hosts discreet).minor .same)⟩
  | cons b bs ih =>
      cases row with
      | cons first later =>
          obtain ⟨h, holds, tick, listener, adds⟩ := binding discreet call inside first
          obtain ⟨parts, each, ticks, listeners, more⟩ := ih (adds.zones inside) later
          refine ⟨h :: parts, .cons holds each, ?_, ?_, adds.trans more⟩
          · rw [List.filterMap_eq_flatMap_toList, List.flatMap_cons, tick,
              ← List.filterMap_eq_flatMap_toList, ticks, List.flatMap_cons]
          · rw [List.filterMap_eq_flatMap_toList, List.flatMap_cons, listener,
              ← List.filterMap_eq_flatMap_toList, listeners, List.flatMap_cons]

/-! ## Instances -/

omit discreet call in
/-- What is added when components are mounted one after the other. -/
theorem row {z : Zone} {xs : List (Run σ Instance)} {new : List Instance} {w v : World σ}
    (discreet : u.Discreet diary) (inside : z ∈ (diary w.user).zones)
    (each : ∀ x ∈ xs, ∀ {w c v}, z ∈ (diary w.user).zones → x.run w = some (c, v) →
      ∃ is : List (Instance × Share), is.map (·.1) = c.all ∧ Adds diary [] is w v)
    (row : Run.Row xs w new v) : ∃ is : List (Instance × Share),
      is.map (·.1) = new.flatMap Instance.all ∧ Adds diary [] is w v := by
  induction row with
  | nil w => exact ⟨[], rfl, .of_conserves ((Conserves.hosts discreet).minor .same)⟩
  | cons first _ ih =>
      obtain ⟨is, own, adds⟩ := each _ (by simp) inside first
      obtain ⟨more, others, adds'⟩ := ih (adds.zones inside)
        fun x member => each x (List.mem_cons_of_mem _ member)
      exact ⟨is ++ more, by rw [List.map_append, own, others, List.flatMap_cons], adds.trans adds'⟩

/-- What is added when copies are wired: what their bindings have registered, and the instances
that are mounted on them. -/
theorem wires {b : Blueprint} {o : ObjectId} {z : Zone} {childObjects : List ObjectId}
    {places : List (List Nat × NodeId)} {s t : Wiring} {w v : World σ}
    (inside : z ∈ (diary w.user).zones)
    (each : ∀ part ∈ Blueprint.mountings u z b.children childObjects, ∀ live {w c v},
      z ∈ (diary w.user).zones → (part.2 live).run w = some (c, v) →
        ∃ is : List (Instance × Share), is.map (·.1) = c.all ∧ Adds diary [] is w v)
    (wires : Wires (b.wire u z o childObjects) places s w t v) :
    ∃ (parts : List Share) (new : List Instance) (is : List (Instance × Share)),
      List.Forall₂ (fun seat part => seat.1.2.Holds seat.2 o part)
        (places.flatMap fun place =>
          (b.bindings.filter (·.1.address = place.1)).map (·, place.2)) parts ∧
      t.ticks = s.ticks ++ parts.flatMap (·.refreshes.map (·.1)) ∧
      t.listeners = s.listeners ++ parts.flatMap (·.listeners) ∧
      t.children = s.children ++ new ∧ is.map (·.1) = new.flatMap Instance.all ∧
      Adds diary (parts.map (z.id, ·)) is w v := by
  have hosts := Conserves.hosts discreet
  induction wires with
  | done s w =>
      exact ⟨[], [], [], .nil, by simp, by simp, by simp, rfl, .of_conserves (hosts.minor .same)⟩
  | @grow places s t w v forest _ ih =>
      obtain ⟨parts, new, is, holds, ticks, listeners, children, all, adds⟩ := ih inside
      have grown : Conserves diary w { w with forest := forest } :=
        .beside (.of_zones rfl rfl (Nat.le_refl _)) rfl
      exact ⟨parts, new, is, holds, ticks, listeners, children, all,
        (of_conserves grown).trans adds⟩
  | @step address live places r s t w v x wired _ ih =>
      obtain ⟨r', w₁, bound, mounted⟩ := Run.bind_eq_some.1 wired
      obtain ⟨attached, rfl, row⟩ := Wiring.wireBindings_row bound
      obtain ⟨here, holds, ticks, listeners, adds⟩ := bindings discreet call inside row
      obtain ⟨made, rfl, row⟩ := Wiring.wireChildren_row mounted
      obtain ⟨children', ticks', listeners'⟩ := Wiring.foldl_add attached r
      obtain ⟨is, all, adds'⟩ := Adds.row discreet (adds.zones inside) (fun x member => by
        obtain ⟨part, inside, rfl⟩ := List.mem_map.1 member
        exact each part (List.mem_of_mem_filter inside) live) row
      have both := adds.trans adds'
      obtain ⟨parts, new, is', holds', ticks'', listeners'', children'', all', more⟩ :=
        ih (both.zones inside)
      refine ⟨here ++ parts, made ++ new, is ++ is', ?_, ?_, ?_, ?_, ?_, ?_⟩
      · rw [List.flatMap_cons]
        exact List.rel_append (List.forall₂_map_left_iff.2 holds) holds'
      · rw [ticks'', ticks', ticks, List.append_assoc, List.flatMap_append]
      · rw [listeners'', listeners', listeners, List.append_assoc, List.flatMap_append]
      · rw [children'', children', List.append_assoc]
      · rw [List.map_append, all, all', List.flatMap_append]
      · rw [List.map_append]
        simpa only [List.append_nil, List.nil_append] using both.trans more

end Adds

/-! ## Mounting -/

/-- An instance gets its share, under a number that no other has. -/
theorem Divided.enroll {zs : List Zone} {rs : List (Nat × Nat × Refresh)}
    {ls : List (Nat × Listener)} {held : List (Instance × Share)} {w : World σ} {i : Instance}
    {h : Share}
    (divided : Divided zs (rs ++ h.refreshes.map (i.zone.id, ·))
      (ls ++ h.listeners.map (i.zone.id, ·)) held w)
    (new : i.serial ∉ held.map (·.1.serial)) (owns : i.Owns σ h) (inside : i.zone ∈ zs)
    (forest : Forest) (mounted : List NodeId) :
    Divided zs rs ls ((i, h) :: held) { w with
      forest := forest
      attached := (i.serial, ⟨h.refreshes.map (·.1), h.listeners, mounted⟩) :: w.attached } := by
  let v : World σ := { w with
    forest := forest
    attached := (i.serial, ⟨h.refreshes.map (·.1), h.listeners, mounted⟩) :: w.attached }
  have found (n : Nat) : v.registrations? n =
      if n = i.serial then some ⟨h.refreshes.map (·.1), h.listeners, mounted⟩
      else w.registrations? n := by
    rw [World.registrations?, List.lookup_cons]
    by_cases same : n = i.serial
    · rw [if_pos same, show (n == i.serial) = true by simpa using same]
    · rw [if_neg same, show (n == i.serial) = false by simpa using same]
      rfl
  refine ⟨divided.laid.resize rfl, ?_, ?_, List.forall_mem_cons.2 ⟨owns, divided.owns⟩,
    List.forall_mem_cons.2 ⟨inside, divided.zones⟩, List.nodup_cons.2 ⟨new, divided.distinct⟩,
    fun p member => ?_, fun n registered => ?_⟩
  · have tabled := divided.tabled.congr (v := v) (.of_zones rfl)
    rwa [List.append_assoc] at tabled
  · have listed := divided.listed.congr (v := v) (fun _ => rfl) (Nat.le_refl _)
    rwa [List.append_assoc] at listed
  · show ∃ mounted, v.registrations? p.1.serial = _
    rw [found]
    rcases List.mem_cons.1 member with rfl | other
    · exact ⟨mounted, if_pos rfl⟩
    · rw [if_neg fun same => new (List.mem_map.2 ⟨p, other, same⟩)]
      exact divided.recorded p other
  · have registered : v.registrations? n ≠ none := registered
    rw [found] at registered
    split at registered
    case isTrue same => exact same ▸ List.mem_cons_self
    case isFalse => exact List.mem_cons_of_mem _ (divided.only n registered)

/-- Several shares as one. -/
def Share.join (parts : List Share) : Share :=
  ⟨parts.flatMap (·.refreshes), parts.flatMap (·.listeners)⟩

namespace Books

variable {d : Diary} {x : Frame} {held is : List (Instance × Share)} {w : World σ}

/-- What was registered for several is put together. -/
theorem gather {n : Nat} {parts : List Share}
    (books : Books d (x.more (parts.map (n, ·)) is) held w) :
    Books d (x.more [(n, .join parts)] is) held w := by
  have table : tableOf (x.loose ++ [(n, .join parts)]) =
      tableOf (x.loose ++ parts.map (n, ·)) := by
    simp [tableOf, Share.join, List.flatMap_map, List.map_flatMap]
  have list : listOf (x.loose ++ [(n, .join parts)]) = listOf (x.loose ++ parts.map (n, ·)) := by
    simp [listOf, Share.join, List.flatMap_map, List.map_flatMap]
  exact
    { books with
      divided := by
        rw [Frame.more, table, list]
        exact books.divided
      bound := by
        intro h member
        rcases List.mem_append.1 member with old | new
        · exact books.bound h (List.mem_append_left _ old)
        · rw [List.mem_singleton.1 new]
          intro l here
          obtain ⟨part, inside, here⟩ := List.mem_flatMap.1 here
          exact books.bound (n, part)
            (List.mem_append_right _ (List.mem_map_of_mem inside)) l here
      apart := by
        rw [Frame.table, Frame.more, table]
        exact books.apart }

/-- A number that is reserved is not that of an instance. -/
theorem serial_new (books : Books d x held w) {n : Nat} (reserved : n ∈ x.reserved) :
    n ∉ (held ++ x.held).map (·.1.serial) := by
  intro member
  refine (List.nodup_append.1 books.numbers).2.2 n ?_ n reserved rfl
  rw [List.map_append, List.mem_append] at member
  refine List.mem_append.2 (member.imp_left fun mine => ?_)
  obtain ⟨p, inside, same⟩ := List.mem_map.1 mine
  have known := books.sound.known _
    (books.live.mem_iff.1 (List.mem_map_of_mem (f := (·.1)) inside))
  exact List.mem_map.2 ⟨p.1, known, same⟩

/-- What was registered for an instance is its share, under the number that was reserved for
it. -/
theorem enroll {i : Instance} {h : Share}
    (books : Books d ({ x with reserved := i.serial :: x.reserved }.more [(i.zone.id, h)] is)
      held w)
    (owns : i.Owns σ h) (inside : i.zone ∈ d.zones) (forest : Forest) (mounted : List NodeId) :
    Books d (x.more [] ((i, h) :: is)) held { w with
      forest := forest
      attached := (i.serial, ⟨h.refreshes.map (·.1), h.listeners, mounted⟩) :: w.attached } := by
  have new := books.serial_new List.mem_cons_self
  obtain ⟨sound, live, divided, bound, numbers, given, ticks, apart⟩ := books
  simp only [Frame.more, Frame.table, tableOf, listOf, List.flatMap_append,
    List.flatMap_singleton, List.append_nil] at new divided bound numbers given apart ⊢
  have moved : (d.known.map (·.serial) ++ (x.held ++ (i, h) :: is).map (·.1.serial) ++
      x.reserved).Perm (d.known.map (·.serial) ++ (x.held ++ is).map (·.1.serial) ++
        i.serial :: x.reserved) := by
    simp only [List.map_append, List.map_cons, List.append_assoc]
    exact .append_left _ (.append_left _ List.perm_middle.symm)
  have last : (held ++ (x.held ++ (i, h) :: is)).Perm ((i, h) :: (held ++ (x.held ++ is))) := by
    rw [← List.append_assoc, ← List.append_assoc]
    exact List.perm_middle
  have entries : (tableOf x.loose ++ tableOf (keyed (held ++ (x.held ++ (i, h) :: is)))).Perm
      (tableOf x.loose ++ h.refreshes.map (i.zone.id, ·) ++
        tableOf (keyed (held ++ (x.held ++ is)))) := by
    rw [List.append_assoc]
    exact ((last.map _).flatMap_right _).append_left _
  rw [← List.append_assoc, ← List.append_assoc] at divided
  exact
    { sound, live
      divided := (divided.enroll new owns inside forest mounted).perm last.symm
      bound := fun g member => bound g (List.mem_append_left _ member)
      numbers := moved.nodup_iff.2 numbers
      given := fun n member => given n (moved.mem_iff.1 member)
      ticks
      apart := fun r member => apart r (entries.mem_iff.1 member) }

/-- A new number is reserved. -/
theorem reserve (books : Books d x held w) :
    Books d { x with reserved := w.serial :: x.reserved } held
      { w with serial := w.serial + 1 } := by
  have counted : w.Besides { w with serial := w.serial + 1 } :=
    .of_zones rfl rfl (Nat.le_succ _)
  have later := books.beside counted
  have perm : (d.known.map (·.serial) ++ x.held.map (·.1.serial) ++ w.serial :: x.reserved).Perm
      (w.serial :: (d.known.map (·.serial) ++ x.held.map (·.1.serial) ++ x.reserved)) :=
    List.perm_middle
  exact
    { later with
      numbers := perm.nodup_iff.2 (List.nodup_cons.2
        ⟨fun used => Nat.lt_irrefl _ (books.given _ used), books.numbers⟩)
      given := fun n member => (List.mem_cons.1 (perm.mem_iff.1 member)).elim
        (fun same => same ▸ Nat.lt_succ_self _) (later.given n) }

end Books

namespace Blueprint.Made

variable {b : Blueprint} (made : b.Made)

include made

/-- What is registered where the copies are wired, in the order of the bindings. -/
theorem shares {places : List (List Nat × NodeId)} {o : ObjectId} {parts : List Share}
    (addresses : places.map (·.1) = b.template.root.completedBelow)
    (each : List.Forall₂ (fun seat part => seat.1.2.Holds seat.2 o part)
      (places.flatMap fun place =>
        (b.bindings.filter (·.1.address = place.1)).map (·, place.2)) parts) :
    ∃ parts' : List Share, parts'.Perm parts ∧
      List.Forall₂ (fun b part => ∃ live, (b.1.address, live) ∈ places ∧ b.2.Holds live o part)
        b.bindings parts' := by
  have ordered : List.Forall₂ _
      (Address.inOrder (places.map (·.1)) (fun b : Spot × Binding => b.1.address) b.bindings) _ :=
    Address.forall₂_inOrder (R := fun b live part => b.2.Holds live o part) each
  rw [addresses] at ordered
  obtain ⟨parts', each, same⟩ := List.perm_comp_forall₂ made.inOrder_bindings_perm.symm ordered
  exact ⟨parts', same, each⟩

end Blueprint.Made

namespace Adds

variable {diary : σ → Diary} {u : UserCode σ} (discreet : u.Discreet diary)
  (call : ∀ o method args, Keeps (Conserves diary) (u.call o method args))

omit call in
include discreet in
/-- Making objects touches nothing that is registered. -/
theorem constructs {cs : List ClassRef} {os : List ObjectId} {w v : World σ}
    (ran : (cs.mapM (Run.construct u)).run w = some (os, v)) : Conserves diary w v := by
  induction cs generalizing os w with
  | nil =>
      obtain ⟨-, rfl⟩ := Run.pure_eq_some.1 ran
      exact (Conserves.hosts discreet).minor .same
  | cons c rest ih =>
      rw [List.mapM_cons] at ran
      obtain ⟨o, w₁, one, ran⟩ := Run.bind_eq_some.1 ran
      obtain ⟨os', w₂, others, last⟩ := Run.bind_eq_some.1 ran
      obtain ⟨-, rfl⟩ := Run.pure_eq_some.1 last
      obtain ⟨-, rfl⟩ := Prod.mk.inj (Option.some.inj one)
      refine (Conserves.beside ?_ (discreet.construct c w.serial w.user)).trans (ih others)
      exact .of_zones rfl rfl (Nat.le_succ _)

include discreet call

/-- Mounting a blueprint adds the new instance and all inside of it, each with its share. -/
theorem mount {b : Blueprint} (made : b.Made) {z : Zone} {o : ObjectId} {host : NodeId}
    {w v : World σ} {i : Instance} (inside : z ∈ (diary w.user).zones)
    (ran : (b.mount u z o host).run w = some (i, v)) :
    ∃ is : List (Instance × Share), is.map (·.1) = i.all ∧ Adds diary [] is w v := by
  induction made generalizing o host w i v with
  | @intro b bindings spots tagged single below ih =>
      have made : b.Made := .intro bindings spots tagged single below
      obtain ⟨places, mounts⟩ := Blueprint.mount_mounts ran
      have copied := mounts.copied
      have objects := mounts.childObjects_eq made
      cases mounts with
      | @intro childObjects s _ w₁ x constructed _ addresses wired mounted forest =>
          have first : Conserves diary w w₁ := constructs discreet constructed
          let counted : World σ := { w₁ with serial := w₁.serial + 1 }
          have here : z ∈ (diary counted.user).zones := first.zones inside
          have each : ∀ part ∈ Blueprint.mountings u z b.children childObjects, ∀ live {w c v},
              z ∈ (diary w.user).zones → (part.2 live).run w = some (c, v) →
                ∃ is : List (Instance × Share), is.map (·.1) = c.all ∧ Adds diary [] is w v := by
            rw [Blueprint.mountings_eq (by simp [show childObjects = _ from objects])]
            intro part member live w c v inside ran
            obtain ⟨child, paired, rfl⟩ := List.mem_map.1 member
            exact ih child.1 (List.of_mem_zip paired).1 inside ran
          obtain ⟨parts, new, is, holds, ticks, listeners, children, all, adds⟩ :=
            wires discreet call here each wired
          obtain ⟨parts', perm, own⟩ := made.shares addresses holds
          let i : Instance := .mk w₁.serial b o childObjects host z s.children
          have owns : i.Owns σ (.join parts) := ⟨u, places, parts', copied, own,
            perm.symm.flatMap_right _, perm.symm.flatMap_right _⟩
          refine ⟨(i, .join parts) :: is, ?_, List.Subset.trans first.zones adds.zones, fun books => ?_⟩
          · rw [List.map_cons, all, Instance.all_eq, Instance.inside, Instance.allOf_eq]
            exact congrArg (i :: List.flatMap Instance.all ·) children.symm
          · obtain ⟨held, books⟩ := first.books books
            obtain ⟨held', books⟩ := adds.books books.reserve
            have enrolled := books.gather.enroll owns (adds.zones here) forest mounted
            rw [ticks, listeners, ← List.map_flatMap]
            exact ⟨held', enrolled⟩

/-- Attaching a blueprint adds the new instance and all inside of it, each with its share. -/
theorem attach {b : Blueprint} (made : b.Made) {z : Zone} {host : NodeId} {w v : World σ}
    {i : Instance} (inside : z ∈ (diary w.user).zones)
    (ran : (b.attach u host z).run w = some (i, v)) :
    ∃ is : List (Instance × Share), is.map (·.1) = i.all ∧ Adds diary [] is w v := by
  obtain ⟨x, mounted, rfl⟩ := Blueprint.attach_mount ran
  have first : Conserves diary w { w with
      pins := z :: w.pins
      serial := w.serial + 1
      user := u.construct b.cls w.serial w.user } :=
    .beside (.of_zones rfl rfl (Nat.le_succ _)) (discreet.construct b.cls w.serial w.user)
  have last : Conserves diary x { x with pins := x.pins.tail } :=
    .beside (.of_zones rfl rfl (Nat.le_refl _)) rfl
  obtain ⟨is, all, adds⟩ := mount discreet call made (first.zones inside) mounted
  refine ⟨is, all, ?_⟩
  simpa only [List.nil_append, List.append_nil] using
    ((of_conserves first).trans adds).trans (of_conserves last)

end Adds

/-! ## Noting instances -/

/-- An instance that was mounted is noted, with all inside of it. -/
theorem Books.noteInstance {d : Diary} {x : Frame} {held is : List (Instance × Share)}
    {w : World σ} {i : Instance} (books : Books d (x.more [] is) held w)
    (all : is.map (·.1) = i.all) : Books (d.attach i) x (held ++ is) w := by
  obtain ⟨sound, live, divided, bound, numbers, given, ticks, apart⟩ := books
  simp only [Frame.more, Frame.table, List.append_nil] at divided bound numbers given apart
  have serials : is.map (·.1.serial) = i.all.map (·.serial) := by
    rw [← all, List.map_map]
    rfl
  have moved : ((d.attach i).known.map (·.serial) ++ x.held.map (·.1.serial) ++ x.reserved).Perm
      (d.known.map (·.serial) ++ (x.held ++ is).map (·.1.serial) ++ x.reserved) := by
    simp only [Diary.attach, List.map_append, serials, List.append_assoc]
    exact (List.perm_append_comm_assoc _ _ _).append_left _
  have last : ((held ++ is) ++ x.held).Perm (held ++ (x.held ++ is)) := by
    rw [List.append_assoc]
    exact List.perm_append_comm.append_left _
  have parts := moved.nodup_iff.2 numbers
  rw [List.append_assoc, Diary.attach, List.map_append, List.append_assoc,
    List.nodup_append] at parts
  exact
    { sound := sound.attach (List.nodup_append.1 parts.2.1).1 fun j known k inside =>
        parts.2.2 _ (List.mem_map_of_mem known) _
          (List.mem_append_left _ (List.mem_map_of_mem inside))
      live := by
        rw [List.map_append, all]
        exact live.append_right _
      divided := divided.perm last.symm
      bound
      numbers := moved.nodup_iff.2 numbers
      given := fun n member => given n (moved.mem_iff.1 member)
      ticks
      apart := fun r member => apart r
        (((last.map _).flatMap_right _).append_left _ |>.mem_iff.1 member) }

/-- If a new instance is noted, the books are conserved. -/
theorem Attaches.conserves {diary : σ → Diary} {u : UserCode σ} (discreet : u.Discreet diary)
    (call : ∀ o method args, Keeps (Conserves diary) (u.call o method args)) {w v : World σ}
    (attaches : Attaches diary u w v) : Conserves diary w v := by
  cases attaches with
  | @intro b made host z inside i v ran s noted =>
      obtain ⟨is, all, adds⟩ := Adds.attach discreet call made inside ran
      have last : v.Besides { v with user := s } := .of_zones rfl rfl (Nat.le_refl _)
      refine ⟨?_, fun books => ?_⟩
      · rw [noted]
        exact adds.zones
      · obtain ⟨held, books⟩ := adds.books books
        rw [noted]
        exact ⟨held ++ is, (books.noteInstance all).beside last⟩

end LiveTemplates
