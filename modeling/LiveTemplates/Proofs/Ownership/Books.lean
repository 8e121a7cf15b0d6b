/-
# LiveTemplates.Proofs.Ownership.Books -- a diary agrees with the world

At any time the registries of all zones hold what a diary notes and what the attached
instances hold.  While a blueprint is being mounted there is more: what its bindings have
registered so far, and the instances inside that are mounted already.  The diary knows
nothing of these, so nothing that goes with notes in it touches them (`Frame`).

* `Books`: diary, frame and world agree;
* `Conserves`: whatever the frame, if they agreed before then they do afterwards;
* `Move.conserves`: each change that goes with a note conserves the books.
-/
import LiveTemplates.Proofs.Ownership.Shares

namespace LiveTemplates

set_option autoImplicit false

variable {σ : Type}

/-! ## Registering and taking back -/

namespace Divided

variable {zs : List Zone} {rs mine : List (Nat × Nat × Refresh)} {ls own : List (Nat × Listener)}
  {held : List (Instance × Share)} {w v : World σ}

theorem rest (divided : Divided zs rs ls held w) {rs' : List (Nat × Nat × Refresh)}
    {ls' : List (Nat × Listener)} (refreshes : rs.Perm rs') (listeners : ls.Perm ls') :
    Divided zs rs' ls' held w :=
  { divided with
    tabled := divided.tabled.perm (refreshes.append_right _)
    listed := divided.listed.perm (listeners.append_right _) }

/-- The attached instances are the same. -/
theorem attached (divided : Divided zs rs ls held w) (same : v.attached = w.attached)
    {rs' : List (Nat × Nat × Refresh)} {ls' : List (Nat × Listener)} {zs' : List Zone}
    (laid : v.Laid zs') (tabled : v.Tabled zs' (rs' ++ tableOf (keyed held)))
    (listed : v.Listed zs' (ls' ++ listOf (keyed held)) []) (subset : zs ⊆ zs') :
    Divided zs' rs' ls' held v :=
  { laid, tabled, listed
    owns := divided.owns
    zones := fun p member => subset (divided.zones p member)
    distinct := divided.distinct
    recorded := by simpa only [World.registrations?, same] using divided.recorded
    only := by simpa only [World.registrations?, same] using divided.only }

theorem newZone (divided : Divided zs rs ls held w) {behind : Target}
    (known : ∀ y, behind = .zone y → y ∈ zs) :
    Divided (zs ++ [(w.newZone behind).1]) rs ls held (w.newZone behind).2 :=
  divided.attached (v := (w.newZone behind).2) rfl (divided.laid.newZone known) (divided.tabled.newZone divided.laid behind)
    (divided.listed.newZone divided.laid behind) (List.subset_append_left _ _)

variable {z : Zone} (inside : z ∈ zs)

include inside

theorem addRefresh (divided : Divided zs rs ls held w) (r : Refresh) :
    Divided zs ((z.id, (w.addRefresh z r).1, r) :: rs) ls held (w.addRefresh z r).2 := by
  have same := World.Retabled.addRefresh w z r
  exact divided.attached same.attached (divided.laid.resize same.size)
    (divided.tabled.addRefresh divided.laid inside r)
    (divided.listed.congr same.wrappers (Nat.le_of_eq same.serial.symm)) (List.Subset.refl _)

theorem removeRefresh (divided : Divided zs (mine ++ rs) ls held w) {tick : Nat}
    (apart : ∀ r ∈ rs ++ tableOf (keyed held), (r.1, r.2.1) ≠ (z.id, tick)) :
    Divided zs (mine.filter (fun r => !(r.1 == z.id && r.2.1 == tick)) ++ rs) ls held
      (w.removeRefresh z tick).2 := by
  have same := World.Retabled.removeRefresh w z tick
  have tabled := divided.tabled.removeRefresh divided.laid inside tick
  have stays : (rs ++ tableOf (keyed held)).filter (fun r => !(r.1 == z.id && r.2.1 == tick)) =
      rs ++ tableOf (keyed held) := by
    refine List.filter_eq_self.2 fun r other => ?_
    simpa [← not_and_or] using apart r other
  rw [List.append_assoc, List.filter_append, stays, ← List.append_assoc] at tabled
  exact divided.attached same.attached (divided.laid.resize same.size) tabled
    (divided.listed.congr same.wrappers (Nat.le_of_eq same.serial.symm)) (List.Subset.refl _)

theorem addWrapped (divided : Divided zs rs ls held w) {l : Listener}
    (new : ∀ n, l.handler.number? = some n → n < w.serial ∧
      n ∉ World.numbered (ls ++ listOf (keyed held)) ++ w.numbers zs) :
    Divided zs rs ((z.id, l) :: ls) held (World.addWrapped z l w) := by
  have same := World.Rewired.addWrapped z l w
  exact divided.attached same.attached (divided.laid.resize same.size)
    (divided.tabled.congr same.toRefreshing) (divided.listed.addWrapped divided.laid inside new)
    (List.Subset.refl _)

theorem removeOwn (divided : Divided zs rs (own ++ ls) held w)
    (numbered : ∀ e ∈ ls, e.2.handler.number? ≠ none) {l : Listener}
    (plain : l.handler.number? = none) :
    Divided zs rs (own.filter (fun e => !World.concerns z l e) ++ ls) held
      (World.removeWrapped z l w).2 := by
  have same := World.Rewired.removeWrapped z l w
  have listed := divided.listed.removeOwn divided.laid inside plain
  have parts : ∀ e ∈ listOf (keyed held), e.2.handler.number? ≠ none := by
    intro e member
    obtain ⟨_, key, here⟩ := List.mem_flatMap.1 member
    obtain ⟨p, also, rfl⟩ := List.mem_map.1 key
    obtain ⟨l, listener, rfl⟩ := List.mem_map.1 here
    exact (divided.owns p also).numbered l listener
  have stays : (ls ++ listOf (keyed held)).filter (fun e => !World.concerns z l e) =
      ls ++ listOf (keyed held) := by
    refine List.filter_eq_self.2 fun e other => ?_
    have number := (List.mem_append.1 other).elim (numbered e) (parts e)
    by_contra concerned
    have concerned : World.concerns z l e = true := by simpa using concerned
    exact number ((Listener.number?_eq (Bool.and_eq_true_iff.1 concerned).2).trans plain)
  rw [List.append_assoc, List.filter_append, stays, ← List.append_assoc] at listed
  exact divided.attached same.attached (divided.laid.resize same.size)
    (divided.tabled.congr same.toRefreshing) listed (List.Subset.refl _)

end Divided

/-! ## Books -/

/-- What goes on around an activity: instances that are mounted and that it does not know, what
else is registered with zones, and numbers that are promised to somebody. -/
structure Frame where
  held : List (Instance × Share) := []
  loose : List (Nat × Share) := []
  reserved : List Nat := []

namespace Diary

/-- The refreshes that are noted. -/
def table (d : Diary) : List (Nat × Nat × Refresh) :=
  d.refreshes.map fun r => (r.1, r.2.1, .named r.2.2)

/-- What is noted of listeners and instances goes together. -/
structure Sound (d : Diary) : Prop where
  own : ∀ l ∈ d.listeners, l.2.handler.number? = none
  known : ∀ i ∈ d.live, i ∈ d.known
  inside : ∀ i ∈ d.known, ∀ j ∈ i.all, j ∈ d.known
  distinct : ∀ i ∈ d.known, (i.all.map (·.serial)).Nodup
  closed : ∀ i ∈ d.known, i.serial ∉ d.live.map (·.serial) →
    ∀ j ∈ i.all, j.serial ∉ d.live.map (·.serial)

end Diary

/-- The refreshes that others hold than an activity itself. -/
def Frame.table (x : Frame) (held : List (Instance × Share)) : List (Nat × Nat × Refresh) :=
  tableOf x.loose ++ tableOf (keyed (held ++ x.held))

/-- A diary and a frame tell what is registered with zones, and which instances hold what. -/
structure Books (d : Diary) (x : Frame) (held : List (Instance × Share)) (w : World σ) :
    Prop where
  sound : d.Sound
  live : (held.map (·.1)).Perm d.live
  divided : Divided d.zones (d.table ++ tableOf x.loose) (d.listeners ++ listOf x.loose)
    (held ++ x.held) w
  bound : ∀ h ∈ x.loose, ∀ l ∈ h.2.listeners, l.handler.number? ≠ none
  numbers : (d.known.map (·.serial) ++ x.held.map (·.1.serial) ++ x.reserved).Nodup
  given : ∀ n ∈ d.known.map (·.serial) ++ x.held.map (·.1.serial) ++ x.reserved, n < w.serial
  ticks : ∀ t ∈ d.ticks, ∃ z ∈ d.zones, z.id = t.1 ∧ t.2 < (w.zone z).nextTick
  apart : ∀ r ∈ x.table held, (r.1, r.2.1) ∉ d.ticks

/-- Whatever goes on around it, an activity leaves diary and world in agreement.  No zone is
lost. -/
structure Conserves (diary : σ → Diary) (w v : World σ) : Prop where
  zones : (diary w.user).zones ⊆ (diary v.user).zones
  books : ∀ {x : Frame} {held : List (Instance × Share)}, Books (diary w.user) x held w →
    ∃ held', Books (diary v.user) x held' v

namespace Books

variable {d e : Diary} {x : Frame} {held : List (Instance × Share)} {w v : World σ}

theorem given_onward (books : Books d x held w) (onward : w.Onward v) :
    ∀ n ∈ d.known.map (·.serial) ++ x.held.map (·.1.serial) ++ x.reserved, n < v.serial :=
  fun n member => Nat.lt_of_lt_of_le (books.given n member) onward.serial

theorem ticks_onward (books : Books d x held w) (onward : w.Onward v) :
    ∀ t ∈ d.ticks, ∃ z ∈ d.zones, z.id = t.1 ∧ t.2 < (v.zone z).nextTick := by
  intro t member
  obtain ⟨z, inside, same, less⟩ := books.ticks t member
  exact ⟨z, inside, same, Nat.lt_of_lt_of_le less (onward.ticks z)⟩

theorem beside (books : Books d x held w) (besides : w.Besides v) : Books d x held v :=
  { books with
    divided := books.divided.beside besides
    given := books.given_onward besides.onward
    ticks := books.ticks_onward besides.onward }

/-- Notes about zones and listeners, and about refreshes that are taken back. -/
theorem renote (books : Books d x held w) (zones : d.zones ⊆ e.zones) (ticks : e.ticks = d.ticks)
    (live : e.live = d.live) (known : e.known = d.known)
    (own : ∀ l ∈ e.listeners, l.2.handler.number? = none) (onward : w.Onward v)
    (divided : Divided e.zones (e.table ++ tableOf x.loose) (e.listeners ++ listOf x.loose)
      (held ++ x.held) v) : Books e x held v where
  sound :=
    { own
      known := by rw [live, known]; exact books.sound.known
      inside := by rw [known]; exact books.sound.inside
      distinct := by rw [known]; exact books.sound.distinct
      closed := by rw [live, known]; exact books.sound.closed }
  live := by rw [live]; exact books.live
  divided := divided
  bound := books.bound
  numbers := by rw [known]; exact books.numbers
  given := by rw [known]; exact books.given_onward onward
  ticks := by
    rw [ticks]
    intro t member
    obtain ⟨z, inside, same⟩ := books.ticks_onward onward t member
    exact ⟨z, zones inside, same⟩
  apart := by rw [ticks]; exact books.apart

/-- The number of a new refresh was not given out before. -/
theorem tick_new (books : Books d x held w) {z : Zone} (inside : z ∈ d.zones) :
    (z.id, (w.zone z).nextTick) ∉ d.ticks := by
  intro member
  obtain ⟨y, also, same, less⟩ := books.ticks _ member
  obtain rfl := books.divided.laid.eq_of_id also inside same
  exact Nat.lt_irrefl _ less

/-- A note about a refresh of one's own that is registered. -/
theorem onTick (books : Books d x held w) {z : Zone} (inside : z ∈ d.zones) (name : String) :
    Books (d.onTick z (w.addRefresh z (.named name)).1 name) x held
      (w.addRefresh z (.named name)).2 := by
  have onward := World.Onward.addRefresh w z (.named name)
  have divided := books.divided.addRefresh inside (.named name)
  have distinct := divided.tabled.distinct
  exact
    { sound := ⟨books.sound.own, books.sound.known, books.sound.inside, books.sound.distinct,
        books.sound.closed⟩
      live := books.live
      divided
      bound := books.bound
      numbers := books.numbers
      given := books.given_onward onward
      ticks := by
        refine List.forall_mem_cons.2 ⟨⟨z, inside, rfl, ?_⟩, books.ticks_onward onward⟩
        rw [World.addRefresh, books.divided.laid.zone_onZone inside]
        exact Nat.lt_succ_self _
      apart := by
        intro r other member
        rcases List.mem_cons.1 member with same | old
        · rw [List.cons_append, List.append_assoc, List.map_cons, List.nodup_cons] at distinct
          exact distinct.1 (List.mem_map.2 ⟨r, List.mem_append_right _ other, same⟩)
        · exact books.apart r other old }

theorem loose_numbered (books : Books d x held w) :
    ∀ e ∈ listOf x.loose, e.2.handler.number? ≠ none := by
  intro e member
  obtain ⟨h, inside, here⟩ := List.mem_flatMap.1 member
  obtain ⟨l, listener, rfl⟩ := List.mem_map.1 here
  exact books.bound h inside l listener

/-- An instance that is held is the one of its number that is known. -/
theorem same_of_serial (books : Books d x held w) {p : Instance × Share}
    (member : p ∈ held ++ x.held) {j : Instance} (known : j ∈ d.known)
    (same : p.1.serial = j.serial) : p.1 = j := by
  have numbers := (List.nodup_append.1 books.numbers).1
  rw [List.nodup_append] at numbers
  rcases List.mem_append.1 member with mine | other
  · have also := books.sound.known _ (books.live.mem_iff.1 (List.mem_map_of_mem mine))
    exact List.inj_on_of_nodup_map numbers.1 also known same
  · exact absurd same.symm (numbers.2.2 _ (List.mem_map_of_mem known) _
      (List.mem_map.2 ⟨p, other, rfl⟩))

theorem mem_live_iff (books : Books d x held w) {j : Instance} (known : j ∈ d.known) :
    j.serial ∈ (held ++ x.held).map (·.1.serial) ↔ j.serial ∈ d.live.map (·.serial) := by
  have numbers := books.live.map (·.serial)
  rw [List.map_map] at numbers
  rw [List.map_append, List.mem_append]
  refine ⟨fun either => either.elim numbers.mem_iff.1 fun other => ?_,
    fun live => .inl (numbers.mem_iff.2 live)⟩
  have apart := (List.nodup_append.1 (List.nodup_append.1 books.numbers).1).2.2
  exact absurd rfl (apart _ (List.mem_map_of_mem known) _ other)

/-- Instances that are known are nested. -/
theorem nested (books : Books d x held w) {i : Instance} (known : i ∈ d.known) :
    Nested (held ++ x.held) i.all where
  distinct := books.sound.distinct i known
  same p member j inside same :=
    books.same_of_serial member (books.sound.inside i known j inside) same
  closed j inside gone k below listed := by
    have also := books.sound.inside i known j inside
    rw [books.mem_live_iff also] at gone
    rw [books.mem_live_iff (books.sound.inside j also k below)] at listed
    exact books.sound.closed j also gone k below listed

end Books

namespace Diary.Sound

variable {d : Diary} {i : Instance}

theorem detach (sound : d.Sound) (numbers : (d.known.map (·.serial)).Nodup) (known : i ∈ d.known) :
    (d.detach i).Sound where
  own := sound.own
  known j live := sound.known j (List.mem_of_mem_filter live)
  inside := sound.inside
  distinct := sound.distinct
  closed j also gone k below listed := by
    obtain ⟨k', live, same⟩ := List.mem_map.1 listed
    obtain ⟨live, away⟩ := List.mem_filter.1 live
    refine sound.closed j also (fun here => gone ?_) k below (List.mem_map.2 ⟨k', live, same⟩)
    obtain ⟨j', live', same'⟩ := List.mem_map.1 here
    refine List.mem_map.2 ⟨j', List.mem_filter.2 ⟨live', decide_eq_true fun taken => ?_⟩, same'⟩
    -- then it is inside of the instance, and so is what is inside of it
    obtain ⟨m, inside, number⟩ := List.mem_map.1 taken
    obtain rfl : m = j := List.inj_on_of_nodup_map numbers (sound.inside i known m inside) also
      (number.trans same')
    exact of_decide_eq_true away (List.mem_map.2 ⟨k, (i.all_sublist inside).subset below, same.symm⟩)

theorem attach (sound : d.Sound) (distinct : (i.all.map (·.serial)).Nodup)
    (apart : ∀ j ∈ d.known, ∀ k ∈ i.all, j.serial ≠ k.serial) : (d.attach i).Sound where
  own := sound.own
  known j live := (List.mem_append.1 live).elim
    (fun old => List.mem_append_left _ (sound.known j old)) (List.mem_append_right _)
  inside j known k below := (List.mem_append.1 known).elim
    (fun old => List.mem_append_left _ (sound.inside j old k below))
    (fun new => List.mem_append_right _ ((i.all_sublist new).subset below))
  distinct j known := (List.mem_append.1 known).elim (sound.distinct j)
    fun new => distinct.sublist ((i.all_sublist new).map _)
  closed j known gone k below listed := by
    have gone : j.serial ∉ d.live.map (·.serial) ++ i.all.map (·.serial) := by
      rw [← List.map_append]
      exact gone
    have listed : k.serial ∈ d.live.map (·.serial) ++ i.all.map (·.serial) := by
      rw [← List.map_append]
      exact listed
    rw [List.mem_append, not_or] at gone
    have old := (List.mem_append.1 known).resolve_right fun new =>
      gone.2 (List.mem_map_of_mem new)
    rcases List.mem_append.1 listed with live | new
    · exact sound.closed j old gone.1 k below live
    · obtain ⟨m, inside, same⟩ := List.mem_map.1 new
      exact apart k (sound.inside j old k below) m inside same.symm

end Diary.Sound

namespace Books

variable {d : Diary} {x : Frame} {held : List (Instance × Share)} {w v : World σ}

/-- An instance that is known is detached. -/
theorem detach (books : Books d x held w) {i : Instance} (known : i ∈ d.known) :
    ∃ held', Books (d.detach i) x held' (i.detach w) := by
  have divided := Divided.detach i books.divided (books.nested known)
  have numbers := (List.nodup_append.1 books.numbers).1
  have others : (x.held.filter fun p => p.1.serial ∉ i.all.map (·.serial)) = x.held := by
    refine List.filter_eq_self.2 fun p member => decide_eq_true fun taken => ?_
    obtain ⟨j, inside, same⟩ := List.mem_map.1 taken
    exact (List.nodup_append.1 numbers).2.2 _
      (List.mem_map_of_mem (books.sound.inside i known j inside)) _
      (List.mem_map.2 ⟨p, member, rfl⟩) same
  rw [List.filter_append, others] at divided
  refine ⟨_, books.sound.detach (List.nodup_append.1 numbers).1 known, ?_, divided, books.bound,
    books.numbers, books.given_onward (i.detach_onward w), books.ticks_onward (i.detach_onward w),
    fun r member => books.apart r ?_⟩
  · have live := books.live.filter fun j => j.serial ∉ i.all.map (·.serial)
    rw [List.filter_map] at live
    exact live
  · have fewer := (List.filter_sublist (p := fun p : Instance × Share =>
      p.1.serial ∉ i.all.map (·.serial)) (l := held)).append (.refl x.held)
    refine List.mem_append.2 ((List.mem_append.1 member).imp_right fun listed => ?_)
    obtain ⟨key, inside, here⟩ := List.mem_flatMap.1 listed
    exact List.mem_flatMap.2 ⟨key, List.map_subset _ fewer.subset inside, here⟩

end Books

namespace Move

variable {diary : σ → Diary} {w v : World σ}

/-- A change that goes with a note conserves the books. -/
theorem conserves (move : Move diary w v) : Conserves diary w v := by
  have noted (v : World σ) (s : σ) : v.Besides { v with user := s } :=
    .of_zones rfl rfl (Nat.le_refl _)
  cases move with
  | beside besides same =>
      refine ⟨?_, fun {_ held} books => ⟨held, ?_⟩⟩
      · rw [same]
        exact List.Subset.refl _
      · rw [same]
        exact books.beside besides
  | @newZone behind known s note =>
      have more : (diary w.user).zones ⊆ ((diary w.user).zone (w.newZone behind).1).zones :=
        List.subset_append_left _ _
      refine ⟨by rw [note]; exact more, fun {x held} books => ⟨held, ?_⟩⟩
      rw [note]
      exact (books.renote more rfl rfl rfl books.sound.own (.newZone w behind)
        (books.divided.newZone known)).beside (noted _ s)
  | @onTick z inside name s note =>
      refine ⟨?_, fun {x held} books => ⟨held, ?_⟩⟩
      · rw [note]
        exact List.Subset.refl _
      · rw [note]
        exact (books.onTick inside name).beside (noted _ s)
  | @removeTick z inside tick own s note =>
      refine ⟨?_, fun {x held} books => ⟨held, ?_⟩⟩
      · rw [note]
        exact List.Subset.refl _
      · have taken := books.divided.removeRefresh inside
          fun r other same => books.apart r other (same ▸ own)
        rw [note]
        refine (books.renote (e := (diary w.user).removeTick z tick)
          (List.Subset.refl _) rfl rfl rfl books.sound.own (.removeRefresh w z tick) ?_).beside (noted _ s)
        rw [Diary.table, List.filter_map] at taken
        exact taken
  | @listen z inside node event name s note =>
      have same := World.Rewired.addWrapped z ⟨node, event, .named name⟩ w
      refine ⟨?_, fun {x held} books => ⟨held, ?_⟩⟩
      · rw [note]
        exact List.Subset.refl _
      · rw [note]
        refine (books.renote (e := (diary w.user).listen z ⟨node, event, .named name⟩)
          (List.Subset.refl _) rfl rfl rfl
          (List.forall_mem_cons.2 ⟨rfl, books.sound.own⟩) same.onward
          (books.divided.addWrapped inside ?_)).beside (noted _ s)
        exact nofun
  | @unlisten z inside node event name s note =>
      have same := World.Rewired.removeWrapped z ⟨node, event, .named name⟩ w
      refine ⟨?_, fun {x held} books => ⟨held, ?_⟩⟩
      · rw [note]
        exact List.Subset.refl _
      · rw [note]
        refine (books.renote (e := (diary w.user).unlisten z ⟨node, event, .named name⟩)
          (List.Subset.refl _) rfl rfl rfl
          (fun l member => books.sound.own l (List.mem_of_mem_filter member)) same.onward
          (books.divided.removeOwn inside books.loose_numbered rfl)).beside (noted _ s)
  | @detach i known s note =>
      refine ⟨?_, fun books => ?_⟩
      · rw [note]
        exact List.Subset.refl _
      · rw [note]
        obtain ⟨held', books⟩ := books.detach known
        exact ⟨held', books.beside (noted _ s)⟩

end Move

end LiveTemplates
