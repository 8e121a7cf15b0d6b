/-
# LiveTemplates.Proofs.Detaching.Retiring -- what is detached is not refreshed

Detaching takes all refreshes of an instance from its zone, and of the instances inside.  A
tick that begins later does not find them.  But a tick goes through what was registered when it
began: if an instance is detached meanwhile, by a refresh of that tick or inside of one, those
of its refreshes that the tick has not come to are run all the same, once.

* `Watch.Reaches.handOut`, `Behaves.attach`, `Behaves.detach`: handing instances out, and
  detaching them, leads to good states;
* `Behaves.routine`: so does all code of the user's, to any depth;
* `Routine.retires`: in whatever runs, a refresh of an instance whose detaching has returned is
  run by no tick but one that was at work when it returned.
-/
import LiveTemplates.Proofs.Detaching.Mounting
import LiveTemplates.Proofs.Reentrancy.Borrowing

namespace LiveTemplates

set_option autoImplicit false

variable {σ : Type} {α β : Type}

/-! ## Handing out -/

section Telling

variable {t : Watch σ} {i j : Instance} {n : Nat}

theorem HandedOut.attached {ticks : List (Nat × List Nat)}
    (handed : HandedOut (t.note (.attached i ticks)).log j) : j ∈ i.all ∨ HandedOut t.log j := by
  obtain ⟨m, member, root, ticks, what, inside⟩ := handed
  rcases List.mem_cons.1 member with rfl | old
  · injection what with same
    exact .inl (same ▸ inside)
  · exact .inr ⟨m, old, root, ticks, what, inside⟩

/-- An instance owns the refreshes that are in its registrations when it is handed out. -/
theorem Owned.attached (owned : Owned (t.note (.attached i (Watched.ticksOf t.world i))).log j n) :
    (j ∈ i.all ∧ ∃ r, t.world.registrations? j.serial = some r ∧ n ∈ r.ticks) ∨
      Owned t.log j n := by
  obtain ⟨m, member, root, ticks, what, inside, ns, listed, number⟩ := owned
  rcases List.mem_cons.1 member with rfl | old
  · injection what with same known
    subst same known
    obtain ⟨k, -, entry⟩ := List.mem_map.1 listed
    obtain ⟨serial, rfl⟩ := Prod.mk.inj entry
    rw [serial] at number
    cases found : t.world.registrations? j.serial with
    | none => simp [found] at number
    | some r =>
        rw [found] at number
        exact .inl ⟨inside, r, rfl, number⟩
  · exact .inr ⟨m, old, root, ticks, what, inside, ns, listed, number⟩

theorem Detached.of_cons {log : List Moment} {m : Moment} (other : m.what ≠ .ends (.detach i))
    (detached : Detached (m :: log) i) : Detached log i := by
  obtain ⟨o, member, what⟩ := detached
  rcases List.mem_cons.1 member with rfl | old
  · exact absurd what other
  · exact ⟨o, old, what⟩

end Telling

/-- What was mounted meanwhile is handed out. -/
theorem Stands.handOut {z : Zone} {s t : Watch σ} {i : Instance} (stands : Stands t.log t.world)
    (mounted : Mounted z s t i.all) :
    Stands (t.note (.attached i (Watched.ticksOf t.world i))).log t.world := by
  have later : t.log <:+ (t.note (.attached i (Watched.ticksOf t.world i))).log :=
    List.suffix_cons _ _
  have inside {j k : Instance} (member : j ∈ i.all) (below : k ∈ j.all) : k ∈ i.all :=
    (i.all_sublist member).subset below
  exact
    { opened := fun m member y what => by
        rcases List.mem_cons.1 member with rfl | old
        · cases what
        · exact stands.opened m old y what
      unique := fun j k first second same => by
        rcases first.attached with here | known
        · rcases second.attached with also | known
          · exact List.inj_on_of_nodup_map mounted.distinct here also same
          · exact absurd same.symm (mounted.unknown j here k known)
        · rcases second.attached with here | also
          · exact absurd same (mounted.unknown k here j known)
          · exact stands.unique j k known also same
      distinct := fun j handed => by
        rcases handed.attached with here | known
        · exact mounted.distinct.sublist ((i.all_sublist here).map _)
        · exact stands.distinct j known
      uniform := fun j handed k below => by
        rcases handed.attached with here | known
        · rw [mounted.zone j here, mounted.zone k (inside here below)]
        · exact stands.uniform j known k below
      given := fun j handed => by
        rcases handed.attached with here | known
        · exact (mounted.new j here).2
        · exact stands.given j known
      closed := fun j handed => by
        rcases handed.attached with here | known
        · -- all of them are attached
          intro k below none
          obtain ⟨r, found, -⟩ := mounted.held k (inside here below)
          rw [none] at found
          cases found
        · exact stands.closed j known
      gone := fun j detached => by
        obtain ⟨handed, none⟩ := stands.gone j (detached.of_cons fun same => by cases same)
        exact ⟨handed.later later, none⟩
      ticks := fun j n owned => by
        obtain ⟨here, r, found, listed⟩ | known := owned.attached
        · obtain ⟨r', also, numbered⟩ := mounted.held j here
          obtain rfl := Option.some.inj (found.symm.trans also)
          rw [mounted.zone j here]
          exact (numbered n listed).2
        · exact stands.ticks j n known
      noted := fun j n owned runs => by
        obtain ⟨-, found⟩ | known := owned.attached
        · exact found
        · exact stands.noted j n known runs
      running := stands.running }

/-- So it is known from then on, and the state is good. -/
theorem Watch.Reaches.handOut {z : Zone} {s t : Watch σ} {i : Instance} (good : s.Good)
    (reaches : s.Reaches t) (mounted : Mounted z s t i.all) :
    s.Reaches (t.note (.attached i (Watched.ticksOf t.world i))) := by
  have later : t.log <:+ (t.note (.attached i (Watched.ticksOf t.world i))).log :=
    List.suffix_cons _ _
  -- the refreshes that are owned from now on got their numbers behind the start
  have fresh {j : Instance} {n : Nat}
      (owned : Owned (t.note (.attached i (Watched.ticksOf t.world i))).log j n)
      (less : n < (s.world.zone j.zone).nextTick) : Owned t.log j n := by
    obtain ⟨here, r, found, listed⟩ | known := owned.attached
    · obtain ⟨r', also, numbered⟩ := mounted.held j here
      obtain rfl := Option.some.inj (found.symm.trans also)
      rw [mounted.zone j here] at less
      exact absurd (numbered n listed).1 (Nat.not_le.2 less)
    · exact known
  have goes : s.Goes (t.note (.attached i (Watched.ticksOf t.world i))) :=
    { toOnward := reaches.toOnward
      log := reaches.log.trans later
      size := reaches.size
      handed := fun j handed less => by
        rcases handed.attached with here | known
        · exact absurd (mounted.new j here).1 (Nat.not_le.2 less)
        · exact reaches.handed j known less
      kept := reaches.kept
      owned := fun j n owned less => reaches.owned j n (fresh owned less) less }
  have excused : Excused (t.note (.attached i (Watched.ticksOf t.world i))).log t.calls := by
    refine reaches.excused.later later fun c member j n refresh owned => fresh owned ?_
    rw [reaches.calls] at member
    exact good.numbers c member j.zone n refresh
  exact ⟨goes, ⟨⟨reaches.excused, reaches.abides⟩, excused, reaches.stands.handOut mounted,
    reaches.numbers⟩, reaches.calls⟩

/-- A zone has been made. -/
theorem Watch.Good.opened {t : Watch σ} (good : t.Good) {z : Zone}
    (room : z.id < t.world.zones.size) : t.Reaches (t.note (.opened z)) := by
  have later : t.log <:+ (t.note (.opened z)).log := List.suffix_cons _ _
  have stands := good.stands
  refine ⟨⟨.refl _, later, Nat.le_refl _, fun _ handed _ => handed.of_cons rfl, fun _ _ _ => rfl,
    fun _ _ owned _ => owned.of_cons rfl⟩, ⟨⟨good.excused, good.abides⟩,
    good.excused.later later fun _ _ _ _ _ owned => owned.of_cons rfl, ?_, good.numbers⟩, rfl⟩
  exact
    { opened := fun m member y what => by
        rcases List.mem_cons.1 member with rfl | old
        · injection what with same
          exact same ▸ room
        · exact stands.opened m old y what
      unique := fun i j first second =>
        stands.unique i j (first.of_cons rfl) (second.of_cons rfl)
      distinct := fun i handed => stands.distinct i (handed.of_cons rfl)
      uniform := fun i handed => stands.uniform i (handed.of_cons rfl)
      given := fun i handed => stands.given i (handed.of_cons rfl)
      closed := fun i handed => stands.closed i (handed.of_cons rfl)
      gone := fun i detached => by
        obtain ⟨handed, none⟩ := stands.gone i (detached.of_cons fun same => by cases same)
        exact ⟨handed.later later, none⟩
      ticks := fun j n owned => stands.ticks j n (owned.of_cons rfl)
      noted := fun j n owned => stands.noted j n (owned.of_cons rfl)
      running := stands.running }

/-! ## Everything leads to good states -/

namespace Behaves

open Watched

/-- Work of a compiler leads to good states, whatever it comes to. -/
instance way : Watched.Way fun (α : Type) (_ : α) (x : Watched σ α) => Behaves x where
  pure a := pure a
  bind first later := bind first later
  user := note rfl nofun nofun
  touch loans := step loans .refl

theorem compile (u : UserCode σ) (k : Compiler) (catalog : Catalog) (c : ClassRef) :
    Behaves (Watched.compile u k catalog c) := by
  have work := Compiling.Shows.compileWithin
    (R := fun (α : Type) (_ : α) (x : Watched σ α) => Behaves x) catalog
    (Compiler.depthBound catalog) c
  exact bind (work { compiler := k }) fun p => bind (forM (notice u) _) fun _ => pure _

theorem newZone (behind : Target) : Behaves (do
    let z ← Watched.step [] (·.newZone behind)
    Watched.note (.opened z)
    return z : Watched σ Zone) := by
  have made : Leads (Watched.step [] (·.newZone behind) : Watched σ Zone) fun s z t =>
      s.world.newZone behind = (z, t.world) ∧ s.Silent [] t :=
    .changes (.step [] _) fun w => .newZone w behind
  refine Follows.bind (M := fun z s t => s.Reaches t ∧ z.id < t.world.zones.size) made
    (fun z => ⟨fun t => List.suffix_cons _ _, ?_⟩) (fun _ => rfl) ?_
  · rintro s t ⟨reaches, room⟩ good -
    exact .done (reaches.trans (good.opened room)) trivial
  · rintro s t z r rfl good reaches ⟨same, -⟩
    obtain ⟨rfl, world⟩ := Prod.mk.inj same
    refine ⟨reaches, ?_⟩
    rw [← world]
    exact (Array.size_push _).symm ▸ Nat.lt_succ_self _

/-- An instance that was handed out is detached. -/
theorem detach (i : Instance) : Behaves (Watched.detach i : Watched σ Unit) := by
  obtain ⟨changes, begins⟩ := Changes.detach (σ := σ) i
  refine ⟨fun s => (changes s).1.log, fun s t same good proper => ?_⟩
  subst same
  have handed : HandedOut s.log i := (proper.before (begins s)).1 i rfl
  obtain ⟨silent, done⟩ := changes s
  rcases ran : (Watched.detach i : Watched σ Unit).exec s with ⟨h | a, t⟩
  all_goals rw [ran] at silent done
  · exact .halted (silent.clear good.abides good.excused).1
  · obtain ⟨same, calls⟩ := done a rfl
    obtain ⟨-, world⟩ := Prod.mk.inj same
    obtain ⟨goes, left⟩ := good.detach handed silent world.symm calls
    exact .done ⟨goes, left, calls⟩ trivial

section User

variable {u : UserCode σ} {v : Hooks σ} (hooks : v.Behave)

include hooks

/-- An instance is handed out when it has been mounted. -/
theorem attach (b : Blueprint) (host : NodeId) (z : Zone) :
    Behaves (Watched.attach u v b host z) := by
  have pinned (f : World σ → List Zone) :
      Behaves (Watched.step [] fun w => ((), { w with pins := f w }) : Watched σ Unit) :=
    step [] fun _ => .of_zones rfl rfl (Nat.le_refl _)
  have mounts : Leads (Watched.holding z do
      let object ← Watched.construct u b.cls
      Watched.mount u v z b object host) fun s i t => Mounted z s t i.all := by
    refine .behind (pinned _) (fun _ => ?_) fun before mounted => mounted.earlier before
    refine .bind (P := fun s i t => Mounted z s t i.all) (Q := fun i _ j _ => j = i) ?_
      (fun i => ?_) fun _ reaches mounted same => ?_
    · exact .behind (construct u b.cls) (fun o => .mount hooks z b o host)
        fun before mounted => mounted.earlier before
    · exact .bind (pinned _) (fun _ => .pure (P := fun _ j _ => j = i) fun _ => rfl)
        fun _ _ _ same => same
    · rw [same]
      exact mounted.later reaches.toGoes
  refine Follows.calling (P := fun _ _ _ => True) (by intro i same; cases same) id
    (fun _ good _ => good.enter nofun) ?_ fun _ _ _ _ => trivial
  refine .bind (M := fun i s t => s.Good ∧ s.Reaches t ∧ Mounted z s t i.all) mounts
    (fun i => ⟨fun t => List.suffix_cons _ _, ?_⟩) (fun _ => rfl) ?_
  · rintro s t ⟨good, reaches, mounted⟩ - -
    exact .done (reaches.handOut good mounted) trivial
  · rintro s t i r ⟨rfl, -⟩ good reaches mounted
    exact ⟨good, reaches, mounted⟩

/-- All code of the user's leads to good states. -/
theorem routine {α : Type} (x : Routine σ α) : Behaves (x.watch u v) := by
  induction x with
  | pure a => exact pure a
  | bind _ _ first later => exact bind first later
  | endless => exact throw _
  | own f => exact own f
  | look cells f => exact step _ .refl
  | nodes loans f => exact step loans fun _ => .of_zones rfl rfl (Nat.le_refl _)
  | construct c => exact construct u c
  | evaluate e o => exact evaluate hooks e o
  | handle h => exact handle hooks h
  | tick z => exact tick hooks z
  | dispatch d node event => exact dispatch hooks d node event
  | newDispatcher => exact step [] fun _ => .of_zones rfl rfl (Nat.le_refl _)
  | newZone behind => exact newZone behind
  | onTick z name => exact step _ fun w => .addRefresh w z _
  | removeTick z n => exact step _ fun w => .removeRefresh w z n
  | listen t l => exact changes (.addListener t l) fun w => .of_rewired (.addListener t l w)
  | unlisten t l => exact changes (.removeListener t l) fun w => .of_rewired (.removeListener t l w)
  | retarget t => exact step _ fun _ => .of_zones rfl rfl (Nat.le_refl _)
  | compile k catalog c => exact compile u k catalog c
  | attachBinding b live o z => exact (Leads.attachBinding hooks b live o z).behaves
  | attach b host z => exact attach hooks b host z
  | detach i => exact detach i

end User

end Behaves

/-- A user's methods, handlers and refreshes lead to good states, to any depth. -/
theorem Code.behave (c : Code σ) (depth : Nat) : (c.hooks depth).Behave := by
  induction depth with
  | zero => exact ⟨fun _ _ _ => .throw _, fun _ => .throw _, fun _ => .throw _⟩
  | succ n ih => exact ⟨fun _ _ _ => .routine ih _, fun _ => .routine ih _, fun _ => .routine ih _⟩

/-! ## Retired refreshes in whatever runs -/

/-- Where nothing was recorded and no zone was made, everything is good. -/
theorem Watch.Good.start {w : World σ} (bare : w.zones = #[]) : ({ world := w } : Watch σ).Good := by
  have none {i : Instance} : ¬ HandedOut [] i := by
    rintro ⟨m, member, -⟩
    cases member
  have unowned {i : Instance} {n : Nat} : ¬ Owned [] i n := fun owned => none owned.handedOut
  refine ⟨trivial, trivial, ?_, nofun⟩
  exact
    { opened := nofun
      unique := fun _ _ handed => absurd handed none
      distinct := fun _ handed => absurd handed none
      uniform := fun _ handed => absurd handed none
      given := fun _ handed => absurd handed none
      closed := fun _ handed => absurd handed none
      gone := by
        rintro i ⟨m, member, -⟩
        cases member
      ticks := fun _ _ owned => absurd owned unowned
      noted := fun _ _ owned => absurd owned unowned
      running := by
        rintro z n ⟨r, member⟩
        simp [World.zone, bare] at member }

theorem Watch.Comes.abides {s t : Watch σ} {P : α → Watch σ → Prop} {outcome : Except Halt α}
    (comes : s.Comes P (outcome, t)) : Abides t.log := by
  cases comes with
  | done reaches _ => exact reaches.abides
  | halted abides => exact abides

/-- Whatever runs from a world on in which no zone has been made, to any depth: it does under
watch what it does.  If only instances are detached that were handed out, and refreshes run in
zones that were made, then at each moment at which a refresh has not returned, of an instance
whose detaching had returned before or of one inside of such an instance, it is run by a tick
of its zone that began before this detaching returned.

So such a refresh evaluates nothing and writes nothing, unless a tick comes to it that was at
work already when the instance was detached. -/
theorem Routine.retires (code : Code σ) (depth : Nat) (x : Routine σ α) {w : World σ}
    (idle : w.busy = []) (bare : w.zones = #[]) :
    ∃ outcome s, (x.watch (code.user depth) (code.hooks depth)).exec { world := w } = (outcome, s) ∧
      ((∃ a, outcome = .ok a ∧ (x.run (code.user depth)).run w = some (a, s.world)) ∨
        outcome = .error .endless ∧ (x.run (code.user depth)).run w = none) ∧
      (Proper s.log → ∀ later m earlier, s.log = later ++ m :: earlier →
        ∀ past, past <:+ earlier → ∀ z n, Retired past z n →
          ∀ inner outer since, m.calls = inner ++ ⟨.refresh z n, since⟩ :: outer →
            ∃ began rest, outer = ⟨.tick z, began⟩ :: rest ∧ began < past.length) := by
  let s : Watch σ := { world := w }
  have sound : s.Sound := fun o => by
    rw [show s.world.busy = [] from idle]
    simp [s]
  have ends := Mirrors.routine (code.mirror depth) x s rfl sound
  have behaves : Behaves (x.watch (code.user depth) (code.hooks depth)) :=
    .routine (code.behave depth) x
  have comes := behaves.comes s s rfl (.start bare)
  generalize (x.watch (code.user depth) (code.hooks depth)).exec s = e at ends comes
  obtain ⟨outcome, t⟩ := e
  refine ⟨outcome, t, rfl, ?_, fun proper later m earlier log past sub z n retired inner outer
    since running => ?_⟩
  · cases ran : (x.run (code.user depth)).run w with
    | none =>
        rw [show (x.run (code.user depth)).run s.world = none from ran] at ends
        obtain ⟨_, same, -⟩ := ends.of_none
        exact .inr ⟨congrArg Prod.fst same, rfl⟩
    | some p =>
        obtain ⟨a, v⟩ := p
        rw [show (x.run (code.user depth)).run s.world = some (a, v) from ran] at ends
        obtain ⟨_, same, world, -⟩ := ends.of_some
        obtain ⟨rfl, rfl⟩ := Prod.mk.inj same
        exact .inl ⟨a, rfl, by rw [world]⟩
  · have abides : Abides t.log := (comes proper).abides
    rw [log] at abides
    exact abides.excused.of_retired running sub retired

/-! ## A refresh that detaches -/

/-- Does it neither detach an instance nor run a refresh? -/
def Happening.isFree : Happening → Bool
  | .begins (.detach _) | .begins (.refresh ..) => false
  | _ => true

namespace Proper

variable {log : List Moment} {m : Moment}

/-- Neither is an instance detached, nor does a refresh run. -/
theorem other (plain : m.what.isFree = true) (proper : Proper log) : Proper (m :: log) := by
  refine ⟨fun i what => ?_, fun z n what => ?_, proper⟩
  all_goals
    rw [what] at plain
    cases plain

theorem refreshes {z n : Nat} (what : m.what = .begins (.refresh z n))
    (made : ∃ o ∈ log, ∃ y, o.what = .opened y ∧ y.id = z) (proper : Proper log) :
    Proper (m :: log) := by
  refine ⟨fun i other => ?_, fun y k same => ?_, proper⟩
  · cases what.symm.trans other
  · cases what.symm.trans same
    exact made

theorem takes_out {i : Instance} (what : m.what = .begins (.detach i)) (handed : HandedOut log i)
    (proper : Proper log) : Proper (m :: log) := by
  refine ⟨fun j same => ?_, fun z n other => ?_, proper⟩
  · cases what.symm.trans same
    exact handed
  · cases what.symm.trans other

end Proper

namespace Leaving

/-- `name`, as an input. -/
def name : Expression :=
  ⟨"name", .input, .member "name", ["name"]⟩

/-- `<b [title]="name"></b>`. -/
def panel : Blueprint :=
  .mk 0 ⟨"Panel", true⟩
    ⟨.node .document [], .node (.element .html "body" []) [.node (.element .html "b" []) []]⟩
    [(⟨[0], "B"⟩, ⟨.input, "title", "name", .ok name⟩)] [] []

/-- A panel in the first zone, as the first that is attached. -/
def left : Instance :=
  .mk 1 panel 0 [] 1 (.mk 0 (.dispatcher 0)) []

/-- Every refresh detaches the panel; every member is `dawn`. -/
def code : Code Unit where
  get _ _ s := (some (.text "dawn"), s)
  set _ _ _ s := (.ok (), s)
  construct _ _ s := s
  notice _ s := s
  holds _ _ := true
  call _ _ _ := .pure (.ok .undefined)
  handler _ := .pure ()
  refresh _ := .bind (.detach left) fun _ => .pure (.ok ())

/-- A document with one element, and no zone. -/
def blank : World Unit where
  forest := ⟨#[{ data := .document, children := [1] },
    { data := .element .html "p" [], parent := some 0 }]⟩
  document := 0
  user := ()

/-- Attaches a panel behind a refresh that detaches it, and ticks twice. -/
def visit : Routine Unit (TickReport × TickReport) :=
  .bind (.newZone (.dispatcher 0)) fun z => .bind (.onTick z "leave") fun _ =>
    .bind (.attach panel 1 z) fun _ => .bind (.tick z) fun first => .bind (.tick z) fun second =>
      .pure (first, second)

/-- What the visit comes to under watch. -/
def seen : Except Halt (TickReport × TickReport) × Watch Unit :=
  (visit.watch (code.user 1) (code.hooks 1)).exec { world := blank }

theorem proper_seen : Proper seen.2.log := by
  simp only [seen, visit, Routine.watch, Code.user, Code.hooks, code]
  conv => arg 1; cbv
  -- the zone is made at the first moment, and the panel is handed out at the twenty-third
  repeat first
    | exact trivial
    | refine Proper.other rfl ?_
    | refine Proper.refreshes rfl ⟨_, List.mem_of_getLast? rfl, _, rfl, rfl⟩ ?_
    | refine Proper.takes_out rfl ⟨_, List.mem_reverse.1 (List.mem_of_getElem? (i := 22) rfl), _, _,
        rfl, left.mem_all_self⟩ ?_

/-- The panel is detached by the first refresh of the first tick, and still its own refresh
comes next and writes its attribute. -/
theorem refreshed_left : Proper seen.2.log ∧ ∃ later m past, seen.2.log = later ++ m :: past ∧
    m.what = .writes 3 "title" ∧ m.calls.map (·.call) = [.refresh 0 1, .tick 0] ∧
    Retired past 0 1 := by
  refine ⟨proper_seen, ?_⟩
  simp only [seen, visit, Routine.watch, Code.user, Code.hooks, code]
  conv => enter [1, later, 1, m, 1, past, 1, 1]; cbv
  refine ⟨_, _, _, (List.take_append_drop 11 _).symm, rfl, rfl, left, ?_, left, left.mem_all_self,
    rfl, ?_⟩
  · exact ⟨_, List.mem_of_getElem? (i := 5) rfl, rfl⟩
  · exact ⟨_, List.mem_of_getElem? (i := 18) rfl, _, _, rfl, left.mem_all_self, [1],
      List.mem_singleton.2 rfl, List.mem_singleton.2 rfl⟩

theorem run_visit :
    ((visit.run (code.user 1)).run blank).map (·.1) = some (⟨2, 0⟩, ⟨1, 0⟩) := by
  simp only [visit, Routine.run, Code.user, code]
  cbv

/-- The tick at work runs both refreshes, and the next one only what was not detached. -/
theorem retires_left :
    ∃ s, (visit.watch (code.user 1) (code.hooks 1)).exec { world := blank } =
        (.ok (⟨2, 0⟩, ⟨1, 0⟩), s) ∧
      (visit.run (code.user 1)).run blank = some ((⟨2, 0⟩, ⟨1, 0⟩), s.world) ∧ Proper s.log ∧
      ∀ later m earlier, s.log = later ++ m :: earlier → ∀ past, past <:+ earlier →
        ∀ z n, Retired past z n →
          ∀ inner outer since, m.calls = inner ++ ⟨.refresh z n, since⟩ :: outer →
            ∃ began rest, outer = ⟨.tick z, began⟩ :: rest ∧ began < past.length := by
  obtain ⟨outcome, s, watched, ends, retires⟩ := Routine.retires code 1 visit (w := blank) rfl rfl
  have returns := run_visit
  have proper : Proper s.log := by
    have proper := proper_seen
    rwa [seen, watched] at proper
  obtain ⟨r, rfl, ran⟩ | ⟨-, ran⟩ := ends
  · rw [ran, Option.map_some, Option.some.injEq] at returns
    subst returns
    exact ⟨s, watched, ran, proper, retires proper⟩
  · rw [ran] at returns
    cases returns

end Leaving

end LiveTemplates
