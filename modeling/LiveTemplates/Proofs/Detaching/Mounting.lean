/-
# LiveTemplates.Proofs.Detaching.Mounting -- instances on the way to being handed out

While an instance is being mounted nobody knows of it, nor of those inside of it that are
mounted already.  Whatever code of the user's does meanwhile, they stay attached, under
numbers that were not given out before, and so do their refreshes.

* `Mounted`: instances that nobody knows of are attached, all with new numbers;
* `Wired`: so are those of what has been wired up so far;
* `Leads.mount`: mounting a blueprint leads to that.
-/
import LiveTemplates.Proofs.Detaching.Leading

namespace LiveTemplates

set_option autoImplicit false

variable {σ : Type}

/-! ## What is mounted -/

/-- Refreshes of a zone have got numbers in between. -/
def Numbered (z : Zone) (s t : Watch σ) (ns : List Nat) : Prop :=
  ∀ n ∈ ns, (s.world.zone z).nextTick ≤ n ∧ n < (t.world.zone z).nextTick

/-- Instances have been attached in between that nobody knows of. -/
structure Mounted (z : Zone) (s t : Watch σ) (is : List Instance) : Prop where
  zone : ∀ i ∈ is, i.zone = z
  new : ∀ i ∈ is, s.world.serial ≤ i.serial ∧ i.serial < t.world.serial
  distinct : (is.map (·.serial)).Nodup
  unknown : ∀ i ∈ is, ∀ j, HandedOut t.log j → j.serial ≠ i.serial
  held : ∀ i ∈ is, ∃ r, t.world.registrations? i.serial = some r ∧ Numbered z s t r.ticks

/-- What has been wired up got its numbers in between. -/
structure Wired (z : Zone) (s t : Watch σ) (w : Wiring) : Prop where
  ticks : Numbered z s t w.ticks
  children : Mounted z s t (Instance.allOf w.children)

/-- Nobody that was handed out has a refresh of this number, which a zone has given, if it was
made. -/
def Unshared (z : Zone) (n : Nat) (s : Watch σ) : Prop :=
  (∀ j, j.zone.id = z.id → ¬ Owned s.log j n) ∧
    (z.id < s.world.zones.size → n < (s.world.zone z).nextTick)

/-- What is wired up is added to, with new numbers. -/
def Gains (z : Zone) (w : Wiring) (s : Watch σ) (w' : Wiring) (t : Watch σ) : Prop :=
  ∀ q : Watch σ, q.Goes s → Wired z q s w → Wired z q t w'

section

variable {z : Zone} {q s t r : Watch σ} {ns ms : List Nat} {is js : List Instance}
  {w w' w'' : Wiring}

theorem Numbered.widen (numbered : Numbered z s t ns) (before : q.Goes s) (after : t.Goes r) :
    Numbered z q r ns := by
  intro n member
  obtain ⟨less, more⟩ := numbered n member
  exact ⟨Nat.le_trans (before.ticks z) less, Nat.lt_of_lt_of_le more (after.ticks z)⟩

theorem Numbered.later (numbered : Numbered z s t ns) (after : t.Goes r) : Numbered z s r ns :=
  numbered.widen (.silent (.refl [] s) (.refl _)) after

theorem Numbered.append (first : Numbered z s t ns) (second : Numbered z s t ms) :
    Numbered z s t (ns ++ ms) :=
  fun n member => (List.mem_append.1 member).elim (first n) (second n)

/-- The number that a refresh has got is new. -/
theorem Unshared.added {r : Refresh} {n : Nat} (good : s.Good)
    (same : s.world.addRefresh z r = (n, t.world)) (silent : s.Silent [] t) : Unshared z n t := by
  obtain ⟨number, world⟩ := Prod.mk.inj same
  constructor
  · intro j zone owned
    have less := good.stands.ticks j n (silent.owned j n owned)
    rw [s.world.zone_congr zone, number] at less
    exact Nat.lt_irrefl n less
  · rw [← world]
    intro room
    have room : z.id < s.world.zones.size := by simpa [World.onZone] using room
    rw [World.zone_onZone, if_pos ⟨rfl, room⟩, ← number]
    exact Nat.lt_succ_self _

namespace Mounted

theorem nil (z : Zone) (s t : Watch σ) : Mounted z s t [] :=
  ⟨nofun, nofun, List.nodup_nil, nofun, nofun⟩

/-- What is done next does not get at them. -/
theorem kept (mounted : Mounted z s t is) (onward : t.world.Onward r.world)
    (handed : ∀ j, HandedOut r.log j → j.serial < t.world.serial → HandedOut t.log j)
    (same : ∀ i ∈ is, r.world.registrations? i.serial = t.world.registrations? i.serial) :
    Mounted z s r is where
  zone := mounted.zone
  new i member :=
    ⟨(mounted.new i member).1, Nat.lt_of_lt_of_le (mounted.new i member).2 onward.serial⟩
  distinct := mounted.distinct
  unknown i member j out alike := by
    have less := (mounted.new i member).2
    rw [← alike] at less
    exact mounted.unknown i member j (handed j out less) alike
  held i member := by
    obtain ⟨r, found, numbered⟩ := mounted.held i member
    refine ⟨r, (same i member).trans found, fun n listed => ⟨(numbered n listed).1, ?_⟩⟩
    exact Nat.lt_of_lt_of_le (numbered n listed).2 (onward.ticks z)

/-- Whatever is done next, it does not get at them. -/
theorem later (mounted : Mounted z s t is) (after : t.Goes r) : Mounted z s r is :=
  mounted.kept after.toOnward after.handed fun i member =>
    after.kept _ (mounted.new i member).2 (mounted.unknown i member)

theorem earlier (mounted : Mounted z s t is) (before : q.Goes s) : Mounted z q t is where
  zone := mounted.zone
  new i member :=
    ⟨Nat.le_trans before.serial (mounted.new i member).1, (mounted.new i member).2⟩
  distinct := mounted.distinct
  unknown := mounted.unknown
  held i member := by
    obtain ⟨r, found, numbered⟩ := mounted.held i member
    exact ⟨r, found, fun n listed =>
      ⟨Nat.le_trans (before.ticks z) (numbered n listed).1, (numbered n listed).2⟩⟩

/-- Others have been mounted behind them. -/
theorem append (first : Mounted z q s is) (before : q.Goes s) (after : s.Goes t)
    (second : Mounted z s t js) : Mounted z q t (is ++ js) where
  zone := List.forall_mem_append.2 ⟨first.zone, second.zone⟩
  new := List.forall_mem_append.2 ⟨(first.later after).new, (second.earlier before).new⟩
  distinct := by
    rw [List.map_append]
    refine List.nodup_append.2 ⟨first.distinct, second.distinct, fun m here n there same => ?_⟩
    obtain ⟨i, old, rfl⟩ := List.mem_map.1 here
    obtain ⟨j, new, rfl⟩ := List.mem_map.1 there
    have less := Nat.lt_of_lt_of_le (first.new i old).2 (second.new j new).1
    exact Nat.ne_of_lt less same
  unknown := List.forall_mem_append.2 ⟨(first.later after).unknown, second.unknown⟩
  held := List.forall_mem_append.2 ⟨(first.later after).held, (second.earlier before).held⟩

end Mounted

namespace Wired

theorem empty (z : Zone) (s t : Watch σ) : Wired z s t {} :=
  ⟨nofun, .nil z s t⟩

theorem later (wired : Wired z s t w) (after : t.Goes r) : Wired z s r w :=
  ⟨wired.ticks.later after, wired.children.later after⟩

end Wired

namespace Gains

theorem refl (z : Zone) (w : Wiring) (s : Watch σ) : Gains z w s w s :=
  fun _ _ wired => wired

theorem trans (goes : s.Goes t) (first : Gains z w s w' t) (second : Gains z w' t w'' r) :
    Gains z w s w'' r :=
  fun q before wired => second q (before.trans goes) (first q before wired)

theorem later (wires : Gains z w s w' t) (after : t.Goes r) : Gains z w s w' r :=
  fun q before wired => (wires q before wired).later after

/-- What is done beside before. -/
theorem after (goes : s.Goes t) (adds : Gains z w t w' r) : Gains z w s w' r :=
  trans goes ((refl z w s).later goes) adds

theorem listener (goes : s.Goes t) (l : Listener) :
    Gains z w s { w with listeners := w.listeners ++ [l] } t :=
  fun _ _ wired => ⟨(wired.later goes).ticks, (wired.later goes).children⟩

theorem tick (goes : s.Goes t) {n : Nat} (numbered : Numbered z s t [n]) :
    Gains z w s { w with ticks := w.ticks ++ [n] } t := by
  intro q before wired
  have now := wired.later goes
  exact ⟨now.ticks.append (numbered.widen before (.silent (.refl [] t) (.refl _))), now.children⟩

theorem child (goes : s.Goes t) {i : Instance} (mounted : Mounted z s t i.all) :
    Gains z w s { w with children := w.children ++ [i] } t := by
  intro q before wired
  refine ⟨(wired.later goes).ticks, ?_⟩
  rw [Instance.allOf_eq, List.flatMap_append, ← Instance.allOf_eq, List.flatMap_singleton]
  exact wired.children.append before goes mounted

end Gains

end

/-! ## Wiring up -/

namespace Leads

open Watched

theorem attachOutput (b : Binding) (e : Expression) (live : NodeId) (o : ObjectId) (z : Zone) :
    Behaves (Watched.attachOutput b e live o z : Watched σ Listener) := by
  refine .bind (.step [] fun _ => .of_zones rfl rfl (Nat.le_succ _)) fun n => ?_
  refine .bind (.changes (.addWrapped z _) fun w => ?_) fun _ => .pure _
  exact .of_rewired (.addWrapped z _ w)

/-- Several things are wired up, one after the other. -/
theorem foldl {α : Type} {z : Zone} {f : Wiring → α → Watched σ Wiring}
    {as : List α} (each : ∀ a ∈ as, ∀ w, Leads (f w a) (Gains z w)) (w : Wiring) :
    Leads (as.foldlM f w) (Gains z w) := by
  induction as generalizing w with
  | nil => exact .pure (.refl z w)
  | cons a rest ih =>
      obtain ⟨here, others⟩ := List.forall_mem_cons.1 each
      rw [List.foldlM_cons]
      exact .bind (here w) (ih others) fun first _ adds more => adds.trans first.toGoes more

/-- What has been done leads to the same with cells borrowed and something given back. -/
theorem keeping {α β : Type} {x : Watched σ α} {P : Watch σ → α → Watch σ → Prop}
    {R : Watch σ → β → Watch σ → Prop} (first : Leads x P) (loans : α → List Loan) (b : α → β)
    (join : ∀ {s t a}, s.Reaches t → P s a t → ∀ {r}, t.Reaches r → R s (b a) r) :
    Leads (do
      let a ← x
      Watched.step (loans a) fun world => ((), world)
      return b a) R :=
  .bind first (fun a => .bind (Behaves.step (loans a) .refl)
    (fun _ => .pure (P := fun _ c _ => c = b a) fun _ => rfl) fun _ _ _ same => same)
    fun first second holds same => by rw [same]; exact join first holds second

theorem wireChildren {z : Zone} {parts : List (Spot × (NodeId → Watched σ Instance))}
    (mounts : ∀ p ∈ parts, ∀ live, Leads (p.2 live) fun s i t => Mounted z s t i.all)
    (serial : Nat) (address : List Nat) (live : NodeId) (w : Wiring) :
    Leads (Watched.wireChildren serial parts address live w) (Gains z w) := by
  refine foldl (fun p member w => ?_) w
  refine keeping (mounts p (List.mem_of_mem_filter member) live)
    (fun _ => [(Cell.children serial).alone]) (fun i => { w with children := w.children ++ [i] })
    fun first mounted _ second => ?_
  exact (Gains.child first.toGoes mounted).later second.toGoes

section Copying

variable {z : Zone} {wire : List Nat → NodeId → Wiring → Watched σ Wiring}
  (cells : List Nat → List Loan)

mutual

theorem copy (wires : ∀ address live w, Leads (wire address live w) (Gains z w)) :
    ∀ (address : List Nat) (t : Tree) (w : Wiring),
      Leads (Watched.copy cells wire address t w) fun s p t => Gains z w s p.2 t
  | address, .node d ts, w => by
      rw [Watched.copy]
      refine .bind (Behaves.step _ fun _ => .of_zones rfl rfl (Nat.le_refl _)) (fun live => ?_)
        fun first _ _ adds => Gains.after first.toGoes adds
      refine .bind (copyAll wires live address 0 ts w) (fun w' => ?_)
        fun first _ adds more => adds.trans first.toGoes more
      refine .bind (wires address live w') (fun w'' => .pure (P := fun _ p _ => p = (live, w''))
        fun _ => rfl) fun _ second adds same => ?_
      rw [same]
      exact adds.later second.toGoes

theorem copyAll (wires : ∀ address live w, Leads (wire address live w) (Gains z w)) :
    ∀ (parent : NodeId) (address : List Nat) (i : Nat) (ts : List Tree) (w : Wiring),
      Leads (Watched.copyAll cells wire parent address i ts w) (Gains z w)
  | _, _, _, [], w => .pure (.refl z w)
  | parent, address, i, t :: ts, w => by
      rw [Watched.copyAll]
      refine .bind (copy wires (address ++ [i]) t w) (fun p => ?_)
        fun first _ adds more => adds.trans first.toGoes more
      exact .bind (Behaves.step _ fun _ => .of_zones rfl rfl (Nat.le_refl _))
        (fun _ => copyAll wires parent address (i + 1) ts p.2)
        fun first _ _ adds => Gains.after first.toGoes adds

end

end Copying

/-! ## Mounting -/

section User

variable {u : UserCode σ} {v : Hooks σ} (hooks : v.Behave)

include hooks

/-- An input shows its value as a refresh that nobody knows of. -/
theorem shown (z : Zone) (n : Nat) (r : Refresh) :
    Follows (fun s t => s = t ∧ Unshared z n t)
      (Watched.calling (.refresh z.id n) (Watched.refresh u v r))
      fun _ _ t => n < (t.world.zone z).nextTick := by
  refine .calling (P := fun _ _ _ => True) (by intro i same; cases same) And.left ?_
    (Behaves.refresh hooks r).within ?_
  · -- the zone was made, so the number is one of its own
    rintro s ⟨-, unknown, given⟩ good proper
    refine good.enterRefresh (.inr unknown) ?_
    obtain ⟨o, member, y, opened, same⟩ := proper.2.1 z.id n rfl
    exact given (same ▸ good.stands.opened o member y opened)
  · intro s _ t _ entered reaches _
    exact Nat.lt_of_lt_of_le (entered.numbers _ List.mem_cons_self z n rfl) (reaches.ticks z)

theorem attachInput (b : Binding) (e : Expression) (live : NodeId) (o : ObjectId) (z : Zone) :
    Leads (Watched.attachInput u v b e live o z) fun s n t => Numbered z s t [n] := by
  let refresh := Refresh.bound live b.name e o
  have added : Leads (Watched.addRefresh z refresh : Watched σ Nat) fun s n t =>
      s.world.addRefresh z refresh = (n, t.world) ∧ s.Silent [] t :=
    .changes (.step _ _) fun w => .addRefresh w z refresh
  have returned (n : Nat) {x : Watched σ Nat} (same : Leads x fun _ m _ => m = n) :
      Follows (fun s t => s.Reaches t ∧ Numbered z s t [n]) x fun s m t => Numbered z s t [m] := by
    refine same.after And.left fun before more same => ?_
    rw [same]
    exact before.2.later more.toGoes
  refine Follows.bind
    (M := fun n s t => s.Reaches t ∧ (s.world.zone z).nextTick = n ∧ Unshared z n t)
    added (fun n => ?_) (fun _ => rfl) ?_
  · refine Follows.bind (M := fun _ s t => s.Reaches t ∧ Numbered z s t [n])
      (shown hooks z n refresh) (fun r => returned n ?_) (fun before => ⟨rfl, before.2.2⟩) ?_
    · cases r with
      | ok _ => exact .pure fun _ => rfl
      | error e =>
          exact .bind (Behaves.notice u _) (fun _ => .pure (P := fun _ m _ => m = n) fun _ => rfl)
            fun _ _ _ same => same
    · rintro s t - r ⟨before, number, -⟩ - reaches given
      refine ⟨before.trans reaches, fun m member => ?_⟩
      rw [List.mem_singleton.1 member]
      exact ⟨Nat.le_of_eq number, given⟩
  · rintro s t n r rfl good reaches ⟨same, silent⟩
    exact ⟨reaches, congrArg Prod.fst same, .added good same silent⟩

/-- What a binding has registered is added to what is wired up. -/
theorem attachBinding (b : Binding) (live : NodeId) (o : ObjectId) (z : Zone) :
    Leads (Watched.attachBinding u v b live o z) fun s a t => ∀ w, Gains z w s (w.add a) t := by
  unfold Watched.attachBinding
  cases b.expression with
  | error e =>
      refine .bind (Behaves.notice u _) (fun _ => .pure (P := fun _ a _ => a = none) fun _ => rfl)
        fun first second _ same w => ?_
      rw [same]
      exact (Gains.refl z w _).later (first.trans second).toGoes
  | ok e =>
      cases b.kind with
      | input =>
          refine .bind (attachInput hooks b e live o z)
            (fun n => .pure (P := fun _ a _ => a = some (.refresh n)) fun _ => rfl)
            fun first second numbered same w => ?_
          rw [same]
          exact (Gains.tick first.toGoes numbered).later second.toGoes
      | output =>
          refine .bind (attachOutput b e live o z)
            (fun l => .pure (P := fun _ a _ => a = some (.listener l)) fun _ => rfl)
            fun first second _ same w => ?_
          rw [same]
          exact .listener (first.trans second).toGoes _

theorem wireBindings (z : Zone) (o : ObjectId) (serial : Nat) (bindings : List (Spot × Binding))
    (address : List Nat) (live : NodeId) (w : Wiring) :
    Leads (Watched.wireBindings u v z o serial bindings address live w) (Gains z w) := by
  refine foldl (fun p _ w => ?_) w
  exact keeping (attachBinding hooks p.2 live o z) (Watched.keeper serial) w.add
    fun _ adds _ second => (adds w).later second.toGoes

end User

end Leads

/-! ## Mounting -/

/-- A number is reserved for an instance, and things are wired up for it. -/
structure Enrolls (z : Zone) (n : Nat) (w : Wiring) (s t : Watch σ) : Prop where
  reaches : s.Reaches t
  new : s.world.serial ≤ n
  unknown : ∀ i, HandedOut t.log i → i.serial ≠ n
  wired : ∃ q : Watch σ, s.Goes q ∧ n < q.world.serial ∧ q.Goes t ∧ Wired z q t w

namespace Enrolls

variable {z : Zone} {n : Nat} {w w' : Wiring} {s t r : Watch σ}

/-- More is wired up. -/
theorem adds (enrolls : Enrolls z n w s t) (reaches : t.Reaches r) (adds : Gains z w t w' r) :
    Enrolls z n w' s r := by
  obtain ⟨q, before, less, after, wired⟩ := enrolls.wired
  refine ⟨enrolls.reaches.trans reaches, enrolls.new, fun i handed same => ?_, q, before, less,
    after.trans reaches.toGoes, adds q after wired⟩
  have old : i.serial < t.world.serial := same ▸ Nat.lt_of_lt_of_le less after.serial
  exact enrolls.unknown i (reaches.handed i handed old) same

/-- Something else is done. -/
theorem later (enrolls : Enrolls z n w s t) (reaches : t.Reaches r) : Enrolls z n w s r :=
  enrolls.adds reaches ((Gains.refl z w t).later reaches.toGoes)

/-- A number is given out. -/
theorem fresh (good : s.Good) (reaches : s.Reaches t) (silent : s.Silent [] t)
    (serial : s.world.serial = n) (next : t.world.serial = n + 1) : Enrolls z n {} s t where
  reaches := reaches
  new := Nat.le_of_eq serial
  unknown i handed same := by
    have given := good.stands.given i (silent.handed i handed)
    omega
  wired := ⟨t, reaches.toGoes, by omega, .silent (.refl [] t) (.refl _), .empty z t t⟩

/-- What was wired up is recorded under the number. -/
theorem record (enrolls : Enrolls z n w s t) (good : t.Good) {ls : List Listener}
    {mounted : List NodeId} (silent : t.Silent [] r) (calls : r.calls = t.calls)
    (world : r.world =
      { t.world with attached := (n, ⟨w.ticks, ls, mounted⟩) :: t.world.attached })
    (b : Blueprint) (o : ObjectId) (os : List ObjectId) (host : NodeId) :
    s.Reaches r ∧ Mounted z s r (Instance.mk n b o os host z w.children).all := by
  obtain ⟨q, before, less, after, wired⟩ := enrolls.wired
  have steady : t.world.Steady r.world := by
    rw [world]
    exact .of_refreshing (.of_zones rfl) (Nat.le_refl _)
  have own : r.world.registrations? n = some ⟨w.ticks, ls, mounted⟩ := by
    rw [world]
    exact List.lookup_cons_self
  have others (m : Nat) (other : m ≠ n) :
      r.world.registrations? m = t.world.registrations? m := by
    rw [world, World.registrations?, List.lookup_cons, beq_eq_false_iff_ne.2 other]
    rfl
  have recorded : r.Good := good.settle silent steady
    (fun i handed => others _ (enrolls.unknown i handed)) fun _ member => .inl (calls ▸ member)
  have goes : s.Goes r :=
    { toOnward := enrolls.reaches.toOnward.trans steady.toOnward
      log := enrolls.reaches.log.trans silent.log
      size := Nat.le_trans enrolls.reaches.size steady.size
      handed := fun i handed less => enrolls.reaches.handed i (silent.handed i handed) less
      kept := fun m less unknown => (others m (by have := enrolls.new; omega)).trans
        (enrolls.reaches.kept m less unknown)
      owned := fun j n owned less => enrolls.reaches.owned j n (silent.owned j n owned) less }
  -- the instances inside got their numbers later than this one
  have apart : ∀ i ∈ Instance.allOf w.children, n < i.serial := fun i member =>
    Nat.lt_of_lt_of_le less (wired.children.new i member).1
  have inside : Mounted z s r (Instance.allOf w.children) :=
    (wired.children.kept steady.toOnward (fun i handed _ => silent.handed i handed)
      fun i member => others _ (Nat.ne_of_gt (apart i member))).earlier before
  have ticks : Numbered z s r w.ticks := fun m member =>
    ⟨Nat.le_trans (before.ticks z) (wired.ticks m member).1,
      Nat.lt_of_lt_of_le (wired.ticks m member).2 (steady.ticks z)⟩
  have bound : n < r.world.serial :=
    Nat.lt_of_lt_of_le less (after.toOnward.trans steady.toOnward).serial
  refine ⟨⟨goes, recorded, calls.trans enrolls.reaches.calls⟩, ?_⟩
  rw [Instance.all]
  exact
    { zone := List.forall_mem_cons.2 ⟨rfl, inside.zone⟩
      new := List.forall_mem_cons.2 ⟨⟨enrolls.new, bound⟩, inside.new⟩
      distinct := List.nodup_cons.2 ⟨fun member => by
        obtain ⟨i, listed, same⟩ := List.mem_map.1 member
        exact Nat.ne_of_gt (apart i listed) same, inside.distinct⟩
      unknown := List.forall_mem_cons.2
        ⟨fun i handed => enrolls.unknown i (silent.handed i handed), inside.unknown⟩
      held := List.forall_mem_cons.2 ⟨⟨_, own, ticks⟩, inside.held⟩ }

end Enrolls

namespace Leads

open Watched

/-- What was wired up is recorded, and the instance is there. -/
theorem record {z : Zone} {n : Nat} {w : Wiring} (b : Blueprint) (o : ObjectId)
    (os : List ObjectId) (host : NodeId) (mounted : List NodeId) :
    Follows (Enrolls (σ := σ) z n w) (do
      Watched.step [(Cell.children n).shared, (Cell.mounted n).alone] fun world =>
        ((), { world with attached := (n, ⟨w.ticks, w.listeners, mounted⟩) :: world.attached })
      return Instance.mk n b o os host z w.children) fun s i t => Mounted z s t i.all := by
  let i : Instance := .mk n b o os host z w.children
  have changes : Changes (σ := σ) []
      (fun world => (i, { world with
        attached := (n, ⟨w.ticks, w.listeners, mounted⟩) :: world.attached })) (do
      Watched.step [(Cell.children n).shared, (Cell.mounted n).alone] fun world =>
        ((), { world with attached := (n, ⟨w.ticks, w.listeners, mounted⟩) :: world.attached })
      return i) := .bind (.step _ _) fun _ => .pure i
  refine ⟨fun s => (changes s).1.log, fun s t enrolls good _ => ?_⟩
  obtain ⟨silent, done⟩ := changes t
  generalize ran : Watched.exec _ t = e at silent done ⊢
  obtain ⟨h | j, r⟩ := e
  · exact .halted (silent.clear good.abides good.excused).1
  · obtain ⟨same, calls⟩ := done j rfl
    obtain ⟨rfl, world⟩ := Prod.mk.inj same
    obtain ⟨reaches, inside⟩ := enrolls.record good silent calls world.symm b o os host
    exact .done reaches inside

section User

variable {u : UserCode σ} {v : Hooks σ}

mutual

/-- Mounting a blueprint leads to instances that nobody knows of. -/
theorem mount (hooks : v.Behave) (z : Zone) : ∀ (b : Blueprint) (o : ObjectId) (host : NodeId),
    Leads (Watched.mount u v z b o host) fun s i t => Mounted z s t i.all
  | .mk compiler cls template bindings children warnings, o, host => by
      rw [Watched.mount]
      refine .behind (Behaves.mapM (fun c => Behaves.construct u c) _) (fun objects => ?_)
        fun before mounted => mounted.earlier before
      have counted : Leads (Watched.fresh : Watched σ Nat) fun s n t =>
          (s.world.serial, { s.world with serial := s.world.serial + 1 }) = (n, t.world) ∧
            s.Silent [] t :=
        .changes (.step [] _) fun _ => .of_zones rfl rfl (Nat.le_succ _)
      refine Follows.bind (M := fun n s t => Enrolls z n {} s t) counted (fun n => ?_)
        (fun _ => rfl) ?_
      · refine Follows.bind (M := fun _ s t => Enrolls z n {} s t)
          (Behaves.step _ fun _ => .of_zones rfl rfl (Nat.le_refl _)) (fun fragment => ?_)
          (fun _ => rfl) fun enrolls _ reaches _ => enrolls.later reaches
        refine Follows.bind (M := fun w s t => Enrolls z n w s t)
          (copyAll _ (fun address live w => ?_) fragment [] 0 template.root.children {})
          (fun w => ?_) (fun _ => rfl) fun enrolls _ reaches gains => enrolls.adds reaches gains
        · exact .bind (wireBindings hooks z o n bindings address live w)
            (wireChildren (mountings hooks z children objects) n address live)
            fun first _ adds more => adds.trans first.toGoes more
        · exact Follows.bind (M := fun _ s t => Enrolls z n w s t)
            (Behaves.step _ fun _ => .of_zones rfl rfl (Nat.le_refl _))
            (fun mounted => record _ o objects host mounted) (fun _ => rfl)
            fun enrolls _ reaches _ => enrolls.later reaches
      · rintro s t n r rfl good reaches ⟨same, silent⟩
        obtain ⟨number, world⟩ := Prod.mk.inj same
        refine .fresh good reaches silent number ?_
        rw [← world, ← number]

theorem mountings (hooks : v.Behave) (z : Zone) :
    ∀ (children : List (Spot × Blueprint)) (objects : List ObjectId),
    ∀ p ∈ Watched.mountings u v z children objects, ∀ live,
      Leads (p.2 live) fun s i t => Mounted z s t i.all
  | [], _ => by
      rw [Watched.mountings]
      exact nofun
  | (spot, b) :: rest, o :: os => by
      rw [Watched.mountings]
      exact List.forall_mem_cons.2 ⟨fun live => mount hooks z b o live, mountings hooks z rest os⟩
  | (spot, b) :: rest, [] => by
      rw [Watched.mountings]
      refine List.forall_mem_cons.2 ⟨fun live => ?_, mountings hooks z rest []⟩
      exact .behind (Behaves.construct u b.cls) (fun o => mount hooks z b o live)
        fun before mounted => mounted.earlier before

end

end User

end Leads

end LiveTemplates
