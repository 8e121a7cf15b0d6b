/-
# LiveTemplates.Proofs.Detaching.Leading -- evaluations, ticks and dispatches keep it so

From a good state on, activities lead to good ones, as long as only instances are detached that
were handed out and refreshes run in zones that were made.  A tick takes down at its start what
its zone runs, and nothing of that is retired then; so all that it runs later is excused.

* `Leads`: what an activity leads to, from each good state on;
* `Behaves`: an activity leads to good states;
* `Behaves.evaluate`, `Behaves.tick`, `Behaves.dispatch`: so do these, if the user's methods,
  handlers and refreshes do.
-/
import LiveTemplates.Proofs.Detaching.Standing

namespace LiveTemplates

set_option autoImplicit false

variable {σ : Type} {α β : Type}

/-! ## What activities lead to -/

/-- A run has come to a result in a good state, or ended it all after a record that abides. -/
inductive Watch.Comes (s : Watch σ) (P : α → Watch σ → Prop) : Except Halt α × Watch σ → Prop
  | done {a : α} {t : Watch σ} (reaches : s.Reaches t) (holds : P a t) : Comes s P (.ok a, t)
  | halted {h : Halt} {t : Watch σ} (abides : Abides t.log) : Comes s P (.error h, t)

/-- An activity only adds to the record. -/
def Grows (y : Watched σ α) : Prop :=
  ∀ s, s.log <:+ (y.exec s).2.log

/-- What an activity comes to in good states, as told from states on that these have been got to
from. -/
structure Follows (pre : Watch σ → Watch σ → Prop) (y : Watched σ α)
    (P : Watch σ → α → Watch σ → Prop) : Prop where
  grows : Grows y
  comes : ∀ s t, pre s t → t.Good → Proper (y.exec t).2.log → s.Comes (P s) (y.exec t)

/-- What an activity leads to from good states on. -/
def Leads (y : Watched σ α) (P : Watch σ → α → Watch σ → Prop) : Prop :=
  Follows Eq y P

/-- From good states on, an activity leads to good ones. -/
def Behaves (y : Watched σ α) : Prop :=
  Leads y fun _ _ _ => True

open Watched

namespace Grows

variable {x : Watched σ α} {y : α → Watched σ β}

theorem bind (first : Grows x) (later : ∀ a, Grows (y a)) : Grows (x >>= y) := by
  intro s
  have more := first s
  rcases ran : x.exec s with ⟨h | a, t⟩
  all_goals rw [ran] at more
  · rw [exec_bind_error ran]
    exact more
  · rw [exec_bind_ok ran]
    exact more.trans (later a t)

theorem calling (grows : Grows x) (c : Call) : Grows (Watched.calling c x) := by
  refine bind (fun _ => List.suffix_cons _ _) fun _ => bind grows fun _ => ?_
  exact bind (fun _ => List.suffix_cons _ _) fun _ _ => List.suffix_refl _

end Grows

namespace Watch

variable {s t : Watch σ}

theorem Comes.imp {P P' : α → Watch σ → Prop} {e : Except Halt α × Watch σ} (comes : s.Comes P e)
    (weaker : ∀ a t, s.Reaches t → P a t → P' a t) : s.Comes P' e := by
  cases comes with
  | done reaches holds => exact .done reaches (weaker _ _ reaches holds)
  | halted abides => exact .halted abides

theorem Comes.after {P : α → Watch σ → Prop} {e : Except Halt α × Watch σ} (reaches : s.Reaches t)
    (comes : t.Comes P e) : s.Comes P e := by
  cases comes with
  | done more holds => exact .done (reaches.trans more) holds
  | halted abides => exact .halted abides

/-- The beginning of a call. -/
theorem Goes.enter (s : Watch σ) (c : Call) : s.Goes (s.enter c) := by
  have began : s.Goes (s.note (.begins c)) := .silent (.note rfl nofun nofun) (.refl _)
  exact ⟨began.toOnward, began.log, began.size, began.handed, began.kept, began.owned⟩

theorem Good.enter (good : s.Good) {c : Call} (other : ∀ z n, c ≠ .refresh z n) :
    (s.enter c).Good :=
  good.silent (.enter other) (.refl _) fun _ member =>
    (List.mem_cons.1 member).elim (fun same => .inr (by rw [same]; exact other)) .inl

/-- A refresh begins that is excused. -/
theorem Good.enterRefresh (good : s.Good) {z : Zone} {n : Nat}
    (excused : (∃ before rest, before <:+ s.log ∧ s.calls = ⟨.tick z.id, before.length⟩ :: rest ∧
      ¬ Retired before z.id n) ∨ ∀ j, j.zone.id = z.id → ¬ Owned s.log j n)
    (number : n < (s.world.zone z).nextTick) : (s.enter (.refresh z.id n)).Good := by
  have began : (s.note (.begins (.refresh z.id n))).Good :=
    good.silent (.note rfl nofun nofun) (.refl _) fun _ => .inl
  refine ⟨began.abides, ⟨fun y m same => ?_, began.excused⟩, began.stands,
    fun c member y m same => ?_⟩
  · injection same with zone tick
    rw [← zone, ← tick]
    obtain ⟨before, rest, old, ticks, standing⟩ | away := excused
    · exact .inl ⟨before, rest, old.trans (List.suffix_cons _ _), ticks, standing⟩
    · exact .inr fun j own owned => away j own (owned.of_cons rfl)
  · rcases List.mem_cons.1 member with rfl | old
    · injection same with zone tick
      rw [← tick, World.zone_congr _ zone.symm]
      exact number
    · exact good.numbers c old y m same

end Watch

namespace Follows

variable {pre start : Watch σ → Watch σ → Prop} {x : Watched σ α}
  {P : Watch σ → α → Watch σ → Prop} {Q : Watch σ → β → Watch σ → Prop}

/-- One thing after the other. -/
theorem bind {y : α → Watched σ β} {M : α → Watch σ → Watch σ → Prop}
    (first : Follows start x P) (later : ∀ a, Follows (M a) (y a) Q)
    (starts : ∀ {s t}, pre s t → start t t)
    (meets : ∀ {s t a r}, pre s t → t.Good → t.Reaches r → P t a r → M a s r) :
    Follows pre (x >>= y) Q := by
  refine ⟨first.grows.bind fun a => (later a).grows, fun s t before good proper => ?_⟩
  have comes := first.comes t t (starts before) good
  rcases ran : x.exec t with ⟨h | a, r⟩
  all_goals rw [ran] at comes
  · rw [exec_bind_error ran] at proper ⊢
    cases comes proper with
    | halted abides => exact .halted abides
  · rw [exec_bind_ok ran] at proper ⊢
    cases comes (proper.before ((later a).grows r)) with
    | done reaches holds =>
        exact (later a).comes s r (meets before good reaches holds) reaches.toGood proper

/-- From good states of a kind on, it leads to good ones, whatever was done before. -/
theorem behind {C : Watch σ → Prop} (follows : Follows (fun s t => s = t ∧ C t) x fun _ _ _ => True) :
    Follows (fun s t => s.Reaches t ∧ C t) x fun _ _ _ => True :=
  ⟨follows.grows, fun _ t before good proper =>
    .after before.1 (follows.comes t t ⟨rfl, before.2⟩ good proper)⟩

/-- A call goes on meanwhile. -/
theorem calling {c : Call} {Q : Watch σ → α → Watch σ → Prop} (own : ∀ i, c ≠ .detach i)
    (same : ∀ {s t}, pre s t → s = t)
    (enters : ∀ {s}, pre s s → s.Good → Proper (s.enter c).log → (s.enter c).Good)
    (inner : Follows (fun s t => s = t ∧ ∃ r, pre r r ∧ r.Good ∧ t = r.enter c) x P)
    (leaves : ∀ {s a t}, pre s s → (s.enter c).Good → (s.enter c).Reaches t → P (s.enter c) a t →
      Q s a (t.leave c)) : Follows pre (Watched.calling c x) Q := by
  refine ⟨inner.grows.calling c, fun s t before good proper => ?_⟩
  obtain rfl := same before
  rw [Watched.calling, exec_bind_ok (exec_modify _ _), closing] at proper ⊢
  have entered (proper : Proper (x.exec (s.enter c)).2.log) : (s.enter c).Good :=
    enters before good (proper.before (inner.grows _))
  have comes (proper : Proper (x.exec (s.enter c)).2.log) :=
    inner.comes (s.enter c) (s.enter c) ⟨rfl, s, before, good, rfl⟩ (entered proper) proper
  rcases ran : x.exec (s.enter c) with ⟨h | a, t⟩
  all_goals rw [ran] at entered comes
  · rw [exec_bind_error ran] at proper ⊢
    cases comes proper with
    | halted abides => exact .halted abides
  · rw [exec_bind_ok ran, exec_bind_ok (exec_modify _ _), exec_pure] at proper ⊢
    have returned : t.Silent [] (t.leave c) := .leave fun i same => absurd same (own i)
    have proper : Proper t.log := proper.before returned.log
    cases comes proper with
    | done reaches holds =>
        have goes : s.Goes (t.leave c) :=
          (Watch.Goes.enter s c).trans (reaches.toGoes.trans (.silent returned (.refl _)))
        have left : (t.leave c).Good := reaches.toGood.silent returned (.refl _)
          fun _ member => .inl (List.mem_of_mem_tail member)
        exact .done ⟨goes, left, congrArg List.tail reaches.calls⟩ 
          (leaves before (entered proper) reaches holds)

end Follows

namespace Leads

variable {pre : Watch σ → Watch σ → Prop} {y : Watched σ α} {P : Watch σ → α → Watch σ → Prop}

theorem pure {a : α} (holds : ∀ s, P s a s) : Leads (Pure.pure a : Watched σ α) P := by
  refine ⟨fun _ => List.suffix_refl _, fun s t same good _ => ?_⟩
  rw [same]
  exact .done (.refl good) (holds t)

/-- What is done before leads to the same. -/
theorem after (leads : Leads y P) {Q : Watch σ → α → Watch σ → Prop}
    (reaches : ∀ {s t}, pre s t → s.Reaches t)
    (join : ∀ {s t a r}, pre s t → t.Reaches r → P t a r → Q s a r) : Follows pre y Q :=
  ⟨leads.grows, fun _ t before good proper => .after (reaches before)
    ((leads.comes t t rfl good proper).imp fun _ _ more holds => join before more holds)⟩

/-- One thing after the other. -/
theorem bind {x : Watched σ β} {y : β → Watched σ α} {P : Watch σ → β → Watch σ → Prop}
    {Q : β → Watch σ → α → Watch σ → Prop} {R : Watch σ → α → Watch σ → Prop} (first : Leads x P)
    (later : ∀ b, Leads (y b) (Q b))
    (join : ∀ {s t r b a}, s.Reaches t → t.Reaches r → P s b t → Q b t a r → R s a r) :
    Leads (x >>= y) R := by
  refine Follows.bind (M := fun b s t => s.Reaches t ∧ P s b t) first (fun b => ?_)
    (fun _ => rfl) ?_
  · exact (later b).after (fun before => before.1) fun before more holds =>
      join before.1 more before.2 holds
  · rintro s t b r rfl good reaches holds
    exact ⟨reaches, holds⟩

/-- Something is done behind what behaves, and leads to what is told from before that, too. -/
theorem behind {x : Watched σ β} {y : β → Watched σ α} (first : Behaves x)
    (later : ∀ b, Leads (y b) P) (widen : ∀ {s t a r}, s.Goes t → P t a r → P s a r) :
    Leads (x >>= y) P :=
  .bind first later fun reaches _ _ holds => widen reaches.toGoes holds

theorem imp {Q : Watch σ → α → Watch σ → Prop} (leads : Leads y P)
    (weaker : ∀ s a t, s.Reaches t → P s a t → Q s a t) : Leads y Q := by
  refine ⟨leads.grows, fun s t same good proper => ?_⟩
  subst same
  exact (leads.comes s s rfl good proper).imp (weaker s)

theorem behaves (leads : Leads y P) : Behaves y :=
  leads.imp fun _ _ _ _ _ => trivial

/-- What changes the world only, and detaches nothing. -/
theorem changes {f : World σ → α × World σ} (changes : Changes [] f y)
    (calm : ∀ w : World σ, w.Calm (f w).2) :
    Leads y fun s a t => f s.world = (a, t.world) ∧ s.Silent [] t := by
  refine ⟨fun s => (changes s).1.log, fun s t same good _ => ?_⟩
  subst same
  obtain ⟨silent, done⟩ := changes s
  rcases ran : y.exec s with ⟨h | a, t⟩
  all_goals rw [ran] at silent done
  · exact .halted (silent.clear good.abides good.excused).1
  · obtain ⟨same, calls⟩ := done a rfl
    refine .done (.silent good silent ?_ calls) ⟨same, silent⟩
    have calm := calm s.world
    rw [same] at calm
    exact calm

end Leads

namespace Behaves

variable {x : Watched σ α}

theorem pure (a : α) : Behaves (Pure.pure a : Watched σ α) :=
  Leads.pure fun _ => trivial

theorem bind {y : α → Watched σ β} (first : Behaves x) (later : ∀ a, Behaves (y a)) :
    Behaves (x >>= y) :=
  Leads.bind first later fun _ _ _ _ => trivial

theorem changes {f : World σ → α × World σ} (changes : Changes [] f x)
    (calm : ∀ w : World σ, w.Calm (f w).2) : Behaves x :=
  (Leads.changes changes calm).behaves

/-- A change of the world. -/
theorem step (loans : List Loan) {f : World σ → α × World σ} (calm : ∀ w : World σ, w.Calm (f w).2) :
    Behaves (Watched.step loans f) :=
  changes (.step loans f) calm

theorem throw (h : Halt) : Behaves (throw h : Watched σ α) :=
  ⟨fun _ => List.suffix_refl _, fun _ _ _ good _ => .halted good.abides⟩

theorem get {y : Watch σ → Watched σ α} (each : ∀ s, Behaves (y s)) :
    Behaves (MonadState.get >>= y) :=
  ⟨fun s => (each s).grows s, fun s t => (each t).comes s t⟩

/-- Something is recorded that tells nothing of instances and zones. -/
theorem note {what : Happening} (hands : what.handsOut = false) (opens : ∀ z, what ≠ .opened z)
    (own : ∀ i, what ≠ .ends (.detach i)) : Behaves (Watched.note what : Watched σ Unit) :=
  changes (.change (f := id) (fun _ => .note hands opens fun i same => absurd same (own i))
    (fun _ => rfl) fun _ => rfl) .refl

theorem foldlM {f : β → α → Watched σ β} (each : ∀ b a, Behaves (f b a)) (as : List α) (b : β) :
    Behaves (as.foldlM f b) := by
  induction as generalizing b with
  | nil => exact pure b
  | cons a rest ih =>
      rw [List.foldlM_cons]
      exact bind (each b a) ih

theorem forM {f : α → Watched σ Unit} (each : ∀ a, Behaves (f a)) (as : List α) :
    Behaves (as.forM f) := by
  induction as with
  | nil => exact pure ()
  | cons a rest ih => exact bind (each a) fun _ => ih

theorem mapM {f : α → Watched σ β} (each : ∀ a, Behaves (f a)) (as : List α) :
    Behaves (as.mapM f) := by
  induction as with
  | nil => exact pure []
  | cons a rest ih =>
      rw [List.mapM_cons]
      exact bind (each a) fun b => bind ih fun bs => pure (b :: bs)

/-- What behaves does so in states of any kind. -/
theorem within (behaves : Behaves x) {C : Watch σ → Prop} :
    Follows (fun s t => s = t ∧ C t) x fun _ _ _ => True :=
  ⟨behaves.grows, fun s t before => behaves.comes s t before.1⟩

/-- A call goes on meanwhile that is neither that of a refresh nor of detaching. -/
theorem calling {c : Call} (other : ∀ z n, c ≠ .refresh z n) (own : ∀ i, c ≠ .detach i)
    (behaves : Behaves x) : Behaves (Watched.calling c x) :=
  Follows.calling own id (fun _ good _ => good.enter other) behaves.within
    fun _ _ _ _ => trivial

/-! ## Code of the user's -/

theorem entering (behaves : Behaves x) : Behaves (Watched.entering x) :=
  bind (note rfl nofun nofun) fun _ => behaves

theorem own (f : σ → α × σ) : Behaves (Watched.own f) :=
  changes (.own f) fun _ => .of_zones rfl rfl (Nat.le_refl _)

theorem notice (u : UserCode σ) (n : Notice) : Behaves (Watched.notice u n) :=
  own _

theorem construct (u : UserCode σ) (c : ClassRef) : Behaves (Watched.construct u c) :=
  bind (step [] fun _ => .of_zones rfl rfl (Nat.le_succ _)) fun o => bind (own _) fun _ => pure o

end Behaves

/-! ## Evaluating, ticks and dispatches -/

/-- From good states on, the user's methods, handlers and refreshes lead to good ones. -/
structure Hooks.Behave (v : Hooks σ) : Prop where
  call : ∀ o method args, Behaves (v.call o method args)
  handler : ∀ name, Behaves (v.handler name)
  refresh : ∀ name, Behaves (v.refresh name)

/-- A tick has begun, and its zone runs nothing that was retired then. -/
def Starting (z : Zone) (s : Watch σ) : Prop :=
  ∃ before rest, before <:+ s.log ∧ s.calls = ⟨.tick z.id, before.length⟩ :: rest ∧
    ∀ n, s.world.Runs z n → ¬ Retired before z.id n

/-- A tick goes on, and some refreshes are still to run in it that were not retired when it
began. -/
def Ticking (z : Zone) (snapshot : List (Nat × Refresh)) (s : Watch σ) : Prop :=
  ∃ before rest, before <:+ s.log ∧ s.calls = ⟨.tick z.id, before.length⟩ :: rest ∧
    ∀ e ∈ snapshot, ¬ Retired before z.id e.1 ∧ e.1 < (s.world.zone z).nextTick

theorem Starting.enter {z : Zone} {s : Watch σ} (good : s.Good) :
    Starting z (s.enter (.tick z.id)) :=
  ⟨s.log, s.calls, List.suffix_cons _ _, rfl, fun _ runs retired =>
    good.stands.not_runs retired runs⟩

theorem Starting.later {z : Zone} {s t : Watch σ} (starting : Starting z s) (reaches : s.Reaches t)
    (runs : ∀ n, t.world.Runs z n → s.world.Runs z n) : Starting z t := by
  obtain ⟨before, rest, old, calls, standing⟩ := starting
  exact ⟨before, rest, old.trans reaches.log, reaches.calls.trans calls, fun n still =>
    standing n (runs n still)⟩

/-- What the zone runs when a tick starts is still to run. -/
theorem Starting.ticking {z : Zone} {s : Watch σ} (starting : Starting z s) (good : s.Good) :
    Ticking z (s.world.zone z).refreshes s := by
  obtain ⟨before, rest, old, calls, standing⟩ := starting
  refine ⟨before, rest, old, calls, fun e member => ?_⟩
  have runs : s.world.Runs z e.1 := ⟨e.2, member⟩
  exact ⟨standing e.1 runs, good.stands.running z e.1 runs⟩

/-- So it is later for those that are left. -/
theorem Ticking.later {z : Zone} {snapshot left : List (Nat × Refresh)} {s t : Watch σ}
    (ticking : Ticking z snapshot s) (reaches : s.Reaches t) (sub : left ⊆ snapshot) :
    Ticking z left t := by
  obtain ⟨before, rest, old, calls, listed⟩ := ticking
  refine ⟨before, rest, old.trans reaches.log, reaches.calls.trans calls, fun e member => ?_⟩
  obtain ⟨standing, number⟩ := listed e (sub member)
  exact ⟨standing, Nat.lt_of_lt_of_le number (reaches.ticks z)⟩

namespace Behaves

variable {u : UserCode σ} {v : Hooks σ} (hooks : v.Behave)

include hooks

theorem eval (p : Program) (o : ObjectId) :
    Behaves (ExceptT.run (p.eval (Watched.scope u v o))) := by
  refine Program.closed_eval (P := fun _ x => Behaves (ExceptT.run x))
    { pure := fun a => pure (Except.ok a)
      bind := fun {α β x f} first later => ?_
      read := fun member => ?_ } p fun _ =>
    { write := fun member x => own _
      invoke := fun method args => entering (hooks.call o method args) }
  · rw [ExceptT.run_bind]
    refine bind first fun r => ?_
    cases r with
    | ok a => exact later a
    | error e => exact pure (Except.error e)
  · rw [Scope.read, ExceptT.run_bind, ExceptT.run_lift, bind_map_left]
    refine bind (own _) fun found => ?_
    cases found with
    | some x => exact pure (Except.ok x)
    | none => exact pure (Except.error _)

theorem evaluate (e : Expression) (o : ObjectId) : Behaves (Watched.evaluate u v e o) := by
  refine calling nofun nofun (get fun s => ?_)
  have busy (f : World σ → List ObjectId) :
      Behaves (modify (·.onWorld fun w => { w with busy := f w }) : Watched σ Unit) :=
    changes (.change (f := fun w => { w with busy := f w }) (fun _ => .unrecorded rfl id)
      (fun _ => rfl) fun _ => rfl) fun _ => .of_zones rfl rfl (Nat.le_refl _)
  split
  · exact pure _
  · exact bind (busy _) fun _ => bind (eval hooks e.program o) fun r =>
      bind (busy _) fun _ => pure r

theorem refresh (r : Refresh) : Behaves (Watched.refresh u v r) := by
  cases r with
  | named name => exact entering (hooks.refresh name)
  | bound node attr value object =>
      refine bind (evaluate hooks value object) fun r => ?_
      cases r with
      | error e => exact pure (Except.error e)
      | ok x =>
          refine bind (note rfl nofun nofun) fun _ => ?_
          exact bind (step _ fun _ => .of_zones rfl rfl (Nat.le_refl _)) fun _ => pure _

/-- A refresh runs as one of a tick that goes on. -/
theorem addReport (z : Zone) (report : TickReport) (entry : Nat × Refresh)
    (snapshot : List (Nat × Refresh)) :
    Follows (fun s t => s = t ∧ Ticking z (entry :: snapshot) t)
      (Watched.addReport u v z report entry) fun _ _ _ => True := by
  have runs : Follows (fun s t => s = t ∧ Ticking z (entry :: snapshot) t)
      (Watched.calling (.refresh z.id entry.1) (Watched.refresh u v entry.2))
      fun _ _ _ => True := by
    refine .calling (by intro i same; cases same) And.left (fun before good _ => ?_)
      (refresh hooks entry.2).within fun _ _ _ _ => trivial
    obtain ⟨-, start, rest, old, calls, listed⟩ := before
    obtain ⟨standing, number⟩ := listed entry List.mem_cons_self
    exact good.enterRefresh (.inl ⟨start, rest, old, calls, standing⟩) number
  refine .bind (M := fun _ s t => s.Reaches t) runs (fun r => ?_)
    (fun before => ⟨rfl, before.2⟩) fun before _ reaches _ => before.1 ▸ reaches
  cases r with
  | ok _ => exact (pure _).after id fun _ _ _ => trivial
  | error e => exact (bind (notice u _) fun _ => pure _).after id fun _ _ _ => trivial

/-- The refreshes of a tick run, none of which was retired when it began. -/
theorem addReports (z : Zone) : ∀ (snapshot : List (Nat × Refresh)) (report : TickReport),
    Follows (fun s t => s = t ∧ Ticking z snapshot t)
      (snapshot.foldlM (Watched.addReport u v z) report) fun _ _ _ => True
  | [], report => (pure report).within
  | entry :: snapshot, report => by
      rw [List.foldlM_cons]
      refine .bind (M := fun _ s t => s.Reaches t ∧ Ticking z snapshot t)
        (addReport hooks z report entry snapshot) (fun report => (addReports z snapshot report).behind)
        (fun before => ⟨rfl, before.2⟩) fun before _ reaches _ =>
          ⟨before.1 ▸ reaches, before.2.later reaches (List.subset_cons_self _ _)⟩

/-- The refreshes of a zone are listed before any of them runs. -/
theorem snapshot (z : Zone) :
    Follows (fun s t => s = t ∧ Starting z t) (do
      let snapshot ← Watched.step [(Cell.refreshes z.id).shared] fun w =>
        ((w.zone z).refreshes, w)
      Watched.step [] fun w => ((), w.onZone z fun s => { s with ticks := s.ticks + 1 })
      snapshot.foldlM (Watched.addReport u v z) {}) fun _ _ _ => True := by
  refine .bind (M := fun snapshot s t => s.Reaches t ∧ Ticking z snapshot t)
    (Leads.changes (.step [(Cell.refreshes z.id).shared] _) .refl) (fun snapshot => ?_)
    (fun _ => rfl) ?_
  · refine .bind (M := fun _ s t => s.Reaches t ∧ Ticking z snapshot t)
      (step [] fun w => ?_) (fun _ => (addReports hooks z snapshot {}).behind) (fun _ => rfl)
      fun before _ reaches _ =>
        ⟨before.1.trans reaches, before.2.later reaches (List.Subset.refl _)⟩
    exact .onZone w z (Nat.le_refl _) fun _ => .inl
  · rintro s t snapshot r ⟨rfl, starting⟩ good reaches ⟨same, -⟩
    obtain ⟨rfl, -⟩ := Prod.mk.inj same
    exact ⟨reaches, (starting.ticking good).later reaches (List.Subset.refl _)⟩

/-- A tick runs what was registered with its zone when it began; nothing of that was retired
then. -/
theorem tick (z : Zone) : Behaves (Watched.tick u v z) := by
  have held : Leads (Watched.step [] fun w => ((), { w with pins := z :: w.pins }) : Watched σ Unit)
      fun s _ t => ((), { s.world with pins := z :: s.world.pins }) = ((), t.world) ∧
        s.Silent [] t := .changes (.step [] _) fun _ => .of_zones rfl rfl (Nat.le_refl _)
  have released (report : TickReport) : Behaves (do
      Watched.step [] fun w => ((), { w with pins := w.pins.tail })
      return report : Watched σ TickReport) :=
    bind (step [] fun _ => .of_zones rfl rfl (Nat.le_refl _)) fun _ => pure report
  refine Follows.calling (P := fun _ _ _ => True) (by intro i same; cases same) id
    (fun _ good _ => good.enter nofun) ?_ fun _ _ _ _ => trivial
  refine .bind (M := fun _ s t => s.Reaches t ∧ Starting z t) held (fun _ => ?_)
    (fun _ => rfl) ?_
  · refine .bind (M := fun _ s t => s.Reaches t) (snapshot hooks z)
      (fun report => (released report).after id fun _ _ _ => trivial)
      (fun before => ⟨rfl, before.2⟩) fun before _ reaches _ => before.1.trans reaches
  · rintro s t - r ⟨rfl, q, -, good, rfl⟩ - reaches ⟨same, -⟩
    obtain ⟨-, world⟩ := Prod.mk.inj same
    refine ⟨reaches, (Starting.enter good).later reaches fun n runs => ?_⟩
    rw [← world] at runs
    exact runs

theorem handle : ∀ h : Handler, Behaves (Watched.handle u v h)
  | .named name => entering (hooks.handler name)
  | .bound _ event action object => by
      refine bind (evaluate hooks action object) fun r => ?_
      cases r with
      | ok _ => exact pure ()
      | error e => exact notice u _
  | .wrapped _ zone inner => by
      rw [Watched.handle]
      refine bind (handle inner) fun _ => bind (step [] .refl) fun alive => ?_
      cases alive with
      | false => exact pure ()
      | true => exact bind (tick hooks zone) fun _ => pure ()

theorem dispatch (d : Nat) (node : NodeId) (event : String) :
    Behaves (Watched.dispatch u v d node event) :=
  calling nofun nofun (bind (step _ .refl) fun snapshot =>
    bind (forM (handle hooks) snapshot) fun _ => pure _)

end Behaves

end LiveTemplates
