/-
# LiveTemplates.Proofs.Calls.Reporting -- whatever runs tells what accounts for it

The user's methods, handlers and refreshes are arbitrary.  If they tell what accounts for what
they do, so does all that runs them: ticks, dispatches and attaching.  By induction on the depth
to which the user's code runs, it all does.

* `Teller.Reports`: the user's code tells what accounts for it;
* `Teller.Reports.tick`, `Teller.Reports.handle`, `Teller.Reports.dispatch`,
  `Teller.Reports.attach`: so does what runs it;
* `Teller.Reports.routine`, `Code.reports`: so do routines, and so does a code to any depth.
-/
import LiveTemplates.Proofs.Calls.Accounts
import LiveTemplates.Proofs.Document.Starting

namespace LiveTemplates

set_option autoImplicit false

variable {σ α β : Type}

/-- The methods, handlers and refreshes of a user's code, at some depth, tell what accounts for
them. -/
structure Teller.Reports (t : Teller σ) (u : UserCode σ) (c : Code σ) : Prop where
  level : ∃ n, u = c.user n
  call : ∀ o method args,
    Tells (fun _ => Accounts c) (u.call o method args) (t.call o method args)
  handler : ∀ name, Tells (fun _ => Accounts c) (u.handler name) (t.handler name)
  refresh : ∀ name, Tells (fun _ => Accounts c) (u.refresh name) (t.refresh name)

/-- A change under which no zone ticks needs no account. -/
theorem Tells.rests {c : Code σ} {x : Run σ α} {f : World σ → α × World σ}
    (run : ∀ w, x.run w = some (f w)) (rests : ∀ w : World σ, w.Rests (f w).2) :
    Tells (fun _ => Accounts c) x (Told.plain x) := by
  refine plain fun w a v ran => .rests ?_
  rw [run, Option.some.injEq] at ran
  have kept := rests w
  rwa [ran] at kept

namespace Teller.Reports

open Tells

variable {t : Teller σ} {u : UserCode σ} {c : Code σ} (reports : t.Reports u c)

include reports

/-- Reports are made in the same way at each depth. -/
theorem notice_eq : u.notice = c.notice := by
  obtain ⟨n, rfl⟩ := reports.level
  cases n <;> rfl

/-- So are zones held. -/
theorem alive_eq (w : World σ) (z : Nat) : w.alive u z = w.alive (c.user 0) z := by
  obtain ⟨n, rfl⟩ := reports.level
  cases n <;> rfl

/-- What leads somewhere does so at some depth. -/
theorem at_depth {what : Called} {w v : World σ} (leads : what.Leads u w v) :
    ∃ n, what.Leads (c.user n) w v := by
  obtain ⟨n, rfl⟩ := reports.level
  exact ⟨n, leads⟩

/-! ## Ticks -/

theorem refreshes (r : Refresh) :
    Tells (fun _ => Accounts c) (r.run u) (Told.refresh u t r) := by
  cases r with
  | named name => exact reports.refresh name
  | bound node attr value object =>
      exact refreshBound (Accounts.bearing c) (fun method _ => reports.call object method)
        fun _ _ => .rests (.of_zones rfl rfl)

theorem evaluate (e : Expression) (o : ObjectId) :
    Tells (fun _ => Accounts c) (e.evaluate u o) (Told.evaluate u t e o) :=
  Tells.evaluate (Accounts.bearing c) fun method _ => reports.call o method

/-- A refresh that is run, whatever comes of it, and the report behind it. -/
theorem counts (z : Zone) (entry : Nat × Refresh) (report : TickReport) :
    Tells (fun next w es v => Accounts c w es v ∧ ∀ rest last fs x,
        Passes c z rest next v fs last x →
          Passes c z (entry :: rest) report w (es ++ fs) last x)
      (report.add u entry) (Told.addReport u t z report entry) := by
  obtain ⟨n, r⟩ := entry
  have called : Tells (fun outcome w es v => Accounts c w es v ∧
        ∃ inside, es = [.mk (.refresh z.id n r outcome) w v inside])
      (r.run u) (Told.calling (.refresh z.id n r) (Told.refresh u t r)) :=
    (reports.refreshes r).calling fun _ _ es _ ran accounts => ⟨accounts.call
      ⟨reports.at_depth ran, trivial⟩ (fun _ => rfl) (fun _ => rfl) fun _ => rfl, es, rfl⟩
  refine bind (T := fun outcome next w es v => es = [] ∧
    ((outcome = .ok () ∧ next = { report with refreshed := report.refreshed + 1 } ∧ v = w) ∨
      ∃ e, outcome = .error e ∧ next = { report with failed := report.failed + 1 } ∧
        v = { w with user := c.notice (.stale n e) w.user })) called (fun outcome => ?_) ?_
  · cases outcome with
    | ok _ => exact pure fun _ => ⟨rfl, .inl ⟨rfl, rfl, rfl⟩⟩
    | error e =>
        refine bind (step (Run.run_notice u (.stale n e))) (fun _ => value _) ?_
        rintro _ _ w _ _ _ _ ⟨-, rfl, rfl⟩ ⟨rfl, rfl, rfl⟩
        rw [reports.notice_eq]
        exact ⟨rfl, .inr ⟨e, rfl, rfl, rfl⟩⟩
  · rintro outcome next w es v fs x ⟨accounts, inside, rfl⟩ ⟨rfl, ⟨rfl, rfl, rfl⟩ | ⟨e, rfl, rfl, rfl⟩⟩
    · exact ⟨accounts, fun _ _ _ _ => .well⟩
    · exact ⟨Accounts.chains c accounts (.rests (.of_zones rfl rfl)), fun _ _ _ _ => .ill⟩

/-- Refreshes one after the other. -/
theorem passes (z : Zone) (entries : List (Nat × Refresh)) (report : TickReport) :
    Tells (fun last w es v => Accounts c w es v ∧ Passes c z entries report w es last v)
      (entries.foldlM (TickReport.add u) report)
      (entries.foldlM (Told.addReport u t z) report) := by
  induction entries generalizing report with
  | nil => exact pure fun w => ⟨.rests (.refl w), .done⟩
  | cons entry rest ih =>
      rw [List.foldlM_cons, List.foldlM_cons]
      refine bind (reports.counts z entry report) ih ?_
      rintro next last w es v fs x ⟨before, counted⟩ ⟨behind, passes⟩
      exact ⟨Accounts.chains c before behind, counted rest last fs x passes⟩

theorem tick (behind : Bool) (z : Zone) :
    Tells (Ticked c z behind) (z.tick u) (Told.tick u t behind z) := by
  let counted (w : World σ) := w.onZone z fun s => { s with ticks := s.ticks + 1 }
  have passing (snapshot : List (Nat × Refresh)) : Tells
      (fun report w es v => Accounts c (counted w) es v ∧
        Passes c z snapshot {} (counted w) es report v)
      (do modify counted; snapshot.foldlM (TickReport.add u) {})
      (do Told.plain (modify counted); snapshot.foldlM (Told.addReport u t z) {}) := by
    refine bind (step fun _ => rfl) (fun _ => reports.passes z snapshot {}) ?_
    rintro _ report w _ _ es v ⟨-, rfl, rfl⟩ passed
    exact passed
  have held : Tells (fun report w es v => ∃ x, Accounts c (z.ticking w) es x ∧
        Passes c z (w.zone z).refreshes {} (z.ticking w) es report x ∧
        v = { x with pins := x.pins.tail })
      (z.tick u) (Told.holding z (Told.plain get >>= fun w => do
        Told.plain (modify counted)
        (w.zone z).refreshes.foldlM (Told.addReport u t z) {})) :=
    holding z (look passing fun _ _ _ _ => id) fun _ _ _ x ⟨accounts, passed⟩ =>
      ⟨x, accounts, passed, rfl⟩
  refine calling held fun _ _ inside _ ran ⟨x, accounts, passed, same⟩ => ?_
  exact ⟨inside, x, rfl, reports.at_depth ran, passed, same, accounts⟩

/-! ## Handlers and dispatches -/

/-- The tick behind a handler that a zone has wrapped. -/
theorem behind (z : Zone) :
    Tells (fun _ w es v => (w.alive (c.user 0) z.id = false ∧ es = [] ∧ v = w) ∨
        (w.alive (c.user 0) z.id = true ∧ ∃ report, Ticked c z true report w es v))
      (do if (← get).alive u z.id then let _ ← z.tick u)
      (do if (← Told.plain get).alive u z.id then let _ ← Told.tick u t true z) := by
  have following (alive : Bool) :
      Tells (fun _ w es v => (alive = false ∧ es = [] ∧ v = w) ∨
          (alive = true ∧ ∃ report, Ticked c z true report w es v))
        (do if alive then let _ ← z.tick u) (do if alive then let _ ← Told.tick u t true z) := by
    cases alive with
    | true =>
        refine bind (reports.tick true z) (fun _ => value ()) ?_
        rintro report _ w es v _ _ ticked ⟨-, rfl, rfl⟩
        exact .inr ⟨rfl, report, by rwa [List.append_nil]⟩
    | false => exact pure fun _ => .inl ⟨rfl, rfl, rfl⟩
  refine look (g := fun w : World σ => w.alive u z.id) following fun _ w es v held => ?_
  rwa [reports.alive_eq] at held

theorem handle (h : Handler) : Tells (fun _ => Handled c h) (h.run u) (Told.handle u t h) := by
  induction h with
  | named name =>
      refine calling (reports.handler name) fun _ _ es _ ran accounts => ⟨?_, es, rfl⟩
      exact accounts.call ⟨reports.at_depth ran, trivial⟩ (fun _ => rfl) (fun _ => rfl) fun _ => rfl
  | bound serial event action object =>
      refine calling (P := fun _ => Accounts c) ?_ fun _ _ es _ ran accounts => ⟨?_, es, rfl⟩
      · refine seq (Accounts.chains c) (reports.evaluate action object) fun r => ?_
        cases r with
        | ok _ => exact nothing (Accounts.bearing c) ()
        | error e => exact Tells.notice (Accounts.bearing c) _
      · exact accounts.call ⟨reports.at_depth ran, trivial⟩ (fun _ => rfl) (fun _ => rfl)
          fun _ => rfl
  | wrapped serial z inner ih =>
      refine calling (bind (S := fun _ w es v =>
        (v.alive (c.user 0) z.id = false ∧ Handled c inner w es v) ∨ ∃ before behind x report,
          es = before ++ behind ∧ Handled c inner w before x ∧ x.alive (c.user 0) z.id = true ∧
            Ticked c z true report x behind v) ih (fun _ => reports.behind z) ?_) ?_
      · rintro _ _ w es v fs x handled (⟨dead, rfl, rfl⟩ | ⟨alive, report, ticked⟩)
        · exact .inl ⟨dead, by rwa [List.append_nil]⟩
        · exact .inr ⟨es, fs, v, report, rfl, handled, alive, ticked⟩
      · rintro _ w es v ran (⟨dead, handled⟩ | ⟨_, _, x, _, rfl, handled, alive, ticked⟩)
        · exact handled.alone dead (reports.at_depth ran)
        · exact handled.ticking alive ticked (reports.at_depth ran)

/-- Handlers one after the other. -/
theorem serves (hs : List Handler) :
    Tells (fun _ w es v => Accounts c w es v ∧ Serves hs w es v) (hs.forM (·.run u))
      (hs.forM (Told.handle u t)) := by
  induction hs with
  | nil => exact pure fun w => ⟨.rests (.refl w), .done⟩
  | cons h rest ih =>
      refine bind (reports.handle h) (fun _ => ih) ?_
      rintro _ _ w _ v fs x ⟨before, inside, rfl⟩ ⟨behind, serves⟩
      exact ⟨Accounts.chains c before behind, .next serves⟩

/-- What is told is a dispatch that has served the handlers of its dispatcher. -/
theorem dispatched (d : Nat) (node : NodeId) (event : String) :
    Tells (fun n w es v => ∃ inside, es = [.mk (.dispatch d node event n) w v inside] ∧
        (∃ m, Called.Leads (c.user m) w v (.dispatch d node event n)) ∧ Accounts c w inside v ∧
        n = inside.length ∧ Serves ((w.listenersFor d node event).map (·.handler)) w inside v)
      (dispatch u d node event) (Told.dispatch u t d node event) := by
  have serving (snapshot : List Handler) :
      Tells (fun n w es v => Accounts c w es v ∧ n = es.length ∧ Serves snapshot w es v)
        (do snapshot.forM (·.run u); return snapshot.length)
        (do snapshot.forM (Told.handle u t); return snapshot.length) := by
    refine bind (reports.serves snapshot) (fun _ => value _) ?_
    rintro _ n w es v _ _ ⟨accounts, serves⟩ ⟨rfl, rfl, rfl⟩
    rw [List.append_nil]
    exact ⟨accounts, serves.length_eq, serves⟩
  exact calling (look serving fun _ _ _ _ => id) fun _ _ es _ ran served =>
    ⟨es, rfl, reports.at_depth ran, served⟩

theorem dispatch (d : Nat) (node : NodeId) (event : String) :
    Tells (fun _ => Accounts c) (dispatch u d node event) (Told.dispatch u t d node event) := by
  refine (reports.dispatched d node event).imp ?_
  rintro n w _ v ⟨inside, rfl, leads, accounts, counted, serves⟩
  exact accounts.call ⟨leads, counted, serves⟩ (fun _ => rfl) (fun _ => rfl) fun _ => rfl

/-! ## Attaching -/

omit reports in
theorem construct (cls : ClassRef) :
    Tells (fun _ => Accounts c) (Run.construct u cls) (Told.plain (Run.construct u cls)) :=
  rests (f := fun w =>
    (w.serial, { w with serial := w.serial + 1, user := u.construct cls w.serial w.user }))
    (fun _ => rfl) fun _ => .of_zones rfl rfl

theorem attachInput (b : Binding) (e : Expression) (live : NodeId) (o : ObjectId) (z : Zone) :
    Tells (fun _ => Accounts c) (b.attachInput u e live o z)
      (Told.attachInput u t b e live o z) := by
  let r := Refresh.bound live b.name e o
  refine seq (Accounts.chains c) (rests (f := fun w => w.addRefresh z r) (fun _ => rfl)
    fun w => .addRefresh w z r) fun tick => ?_
  have called : Tells (fun _ => Accounts c) (r.run u)
      (Told.calling (.refresh z.id tick r) (Told.refresh u t r)) :=
    calling (reports.refreshes r) fun _ _ _ _ ran accounts =>
      accounts.call ⟨reports.at_depth ran, trivial⟩ (fun _ => rfl) (fun _ => rfl) fun _ => rfl
  refine seq (Accounts.chains c) called fun outcome => ?_
  cases outcome with
  | ok _ => exact nothing (Accounts.bearing c) tick
  | error e =>
      exact seq (Accounts.chains c) (Tells.notice (Accounts.bearing c) _) fun _ =>
        nothing (Accounts.bearing c) tick

theorem attachBinding (b : Binding) (live : NodeId) (o : ObjectId) (z : Zone) :
    Tells (fun _ => Accounts c) (b.attach u live o z)
      (Told.attachBinding u t b live o z) := by
  refine calling (P := fun _ => Accounts c) ?_ fun _ _ _ _ ran accounts =>
    accounts.call ⟨reports.at_depth ran, trivial⟩ (fun _ => rfl) (fun _ => rfl) fun _ => rfl
  unfold Binding.attach
  cases b.expression with
  | error e =>
      exact seq (Accounts.chains c) (Tells.notice (Accounts.bearing c) _) fun _ =>
        nothing (Accounts.bearing c) none
  | ok e =>
      cases b.kind with
      | input =>
          exact seq (Accounts.chains c) (reports.attachInput b e live o z) fun _ =>
            nothing (Accounts.bearing c) _
      | output =>
          refine seq (Accounts.chains c) (rests (f := fun w => _) (fun _ => rfl) fun w => ?_)
            fun _ => nothing (Accounts.bearing c) _
          have edits := World.Rests.edits (σ := σ)
          exact edits.trans (edits.serial w) (edits.addWrapped z _ _)

theorem wireBindings (z : Zone) (o : ObjectId) (bindings : List (Spot × Binding))
    (address : List Nat) (live : NodeId) (w : Wiring) : Tells (fun _ => Accounts c)
    (Wiring.wireBindings u z o bindings address live w)
    (Told.wireBindings u t z o bindings address live w) :=
  foldlM (Accounts.chains c) (fun w => .rests (.refl w)) _ (fun _ p _ =>
    seq (Accounts.chains c) (reports.attachBinding p.2 live o z) fun _ =>
      nothing (Accounts.bearing c) _) w

/-- Ways of mounting tell what accounts for them, one by one. -/
def Parts (c : Code σ) (parts : List (Spot × Mounting σ))
    (told : List (Spot × (NodeId → Told σ Instance))) : Prop :=
  List.Forall₂ (fun p q => p.1 = q.1 ∧ ∀ live, Tells (fun _ => Accounts c) (p.2 live) (q.2 live))
    parts told

omit reports in
theorem wireChildren {parts : List (Spot × Mounting σ)}
    {told : List (Spot × (NodeId → Told σ Instance))} (same : Parts c parts told)
    (address : List Nat) (live : NodeId) (w : Wiring) :
    Tells (fun _ => Accounts c) (Wiring.wireChildren parts address live w)
      (Told.wireChildren told address live w) := by
  refine (stepwise (Accounts.bearing c)).foldlM_of_forall₂ (fun w p q both => ?_)
    (List.rel_filter ?_ same) w
  · exact seq (Accounts.chains c) (both.2 live) fun _ => nothing (Accounts.bearing c) _
  · intro p q both
    simp [both.1]

end Teller.Reports

namespace Teller.Reports

open Tells

variable {t : Teller σ} {u : UserCode σ} {c : Code σ}

mutual

theorem mount (reports : t.Reports u c) (z : Zone) :
    ∀ (b : Blueprint) (o : ObjectId) (host : NodeId),
    Tells (fun _ => Accounts c) (b.mount u z o host) (Told.mount u t z b o host)
  | .mk compiler cls template bindings children warnings, o, host => by
      rw [Blueprint.mount, Told.mount]
      refine calling (P := fun _ => Accounts c) ?_ fun _ _ _ _ ran accounts => accounts.call
        ⟨reports.at_depth ⟨.mk compiler cls template bindings children warnings, o, host, z, ran⟩,
          trivial⟩ (fun _ => rfl) (fun _ => rfl) fun _ => rfl
      have nodes (w : World σ) (forest : Forest) : Accounts c w [] { w with forest := forest } :=
        .rests (.of_zones rfl rfl)
      refine seq (Accounts.chains c) (rests (Run.run_mapM_construct u _) fun _ => .of_zones rfl rfl)
        fun objects => ?_
      refine seq (Accounts.chains c) (rests Run.run_fresh fun _ => .of_zones rfl rfl) fun serial => ?_
      refine seq (Accounts.chains c) (onForest nodes (Run.run_onForest _)) fun fragment => ?_
      have parts := mountings reports z children objects
      refine seq (Accounts.chains c) (copyAll (Accounts.chains c) nodes
        (fun address live w => ?_) fragment [] 0 _ ({} : Wiring)) fun w => ?_
      · exact seq (Accounts.chains c) (reports.wireBindings z o bindings address live w) fun w =>
          wireChildren parts address live w
      · refine seq (Accounts.chains c) (onForest nodes (Run.run_onForest _)) fun mounted => ?_
        exact seq (Accounts.chains c) (rests (f := fun w => ((), _)) (fun _ => rfl)
          fun _ => .of_zones rfl rfl) fun _ => nothing (Accounts.bearing c) _

theorem mountings (reports : t.Reports u c) (z : Zone) :
    ∀ (children : List (Spot × Blueprint)) (objects : List ObjectId),
    Parts c (Blueprint.mountings u z children objects) (Told.mountings u t z children objects)
  | [], _ => by
      rw [Blueprint.mountings, Told.mountings]
      exact .nil
  | (spot, b) :: rest, o :: os => by
      rw [Blueprint.mountings, Told.mountings]
      exact .cons ⟨rfl, mount reports z b o⟩ (mountings reports z rest os)
  | (spot, b) :: rest, [] => by
      rw [Blueprint.mountings, Told.mountings]
      exact .cons ⟨rfl, fun live => seq (Accounts.chains c) (construct b.cls) fun o =>
        mount reports z b o live⟩ (mountings reports z rest [])

end

variable (reports : t.Reports u c)

include reports

theorem attach (b : Blueprint) (host : NodeId) (z : Zone) :
    Tells (fun _ => Accounts c) (b.attach u host z) (Told.attach u t b host z) :=
  holding z (seq (Accounts.chains c) (construct b.cls) fun o => reports.mount z b o host)
    fun _ _ _ _ accounts => accounts.release

/-! ## Routines -/

/-- Whatever a routine does, it tells what accounts for it. -/
theorem routine (x : Routine σ α) :
    Tells (fun _ => Accounts c) (x.run u) (x.tell u t) := by
  have edits := World.Rests.edits (σ := σ)
  induction x with
  | pure a => exact plain fun w _ v ran => (Run.pure_eq_some.1 ran).2 ▸ .rests (.refl w)
  | bind _ _ first later => exact seq (Accounts.chains c) first later
  | endless => exact plain fun _ _ _ ran => nomatch ran
  | own f => exact rests (Run.run_onUser f) fun _ => .of_zones rfl rfl
  | look cells f => exact rests (fun _ => rfl) fun w => .refl w
  | nodes loans f => exact rests (Run.run_onForest f) fun _ => .of_zones rfl rfl
  | construct cls => exact construct cls
  | evaluate e o => exact reports.evaluate e o
  | handle h => exact (reports.handle h).imp fun _ _ _ _ handled => handled.1
  | tick z => exact (reports.tick false z).imp fun _ _ _ _ ticked => ticked.asked
  | dispatch d node event => exact reports.dispatch d node event
  | newDispatcher => exact rests (fun _ => rfl) fun _ => .of_zones rfl rfl
  | newZone behind => exact rests (fun _ => rfl) fun w => .newZone w behind
  | onTick z name => exact rests (fun _ => rfl) fun w => .addRefresh w z _
  | removeTick z n => exact rests (fun _ => rfl) fun w => edits.removeRefresh w z n
  | listen s l => exact rests (fun _ => rfl) fun w => edits.addListener s l w
  | unlisten s l => exact rests (fun _ => rfl) fun w => edits.removeListener s l w
  | retarget s => exact rests (fun _ => rfl) fun _ => .of_zones rfl rfl
  | compile k catalog cls => exact rests (Run.run_compiling u k _) fun _ => .of_zones rfl rfl
  | attachBinding b live o z => exact reports.attachBinding b live o z
  | attach b host z => exact reports.attach b host z
  | detach i => exact rests (fun _ => rfl) fun w => edits.detach i w

end Teller.Reports

/-- A user's code tells what accounts for it, to any depth. -/
theorem Code.reports (c : Code σ) (depth : Nat) :
    (c.teller depth).Reports (c.user depth) c := by
  induction depth with
  | zero => exact ⟨⟨0, rfl⟩, fun _ _ _ => .endless, fun _ => .endless, fun _ => .endless⟩
  | succ n ih =>
      exact ⟨⟨n + 1, rfl⟩, fun _ _ _ => ih.routine _, fun _ => ih.routine _, fun _ => ih.routine _⟩

end LiveTemplates
