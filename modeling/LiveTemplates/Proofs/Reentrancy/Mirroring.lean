/-
# LiveTemplates.Proofs.Reentrancy.Mirroring -- what watching shows, and that it changes nothing

An activity under watch mirrors an activity of the world if it comes to the same, never asks
for a cell that is lent, and gives back all that it borrows (`Mirrors`).  At each moment on
the way an object is busy if and only if an evaluation against it has not returned, and
wherever code of the user's runs, no cell is lent.

What is put together of parts that mirror each other does so, too.  So do evaluations, ticks
and dispatches, if the user's methods, handlers and refreshes do:

* `Mirrors.bind`, `Mirrors.step`, `Mirrors.lend`, `Mirrors.calling`, `Mirrors.evaluating`: how
  activities are put together;
* `Mirrors.evaluate`, `Mirrors.tick`, `Mirrors.dispatch`.
-/
import LiveTemplates.Proofs.Reentrancy.Watching
import LiveTemplates.Proofs.World.Stepwise

namespace LiveTemplates

set_option autoImplicit false

variable {σ : Type}

/-! ## Outcomes -/

namespace Watched

variable {α β : Type}

/-- What an activity comes to from a state on, and the state behind it. -/
def exec (x : Watched σ α) (s : Watch σ) : Except Halt α × Watch σ :=
  (ExceptT.run x).run s

theorem exec_pure (a : α) (s : Watch σ) : (pure a : Watched σ α).exec s = (.ok a, s) := rfl

theorem exec_throw (h : Halt) (s : Watch σ) : (throw h : Watched σ α).exec s = (.error h, s) := rfl

theorem exec_get (s : Watch σ) : (get : Watched σ (Watch σ)).exec s = (.ok s, s) := rfl

theorem exec_modify (f : Watch σ → Watch σ) (s : Watch σ) :
    (modify f : Watched σ Unit).exec s = (.ok (), f s) := rfl

theorem exec_note (what : Happening) (s : Watch σ) :
    (note what : Watched σ Unit).exec s = (.ok (), s.note what) := rfl

theorem exec_bind (x : Watched σ α) (f : α → Watched σ β) (s : Watch σ) :
    (x >>= f).exec s = match x.exec s with
      | (.ok a, t) => (f a).exec t
      | (.error h, t) => (.error h, t) := by
  simp only [exec, ExceptT.run_bind, StateT.run_bind]
  rcases (ExceptT.run x).run s with ⟨_ | a, t⟩ <;> rfl

theorem exec_bind_ok {x : Watched σ α} {f : α → Watched σ β} {s t : Watch σ} {a : α}
    (ran : x.exec s = (.ok a, t)) : (x >>= f).exec s = (f a).exec t := by
  rw [exec_bind, ran]

theorem exec_bind_error {x : Watched σ α} {f : α → Watched σ β} {s t : Watch σ} {h : Halt}
    (ran : x.exec s = (.error h, t)) : (x >>= f).exec s = (.error h, t) := by
  rw [exec_bind, ran]

end Watched

/-- An object is busy if and only if an evaluation against it has not returned. -/
def Watch.Sound (s : Watch σ) : Prop :=
  ∀ o, o ∈ s.world.busy ↔ ∃ f ∈ s.calls, f.call = .evaluate o

/-- So it is at a moment, and if code of the user's runs then, no cell is lent. -/
structure Moment.Sound (m : Moment) : Prop where
  objects : ∀ o, o ∈ m.busy ↔ ∃ f ∈ m.calls, f.call = .evaluate o
  user : m.what = .user → m.loans = []

/-- What is recorded further is sound. -/
def Watch.Logs (s t : Watch σ) : Prop :=
  ∃ news, t.log = news ++ s.log ∧ ∀ m ∈ news, m.Sound

/-- What has been borrowed is given back, and what has been called has returned. -/
structure Watch.Settles (s t : Watch σ) : Prop where
  loans : t.loans = s.loans
  calls : t.calls = s.calls
  busy : t.world.busy = s.world.busy
  logs : s.Logs t

/-- An activity ends in the same way with and without watch: with a result, or not at all. -/
inductive Watch.Ends (s : Watch σ) {α : Type} :
    Option (α × World σ) → Except Halt α × Watch σ → Prop
  | done {a : α} {t : Watch σ} (settles : s.Settles t) : Ends s (some (a, t.world)) (.ok a, t)
  | endless {t : Watch σ} (logs : s.Logs t) : Ends s none (.error .endless, t)

/-- An activity under watch does, while some cells are lent, what an activity of the world
does. -/
def Mirrors (held : List Loan) {α : Type} (x : Run σ α) (y : Watched σ α) : Prop :=
  ∀ s : Watch σ, s.loans = held → s.Sound → s.Ends (x.run s.world) (y.exec s)

namespace Watch

theorem Logs.refl (s : Watch σ) : s.Logs s :=
  ⟨[], rfl, nofun⟩

theorem Logs.trans {s t r : Watch σ} (first : s.Logs t) (second : t.Logs r) : s.Logs r := by
  obtain ⟨old, log, sound⟩ := first
  obtain ⟨new, log', sound'⟩ := second
  refine ⟨new ++ old, by rw [log', log, List.append_assoc], fun m member => ?_⟩
  exact (List.mem_append.1 member).elim (sound' m) (sound m)

theorem Logs.note {s : Watch σ} (sound : s.Sound) (what : Happening)
    (free : what = .user → s.loans = []) : s.Logs (s.note what) := by
  refine ⟨[_], rfl, fun m member => ?_⟩
  rw [List.mem_singleton.1 member]
  exact ⟨sound, free⟩

/-- Everything that is recorded from the start on is sound. -/
theorem Logs.sound {s t : Watch σ} (logs : s.Logs t) (start : s.log = []) :
    ∀ m ∈ t.log, m.Sound := by
  obtain ⟨news, log, sound⟩ := logs
  rw [log, start, List.append_nil]
  exact sound

theorem Settles.refl (s : Watch σ) : s.Settles s :=
  ⟨rfl, rfl, rfl, .refl s⟩

theorem Settles.trans {s t r : Watch σ} (first : s.Settles t) (second : t.Settles r) :
    s.Settles r :=
  ⟨second.loans.trans first.loans, second.calls.trans first.calls,
    second.busy.trans first.busy, first.logs.trans second.logs⟩

theorem Settles.sound {s t : Watch σ} (settles : s.Settles t) (sound : s.Sound) : t.Sound := by
  intro o
  rw [settles.busy, settles.calls]
  exact sound o

/-- The evaluations that have not returned behind the beginning of a call. -/
theorem exists_enter {s : Watch σ} {c : Call} {o : ObjectId} :
    (∃ f ∈ (s.enter c).calls, f.call = .evaluate o) ↔
      c = .evaluate o ∨ ∃ f ∈ s.calls, f.call = .evaluate o :=
  List.exists_mem_cons_iff _ _ _

theorem Settles.note {s : Watch σ} (sound : s.Sound) {what : Happening}
    (free : what = .user → s.loans = []) : s.Settles (s.note what) :=
  ⟨rfl, rfl, rfl, .note sound what free⟩

/-- What comes to a result does so under watch, and settles. -/
theorem Ends.of_some {α : Type} {s : Watch σ} {a : α} {w : World σ}
    {e : Except Halt α × Watch σ} (ends : s.Ends (some (a, w)) e) :
    ∃ t, e = (.ok a, t) ∧ t.world = w ∧ s.Settles t := by
  cases ends with
  | done settles => exact ⟨_, rfl, rfl, settles⟩

/-- What comes to no result does not under watch, and asks for no cell that is lent. -/
theorem Ends.of_none {α : Type} {s : Watch σ} {e : Except Halt α × Watch σ}
    (ends : s.Ends none e) : ∃ t, e = (.error .endless, t) ∧ s.Logs t := by
  cases ends with
  | endless logs => exact ⟨_, rfl, logs⟩

/-- What an activity comes to behind a state that has settled. -/
theorem Ends.after {α : Type} {s t : Watch σ} {r : Option (α × World σ)}
    {e : Except Halt α × Watch σ} (settles : s.Settles t) (ends : t.Ends r e) : s.Ends r e := by
  cases ends with
  | done later => exact .done (settles.trans later)
  | endless logs => exact .endless (settles.logs.trans logs)

/-- What an activity comes to with something behind it, from a state on that was entered for
it. -/
theorem Ends.closing {α : Type} {s t : Watch σ} {x : Watched σ α} {r : Option (α × World σ)}
    (ends : t.Ends r (x.exec t)) (logs : s.Logs t) {g : World σ → World σ}
    {leave : Watch σ → Watch σ} (shown : ∀ q, (leave q).world = g q.world)
    (settles : ∀ q, t.Settles q → s.Settles (leave q)) :
    s.Ends (r.map fun p => (p.1, g p.2)) ((Watched.closing leave x).exec t) := by
  rw [Watched.closing, Watched.exec_bind]
  generalize x.exec t = e at ends
  cases ends with
  | @done a q later =>
      rw [Option.map_some, ← shown q]
      exact .done (settles q later)
  | endless more => exact .endless (logs.trans more)

/-- So it is if the world stays the same behind it. -/
theorem Ends.closing_same {α : Type} {s t : Watch σ} {x : Watched σ α}
    {r : Option (α × World σ)} (ends : t.Ends r (x.exec t)) (logs : s.Logs t)
    {leave : Watch σ → Watch σ} (settles : ∀ q, t.Settles q → s.Settles (leave q))
    (shown : ∀ q, (leave q).world = q.world) :
    s.Ends r ((Watched.closing leave x).exec t) := by
  have ends := ends.closing logs (g := id) shown settles
  rwa [show (r.map fun p => (p.1, id p.2)) = r from Option.map_id_apply] at ends

/-- What comes behind the beginning of a call, and what with its end. -/
theorem Ends.calling {α : Type} {s : Watch σ} {c : Call} {x : Watched σ α}
    {r : Option (α × World σ)} (sound : s.Sound) (ends : (s.enter c).Ends r (x.exec (s.enter c))) :
    s.Ends r ((Watched.calling c x).exec s) := by
  have logs : s.Logs (s.enter c) := Logs.note sound (.begins c) nofun
  rw [Watched.calling, Watched.exec_bind_ok (Watched.exec_modify _ _)]
  refine ends.closing_same logs (fun q settles => ?_) fun _ => rfl
  have left : s.Settles { q with calls := q.calls.tail } :=
    ⟨settles.loans, congrArg List.tail settles.calls, settles.busy, logs.trans settles.logs⟩
  exact left.trans (.note (left.sound sound) nofun)

end Watch

/-! ## Step by step -/

namespace Mirrors

open Watched

variable {held : List Loan} {α β : Type}

theorem pure (a : α) : Mirrors held (Pure.pure a : Run σ α) (Pure.pure a) :=
  fun s _ _ => .done (.refl s)

theorem endless : Mirrors held (failure : Run σ α) (throw .endless) :=
  fun s _ _ => .endless (.refl s)

theorem bind {x : Run σ α} {y : Watched σ α} {f : α → Run σ β} {g : α → Watched σ β}
    (first : Mirrors held x y) (later : ∀ a, Mirrors held (f a) (g a)) :
    Mirrors held (x >>= f) (y >>= g) := by
  intro s lent sound
  have ends := first s lent sound
  rw [StateT.run_bind, exec_bind]
  cases ran : x.run s.world with
  | none =>
      rw [ran] at ends
      generalize y.exec s = e at ends
      cases ends with
      | endless logs => exact .endless logs
  | some p =>
      obtain ⟨a, w⟩ := p
      rw [ran] at ends
      generalize y.exec s = e at ends
      cases ends with
      | done settles =>
          have later := later a _ (settles.loans.trans lent) (settles.sound sound)
          exact later.after settles

/-- A moment is recorded at the start. -/
theorem noting {x : Run σ α} {y : Watched σ α} (mirrors : Mirrors held x y) {what : Happening}
    (free : what = .user → held = []) : Mirrors held x (do Watched.note what; y) := by
  intro s lent sound
  have settles : s.Settles (s.note what) := .note sound fun user => lent.trans (free user)
  rw [exec_bind_ok (exec_note what s)]
  exact (mirrors (s.note what) lent sound).after settles

/-- So it is if what is recorded depends on the world. -/
theorem telling {x : Run σ α} {y : Watched σ α} (what : World σ → Happening)
    (free : ∀ w, what w ≠ .user) (mirrors : Mirrors held x y) :
    Mirrors held x (do Watched.note (what (← get).world); y) := by
  intro s lent sound
  rw [exec_bind_ok (exec_get s)]
  exact noting mirrors (fun user => absurd user (free s.world)) s lent sound

/-- Cells that are free are borrowed for a moment each. -/
theorem ask_each {loans : List Loan} (free : ∀ l ∈ loans, held.any l.clashes = false) :
    Mirrors held (Pure.pure () : Run σ Unit) (loans.forM Watched.ask) := by
  induction loans with
  | nil => exact pure ()
  | cons l rest ih =>
      refine bind (x := Pure.pure ()) (f := fun _ => Pure.pure ()) ?_ fun _ =>
        ih fun l' member => free l' (List.mem_cons_of_mem _ member)
      refine noting (fun s lent _ => ?_) nofun
      have one : s.loans.any l.clashes = false := lent ▸ free l List.mem_cons_self
      rw [exec_bind_ok (exec_get s), one]
      exact .done (.refl s)

/-- A change of the world, for which cells are borrowed that are free. -/
theorem step {x : Run σ α} {f : World σ → α × World σ} (run : ∀ w, x.run w = some (f w))
    (busy : ∀ w, (f w).2.busy = w.busy) {loans : List Loan}
    (free : ∀ l ∈ loans, held.any l.clashes = false) : Mirrors held x (Watched.step loans f) := by
  have change : Mirrors held x
      (modifyGet fun s => ((f s.world).1, s.onWorld fun w => (f w).2)) := by
    intro s _ _
    rw [run]
    exact .done (t := s.onWorld fun w => (f w).2) ⟨rfl, rfl, busy s.world, .refl s⟩
  exact bind (x := Pure.pure ()) (f := fun _ => x) (ask_each free) fun _ => change

/-- The world is looked at, for which cells are borrowed that are free. -/
theorem look {g : World σ → β} {loans : List Loan}
    (free : ∀ l ∈ loans, held.any l.clashes = false) (f : β → Run σ α) {h : β → Watched σ α}
    (later : ∀ b, Mirrors held (f b) (h b)) :
    Mirrors held (get >>= fun w => f (g w)) (Watched.step loans (fun w => (g w, w)) >>= h) :=
  bind (x := modifyGet fun w => (g w, w)) (f := f) (step (fun _ => rfl) (fun _ => rfl) free) later

/-- Cells are borrowed that are free, and nothing is changed in them that the world shows. -/
theorem touching {loans : List Loan} (free : ∀ l ∈ loans, held.any l.clashes = false)
    {x : Run σ α} {y : Watched σ α} (mirrors : Mirrors held x y) :
    Mirrors held x (do Watched.step loans fun w => ((), w); y) :=
  bind (x := Pure.pure ()) (f := fun _ => x) (step (fun _ => rfl) (fun _ => rfl) free)
    fun _ => mirrors

/-! ### While something is borrowed -/

/-- A cell that is free is lent during an activity. -/
theorem lend {x : Run σ α} {y : Watched σ α} {l : Loan} (free : held.any l.clashes = false)
    (mirrors : Mirrors (l :: held) x y) : Mirrors held x (Watched.lend l y) := by
  intro s lent sound
  have one : ¬ ((s.note (.borrows l)).loans.any l.clashes = true) := by
    rw [Bool.not_eq_true, ← free, ← lent]
    rfl
  have asked : (Watched.ask l).exec s = (.ok (), s.note (.borrows l)) := by
    rw [Watched.ask, exec_bind_ok (exec_note _ s), exec_bind_ok (exec_get _), if_neg one]
    rfl
  let t : Watch σ := { s.note (.borrows l) with loans := l :: s.loans }
  have logs : s.Logs t := Watch.Logs.note sound (.borrows l) nofun
  rw [Watched.lend, exec_bind_ok asked, exec_bind_ok (exec_modify _ _)]
  have ends := mirrors t (congrArg (l :: ·) lent) sound
  refine ends.closing_same logs (fun r settles => ?_) fun _ => rfl
  exact ⟨congrArg List.tail settles.loans, settles.calls, settles.busy,
    logs.trans settles.logs⟩

/-- An activity that is no evaluation runs as a call. -/
theorem calling {x : Run σ α} {y : Watched σ α} {c : Call} (other : ∀ o, c ≠ .evaluate o)
    (mirrors : Mirrors held x y) : Mirrors held x (Watched.calling c y) := by
  intro s lent sound
  refine Watch.Ends.calling sound (mirrors (s.enter c) lent fun o => ?_)
  rw [Watch.exists_enter, or_iff_right (other o)]
  exact sound o

/-- An object is borrowed during what runs as an evaluation, or this is refused. -/
theorem evaluating {o : ObjectId} {refused : α} {x z : Run σ α} {y : Watched σ α}
    (run : ∀ w, z.run w = if w.busy.contains o then some (refused, w)
      else (Run.borrowing o x).run w) (mirrors : Mirrors held x y) :
    Mirrors held z (Watched.calling (.evaluate o) (Watched.borrowing o refused y)) := by
  intro s lent sound
  refine Watch.Ends.calling sound ?_
  let t := s.enter (.evaluate o)
  rw [run, Watched.borrowing, exec_bind_ok (exec_get _)]
  by_cases busy : s.world.busy.contains o = true
  case pos =>
    rw [if_pos busy, if_pos (show t.world.busy.contains o = true from busy)]
    exact .done (t := t) (.refl t)
  case neg =>
    let q : Watch σ := t.onWorld fun w => { w with busy := o :: w.busy }
    have inner : q.Sound := fun p => by
      rw [show q.calls = t.calls from rfl, Watch.exists_enter, Call.evaluate.injEq, eq_comm,
        ← sound p]
      exact List.mem_cons
    have returned : ∀ r : Watch σ, q.Settles r → r.world.busy.erase o = t.world.busy := by
      intro r settles
      rw [settles.busy]
      exact List.erase_cons_head o s.world.busy
    rw [if_neg busy, if_neg (show ¬ t.world.busy.contains o = true from busy), Run.run_borrowing,
      exec_bind_ok (exec_modify _ _)]
    refine (mirrors q lent inner).closing (g := fun w => { w with busy := w.busy.erase o })
      (.refl t) ?_ ?_
    · exact fun _ => rfl
    · exact fun r settles => ⟨settles.loans, settles.calls, returned r settles, settles.logs⟩

/-! ### One thing after the other -/

theorem stepwise :
    Stepwise fun (α : Type) (x : Run σ α) (y : Watched σ α) => Mirrors held x y where
  pure a := pure a
  bind first later := bind first later

theorem foldlM {f : β → α → Run σ β} {g : β → α → Watched σ β}
    (each : ∀ b a, Mirrors held (f b a) (g b a)) (as : List α) (b : β) :
    Mirrors held (as.foldlM f b) (as.foldlM g b) :=
  stepwise.foldlM each as b

theorem forM {f : α → Run σ Unit} {g : α → Watched σ Unit} (each : ∀ a, Mirrors held (f a) (g a))
    (as : List α) : Mirrors held (as.forM f) (as.forM g) :=
  stepwise.forM each as

theorem mapM {f : α → Run σ β} {g : α → Watched σ β} (each : ∀ a, Mirrors held (f a) (g a))
    (as : List α) : Mirrors held (as.mapM f) (as.mapM g) :=
  stepwise.mapM each as

/-- A change of the world for which no cell has to be borrowed. -/
theorem plain {x : Run σ α} {f : World σ → α × World σ} (run : ∀ w, x.run w = some (f w))
    (busy : ∀ w, (f w).2.busy = w.busy) : Mirrors held x (Watched.step [] f) :=
  step run busy nofun

theorem holding (z : Zone) {x : Run σ α} {y : Watched σ α} (mirrors : Mirrors held x y) :
    Mirrors held (Run.holding z x) (Watched.holding z y) :=
  bind (plain (fun _ => rfl) fun _ => rfl) fun _ => bind mirrors fun a =>
    bind (plain (fun _ => rfl) fun _ => rfl) fun _ => pure a

end Mirrors

/-! ## Evaluating, ticks and dispatches -/

/-- The user's methods, handlers and refreshes do the same under watch. -/
structure Hooks.Mirror (v : Hooks σ) (u : UserCode σ) : Prop where
  call : ∀ o method args, Mirrors [] (u.call o method args) (v.call o method args)
  handler : ∀ name, Mirrors [] (u.handler name) (v.handler name)
  refresh : ∀ name, Mirrors [] (u.refresh name) (v.refresh name)

namespace Mirrors

open Watched

variable {α β : Type}

/-- Where nothing is lent, each cell is free. -/
theorem free_nil (loans : List Loan) : ∀ l ∈ loans, ([] : List Loan).any l.clashes = false :=
  fun _ _ => rfl

/-- Code of the user's runs where no cell is lent. -/
theorem entering {x : Run σ α} {y : Watched σ α} (mirrors : Mirrors [] x y) :
    Mirrors [] x (Watched.entering y) :=
  noting mirrors fun _ => rfl

theorem own {x : Run σ α} {f : σ → α × σ} (run : ∀ w, x.run w =
    some ((f w.user).1, { w with user := (f w.user).2 })) : Mirrors [] x (Watched.own f) :=
  entering (plain run fun _ => rfl)

theorem notice (u : UserCode σ) (n : Notice) :
    Mirrors [] (Run.notice u n) (Watched.notice u n) :=
  own fun _ => rfl

variable {u : UserCode σ} {v : Hooks σ} (hooks : v.Mirror u)

include hooks

/-- What a program can reach is reached in the same way. -/
theorem eval (p : Program) (o : ObjectId) :
    Mirrors [] (p.eval (u.scope o)).run (p.eval (Watched.scope u v o)).run :=
  stepwise.eval (fun _ => own fun _ => rfl) (fun _ _ => own fun _ => rfl)
    fun method _ args => entering (hooks.call o method args)

theorem evaluate (e : Expression) (o : ObjectId) :
    Mirrors [] (e.evaluate u o) (Watched.evaluate u v e o) :=
  evaluating (Expression.run_evaluate u e o) (eval hooks e.program o)

theorem refresh (r : Refresh) : Mirrors [] (r.run u) (Watched.refresh u v r) := by
  cases r with
  | named name => exact entering (hooks.refresh name)
  | bound node attr value object =>
      refine bind (evaluate hooks value object) fun r => ?_
      cases r with
      | error e => exact pure (Except.error e)
      | ok x =>
          refine noting (bind ?_ fun _ => pure (Except.ok ())) nofun
          exact step (Run.run_onForest _) (fun _ => rfl) (free_nil _)

theorem addReport (z : Zone) (report : TickReport) (entry : Nat × Refresh) :
    Mirrors [] (report.add u entry) (Watched.addReport u v z report entry) := by
  refine bind (calling nofun (refresh hooks entry.2)) fun r => ?_
  cases r with
  | ok _ => exact pure _
  | error e => exact bind (notice u _) fun _ => pure _

theorem tick (z : Zone) : Mirrors [] (z.tick u) (Watched.tick u v z) := by
  refine calling nofun (holding z ?_)
  refine look (free_nil _) (fun snapshot : List (Nat × Refresh) => do
    modify (·.onZone z fun s => { s with ticks := s.ticks + 1 })
    snapshot.foldlM (TickReport.add u) {}) fun snapshot => ?_
  refine bind (plain (fun _ => rfl) fun _ => rfl) fun _ => ?_
  exact foldlM (fun report entry => addReport hooks z report entry) snapshot {}

theorem handle (h : Handler) : Mirrors [] (h.run u) (Watched.handle u v h) := by
  induction h with
  | named name => exact entering (hooks.handler name)
  | bound serial event action object =>
      refine bind (evaluate hooks action object) fun r => ?_
      cases r with
      | ok _ => exact pure ()
      | error e => exact notice u _
  | wrapped serial zone inner ih =>
      refine bind ih fun _ => look (g := (·.alive u zone.id)) (free_nil _) (fun alive => do
        if alive then let _ ← zone.tick u) fun alive => ?_
      cases alive with
      | true => exact bind (tick hooks zone) fun _ => pure ()
      | false => exact pure ()

theorem dispatch (d : Nat) (node : NodeId) (event : String) :
    Mirrors [] (LiveTemplates.dispatch u d node event) (Watched.dispatch u v d node event) := by
  refine calling nofun (look (free_nil _) (fun snapshot : List Handler => do
    snapshot.forM (·.run u)
    return snapshot.length) fun snapshot => ?_)
  exact bind (forM (handle hooks) snapshot) fun _ => pure _

end Mirrors

end LiveTemplates
