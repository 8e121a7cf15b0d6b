/-
# LiveTemplates.Proofs.Reentrancy.Borrowing -- who borrows what, and for how long

The user's methods, handlers and refreshes can ask for everything there is: dispatches, ticks,
attaching, detaching and evaluations, inside of each other to any depth.  What they never do
is borrow an object themselves.

* `Routine`: what the user's code is written in;
* `Code`: a user's code, and what it comes to when it runs to some depth;
* `Routine.borrows`: in whatever runs, an object is borrowed exactly while an evaluation
  against it has not returned, a further one is refused, and everything else is free again
  wherever code of the user's runs.
-/
import Mathlib
import LiveTemplates.Proofs.Reentrancy.Compiling

namespace LiveTemplates

set_option autoImplicit false

variable {σ : Type}

/-! ## The user's code -/

/-- What the user's code is written in. -/
inductive Routine (σ : Type) : Type → Type 1 where
  | pure {α : Type} (a : α) : Routine σ α
  | bind {α β : Type} (x : Routine σ α) (f : α → Routine σ β) : Routine σ β
  | endless {α : Type} : Routine σ α
  /-- Changes the user's own state. -/
  | own {α : Type} (f : σ → α × σ) : Routine σ α
  /-- Reads what is in some cells. -/
  | look {α : Type} (cells : List Cell) (f : World σ → α) : Routine σ α
  /-- Changes nodes, and borrows their cells for it. -/
  | nodes {α : Type} (loans : List Loan) (f : Forest → α × Forest) : Routine σ α
  | construct (c : ClassRef) : Routine σ ObjectId
  | evaluate (e : Expression) (o : ObjectId) : Routine σ (Except ExpressionError Value)
  | handle (h : Handler) : Routine σ Unit
  | tick (z : Zone) : Routine σ TickReport
  | dispatch (d : Nat) (node : NodeId) (event : String) : Routine σ Nat
  | newDispatcher : Routine σ Nat
  | newZone (behind : Target) : Routine σ Zone
  | onTick (z : Zone) (name : String) : Routine σ Nat
  | removeTick (z : Zone) (tick : Nat) : Routine σ Bool
  | listen (t : Target) (l : Listener) : Routine σ Unit
  | unlisten (t : Target) (l : Listener) : Routine σ Bool
  /-- Puts a target in front of the document. -/
  | retarget (t : Target) : Routine σ Unit
  | compile (k : Compiler) (catalog : Catalog) (c : ClassRef) :
      Routine σ (Except ConfigurationError Blueprint × Compiler)
  | attachBinding (b : Binding) (live : NodeId) (o : ObjectId) (z : Zone) :
      Routine σ (Option Attachment)
  | attach (b : Blueprint) (host : NodeId) (z : Zone) : Routine σ Instance
  | detach (i : Instance) : Routine σ Unit

namespace Routine

/-- What a routine does. -/
def run (u : UserCode σ) {α : Type} : Routine σ α → Run σ α
  | .pure a => Pure.pure a
  | .bind x f => x.run u >>= fun a => (f a).run u
  | .endless => failure
  | .own f => Run.onUser f
  | .look _ f => modifyGet fun w => (f w, w)
  | .nodes _ f => Run.onForest f
  | .construct c => Run.construct u c
  | .evaluate e o => e.evaluate u o
  | .handle h => h.run u
  | .tick z => z.tick u
  | .dispatch d node event => LiveTemplates.dispatch u d node event
  | .newDispatcher => modifyGet (·.newDispatcher)
  | .newZone behind => modifyGet (·.newZone behind)
  | .onTick z name => modifyGet (·.addRefresh z (.named name))
  | .removeTick z n => modifyGet (·.removeRefresh z n)
  | .listen t l => modify (World.addListener t l)
  | .unlisten t l => modifyGet (World.removeListener t l)
  | .retarget t => modify fun w => { w with target := t }
  | .compile k catalog c => Run.compiling u k (Compiler.compile catalog c)
  | .attachBinding b live o z => b.attach u live o z
  | .attach b host z => b.attach u host z
  | .detach i => modify i.detach

/-- What a routine does under watch. -/
def watch (u : UserCode σ) (v : Hooks σ) {α : Type} : Routine σ α → Watched σ α
  | .pure a => Pure.pure a
  | .bind x f => x.watch u v >>= fun a => (f a).watch u v
  | .endless => throw .endless
  | .own f => Watched.own f
  | .look cells f => Watched.step (cells.map (·.shared)) fun w => (f w, w)
  | .nodes loans f => Watched.step loans fun w => ((f w.forest).1, { w with forest := (f w.forest).2 })
  | .construct c => Watched.construct u c
  | .evaluate e o => Watched.evaluate u v e o
  | .handle h => Watched.handle u v h
  | .tick z => Watched.tick u v z
  | .dispatch d node event => Watched.dispatch u v d node event
  | .newDispatcher => Watched.step [] (·.newDispatcher)
  | .newZone behind => do
    let z ← Watched.step [] (·.newZone behind)
    Watched.note (.opened z)
    return z
  | .onTick z name => Watched.addRefresh z (.named name)
  | .removeTick z n => Watched.removeRefresh z n
  | .listen t l => Watched.addListener t l
  | .unlisten t l => Watched.removeListener t l
  | .retarget t => Watched.step [Cell.target.alone] fun w => ((), { w with target := t })
  | .compile k catalog c => Watched.compile u k catalog c
  | .attachBinding b live o z => Watched.attachBinding u v b live o z
  | .attach b host z => Watched.attach u v b host z
  | .detach i => Watched.detach i

end Routine

/-- A user's code.  Its methods, handlers and refreshes are routines; reading, writing and
constructing objects only changes the user's own state. -/
structure Code (σ : Type) where
  get : ObjectId → String → σ → Option Value × σ
  set : ObjectId → String → Value → σ → Except ExpressionError Unit × σ
  construct : ClassRef → ObjectId → σ → σ
  notice : Notice → σ → σ
  holds : σ → Nat → Bool
  call : ObjectId → String → List Value → Routine σ (Except ExpressionError Value)
  handler : String → Routine σ Unit
  refresh : String → Routine σ (Except ExpressionError Unit)

namespace Code

/-- A user's code that runs to a depth. -/
def user (c : Code σ) : Nat → UserCode σ
  | 0 =>
    { c with
      call := fun _ _ _ => failure
      handler := fun _ => failure
      refresh := fun _ => failure }
  | n + 1 =>
    { c with
      call := fun o method args => (c.call o method args).run (c.user n)
      handler := fun name => (c.handler name).run (c.user n)
      refresh := fun name => (c.refresh name).run (c.user n) }

/-- The same under watch. -/
def hooks (c : Code σ) : Nat → Hooks σ
  | 0 =>
    { call := fun _ _ _ => throw .endless
      handler := fun _ => throw .endless
      refresh := fun _ => throw .endless }
  | n + 1 =>
    { call := fun o method args => (c.call o method args).watch (c.user n) (c.hooks n)
      handler := fun name => (c.handler name).watch (c.user n) (c.hooks n)
      refresh := fun name => (c.refresh name).watch (c.user n) (c.hooks n) }

end Code

/-! ## Everything mirrors -/

/-- A routine under watch does what it does. -/
theorem Mirrors.routine {u : UserCode σ} {v : Hooks σ} (hooks : v.Mirror u) {α : Type}
    (x : Routine σ α) : Mirrors [] (x.run u) (x.watch u v) := by
  induction x with
  | pure a => exact pure a
  | bind _ _ first later => exact bind first later
  | endless => exact endless
  | own f => exact own fun _ => rfl
  | look cells f => exact step (fun _ => rfl) (fun _ => rfl) (free_nil _)
  | nodes loans f => exact step (Run.run_onForest f) (fun _ => rfl) (free_nil _)
  | construct c => exact construct u c
  | evaluate e o => exact evaluate hooks e o
  | handle h => exact handle hooks h
  | tick z => exact tick hooks z
  | dispatch d node event => exact dispatch hooks d node event
  | newDispatcher => exact plain (fun _ => rfl) fun _ => rfl
  | newZone behind =>
      have made : Mirrors [] (modifyGet (·.newZone behind) : Run σ Zone)
          (Watched.step [] (·.newZone behind)) := plain (fun _ => rfl) fun _ => rfl
      have told (z : Zone) : Mirrors [] (Pure.pure z : Run σ Zone)
          (do Watched.note (.opened z); return z) := noting (pure z) nofun
      exact (bind made told).congr fun _ => rfl
  | onTick z name => exact step (fun _ => rfl) (fun _ => rfl) (free_nil _)
  | removeTick z tick => exact removeRefresh (List.forall_mem_nil _) z tick
  | listen t l => exact addListener t l
  | unlisten t l => exact removeListener (List.forall_mem_nil _) t l
  | retarget t => exact step (fun _ => rfl) (fun _ => rfl) (free_nil _)
  | compile k catalog c => exact compile u k catalog c
  | attachBinding b live o z => exact attachBinding hooks b live o z
  | attach b host z => exact attach hooks b host z
  | detach i => exact detach i (List.forall_mem_nil _)

/-- A user's methods, handlers and refreshes under watch do what they do, to any depth. -/
theorem Code.mirror (c : Code σ) (depth : Nat) : (c.hooks depth).Mirror (c.user depth) := by
  induction depth with
  | zero => exact ⟨fun _ _ _ => .endless, fun _ => .endless, fun _ => .endless⟩
  | succ n ih => exact ⟨fun _ _ _ => .routine ih _, fun _ => .routine ih _, fun _ => .routine ih _⟩

/-! ## Evaluations -/

/-- An expression keeps the source that it was compiled of. -/
theorem Expression.source_of_compile {kind : BindingKind} {source : String} {e : Expression}
    (compiled : Expression.compile kind source = .ok e) : e.source = source := by
  cases kind with
  | input =>
      rw [compile, compileInput] at compiled
      repeat' split at compiled
      all_goals cases compiled <;> rfl
  | output =>
      rw [compile, compileOutput] at compiled
      repeat' split at compiled
      all_goals cases compiled <;> rfl

namespace Watched

variable {u : UserCode σ} {v : Hooks σ} {e : Expression} {o : ObjectId} {s : Watch σ}

/-- Against an object that is borrowed nothing is evaluated. -/
theorem exec_evaluate_busy (busy : o ∈ s.world.busy) :
    (evaluate u v e o).exec s =
      (.ok (.error (.reentrant e.source)), (s.enter (.evaluate o)).leave (.evaluate o)) := by
  have refused : (s.enter (.evaluate o)).world.busy.contains o = true :=
    List.contains_iff_mem.2 busy
  rw [evaluate, calling, exec_bind_ok (exec_modify _ _), closing, borrowing, bind_assoc,
    exec_bind_ok (exec_get _), if_pos refused]
  rfl

/-- Against another object the program is evaluated, while this object is borrowed. -/
theorem exec_evaluate_free (hooks : v.Mirror u) (sound : s.Sound) (lent : s.loans = [])
    (free : o ∉ s.world.busy) :
    match (e.program.eval (u.scope o)).run.run { s.world with busy := o :: s.world.busy } with
    | some (r, w) => ∃ t, (evaluate u v e o).exec s = (.ok r, t) ∧
        t.world = { w with busy := s.world.busy }
    | none => ∃ t, (evaluate u v e o).exec s = (.error .endless, t) := by
  have ends := Mirrors.evaluate hooks e o s lent sound
  rw [Expression.run_evaluate, if_neg (by simpa using free), Run.run_borrowing] at ends
  cases ran : (e.program.eval (u.scope o)).run.run { s.world with busy := o :: s.world.busy } with
  | none =>
      rw [ran] at ends
      obtain ⟨t, same, -⟩ := ends.of_none
      exact ⟨t, same⟩
  | some q =>
      obtain ⟨r, w⟩ := q
      rw [ran] at ends
      obtain ⟨t, same, world, settles⟩ := ends.of_some
      have busy : w.busy.erase o = s.world.busy := (congrArg World.busy world).symm.trans settles.busy
      exact ⟨t, same, by rw [world, ← busy]⟩

end Watched

/-! ## Borrowing in whatever runs -/

/-- Whatever runs from a world on in which no object is borrowed, to any depth:

* it does what it does without watch, so no cell is ever asked for that is lent; and with its
  result, be it that of a success or of a failure, everything is given back;
* at each moment an object is borrowed if and only if an evaluation against it has not
  returned, and where code of the user's runs, no other cell is lent;
* wherever an expression is evaluated, it is refused with its source if the object is borrowed,
  and nothing changes; otherwise its program is evaluated, while the object is borrowed. -/
theorem Routine.borrows (code : Code σ) (depth : Nat) {α : Type} (x : Routine σ α) {w : World σ}
    (idle : w.busy = []) :
    (∃ outcome s,
      (x.watch (code.user depth) (code.hooks depth)).exec { world := w } = (outcome, s) ∧
      ((∃ a, outcome = .ok a ∧ (x.run (code.user depth)).run w = some (a, s.world) ∧
          s.world.busy = [] ∧ s.loans = [] ∧ s.calls = []) ∨
        outcome = .error .endless ∧ (x.run (code.user depth)).run w = none) ∧
      ∀ m ∈ s.log, (∀ o, o ∈ m.busy ↔ ∃ c ∈ m.calls, c.call = .evaluate o) ∧
        (m.what = .user → m.loans = [])) ∧
    ∀ (n : Nat) {kind : BindingKind} {source : String} {e : Expression},
      Expression.compile kind source = .ok e → ∀ (o : ObjectId) (s : Watch σ),
        s.Sound → s.loans = [] →
        (o ∈ s.world.busy → ∃ t, (Watched.evaluate (code.user n) (code.hooks n) e o).exec s =
          (.ok (.error (.reentrant source)), t) ∧ t.world = s.world) ∧
        (o ∉ s.world.busy →
          match (e.program.eval ((code.user n).scope o)).run.run
            { s.world with busy := o :: s.world.busy } with
          | some (r, w) => ∃ t,
              (Watched.evaluate (code.user n) (code.hooks n) e o).exec s = (.ok r, t) ∧
                t.world = { w with busy := s.world.busy }
          | none => ∃ t, (Watched.evaluate (code.user n) (code.hooks n) e o).exec s =
              (.error .endless, t)) := by
  constructor
  · let s : Watch σ := { world := w }
    have sound : s.Sound := fun o => by
      rw [show s.world.busy = [] from idle]
      simp [s]
    have recorded {t : Watch σ} (logs : s.Logs t) : ∀ m ∈ t.log,
        (∀ o, o ∈ m.busy ↔ ∃ c ∈ m.calls, c.call = .evaluate o) ∧ (m.what = .user → m.loans = []) :=
      fun m member => ⟨(logs.sound rfl m member).objects, (logs.sound rfl m member).user⟩
    have ends := Mirrors.routine (code.mirror depth) x s rfl sound
    cases ran : (x.run (code.user depth)).run w with
    | none =>
        rw [show (x.run (code.user depth)).run s.world = none from ran] at ends
        obtain ⟨t, same, logs⟩ := ends.of_none
        exact ⟨_, t, same, .inr ⟨rfl, rfl⟩, recorded logs⟩
    | some p =>
        obtain ⟨a, v⟩ := p
        rw [show (x.run (code.user depth)).run s.world = some (a, v) from ran] at ends
        obtain ⟨t, same, rfl, settles⟩ := ends.of_some
        exact ⟨_, t, same, .inl ⟨a, rfl, rfl, settles.busy.trans idle, settles.loans, settles.calls⟩,
          recorded settles.logs⟩
  · intro n kind source e compiled o s sound lent
    refine ⟨fun busy => ?_, fun free => Watched.exec_evaluate_free (code.mirror n) sound lent free⟩
    rw [← Expression.source_of_compile compiled]
    exact ⟨_, Watched.exec_evaluate_busy busy, rfl⟩

/-! ## A method that pokes itself -/

namespace Poked

/-- `poke()`, as a handler. -/
def poke : Expression :=
  ⟨"poke()", .output, .call "poke" [], []⟩

/-- Every method dispatches `x` at element 1; what goes wrong is kept. -/
def code : Code (List Notice) where
  get _ _ s := (none, s)
  set _ _ _ s := (.ok (), s)
  construct _ _ s := s
  notice n s := n :: s
  holds _ _ := true
  call _ _ _ := .bind (.dispatch 0 1 "x") fun _ => .pure (.ok .undefined)
  handler _ := .pure ()
  refresh _ := .pure (.ok ())

/-- A document with one element. -/
def blank : World (List Notice) where
  forest := ⟨#[{ data := .document, children := [1] },
    { data := .element .html "a" [], parent := some 0 }]⟩
  document := 0
  user := []

/-- Lets `x` call `poke()` of object 7 at element 1, and calls it. -/
def again : Routine (List Notice) (Except ExpressionError Value) :=
  .bind (.listen (.dispatcher 0) ⟨1, "x", .bound 0 "x" poke 7⟩) fun _ => .evaluate poke 7

/-- What the method comes to when it is called from within itself. -/
def held : Watch (List Notice) where
  world := { blank with busy := [7] }
  calls := [⟨.evaluate 7, 0⟩]

theorem run_again : ((again.run (code.user 2)).run blank).map (fun (r, w) => (r, w.user)) =
    some (.ok .undefined, [.unhandled "x" (.reentrant "poke()")]) := by
  simp only [again, Routine.run, Code.user, code]
  cbv

theorem held_sound : held.Sound := by
  intro o
  simp [held, eq_comm]

/-- The method returns, and the call in it is refused. -/
theorem borrows_again :
    (∃ s, (again.watch (code.user 2) (code.hooks 2)).exec { world := blank } =
        (.ok (.ok .undefined), s) ∧
      s.world.user = [.unhandled "x" (.reentrant "poke()")] ∧
      s.world.busy = [] ∧ s.loans = [] ∧ s.calls = [] ∧
      ∀ m ∈ s.log, (∀ o, o ∈ m.busy ↔ ∃ c ∈ m.calls, c.call = .evaluate o) ∧
        (m.what = .user → m.loans = [])) ∧
    ∃ t, (Watched.evaluate (code.user 1) (code.hooks 1) poke 7).exec held =
      (.ok (.error (.reentrant "poke()")), t) ∧ t.world = held.world := by
  obtain ⟨⟨outcome, s, watched, ends, log⟩, evaluations⟩ :=
    Routine.borrows code 2 again (w := blank) rfl
  have returns := run_again
  constructor
  · obtain ⟨r, rfl, ran, busy, loans, calls⟩ | ⟨-, ran⟩ := ends
    · rw [ran, Option.map_some, Option.some.injEq, Prod.mk.injEq] at returns
      obtain ⟨rfl, user⟩ := returns
      exact ⟨s, watched, user, busy, loans, calls, log⟩
    · rw [ran] at returns
      cases returns
  · have compiled : Expression.compile .output "poke()" = .ok poke := by cbv
    exact (evaluations 1 compiled 7 held held_sound rfl).1 (List.mem_singleton.2 rfl)

end Poked

end LiveTemplates
