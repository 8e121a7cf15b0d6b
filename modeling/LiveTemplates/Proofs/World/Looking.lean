/-
# LiveTemplates.Proofs.World.Looking -- what watching does, and what it does not

Where reading members and reporting do not change what can be read
(`UserCode.Still`), a program that only reads has one outcome, whatever was read before
(`UserCode.Still.evaluate`).  So a refresh that watches writes what it would write in any
world alike (`Refresh.writes`), and does nothing else:

* `UserCode.Still.refresh`: a refresh that watches writes its value, or nothing if this has
  none;
* `UserCode.Still.tick`: a tick of a zone that only watches writes the values of its
  refreshes in order;
* `UserCode.Still.ticks`: so do ticks of zones one after the other.
-/
import LiveTemplates.Proofs.Forest.Attributes
import LiveTemplates.Proofs.World.Evolution

namespace LiveTemplates

set_option autoImplicit false

variable {σ : Type}

/-! ## Reading without a trace -/

/-- Two states of the user show the same members, and hold the same zones. -/
structure UserCode.Alike (u : UserCode σ) (s t : σ) : Prop where
  get : ∀ o member, (u.get o member t).1 = (u.get o member s).1
  holds : ∀ z, u.holds t z = u.holds s z

/-- Reading a member, and reporting, changes nothing that can be read. -/
structure UserCode.Still (u : UserCode σ) : Prop where
  get : ∀ o member s, u.Alike s (u.get o member s).2
  notice : ∀ n s, u.Alike s (u.notice n s)

theorem UserCode.Alike.refl (u : UserCode σ) (s : σ) : u.Alike s s :=
  ⟨fun _ _ => rfl, fun _ => rfl⟩

theorem UserCode.Alike.trans {u : UserCode σ} {r s t : σ} (first : u.Alike r s)
    (second : u.Alike s t) : u.Alike r t :=
  ⟨fun o member => (second.get o member).trans (first.get o member),
    fun z => (second.holds z).trans (first.holds z)⟩

theorem UserCode.Alike.symm {u : UserCode σ} {s t : σ} (alike : u.Alike s t) : u.Alike t s :=
  ⟨fun o member => (alike.get o member).symm, fun z => (alike.holds z).symm⟩

/-- An activity has one outcome in all worlds that are alike, and changes at most what
cannot be read of the user's own state. -/
def Looks (u : UserCode σ) (s : σ) {α : Type} (x : Run σ α) : Prop :=
  ∃ a, ∀ w : World σ, u.Alike s w.user →
    ∃ t, u.Alike s t ∧ x.run w = some (a, { w with user := t })

namespace UserCode.Still

variable {u : UserCode σ} (still : u.Still)

include still

theorem looksClosed (s : σ) (o : ObjectId) : Program.Closed
    (fun α (x : ExceptT ExpressionError (Run σ) α) => Looks u s x.run) (u.scope o) where
  pure a := ⟨.ok a, fun w alike => ⟨w.user, alike, rfl⟩⟩
  bind first later := by
    obtain ⟨r, first⟩ := first
    cases r with
    | error e =>
        refine ⟨.error e, fun w alike => ?_⟩
        obtain ⟨t, same, ran⟩ := first w alike
        refine ⟨t, same, ?_⟩
        rw [ExceptT.run_bind]
        exact Run.bind_eq_some.2 ⟨_, _, ran, rfl⟩
    | ok a =>
        obtain ⟨b, later⟩ := later a
        refine ⟨b, fun w alike => ?_⟩
        obtain ⟨t, same, ran⟩ := first w alike
        obtain ⟨t', same', ran'⟩ := later { w with user := t } same
        refine ⟨t', same', ?_⟩
        rw [ExceptT.run_bind]
        exact Run.bind_eq_some.2 ⟨_, _, ran, ran'⟩
  read member := by
    refine ⟨u.reading o member s, fun w alike => ?_⟩
    have same : u.reading o member w.user = u.reading o member s := by
      rw [reading, reading, alike.get]
    refine ⟨_, alike.trans (still.get o member w.user), ?_⟩
    rw [run_read, same]

/-- A program that only reads has one outcome against an object that is not busy. -/
theorem evaluate {e : Expression} (reads : e.program.onlyReads = true) (o : ObjectId) (s : σ) :
    ∃ r, ∀ w : World σ, w.busy = [] → u.Alike s w.user →
      ∃ t, u.Alike s t ∧ (e.evaluate u o).run w = some (r, { w with user := t }) := by
  obtain ⟨r, looks⟩ := Program.closed_eval (still.looksClosed s o) e.program
    fun acts => absurd (reads.symm.trans acts) nofun
  refine ⟨r, fun w idle alike => ?_⟩
  obtain ⟨t, same, ran⟩ := looks { w with busy := o :: w.busy } alike
  refine ⟨t, same, ?_⟩
  rw [Expression.run_evaluate, idle, if_neg (by simp), Run.run_borrowing, ran]
  simp [idle]

end UserCode.Still

/-! ## What is written -/

/-- An expression has a value in a world. -/
def Expression.HasValue (u : UserCode σ) (w : World σ) (e : Expression) (o : ObjectId)
    (v : Value) : Prop :=
  ∃ w', (e.evaluate u o).run w = some (.ok v, w')

/-- What a refresh that watches writes in a world. -/
def Refresh.writes (u : UserCode σ) (w : World σ) : Refresh → List Forest.Write
  | .named _ => []
  | .bound node attr value object =>
    match (value.evaluate u object).run w with
    | some (.ok v, _) => [⟨node, attr, v.display⟩]
    | _ => []

theorem Refresh.mem_writes {u : UserCode σ} {w : World σ} {r : Refresh} {x : Forest.Write} :
    x ∈ r.writes u w ↔ ∃ value object v, r = .bound x.node x.attr value object ∧
      value.HasValue u w object v ∧ x.text = v.display := by
  cases r with
  | named name => simp [writes]
  | bound node attr value object =>
      simp only [writes]
      constructor
      · intro member
        rcases ran : (value.evaluate u object).run w with _ | ⟨e | v, w'⟩
        · simp [ran] at member
        · simp [ran] at member
        · simp only [ran, List.mem_singleton] at member
          subst member
          exact ⟨value, object, v, rfl, ⟨w', ran⟩, rfl⟩
      · rintro ⟨_, _, v, ⟨⟩, ⟨w', ran⟩, text⟩
        simp only [ran, List.mem_singleton]
        rw [← text]

/-- What the refreshes of zones write in a world, in order. -/
def World.writes (u : UserCode σ) (w : World σ) (entries : List (Nat × Refresh)) :
    List Forest.Write :=
  entries.flatMap fun entry => entry.2.writes u w

/-- A world in which things were written meanwhile, and all else can be seen as before. -/
structure Settles (u : UserCode σ) (w v : World σ) (xs : List Forest.Write) : Prop where
  forest : v.forest = w.forest.writeAll xs
  user : u.Alike w.user v.user
  busy : v.busy = w.busy
  target : v.target = w.target
  pins : v.pins = w.pins
  refreshes : ∀ z, (v.zone z).refreshes = (w.zone z).refreshes

namespace Settles

variable {u : UserCode σ} {w v x : World σ} {xs ys : List Forest.Write}

theorem refl (u : UserCode σ) (w : World σ) : Settles u w w [] :=
  ⟨rfl, .refl u _, rfl, rfl, rfl, fun _ => rfl⟩

theorem trans (first : Settles u w v xs) (second : Settles u v x ys) :
    Settles u w x (xs ++ ys) where
  forest := by rw [second.forest, first.forest, Forest.writeAll_append]
  user := first.user.trans second.user
  busy := second.busy.trans first.busy
  target := second.target.trans first.target
  pins := second.pins.trans first.pins
  refreshes z := (second.refreshes z).trans (first.refreshes z)

theorem alive (settles : Settles u w v xs) (z : Nat) : v.alive u z = w.alive u z := by
  unfold World.alive
  rw [settles.target, settles.pins, settles.user.holds]

end Settles

/-- A tick of a zone, if it is alive. -/
def Zone.tickAlive (u : UserCode σ) (z : Zone) : Run σ Unit := do
  if (← get).alive u z.id then let _ ← z.tick u

namespace UserCode.Still

variable {u : UserCode σ} (still : u.Still) {w v : World σ}

include still

/-- What is written is the same in worlds alike. -/
theorem writes_eq {entries : List (Nat × Refresh)}
    (watching : ∀ entry ∈ entries, entry.2.Watches) (idle : w.busy = []) (free : v.busy = [])
    (alike : u.Alike w.user v.user) : v.writes u entries = w.writes u entries := by
  refine List.flatMap_congr fun entry member => ?_
  have watches := watching entry member
  rcases entry with ⟨tick, name | ⟨node, attr, value, object⟩⟩
  · rfl
  · obtain ⟨r, outcome⟩ := still.evaluate watches object w.user
    obtain ⟨t, -, ran⟩ := outcome w idle (.refl u _)
    obtain ⟨t', -, ran'⟩ := outcome v free alike
    simp only [Refresh.writes, ran, ran']
    cases r <;> rfl

/-- A refresh that watches writes its value, or nothing if this has none. -/
theorem refresh {r : Refresh} (watches : r.Watches) (idle : w.busy = []) :
    ∃ outcome t, u.Alike w.user t ∧ (r.run u).run w =
      some (outcome, { w with user := t, forest := w.forest.writeAll (r.writes u w) }) := by
  cases r with
  | named name => exact watches.elim
  | bound node attr value object =>
      obtain ⟨r, outcome⟩ := still.evaluate watches object w.user
      obtain ⟨t, same, ran⟩ := outcome w idle (.refl u _)
      simp only [Refresh.writes, ran]
      cases r with
      | error e =>
          refine ⟨.error e, t, same, ?_⟩
          exact Run.bind_eq_some.2 ⟨_, _, ran, rfl⟩
      | ok v =>
          refine ⟨.ok (), t, same, ?_⟩
          exact Run.bind_eq_some.2 ⟨_, _, ran, rfl⟩

/-- So does a refresh of a tick, with a report if there is no value. -/
theorem add (report : TickReport) {entry : Nat × Refresh} (watches : entry.2.Watches)
    (idle : w.busy = []) : ∃ report' t, u.Alike w.user t ∧
      (report.add u entry).run w = some (report',
        { w with user := t, forest := w.forest.writeAll (entry.2.writes u w) }) := by
  obtain ⟨outcome, t, same, ran⟩ := still.refresh watches idle
  cases outcome with
  | ok _ => exact ⟨_, t, same, Run.bind_eq_some.2 ⟨_, _, ran, rfl⟩⟩
  | error e =>
      exact ⟨_, _, same.trans (still.notice _ t), Run.bind_eq_some.2 ⟨_, _, ran, rfl⟩⟩

/-- Refreshes one after the other write what each of them writes at the start. -/
theorem addAll (entries : List (Nat × Refresh)) (report : TickReport)
    (watching : ∀ entry ∈ entries, entry.2.Watches) (idle : w.busy = []) :
    ∃ report' t, u.Alike w.user t ∧ (entries.foldlM (TickReport.add u) report).run w =
      some (report', { w with user := t, forest := w.forest.writeAll (w.writes u entries) }) := by
  induction entries generalizing report w with
  | nil => exact ⟨report, w.user, .refl u _, rfl⟩
  | cons entry rest ih =>
      obtain ⟨report', t, same, ran⟩ := still.add report (watching entry (by simp)) idle
      have remaining : ∀ entry ∈ rest, entry.2.Watches :=
        fun later member => watching later (List.mem_cons_of_mem _ member)
      obtain ⟨report'', t', same', ran'⟩ := ih (w := { w with
        user := t, forest := w.forest.writeAll (entry.2.writes u w) }) report' remaining idle
      refine ⟨report'', t', same.trans same', ?_⟩
      rw [List.foldlM_cons]
      refine Run.bind_eq_some.2 ⟨_, _, ran, ran'.trans ?_⟩
      have written := still.writes_eq (w := w) (v := { w with
        user := t, forest := w.forest.writeAll (entry.2.writes u w) }) remaining idle idle same
      rw [written, ← Forest.writeAll_append]
      rfl

/-- A tick of a zone that only watches writes the values of its refreshes in order. -/
theorem tick (z : Zone) (watching : ∀ entry ∈ (w.zone z).refreshes, entry.2.Watches)
    (idle : w.busy = []) : ∃ report v, (z.tick u).run w = some (report, v) ∧
      Settles u w v (w.writes u (w.zone z).refreshes) := by
  let counted : World σ :=
    { w with pins := z :: w.pins }.onZone z fun s => { s with ticks := s.ticks + 1 }
  obtain ⟨report, t, same, ran⟩ := still.addAll (w := counted) (w.zone z).refreshes {} watching idle
  let behind : World σ :=
    { counted with user := t, forest := w.forest.writeAll (counted.writes u (w.zone z).refreshes) }
  refine ⟨report, { behind with pins := w.pins }, ?_, ?_, same, rfl, rfl, rfl, fun z' => ?_⟩
  · rw [Zone.tick, Run.run_holding, Option.map_eq_some_iff]
    refine ⟨(report, behind), ?_, rfl⟩
    refine Run.bind_eq_some.2 ⟨_, _, rfl, Run.bind_eq_some.2 ⟨(), counted, rfl, ran⟩⟩
  · exact congrArg w.forest.writeAll (still.writes_eq watching idle idle (.refl u _))
  · have registered := congrArg ZoneState.refreshes (World.ticks_onZone w z z')
    exact registered

/-- Ticks of zones that only watch, one after the other, write the values of the refreshes of
those that are alive. -/
theorem ticks (zones : List Zone)
    (watching : ∀ z ∈ zones, ∀ entry ∈ (w.zone z).refreshes, entry.2.Watches)
    (idle : w.busy = []) : ∃ v, (zones.forM (Zone.tickAlive u)).run w = some ((), v) ∧
      Settles u w v (w.writes u ((zones.filter (w.alive u ·.id)).flatMap
        fun z => (w.zone z).refreshes)) := by
  induction zones generalizing w with
  | nil => exact ⟨w, rfl, .refl u w⟩
  | cons z rest ih =>
      have first : ∃ v, (z.tickAlive u).run w = some ((), v) ∧
          Settles u w v (w.writes u (if w.alive u z.id then (w.zone z).refreshes else [])) := by
        cases alive : w.alive u z.id with
        | true =>
            obtain ⟨report, v, ran, settles⟩ := still.tick z (watching z (by simp)) idle
            refine ⟨v, Run.bind_eq_some.2 ⟨w, w, rfl, ?_⟩, settles⟩
            rw [alive]
            exact Run.bind_eq_some.2 ⟨_, _, ran, rfl⟩
        | false =>
            refine ⟨w, Run.bind_eq_some.2 ⟨w, w, rfl, ?_⟩, .refl u w⟩
            rw [alive]
            rfl
      obtain ⟨v, ran, settles⟩ := first
      have free : v.busy = [] := settles.busy.trans idle
      have remaining : ∀ z ∈ rest, ∀ entry ∈ (w.zone z).refreshes, entry.2.Watches :=
        fun z member => watching z (List.mem_cons_of_mem _ member)
      obtain ⟨x, ran', settles'⟩ := ih (w := v)
        (fun z member => settles.refreshes z ▸ remaining z member) free
      refine ⟨x, Run.bind_eq_some.2 ⟨(), v, ran, ran'⟩, ?_⟩
      have same := settles.trans settles'
      simp only [settles.alive, settles.refreshes] at same
      rw [still.writes_eq (w := w) ?_ idle free settles.user] at same
      · rw [World.writes, World.writes, ← List.flatMap_append] at same
        rw [List.filter_cons, World.writes]
        split
        case isTrue alive => simpa [alive] using same
        case isFalse gone => simpa [gone] using same
      · intro entry member
        obtain ⟨z, inside, listed⟩ := List.mem_flatMap.1 member
        exact remaining z (List.mem_of_mem_filter inside) entry listed

end UserCode.Still

end LiveTemplates
