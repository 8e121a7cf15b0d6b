/-
# LiveTemplates.Proofs.World.Repeating -- ticks that only show, once and again

A tick of a zone whose refreshes only watch shows the value of each binding that has one.  Nothing
else comes of it but that the tick is counted and that bindings without a value are reported: all
objects are as they were, and so is all that is registered.  So another tick shows the same
again.

What is left of the objects in the user's own state is a view of it (`UserCode.Shows`): reading
and reporting leave it alone, and reading depends on nothing else.

* `World.tally`: how many bindings have a value and how many have none;
* `UserCode.Shows.tick`: all that a tick does;
* `Zone.tick_settles`: what is shown, that a second tick changes nothing of it, and that the order
  of the refreshes does not matter if each has an attribute of its own;
* `ticked_again`: each tick is counted, and objects that reading changes are shown changed.
-/
import LiveTemplates.Proofs.Forest.Rewriting
import LiveTemplates.Proofs.World.Convergence

namespace LiveTemplates

set_option autoImplicit false

variable {σ β : Type}

/-! ## What can be seen of objects -/

/-- A view of the user's own state holds all that there is of the objects.  Reading a member and
reporting leave the view as it is, and what is read depends on the view alone. -/
structure UserCode.Shows (u : UserCode σ) (objects : σ → β) : Prop where
  get : ∀ o member s, objects (u.get o member s).2 = objects s
  notice : ∀ n s, objects (u.notice n s) = objects s
  reads : ∀ {s t : σ}, objects s = objects t → u.Alike s t

/-- Nothing has become of the objects. -/
def World.SameObjects (objects : σ → β) (w v : World σ) : Prop :=
  objects v.user = objects w.user

namespace UserCode.Shows

variable {u : UserCode σ} {objects : σ → β} (shows : u.Shows objects)

include shows

theorem still : u.Still where
  get o member s := shows.reads (shows.get o member s).symm
  notice n s := shows.reads (shows.notice n s).symm

theorem readClosed (o : ObjectId) : Program.Closed
    (fun _ x => LiveTemplates.Keeps (World.SameObjects objects) (ExceptT.run x)) (u.scope o) where
  pure _ := LiveTemplates.Keeps.total (fun _ => rfl) fun _ => rfl
  bind first later := by
    rw [ExceptT.run_bind]
    refine LiveTemplates.Keeps.bind (fun _ _ _ one other => other.trans one) first fun r => ?_
    cases r with
    | ok a => exact later a
    | error e => exact LiveTemplates.Keeps.total (fun _ => rfl) fun _ => rfl
  read member := LiveTemplates.Keeps.total (u.run_read o member) fun w => shows.get o member w.user

/-- Evaluating a program that only reads leaves the objects as they are. -/
theorem evaluate {e : Expression} (reads : e.program.onlyReads = true) (o : ObjectId) :
    LiveTemplates.Keeps (World.SameObjects objects) (e.evaluate u o) := by
  have eval := Program.closed_eval (shows.readClosed o) e.program
    fun acts => absurd (reads.symm.trans acts) nofun
  intro w r v ran
  rw [Expression.run_evaluate] at ran
  split at ran
  · obtain ⟨-, rfl⟩ := Prod.mk.inj (Option.some.inj ran)
    rfl
  · exact LiveTemplates.Keeps.borrowing (R := World.SameObjects objects) (fun _ _ _ same => same) o eval w r v ran

end UserCode.Shows

/-! ## What is counted -/

/-- Has a refresh a value to show? -/
def Refresh.succeeds (u : UserCode σ) (w : World σ) (r : Refresh) : Bool :=
  !(r.writes u w).isEmpty

/-- What is counted of refreshes: those that have a value, and those that have none. -/
def World.tally (u : UserCode σ) (w : World σ) (entries : List (Nat × Refresh)) : TickReport where
  refreshed := entries.countP (·.2.succeeds u w)
  failed := entries.countP fun entry => !entry.2.succeeds u w

/-- Another report behind a report. -/
def TickReport.plus (a b : TickReport) : TickReport :=
  ⟨a.refreshed + b.refreshed, a.failed + b.failed⟩

theorem TickReport.plus_assoc (a b c : TickReport) : (a.plus b).plus c = a.plus (b.plus c) := by
  simp [plus, Nat.add_assoc]

theorem World.tally_cons (u : UserCode σ) (w : World σ) (entry : Nat × Refresh)
    (rest : List (Nat × Refresh)) :
    w.tally u (entry :: rest) = (w.tally u [entry]).plus (w.tally u rest) := by
  simp only [tally, TickReport.plus, List.countP_cons, List.countP_nil]
  congr 1 <;> omega

/-- The tick of a zone is counted. -/
def World.counted (w : World σ) (z : Zone) : World σ :=
  w.onZone z fun s => { s with ticks := s.ticks + 1 }

theorem World.refreshes_counted (w : World σ) (z z' : Zone) :
    ((w.counted z).zone z').refreshes = (w.zone z').refreshes := by
  have same := congrArg ZoneState.refreshes (World.ticks_onZone w z z')
  exact same

namespace UserCode.Shows

variable {u : UserCode σ} {objects : σ → β} (shows : u.Shows objects) {w v : World σ}

include shows

/-- What is written and counted depends on the objects alone. -/
theorem alike {entries : List (Nat × Refresh)} (watching : ∀ entry ∈ entries, entry.2.Watches)
    (idle : w.busy = []) (free : v.busy = []) (same : World.SameObjects objects w v) :
    v.writes u entries = w.writes u entries ∧ v.tally u entries = w.tally u entries := by
  have one (entry : Nat × Refresh) (member : entry ∈ entries) :
      entry.2.writes u v = entry.2.writes u w := by
    have single : v.writes u [entry] = w.writes u [entry] := by
      refine shows.still.writes_eq ?_ idle free (shows.reads same.symm)
      intro other listed
      obtain rfl := List.mem_singleton.1 listed
      exact watching other member
    simpa [World.writes] using single
  refine ⟨List.flatMap_congr one, ?_⟩
  simp only [World.tally, Refresh.succeeds]
  congr 1
  · exact List.countP_congr fun entry member => by rw [one entry member]
  · exact List.countP_congr fun entry member => by rw [one entry member]

/-- A refresh that watches writes its value and succeeds, or has none and fails. -/
theorem refresh {r : Refresh} (watches : r.Watches) (idle : w.busy = []) :
    ∃ outcome t, objects t = objects w.user ∧ (r.run u).run w =
      some (outcome, { w with user := t, forest := w.forest.writeAll (r.writes u w) }) ∧
      outcome.isOk = r.succeeds u w := by
  cases r with
  | named name => exact watches.elim
  | bound node attr value object =>
      obtain ⟨r, outcome⟩ := shows.still.evaluate watches object w.user
      obtain ⟨t, -, ran⟩ := outcome w idle (.refl u _)
      have same : objects t = objects w.user := shows.evaluate watches object w r _ ran
      simp only [Refresh.succeeds, Refresh.writes, ran]
      cases r with
      | error e => exact ⟨.error e, t, same, Run.bind_eq_some.2 ⟨_, _, ran, rfl⟩, rfl⟩
      | ok v => exact ⟨.ok (), t, same, Run.bind_eq_some.2 ⟨_, _, ran, rfl⟩, rfl⟩

/-- So does a refresh of a tick, which counts it. -/
theorem add (report : TickReport) {entry : Nat × Refresh} (watches : entry.2.Watches)
    (idle : w.busy = []) : ∃ t, objects t = objects w.user ∧
      (report.add u entry).run w = some (report.plus (w.tally u [entry]),
        { w with user := t, forest := w.forest.writeAll (entry.2.writes u w) }) := by
  obtain ⟨outcome, t, same, ran, succeeds⟩ := shows.refresh watches idle
  cases outcome with
  | ok _ =>
      have tally : w.tally u [entry] = ⟨1, 0⟩ := by
        simp [World.tally, ← succeeds, Except.isOk, Except.toBool]
      rw [tally]
      exact ⟨t, same, Run.bind_eq_some.2 ⟨_, _, ran, rfl⟩⟩
  | error e =>
      have tally : w.tally u [entry] = ⟨0, 1⟩ := by
        simp [World.tally, ← succeeds, Except.isOk, Except.toBool]
      rw [tally]
      exact ⟨_, (shows.notice _ t).trans same, Run.bind_eq_some.2 ⟨_, _, ran, rfl⟩⟩

/-- Refreshes one after the other write and count what each of them would at the start. -/
theorem addAll (entries : List (Nat × Refresh)) (report : TickReport)
    (watching : ∀ entry ∈ entries, entry.2.Watches) (idle : w.busy = []) :
    ∃ t, objects t = objects w.user ∧ (entries.foldlM (TickReport.add u) report).run w =
      some (report.plus (w.tally u entries),
        { w with user := t, forest := w.forest.writeAll (w.writes u entries) }) := by
  induction entries generalizing report w with
  | nil => exact ⟨w.user, rfl, rfl⟩
  | cons entry rest ih =>
      obtain ⟨t, same, ran⟩ := shows.add report (watching entry (by simp)) idle
      have remaining : ∀ entry ∈ rest, entry.2.Watches :=
        fun later member => watching later (List.mem_cons_of_mem _ member)
      let behind : World σ :=
        { w with user := t, forest := w.forest.writeAll (entry.2.writes u w) }
      obtain ⟨t', same', ran'⟩ := ih (w := behind) (report.plus (w.tally u [entry])) remaining idle
      obtain ⟨written, counted⟩ := shows.alike (w := w) (v := behind) remaining idle idle same
      refine ⟨t', same'.trans same, ?_⟩
      rw [List.foldlM_cons]
      refine Run.bind_eq_some.2 ⟨_, _, ran, ran'.trans ?_⟩
      rw [w.tally_cons u entry rest, ← TickReport.plus_assoc, counted, written,
        ← Forest.writeAll_append]
      rfl

/-- A tick of a zone that only watches writes the values of its refreshes in order, is counted,
and does nothing else. -/
theorem tick (z : Zone) (watching : ∀ entry ∈ (w.zone z).refreshes, entry.2.Watches)
    (idle : w.busy = []) : ∃ t, objects t = objects w.user ∧ (z.tick u).run w =
      some (w.tally u (w.zone z).refreshes, { w.counted z with
        user := t, forest := w.forest.writeAll (w.writes u (w.zone z).refreshes) }) := by
  let held : World σ := { w.counted z with pins := z :: w.pins }
  obtain ⟨t, same, ran⟩ := shows.addAll (w := held) (w.zone z).refreshes {} watching idle
  obtain ⟨written, counted⟩ := shows.alike (w := w) (v := held) watching idle idle rfl
  have none : TickReport.plus {} (w.tally u (w.zone z).refreshes) =
      w.tally u (w.zone z).refreshes := by simp [TickReport.plus]
  rw [written, counted, none] at ran
  refine ⟨t, same, ?_⟩
  rw [Zone.tick, Run.run_holding, Option.map_eq_some_iff]
  refine ⟨_, Run.bind_eq_some.2 ⟨_, _, rfl, Run.bind_eq_some.2 ⟨(), held, rfl, ran⟩⟩, rfl⟩

end UserCode.Shows

/-! ## Once and again -/

/-- The attribute that a refresh writes to. -/
def Refresh.target? : Refresh → Option (NodeId × String)
  | .named _ => none
  | .bound node attr _ _ => some (node, attr)

/-- Where each refresh has an attribute of its own, no two values go to the same one. -/
theorem World.writes_apart (u : UserCode σ) (w : World σ) {entries : List (Nat × Refresh)}
    (apart : (entries.map (·.2.target?)).Nodup) :
    (w.writes u entries).Pairwise fun x y => ¬ x.Meets y := by
  have target {r : Refresh} {x : Forest.Write} (member : x ∈ r.writes u w) :
      r.target? = some (x.node, x.attr) := by
    obtain ⟨_, _, _, rfl, -⟩ := Refresh.mem_writes.1 member
    rfl
  rw [World.writes, List.pairwise_flatMap]
  constructor
  · rintro ⟨tick, name | ⟨node, attr, value, object⟩⟩ -
    · exact .nil
    · simp only [Refresh.writes]
      split
      · exact List.pairwise_singleton _ _
      · exact .nil
  · rw [List.nodup_iff_pairwise_ne, List.pairwise_map] at apart
    refine apart.imp fun {a b} different x first y second meets => different ?_
    rw [target first, target second, meets.1, meets.2]

/-- A world in which the refreshes of a zone were registered in another order. -/
def World.reordered (w : World σ) (z : Zone) (order : List (Nat × Refresh)) : World σ :=
  w.onZone z fun s => { s with refreshes := order }

theorem World.refreshes_reordered {w : World σ} {z : Zone} {order : List (Nat × Refresh)}
    (perm : order.Perm (w.zone z).refreshes) :
    ((w.reordered z order).zone z).refreshes = order := by
  rw [reordered, zone_onZone]
  by_cases inside : z.id < w.zones.size
  · rw [if_pos ⟨rfl, inside⟩]
  · rw [if_neg fun both => inside both.2]
    have empty : (w.zone z).refreshes = [] := by
      rw [zone, Array.getElem?_eq_none (by omega)]
      rfl
    rw [empty] at perm ⊢
    exact perm.eq_nil.symm

theorem World.tally_perm (u : UserCode σ) (w : World σ) {entries order : List (Nat × Refresh)}
    (perm : order.Perm entries) : w.tally u order = w.tally u entries := by
  simp only [tally, perm.countP_eq]

/-- A tick of a zone whose refreshes only watch, while nothing is busy, shows the value of each
that has one, counts these and the others, and changes nothing else but that the tick is
counted.  Another tick behind it reports the same, and only its being counted comes of it.  And if
each refresh has an attribute of its own, then all attributes have the same values, whatever the
order in which the refreshes were registered. -/
theorem Zone.tick_settles {u : UserCode σ} {objects : σ → β} (shows : u.Shows objects)
    {w : World σ} (z : Zone) (watching : ∀ entry ∈ (w.zone z).refreshes, entry.2.Watches)
    (idle : w.busy = []) :
    ∃ v, (z.tick u).run w = some (w.tally u (w.zone z).refreshes, v) ∧
      v = { w.counted z with user := v.user, forest := v.forest } ∧
      World.SameObjects objects w v ∧
      v.forest = w.forest.writeAll (w.writes u (w.zone z).refreshes) ∧
      Forest.Rewritten w.forest v.forest (w.writes u (w.zone z).refreshes) ∧
      (∃ x, (z.tick u).run v = some (w.tally u (w.zone z).refreshes, x) ∧
        x = { v.counted z with user := x.user } ∧ World.SameObjects objects v x) ∧
      ∀ order : List (Nat × Refresh), order.Perm (w.zone z).refreshes →
        (order.map (·.2.target?)).Nodup →
        ∃ x, (z.tick u).run (w.reordered z order) = some (w.tally u (w.zone z).refreshes, x) ∧
          ∀ n name, (x.forest.data n).attr? name = (v.forest.data n).attr? name := by
  obtain ⟨t, same, ran⟩ := shows.tick z watching idle
  refine ⟨_, ran, rfl, same, rfl, Forest.rewritten_writeAll _ _, ?_, fun order perm apart => ?_⟩
  · let v : World σ := { w.counted z with
      user := t, forest := w.forest.writeAll (w.writes u (w.zone z).refreshes) }
    have registered : (v.zone z).refreshes = (w.zone z).refreshes := w.refreshes_counted z z
    obtain ⟨t', same', ran'⟩ := shows.tick (w := v) z (registered ▸ watching) idle
    obtain ⟨written, counted⟩ := shows.alike (w := w) (v := v) watching idle idle same
    rw [registered, written, counted,
      show v.forest.writeAll (w.writes u (w.zone z).refreshes) = v.forest from
        Forest.writeAll_writeAll _ _] at ran'
    exact ⟨_, ran', rfl, same'⟩
  · have registered := World.refreshes_reordered perm
    have watching' : ∀ entry ∈ order, entry.2.Watches :=
      fun entry member => watching entry (perm.mem_iff.1 member)
    obtain ⟨t', -, ran'⟩ := shows.tick (w := w.reordered z order) z
      (by rwa [registered]) idle
    obtain ⟨written, counted⟩ :=
      shows.alike (w := w) (v := w.reordered z order) watching' idle idle rfl
    rw [registered, written, counted, w.tally_perm u perm] at ran'
    refine ⟨_, ran', fun n name => ?_⟩
    refine Forest.attr?_writeAll_perm (perm.flatMap_right _) (w.writes_apart u ?_) n name
    exact (perm.map _).nodup_iff.1 apart

namespace Naming

/-- All that there is of the object is its name. -/
theorem shows : user.Shows id where
  get _ _ _ := rfl
  notice _ _ := rfl
  reads {s t} same := by
    obtain rfl : s = t := same
    exact .refl user s

/-- The name changes as soon as it has been read. -/
def fleeting : UserCode String :=
  { user with get := fun _ member s => (if member = "name" then some (.text s) else none, "dusk") }

theorem evaluate_fleeting {w : World String} (idle : w.busy = []) :
    (name.evaluate fleeting 0).run w = some (.ok (.text w.user), { w with user := "dusk" }) := by
  rw [Expression.run_evaluate, if_neg (by simp [idle]), Run.run_borrowing,
    show name.program = .member "name" from rfl, Program.eval, UserCode.run_read]
  simp [fleeting, UserCode.reading]

theorem tick_fleeting (z : Zone) {w : World String} {k : Nat} (idle : w.busy = [])
    (only : (w.zone z).refreshes = [(k, shown)]) :
    (z.tick fleeting).run w = some (⟨1, 0⟩, { w.counted z with
      user := "dusk", forest := w.forest.write ⟨0, "title", w.user⟩ }) := by
  rw [Zone.tick, Run.run_holding, Option.map_eq_some_iff]
  refine ⟨(⟨1, 0⟩, { w.counted z with
    user := "dusk", forest := w.forest.write ⟨0, "title", w.user⟩, pins := z :: w.pins }), ?_, rfl⟩
  refine Run.bind_eq_some.2 ⟨_, _, rfl, Run.bind_eq_some.2 ⟨_, _, rfl, ?_⟩⟩
  rw [show World.zone { w with pins := z :: w.pins } z = w.zone z from rfl, only]
  refine Run.bind_eq_some.2 ⟨_, _, Run.bind_eq_some.2 ⟨_, _, Run.bind_eq_some.2
    ⟨_, _, evaluate_fleeting idle, rfl⟩, rfl⟩, rfl⟩

end Naming

/-- The name is shown, and shown again. -/
theorem tick_settles_near :
    Naming.user.Shows id ∧
    (∀ entry ∈ (Naming.single.zone Naming.near).refreshes, entry.2.Watches) ∧
    Naming.single.busy = [] ∧
    ∃ v x, (Naming.near.tick Naming.user).run Naming.single = some (⟨1, 0⟩, v) ∧
      (v.forest.data 0).attr? "title" = some "dawn" ∧
      (Naming.near.tick Naming.user).run v = some (⟨1, 0⟩, x) ∧ x.forest = v.forest := by
  have watching : ∀ entry ∈ (Naming.single.zone Naming.near).refreshes, entry.2.Watches := by
    intro entry listed
    obtain rfl := List.mem_singleton.1 listed
    rfl
  have ticked := Naming.tick Naming.near (w := Naming.single) (k := 0) rfl rfl
  obtain ⟨v, ran, -, -, -, -, ⟨x, again, counted, -⟩, -⟩ :=
    Zone.tick_settles Naming.shows Naming.near watching rfl
  obtain ⟨report, rfl⟩ := Prod.mk.inj (Option.some.inj (ticked.symm.trans ran))
  rw [← report] at again
  have shown := congrArg World.forest counted
  exact ⟨Naming.shows, watching, rfl, _, x, ticked, rfl, again, shown⟩

/-- That a second tick right behind the first changes nothing at all is too much to say: it is
counted.  And where reading changes the object, another value is shown. -/
theorem ticked_again :
    (∃ v x, (Naming.near.tick Naming.user).run Naming.single = some (⟨1, 0⟩, v) ∧
      (Naming.near.tick Naming.user).run v = some (⟨1, 0⟩, x) ∧
      (v.zone Naming.near).ticks = 1 ∧ (x.zone Naming.near).ticks = 2) ∧
    ∃ v x, (Naming.near.tick Naming.fleeting).run Naming.single = some (⟨1, 0⟩, v) ∧
      (Naming.near.tick Naming.fleeting).run v = some (⟨1, 0⟩, x) ∧
      (v.forest.data 0).attr? "title" = some "dawn" ∧
      (x.forest.data 0).attr? "title" = some "dusk" :=
  ⟨⟨_, _, Naming.tick Naming.near (k := 0) rfl rfl, Naming.tick Naming.near (k := 0) rfl rfl,
    rfl, rfl⟩,
   ⟨_, _, Naming.tick_fleeting Naming.near (k := 0) rfl rfl,
    Naming.tick_fleeting Naming.near (k := 0) rfl rfl, rfl, rfl⟩⟩

end LiveTemplates
