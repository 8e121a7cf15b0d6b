/-
# LiveTemplates.Proofs.World.Convergence -- what is shown when an event has been handled

A handler that was registered through a zone runs inside of the wrapper of this zone and of
all zones behind it (`Wraps`), so the ticks of these come last, when nothing is busy any
more.  If their registries only watch:

* `Wraps.run_eq`: running such a handler is running what is inside, and then the ticks;
* `dispatch_worked`: so the ticks of these zones are the last that happens in a dispatch;
* `dispatch_converges`: behind a dispatch to such handlers, every binding of these zones
  shows its value, however handlers have nested, failed and changed what is registered;
* `stacked_stale`: the zones behind matter, as one that changes objects in its ticks leaves
  the bindings of a zone in front of it stale.
-/
import LiveTemplates.Proofs.World.Looking

namespace LiveTemplates

set_option autoImplicit false

variable {σ : Type}

/-! ## Zones behind each other -/

mutual

/-- The zones of a target, each in front of what is behind it. -/
def Target.chain : Target → List Zone
  | .dispatcher _ => []
  | .zone z => z.chain

/-- A zone and the zones behind it. -/
def Zone.chain : Zone → List Zone
  | .mk id behind => .mk id behind :: behind.chain

end

mutual

/-- The dispatcher behind all zones of a target. -/
def Target.lastDispatcher : Target → Nat
  | .dispatcher d => d
  | .zone z => z.lastDispatcher

/-- The dispatcher behind a zone. -/
def Zone.lastDispatcher : Zone → Nat
  | .mk _ behind => behind.lastDispatcher

end

/-- A handler with the wrappers of some zones around it, the first innermost. -/
inductive Wraps : List Zone → Handler → Handler → Prop
  | nil (h : Handler) : Wraps [] h h
  | cons {zones : List Zone} {z : Zone} {inner h : Handler} {serial : Nat}
      (outer : Wraps zones (.wrapped serial z inner) h) : Wraps (z :: zones) inner h

/-- A handler was registered through a zone. -/
def Zone.Installed (z : Zone) (h : Handler) : Prop :=
  ∃ inner, Wraps z.chain inner h

/-- Running a handler with wrappers around it is running what is inside, and then ticks of
those of the zones that are alive. -/
theorem Wraps.run_eq (u : UserCode σ) {zones : List Zone} {inner h : Handler}
    (wraps : Wraps zones inner h) :
    h.run u = (do inner.run u; zones.forM (Zone.tickAlive u)) := by
  induction wraps with
  | nil h => exact (bind_pure (h.run u)).symm
  | @cons zones z inner h serial _ ih =>
      rw [ih, Handler.run]
      exact bind_assoc _ _ _

mutual

/-- A listener that is added to a target is registered with the dispatcher behind it, with
the wrappers of its zones around the handler. -/
theorem wraps_addListener : ∀ (t : Target) (l : Listener) (w : World σ),
    ∃ h, Wraps t.chain l.handler h ∧ (World.addListener t l w).dispatchers =
      w.dispatchers.modify t.lastDispatcher (· ++ [{ l with handler := h }])
  | .dispatcher _, l, _ => ⟨l.handler, .nil _, rfl⟩
  | .zone z, l, w => wraps_addWrapped z l w

theorem wraps_addWrapped : ∀ (z : Zone) (l : Listener) (w : World σ),
    ∃ h, Wraps z.chain l.handler h ∧ (World.addWrapped z l w).dispatchers =
      w.dispatchers.modify z.lastDispatcher (· ++ [{ l with handler := h }])
  | .mk id behind, l, w => by
      obtain ⟨h, wraps, added⟩ := wraps_addListener behind
        { l with handler := .wrapped w.serial (.mk id behind) l.handler } _
      exact ⟨h, .cons wraps, added⟩

end

/-- A listener that is added to a zone has a handler that was registered through it. -/
theorem installed_addWrapped (z : Zone) (l : Listener) (w : World σ) :
    ∃ h, z.Installed h ∧ (World.addWrapped z l w).dispatchers =
      w.dispatchers.modify z.lastDispatcher (· ++ [{ l with handler := h }]) := by
  obtain ⟨h, wraps, added⟩ := wraps_addWrapped z l w
  exact ⟨h, ⟨l.handler, wraps⟩, added⟩

/-! ## What is shown -/

/-- The refreshes of a zone and, after them, of the zones behind it, of those that are
alive. -/
def Zone.watched (u : UserCode σ) (z : Zone) (w : World σ) : List (Nat × Refresh) :=
  (z.chain.filter (w.alive u ·.id)).flatMap fun z => (w.zone z).refreshes

/-- Is it the number of a zone, or of one of the zones behind it? -/
def Zone.Among (z : Zone) (id : Nat) : Prop :=
  ∃ z' ∈ z.chain, z'.id = id

/-- The bindings of a zone, and of those behind it, are shown: an attribute of an element has
the value of the last binding for it that has a value, and an attribute without such a
binding is as it was in another world. -/
structure Converged (u : UserCode σ) (z : Zone) (w₁ w : World σ) : Prop where
  shown : ∀ before after k node attr e o v,
    z.watched u w = before ++ (k, .bound node attr e o) :: after → e.HasValue u w o v →
    (∀ k' e' o' v', (k', .bound node attr e' o') ∈ after → ¬ e'.HasValue u w o' v') →
    (w.forest.data node).isElement = true →
    (w.forest.data node).attr? attr = some v.display
  unwritten : ∀ node attr,
    (∀ k e o v, (k, .bound node attr e o) ∈ z.watched u w → ¬ e.HasValue u w o v) →
    (w.forest.data node).attr? attr = (w₁.forest.data node).attr? attr

theorem World.mem_writes {u : UserCode σ} {w : World σ} {entries : List (Nat × Refresh)}
    {x : Forest.Write} : x ∈ w.writes u entries ↔
      ∃ k e o v, (k, Refresh.bound x.node x.attr e o) ∈ entries ∧ e.HasValue u w o v ∧
        x.text = v.display := by
  simp only [World.writes, List.mem_flatMap, Refresh.mem_writes]
  constructor
  · rintro ⟨⟨k, r⟩, member, e, o, v, rfl, value, text⟩
    exact ⟨k, e, o, v, member, value, text⟩
  · rintro ⟨k, e, o, v, member, value, text⟩
    exact ⟨_, member, e, o, v, rfl, value, text⟩

/-- Where all refreshes have been written, they are shown. -/
theorem Converged.of_writes {u : UserCode σ} {z : Zone} {w₁ w : World σ}
    (written : w.forest = w₁.forest.writeAll (w.writes u (z.watched u w))) :
    Converged u z w₁ w where
  shown := by
    intro before after k node attr e o v split value last element
    rw [written, split]
    obtain ⟨w', ran⟩ := value
    have here : Refresh.writes u w (.bound node attr e o) = [⟨node, attr, v.display⟩] := by
      simp only [Refresh.writes, ran]
    simp only [World.writes, List.flatMap_append, List.flatMap_cons, here, List.singleton_append]
    refine Forest.attr?_writeAll_last _ _ _ ⟨node, attr, v.display⟩ ?_ ?_
    · rwa [written, Forest.isElement_writeAll] at element
    · rintro y member ⟨rfl, rfl⟩
      obtain ⟨k', e', o', v', listed, value', -⟩ := World.mem_writes.1 member
      exact last k' e' o' v' listed value'
  unwritten := by
    intro node attr none
    rw [written]
    refine Forest.attr?_writeAll_other _ _ _ _ ?_
    rintro y member ⟨rfl, rfl⟩
    obtain ⟨k, e, o, v, listed, value, -⟩ := World.mem_writes.1 member
    exact none k e o v listed value

/-- A dispatch to one listener. -/
theorem run_dispatch_one (u : UserCode σ) {w w' : World σ} (d : Nat) (node : NodeId)
    (event : String) {l : Listener} (only : w.listenersFor d node event = [l])
    (ran : (l.handler.run u).run w = some ((), w')) :
    (dispatch u d node event).run w = some (1, w') := by
  refine Run.bind_eq_some.2 ⟨w, w, rfl, ?_⟩
  rw [only]
  exact Run.bind_eq_some.2 ⟨(), w', Run.bind_eq_some.2 ⟨(), w', ran, rfl⟩, rfl⟩

/-- A handler with a living zone around it ticks in the end. -/
theorem run_wrapped (u : UserCode σ) {w v x : World σ} {serial : Nat} {z : Zone} {h : Handler}
    {report : TickReport} (inner : (h.run u).run w = some ((), v))
    (alive : v.alive u z.id = true) (ticked : (z.tick u).run v = some (report, x)) :
    ((Handler.wrapped serial z h).run u).run w = some ((), x) := by
  refine Run.bind_eq_some.2 ⟨(), v, inner, Run.bind_eq_some.2 ⟨v, v, rfl, ?_⟩⟩
  rw [alive]
  exact Run.bind_eq_some.2 ⟨report, x, ticked, rfl⟩

/-! ## An element with a name

One object has a name, which one binding shows on the one element there is. -/

namespace Naming

/-- The name of the object is all there is to know.  A handler or refresh sets it to its own. -/
def user : UserCode String where
  get _ member s := (if member = "name" then some (.text s) else none, s)
  set _ member _ s := (.error (.readOnly member), s)
  call _ method _ := pure (.error (.unknownMethod method))
  handler name := modify fun w => { w with user := name }
  refresh name := do
    modify fun w => { w with user := name }
    return .ok ()
  construct _ _ s := s
  notice _ s := s
  holds _ _ := true

theorem obeys (among : Nat → Prop) : user.Obeys (Evolves among) where
  handler _ := .change (fun _ => rfl) fun _ => Evolves.of_zones rfl rfl
  refresh _ := .bind (.change (fun _ => rfl) fun _ => Evolves.of_zones rfl rfl) fun _ => .pure _
  call _ _ _ := .pure _

theorem still : user.Still where
  get _ _ s := .refl user s
  notice _ s := .refl user s

def name : Expression :=
  ⟨"name", .input, .member "name", ["name"]⟩

def shown : Refresh :=
  .bound 0 "title" name 0

/-- The element, and no zone. -/
def blank : World String where
  forest := ⟨#[{ data := .element .html "p" [] }]⟩
  document := 0
  user := "dawn"

/-- A zone shows the name, and a listener is registered through it. -/
def page (z : Zone) (w : World String) : World String :=
  World.addWrapped z ⟨0, "click", .named "noon"⟩ (w.addRefresh z shown).2

theorem evaluate {w : World String} (idle : w.busy = []) :
    (name.evaluate user 0).run w = some (.ok (.text w.user), w) := by
  rw [Expression.run_evaluate, if_neg (by simp [idle]), Run.run_borrowing,
    show name.program = .member "name" from rfl, Program.eval, UserCode.run_read]
  simp [user, UserCode.reading]

theorem tick (z : Zone) {w : World String} {k : Nat} (idle : w.busy = [])
    (only : (w.zone z).refreshes = [(k, shown)]) :
    (z.tick user).run w = some (⟨1, 0⟩,
      { w.onZone z fun s => { s with ticks := s.ticks + 1 } with
        forest := w.forest.write ⟨0, "title", w.user⟩ }) := by
  rw [Zone.tick, Run.run_holding, Option.map_eq_some_iff]
  refine ⟨(⟨1, 0⟩, { w.onZone z fun s => { s with ticks := s.ticks + 1 } with
    forest := w.forest.write ⟨0, "title", w.user⟩, pins := z :: w.pins }), ?_, rfl⟩
  refine Run.bind_eq_some.2 ⟨_, _, rfl, Run.bind_eq_some.2 ⟨_, _, rfl, ?_⟩⟩
  rw [show World.zone { w with pins := z :: w.pins } z = w.zone z from rfl, only]
  refine Run.bind_eq_some.2 ⟨_, _, Run.bind_eq_some.2 ⟨_, _, Run.bind_eq_some.2
    ⟨_, _, evaluate idle, rfl⟩, rfl⟩, rfl⟩

/-- A zone in front of the dispatcher. -/
def near : Zone := .mk 0 (.dispatcher 0)

/-- The name is shown with this zone. -/
def single : World String :=
  page near (blank.newZone (.dispatcher 0)).2

/-- Another zone, in front of the first. -/
def far : Zone := .mk 1 (.zone near)

/-- The name is shown with the zone in front, and the one behind changes it in its ticks. -/
def stacked : World String :=
  ((page far ((blank.newZone (.dispatcher 0)).2.newZone (.zone near)).2).addRefresh near
    (.named "dusk")).2

/-- A zone that shows the name and nothing else is quiet. -/
theorem quiet {among : Nat → Prop} {w : World String} (z : Zone) {k : Nat}
    (one : ∀ id, among id → id = z.id) (only : (w.zone z).refreshes = [(k, shown)]) :
    Quiet among w := by
  intro z' member entry listed
  have same : w.zone z' = w.zone z := by simp only [World.zone, one z'.id member]
  rw [same, only] at listed
  obtain rfl := List.mem_singleton.1 listed
  rfl

end Naming

/-! ## Dispatching -/

/-- What happens in a dispatch up to the end of the last handler's own work, where this
handler has wrappers around it. -/
inductive Worked (u : UserCode σ) (z : Zone) (w : World σ) (handlers : List Handler)
    (w₁ : World σ) : Prop
  | intro {before : List Handler} {last inner : Handler} (split : handlers = before ++ [last])
      (wraps : Wraps z.chain inner last)
      (run : (do before.forM (·.run u); inner.run u).run w = some ((), w₁))

/-- The work of handlers keeps quiet zones quiet, and ends with nothing else busy. -/
theorem Worked.evolves {u : UserCode σ} {z : Zone} {w w₁ : World σ} {handlers : List Handler}
    (worked : Worked u z w handlers w₁) (obeys : u.Obeys (Evolves z.Among)) :
    Evolves z.Among w w₁ := by
  have carries : Carries (Evolves z.Among : World σ → World σ → Prop) := Evolves.carries _
  have hosts := carries.hosts u
  have keeps := obeys.keeps carries
  obtain ⟨-, -, run⟩ := worked
  have handled (h : Handler) : Keeps (Evolves z.Among) (h.run u) :=
    Keeps.handler keeps hosts.toBears (Keeps.tick hosts keeps) h
  exact Keeps.bind hosts.trans (Keeps.forM hosts.toBears _ handled) (fun _ => handled _) w _ w₁ run

/-- A dispatch to handlers that were registered through a zone is their work, and then the
ticks around the last of them. -/
theorem dispatch_worked {u : UserCode σ} {z : Zone} {w w' : World σ} {d : Nat} {node : NodeId}
    {event : String} {n : Nat} (listened : w.listenersFor d node event ≠ [])
    (through : ∀ l ∈ w.listenersFor d node event, z.Installed l.handler)
    (run : (dispatch u d node event).run w = some (n, w')) :
    ∃ w₁, Worked u z w ((w.listenersFor d node event).map (·.handler)) w₁ ∧
      (z.chain.forM (Zone.tickAlive u)).run w₁ = some ((), w') := by
  obtain ⟨before, last, split⟩ := (List.eq_nil_or_concat' _).resolve_left listened
  obtain ⟨inner, wraps⟩ := through last (by rw [split]; simp)
  have handlers : (w.listenersFor d node event).map (·.handler) =
      before.map (·.handler) ++ [last.handler] := by rw [split]; simp
  obtain ⟨_, _, got, body⟩ := Run.bind_eq_some.1 run
  obtain ⟨rfl, rfl⟩ := Run.pure_eq_some.1 got
  obtain ⟨_, _, ran, done⟩ := Run.bind_eq_some.1 body
  obtain ⟨-, rfl⟩ := Run.pure_eq_some.1 done
  rw [handlers, List.forM_eq_forM, List.forM_append, List.forM_cons, List.forM_nil,
    bind_pure_unit, wraps.run_eq, ← bind_assoc] at ran
  obtain ⟨_, w₁, work, ticks⟩ := Run.bind_eq_some.1 ran
  exact ⟨w₁, .intro handlers wraps work, ticks⟩

/-- The refreshes of the zones are written behind a dispatch, whatever happened in it. -/
theorem dispatch_converges {u : UserCode σ} {z : Zone} {w w' : World σ} {d : Nat}
    {node : NodeId} {event : String} {n : Nat} (obeys : u.Obeys (Evolves z.Among))
    (still : u.Still) (idle : w.busy = []) (quiet : Quiet z.Among w)
    (listened : w.listenersFor d node event ≠ [])
    (through : ∀ l ∈ w.listenersFor d node event, z.Installed l.handler)
    (run : (dispatch u d node event).run w = some (n, w')) :
    w'.busy = [] ∧ ∃ w₁, Worked u z w ((w.listenersFor d node event).map (·.handler)) w₁ ∧
      Converged u z w₁ w' := by
  obtain ⟨w₁, worked, ticks⟩ := dispatch_worked listened through run
  have evolves := worked.evolves obeys
  have free : w₁.busy = [] := evolves.busy.trans idle
  have watching : ∀ z' ∈ z.chain, ∀ entry ∈ (w₁.zone z').refreshes, entry.2.Watches :=
    fun z' member => evolves.quiet quiet z' ⟨z', member, rfl⟩
  obtain ⟨v, ticked, settles⟩ := still.ticks z.chain watching free
  obtain ⟨-, rfl⟩ := Prod.mk.inj (Option.some.inj (ticked.symm.trans ticks))
  have idle' : v.busy = [] := settles.busy.trans free
  have watched : z.watched u v = z.watched u w₁ := by
    simp only [Zone.watched, settles.alive, settles.refreshes]
  have written : v.writes u (z.watched u w₁) = w₁.writes u (z.watched u w₁) := by
    refine still.writes_eq ?_ free idle' settles.user
    intro entry member
    obtain ⟨z', inside, listed⟩ := List.mem_flatMap.1 member
    exact watching z' (List.mem_of_mem_filter inside) entry listed
  refine ⟨idle', w₁, worked, .of_writes ?_⟩
  rw [watched, written]
  exact settles.forest

/-- The name that a handler sets is shown behind a dispatch. -/
theorem dispatch_converges_near :
    Naming.user.Obeys (Evolves Naming.near.Among) ∧ Naming.user.Still ∧
    Naming.single.busy = [] ∧ Quiet Naming.near.Among Naming.single ∧
    Naming.single.listenersFor 0 0 "click" ≠ [] ∧
    (∀ l ∈ Naming.single.listenersFor 0 0 "click", Naming.near.Installed l.handler) ∧
    ∃ w', (dispatch Naming.user 0 0 "click").run Naming.single = some (1, w') ∧
      (w'.forest.data 0).attr? "title" = some "noon" := by
  have quiet : Quiet Naming.near.Among Naming.single := by
    refine Naming.quiet Naming.near ?_ rfl
    rintro id ⟨z, member, rfl⟩
    obtain rfl := List.mem_singleton.1 member
    rfl
  have listened : Naming.single.listenersFor 0 0 "click" ≠ [] := List.cons_ne_nil _ _
  have through : ∀ l ∈ Naming.single.listenersFor 0 0 "click",
      Naming.near.Installed l.handler := by
    intro l member
    obtain rfl := List.mem_singleton.1 member
    exact ⟨.named "noon", .cons (.nil _)⟩
  have ticked := Naming.tick Naming.near (w := { Naming.single with user := "noon" }) (k := 0)
    rfl rfl
  have run := run_dispatch_one Naming.user (w := Naming.single) 0 0 "click" rfl
    (run_wrapped Naming.user rfl rfl ticked)
  have obeys := Naming.obeys Naming.near.Among
  obtain ⟨free, w₁, -, converged⟩ :=
    dispatch_converges obeys Naming.still rfl quiet listened through run
  refine ⟨obeys, Naming.still, rfl, quiet, listened, through, _, run, ?_⟩
  exact converged.shown [] [] 0 0 "title" Naming.name 0 (.text "noon") rfl
    ⟨_, Naming.evaluate free⟩ (fun _ _ _ _ => nofun) rfl

/-- The zone in front only watches, is alive and has the one listener, and yet it does not show
the name that there is behind the dispatch. -/
theorem stacked_stale :
    Naming.user.Obeys (Evolves (· = Naming.far.id)) ∧ Naming.user.Still ∧
    Naming.stacked.busy = [] ∧ Quiet (· = Naming.far.id) Naming.stacked ∧
    Naming.stacked.listenersFor 0 0 "click" ≠ [] ∧
    (∀ l ∈ Naming.stacked.listenersFor 0 0 "click", Naming.far.Installed l.handler) ∧
    ∃ w', (dispatch Naming.user 0 0 "click").run Naming.stacked = some (1, w') ∧
      w'.alive Naming.user Naming.far.id = true ∧
      (w'.zone Naming.far).refreshes = [(0, .bound 0 "title" Naming.name 0)] ∧
      Naming.name.HasValue Naming.user w' 0 (.text "dusk") ∧
      (w'.forest.data 0).isElement = true ∧
      (w'.forest.data 0).attr? "title" = some "noon" := by
  have quiet : Quiet (· = Naming.far.id) Naming.stacked :=
    Naming.quiet Naming.far (fun _ same => same) rfl
  have listened : Naming.stacked.listenersFor 0 0 "click" ≠ [] := List.cons_ne_nil _ _
  have through : ∀ l ∈ Naming.stacked.listenersFor 0 0 "click",
      Naming.far.Installed l.handler := by
    intro l member
    obtain rfl := List.mem_singleton.1 member
    exact ⟨.named "noon", .cons (.cons (.nil _))⟩
  have ticked := Naming.tick Naming.far (w := { Naming.stacked with user := "noon" }) (k := 0)
    rfl rfl
  have run := run_dispatch_one Naming.user (w := Naming.stacked) 0 0 "click" rfl
    (run_wrapped Naming.user (run_wrapped Naming.user rfl rfl ticked) rfl rfl)
  exact ⟨Naming.obeys _, Naming.still, rfl, quiet, listened, through, _, run, rfl, rfl,
    ⟨_, Naming.evaluate rfl⟩, rfl, rfl⟩

end LiveTemplates
