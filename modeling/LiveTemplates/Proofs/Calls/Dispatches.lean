/-
# LiveTemplates.Proofs.Calls.Dispatches -- a dispatch runs its snapshot, with the ticks behind it

A handler can register and take back listeners of the dispatcher that runs it, dispatch again, and
tick.  The dispatch that runs it goes on with the listeners that it has found at its start.  Where
a zone has wrapped a handler, the handler and the tick of the zone behind it are one invocation,
which is over before the next listener is run.

* `Serves.handlers_eq`: the handlers of a list are run, in this order, and no others;
* `Accounts.followed`: a zone that is held has ticked behind each handler that it has wrapped;
* `dispatch_runs_each_once`: what a dispatch that returns has called, and how often each zone has
  ticked meanwhile.
-/
import LiveTemplates.Proofs.Calls.Reporting

namespace LiveTemplates

set_option autoImplicit false

variable {σ : Type}

namespace Episode

/-- The handler that was run. -/
def handler? : Episode σ → Option Handler
  | mk (.handler h) _ _ _ => some h
  | _ => none

mutual

/-- What was called in a call is among the calls that it is among. -/
theorem inside_mem_all {e f : Episode σ} (below : f ∈ e.inside) :
    ∀ t : Episode σ, e ∈ t.all → f ∈ t.all
  | mk c w v es, member => by
      rw [all] at member ⊢
      rcases List.mem_cons.1 member with rfl | deeper
      · exact List.mem_cons_of_mem _ (self_mem_allOf below)
      · exact List.mem_cons_of_mem _ (inside_mem_allOf below es deeper)

theorem inside_mem_allOf {e f : Episode σ} (below : f ∈ e.inside) :
    ∀ ts : List (Episode σ), e ∈ allOf ts → f ∈ allOf ts
  | [], member => nomatch member
  | t :: ts, member => by
      rw [allOf] at member ⊢
      rcases List.mem_append.1 member with first | later
      · exact List.mem_append_left _ (inside_mem_all below t first)
      · exact List.mem_append_right _ (inside_mem_allOf below ts later)

end

end Episode

open Episode

theorem Serves.handlers_eq {hs : List Handler} {w v : World σ} {es : List (Episode σ)}
    (serves : Serves hs w es v) : es.map handler? = hs.map some := by
  induction serves with
  | done => rfl
  | next _ ih => rw [List.map_cons, List.map_cons, ih]; rfl

/-- The law of a handler that a zone has wrapped: it is the original handler, and behind it one
tick of the zone if the zone is alive then. -/
theorem Episode.Lawful.wrapped {c : Code σ} {serial : Nat} {z : Zone} {h : Handler}
    {w v : World σ} {es : List (Episode σ)}
    (lawful : Lawful c (.mk (.handler (.wrapped serial z h)) w v es)) :
    ∃ first x, es.head? = some (.mk (.handler h) w x first) ∧
      (x.alive (c.user 0) z.id = true →
        ∃ report behind, es.tail = [.mk (.tick z true report) x v behind]) ∧
      (x.alive (c.user 0) z.id = false → es.tail = [] ∧ v = x) := by
  have consists : Called.Consists c w v es (.handler (.wrapped serial z h)) := lawful.consists
  obtain ⟨first, x, ⟨dead, rfl, rfl⟩ | ⟨alive, report, behind, rfl⟩⟩ := consists
  · exact ⟨first, v, rfl, fun alive => by simp_all, fun _ => ⟨rfl, rfl⟩⟩
  · exact ⟨first, x, rfl, fun _ => ⟨report, behind, rfl⟩, fun dead => by simp_all⟩

/-- A zone is held throughout: by the user's own state, or by an activity at work. -/
def World.Holds (c : Code σ) (w : World σ) (z : Nat) : Prop :=
  (∀ s, c.holds s z = true) ∨ w.pins.any (·.covers z) = true

theorem World.Holds.alive {c : Code σ} {w x : World σ} {n : Nat} {z : Zone} (holds : w.Holds c n)
    (kept : w.pins <:+ x.pins) (same : z.id = n) : x.alive (c.user 0) z.id = true := by
  rw [World.alive, same]
  rcases holds with always | pinned
  · have held : (c.user 0).holds x.user n = true := always x.user
    simp [held]
  · obtain ⟨y, member, covers⟩ := List.any_eq_true.1 pinned
    have still : x.pins.any (·.covers n) = true :=
      List.any_eq_true.2 ⟨y, kept.subset member, covers⟩
    simp [still]

/-- A zone that is held throughout has ticked behind each handler that it has wrapped. -/
theorem Accounts.followed {c : Code σ} {w v : World σ} {es : List (Episode σ)}
    (accounts : Accounts c w es v) {n : Nat} (holds : w.Holds c n) :
    count (isFollowed n) es = count (isWrapped n) es := by
  refine List.countP_congr fun e member => ?_
  rw [isFollowed, Bool.and_eq_true, and_iff_left_iff_imp]
  intro wrapped
  have lawful := accounts.lawful e member
  have held := fun f below => accounts.held f (inside_mem_allOf (f := f) below es member)
  obtain ⟨what, before, after, inside⟩ := e
  cases what with
  | handler h =>
      cases h with
      | wrapped serial z h =>
          have same : z.id = n := beq_iff_eq.1 wrapped
          obtain ⟨first, x, head, ticks, -⟩ := lawful.wrapped
          have kept : w.pins <:+ x.pins := held _ (List.mem_of_head? head)
          obtain ⟨report, behind, tail⟩ := ticks (holds.alive kept same)
          have ticked : Episode.mk (.tick z true report) x after behind ∈ inside :=
            List.mem_of_mem_tail (tail ▸ List.mem_singleton.2 rfl)
          exact List.any_eq_true.2 ⟨_, ticked, beq_iff_eq.2 same⟩
      | _ => cases wrapped
  | _ => cases wrapped

/-- A dispatch of an event at a node, whatever the handlers do that it runs.  If it returns, then

* it has itself run the handlers that were registered at its start for this event at this node,
  each once, in the order of registration, has called nothing else, and returns their number;
* it has run each from the world that the one before it left; and of the calls inside, however
  deep, each leads where it says, each dispatch among them has run its own snapshot, and each
  tick its own;
* each handler inside that a zone has wrapped has run the original handler, however this one went,
  and behind it one tick of the zone, or none if the zone was not alive any more;
* each zone has ticked once for each such tick and for each tick that was asked for inside; and if
  it is held throughout, it has ticked behind each handler that it has wrapped. -/
theorem dispatch_runs_each_once (c : Code σ) (depth d : Nat) (node : NodeId) (event : String)
    {w v : World σ} {n : Nat}
    (returned : (dispatch (c.user depth) d node event).run w = some (n, v)) :
    ∃ inside : List (Episode σ),
      ((Told.dispatch (c.user depth) (c.teller depth) d node event).run []).run w =
        some ((n, [.mk (.dispatch d node event n) w v inside]), v) ∧
      inside.map handler? = ((w.listeners d).filter fun l =>
        l.node == node && l.event == event).map (fun l => some l.handler) ∧
      n = ((w.listeners d).filter fun l => l.node == node && l.event == event).length ∧
      Serves ((w.listenersFor d node event).map (·.handler)) w inside v ∧
      (∀ e ∈ allOf inside, e.Lawful c) ∧
      (∀ serial z h x y es, .mk (.handler (.wrapped serial z h)) x y es ∈ allOf inside →
        ∃ first mid, es.head? = some (.mk (.handler h) x mid first) ∧
          (mid.alive (c.user 0) z.id = true →
            ∃ report behind, es.tail = [.mk (.tick z true report) mid y behind]) ∧
          (mid.alive (c.user 0) z.id = false → es.tail = [] ∧ y = mid)) ∧
      ∀ z : Zone, z.id < w.zones.size →
        (v.zone z).ticks = (w.zone z).ticks + count (isFollowed z.id) inside +
          count (isAsked z.id) inside ∧
        (w.Holds c z.id → count (isFollowed z.id) inside = count (isWrapped z.id) inside) := by
  obtain ⟨es, told, inside, rfl, leads, accounts, counted, serves⟩ :=
    ((c.reports depth).dispatched d node event).told returned
  have handlers := serves.handlers_eq
  rw [List.map_map] at handlers
  refine ⟨inside, told, handlers, ?_, serves, accounts.lawful, ?_, fun z known => ?_⟩
  · rw [counted, ← List.length_map (f := handler?), handlers, List.length_map]
    rfl
  · exact fun serial z h x y es member => (accounts.lawful _ member).wrapped
  · rw [accounts.ticks z known, accounts.behind, Nat.add_assoc]
    exact ⟨rfl, accounts.followed⟩

/-! ## A handler that dispatches -/

namespace Echoing

def zone : Zone :=
  .mk 0 (.dispatcher 0)

/-- An output that fails, as its object is busy. -/
def refused : Expression :=
  ⟨"step()", .output, .call "step" [], []⟩

/-- When it runs first, `echo` registers `late`, dispatches the event again, and ticks. -/
def code : Code Nat where
  get _ _ s := (none, s)
  set _ _ _ s := (.ok (), s)
  construct _ _ s := s
  notice _ s := s
  holds _ _ := true
  call _ _ _ := .pure (.ok .undefined)
  handler name := match name with
    | "echo" => .bind (.own fun n => (n, n + 1)) fun n =>
      if n = 0 then
        .bind (.listen (.dispatcher 0) ⟨1, "x", .named "late"⟩) fun _ =>
          .bind (.dispatch 0 1 "x") fun _ => .bind (.tick zone) fun _ => .pure ()
      else .pure ()
    | _ => .pure ()
  refresh _ := .pure (.ok ())

/-- Three listeners, two of them wrapped by the zone, and one for another event. -/
def registry : List Listener :=
  [⟨1, "x", .named "plain"⟩, ⟨1, "y", .named "other"⟩,
    ⟨1, "x", .wrapped 0 zone (.named "echo")⟩, ⟨1, "x", .wrapped 1 zone (.bound 2 "x" refused 7)⟩]

def start : World Nat where
  forest := ⟨#[]⟩
  document := 0
  dispatchers := #[registry]
  zones := #[{}]
  busy := [7]
  serial := 3
  user := 0

theorem run_dispatch : ((dispatch (code.user 2) 0 1 "x").run start).map (fun (n, v) =>
    (n, (v.zone zone).ticks, (v.listeners 0).length)) = some (3, 5, 5) := by
  rfl

/-- The zone ticks behind both wrapped handlers, in the dispatch and in the one inside, and once
when it is asked to. -/
theorem dispatch_runs_each_once_echoed :
    ∃ (v : World Nat) (inside : List (Episode Nat)),
      (dispatch (code.user 2) 0 1 "x").run start = some (3, v) ∧
      inside.map handler? = [some (.named "plain"), some (.wrapped 0 zone (.named "echo")),
        some (.wrapped 1 zone (.bound 2 "x" refused 7))] ∧
      (v.zone zone).ticks = 5 ∧
      count (isWrapped 0) inside + count (isAsked 0) inside = 5 := by
  obtain ⟨⟨n, v⟩, ran, seen⟩ := Option.map_eq_some_iff.1 run_dispatch
  simp only [Prod.mk.injEq] at seen
  obtain ⟨rfl, ticks, -⟩ := seen
  obtain ⟨inside, -, handlers, -, -, -, -, zones⟩ := dispatch_runs_each_once code 2 0 1 "x" ran
  obtain ⟨counted, held⟩ := zones zone (by decide)
  have always : start.Holds code zone.id := .inl fun _ => rfl
  have before : (start.zone zone).ticks = 0 := rfl
  refine ⟨v, inside, ran, handlers, ticks, ?_⟩
  rw [ticks, before, held always, Nat.zero_add] at counted
  exact counted.symm

end Echoing

end LiveTemplates
