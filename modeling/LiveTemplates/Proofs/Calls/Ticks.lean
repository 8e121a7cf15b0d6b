/-
# LiveTemplates.Proofs.Calls.Ticks -- a tick runs its snapshot exactly once

A refresh can register and take back refreshes of the zone that runs it, attach and detach, and
tick the zone again.  The tick that runs it goes on with the refreshes that it has found at its
start, and its report counts nothing but what it has run itself.

* `Passes.entries`, `Passes.refreshed`, `Passes.failed`, `Passes.total`: what the report says of
  the refreshes that were run;
* `Zone.tick_runs_each_once`: what a tick that returns has called, what its report counts, and how
  often its zone has ticked meanwhile.
-/
import LiveTemplates.Proofs.Calls.Reporting

namespace LiveTemplates

set_option autoImplicit false

variable {σ : Type}

namespace Episode

/-- The refresh that was run, with the number of its zone and its own. -/
def refresh? : Episode σ → Option (Nat × Nat × Refresh)
  | mk (.refresh zone tick r _) _ _ _ => some (zone, tick, r)
  | _ => none

/-- Was it a refresh that went well? -/
def wentWell : Episode σ → Bool
  | mk (.refresh _ _ _ (.ok _)) _ _ _ => true
  | _ => false

/-- Was it a refresh that failed? -/
def wentIll : Episode σ → Bool
  | mk (.refresh _ _ _ (.error _)) _ _ _ => true
  | _ => false

end Episode

namespace Passes

variable {c : Code σ} {z : Zone} {entries : List (Nat × Refresh)} {report last : TickReport}
  {w v : World σ} {es : List (Episode σ)} (passes : Passes c z entries report w es last v)

include passes

/-- The refreshes are run that are registered, in this order, and no others. -/
theorem entries_eq : es.map Episode.refresh? = entries.map fun entry => some (z.id, entry) := by
  induction passes with
  | done => rfl
  | well _ ih => rw [List.map_cons, List.map_cons, ih]; rfl
  | ill _ ih => rw [List.map_cons, List.map_cons, ih]; rfl

theorem refreshed_eq : last.refreshed = report.refreshed + es.countP Episode.wentWell := by
  induction passes with
  | done => rfl
  | well _ ih =>
      rw [ih, List.countP_cons_of_pos (by rfl)]
      dsimp only
      omega
  | ill _ ih => rw [ih, List.countP_cons_of_neg (by simp [Episode.wentWell])]

theorem failed_eq : last.failed = report.failed + es.countP Episode.wentIll := by
  induction passes with
  | done => rfl
  | well _ ih => rw [ih, List.countP_cons_of_neg (by simp [Episode.wentIll])]
  | ill _ ih =>
      rw [ih, List.countP_cons_of_pos (by rfl)]
      dsimp only
      omega

theorem total_eq :
    last.refreshed + last.failed = report.refreshed + report.failed + entries.length := by
  induction passes with
  | done => rfl
  | well _ ih | ill _ ih =>
      rw [ih, List.length_cons]
      dsimp only
      omega

end Passes

/-- A tick of a zone, whatever the refreshes do that it runs.  If it returns, then

* it has itself run the refreshes that were registered with the zone at its start, each once, in
  the order of registration, and has called nothing else;
* it has run each from the world that the one before it left, whether this one went well or not,
  after a notice of it if it failed; and of the calls inside, however deep, each leads where
  it says, each tick among them has run its own snapshot, and each dispatch its own;
* its report counts those that went well and those that failed, together as many as were
  registered at the start;
* the zone has ticked once more, and once for each tick of it inside. -/
theorem Zone.tick_runs_each_once (c : Code σ) (depth : Nat) (z : Zone) {w v : World σ}
    {report : TickReport} (known : z.id < w.zones.size)
    (returned : (z.tick (c.user depth)).run w = some (report, v)) :
    ∃ inside : List (Episode σ),
      ((Told.tick (c.user depth) (c.teller depth) false z).run []).run w =
        some ((report, [.mk (.tick z false report) w v inside]), v) ∧
      inside.map Episode.refresh? = (w.zone z).refreshes.map (fun entry => some (z.id, entry)) ∧
      (∃ x, Passes c z (w.zone z).refreshes {} (z.ticking w) inside report x ∧
        v = { x with pins := x.pins.tail }) ∧
      (∀ e ∈ Episode.allOf inside, e.Lawful c) ∧
      report.refreshed = inside.countP Episode.wentWell ∧
      report.failed = inside.countP Episode.wentIll ∧
      report.refreshed + report.failed = (w.zone z).refreshes.length ∧
      (v.zone z).ticks = (w.zone z).ticks + 1 + Episode.count (Episode.isTick z.id) inside := by
  obtain ⟨es, told, ticked⟩ := ((c.reports depth).tick false z).told returned
  have counts := ticked.counts
  obtain ⟨inside, x, rfl, leads, passes, rfl, accounts⟩ := ticked
  have refreshed := passes.refreshed_eq
  have failed := passes.failed_eq
  have total := passes.total_eq
  refine ⟨inside, told, passes.entries_eq, ⟨x, passes, rfl⟩, accounts.lawful, ?_, ?_, ?_, ?_⟩
  · simpa using refreshed
  · simpa using failed
  · simpa using total
  · rw [counts.ticks z known, Episode.count_mk, Nat.add_assoc]
    simp [Episode.isTick]

/-! ## A refresh that ticks -/

namespace Stirring

def zone : Zone :=
  .mk 0 (.dispatcher 0)

/-- When it runs first, `stir` registers `late` and ticks the zone; `fail` fails. -/
def code : Code Nat where
  get _ _ s := (none, s)
  set _ _ _ s := (.ok (), s)
  construct _ _ s := s
  notice _ s := s
  holds _ _ := true
  call _ _ _ := .pure (.ok .undefined)
  handler _ := .pure ()
  refresh name := match name with
    | "stir" => .bind (.own fun n => (n, n + 1)) fun n =>
      if n = 0 then
        .bind (.onTick zone "late") fun _ => .bind (.tick zone) fun _ => .pure (.ok ())
      else .pure (.ok ())
    | "fail" => .pure (.error (.unknownMember "x"))
    | _ => .pure (.ok ())

/-- Three refreshes are registered. -/
def registry : ZoneState where
  refreshes := [(0, .named "stir"), (1, .named "fail"), (2, .named "last")]
  nextTick := 3

def start : World Nat where
  forest := ⟨#[]⟩
  document := 0
  zones := #[registry]
  user := 0

theorem run_tick : ((zone.tick (code.user 2)).run start).map (fun (report, v) =>
    (report, (v.zone zone).ticks, (v.zone zone).refreshes.map (·.1))) =
      some (⟨2, 1⟩, 2, [0, 1, 2, 3]) := by
  rfl

/-- The refresh that is registered meanwhile is run by the tick inside only. -/
theorem tick_runs_each_once_stirred :
    ∃ (v : World Nat) (inside : List (Episode Nat)),
      (zone.tick (code.user 2)).run start = some (⟨2, 1⟩, v) ∧
      inside.map Episode.refresh? =
        [some (0, 0, .named "stir"), some (0, 1, .named "fail"), some (0, 2, .named "last")] ∧
      inside.countP Episode.wentWell = 2 ∧ inside.countP Episode.wentIll = 1 ∧
      (v.zone zone).ticks = 2 ∧ Episode.count (Episode.isTick 0) inside = 1 := by
  obtain ⟨⟨report, v⟩, ran, seen⟩ := Option.map_eq_some_iff.1 run_tick
  simp only [Prod.mk.injEq] at seen
  obtain ⟨rfl, ticks, -⟩ := seen
  obtain ⟨inside, -, entries, -, -, well, ill, -, counted⟩ :=
    zone.tick_runs_each_once code 2 (w := start) (by decide) ran
  have before : (start.zone zone).ticks = 0 := rfl
  refine ⟨v, inside, ran, entries, well.symm, ill.symm, ticks, ?_⟩
  rw [ticks, before] at counted
  have one : Episode.count (Episode.isTick zone.id) inside = 1 := by omega
  exact one

end Stirring

end LiveTemplates
