/-
# LiveTemplates.Proofs.Calls.Accounts -- what is told accounts for what happens

Each call that is told keeps to a law, and all of them together account for how often each zone
has ticked.

* `Passes`: a tick runs each refresh of a list once, in its order, and counts how it went;
* `Serves`: a dispatch runs each handler of a list once, in its order;
* `Episode.Lawful`: a tick passes through the refreshes that its zone had at the start, and a
  dispatch serves the handlers that its dispatcher had; behind a handler that a zone has wrapped,
  the zone ticks once if it is still alive, and that is all;
* `Accounts`: all calls keep to the law; what is held stays held; a zone has ticked as often as
  ticks of it are told; and these are those asked for, and one for each wrapped handler that a tick follows;
* `Reports.routine`, `Code.reports`: whatever the user's code does, it tells what accounts for it.
-/
import LiveTemplates.Proofs.Calls.Faithful
import LiveTemplates.Proofs.World.Editing

namespace LiveTemplates

set_option autoImplicit false

variable {σ α β : Type}

/-! ## Counting calls -/

namespace Episode

/-- Is it a tick of the zone of a number? -/
def isTick (n : Nat) : Episode σ → Bool
  | mk (.tick z _ _) _ _ _ => z.id == n
  | _ => false

/-- Is it a tick of this zone that was asked for? -/
def isAsked (n : Nat) : Episode σ → Bool
  | mk (.tick z false _) _ _ _ => z.id == n
  | _ => false

/-- Was a handler run that this zone has wrapped? -/
def isWrapped (n : Nat) : Episode σ → Bool
  | mk (.handler (.wrapped _ z _)) _ _ _ => z.id == n
  | _ => false

/-- Was it, and did this zone tick behind it? -/
def isFollowed (n : Nat) (e : Episode σ) : Bool :=
  e.isWrapped n && e.inside.any (·.isTick n)

/-- How many calls of a kind there are among some calls, with those made in them. -/
def count (p : Episode σ → Bool) (es : List (Episode σ)) : Nat :=
  (allOf es).countP p

theorem allOf_append (es fs : List (Episode σ)) : allOf (es ++ fs) = allOf es ++ allOf fs := by
  induction es with
  | nil => rfl
  | cons e rest ih => rw [List.cons_append, allOf, allOf, ih, List.append_assoc]

theorem allOf_mk (c : Called) (w v : World σ) (es : List (Episode σ)) :
    allOf [mk c w v es] = mk c w v es :: allOf es := by
  rw [allOf, allOf, List.append_nil, all]

theorem self_mem_allOf {e : Episode σ} {es : List (Episode σ)} (member : e ∈ es) :
    e ∈ allOf es := by
  obtain ⟨front, back, rfl⟩ := List.append_of_mem member
  obtain ⟨c, w, v, inside⟩ := e
  simp [allOf_append, allOf, all]

variable (p : Episode σ → Bool)

theorem count_nil : count p ([] : List (Episode σ)) = 0 := rfl

theorem count_append (es fs : List (Episode σ)) :
    count p (es ++ fs) = count p es + count p fs := by
  rw [count, allOf_append, List.countP_append]
  rfl

theorem count_mk (c : Called) (w v : World σ) (es : List (Episode σ)) :
    count p [mk c w v es] = (if p (mk c w v es) then 1 else 0) + count p es := by
  rw [count, allOf_mk, List.countP_cons, Nat.add_comm]
  rfl

end Episode

/-! ## Laws -/

/-- The world in which a tick begins its work: its zone is held, and has ticked once more. -/
def Zone.ticking (z : Zone) (w : World σ) : World σ :=
  { w with pins := z :: w.pins }.onZone z fun s => { s with ticks := s.ticks + 1 }

theorem Zone.trims_ticking (z : Zone) (w : World σ) (y : Zone) :
    (w.zone y).Trims ((z.ticking w).zone y) := by
  have same := World.zone_onZone { w with pins := z :: w.pins } z y
    fun s => { s with ticks := s.ticks + 1 }
  rw [Zone.ticking, same]
  split <;> exact .of_eq rfl rfl

/-- Refreshes of a zone are run one after the other, each once, whether the one before went well or
not.  Each is counted, and one that has failed is reported before the next one runs. -/
inductive Passes (c : Code σ) (z : Zone) : List (Nat × Refresh) → TickReport → World σ →
    List (Episode σ) → TickReport → World σ → Prop
  | done {report : TickReport} {w : World σ} : Passes c z [] report w [] report w
  | well {n : Nat} {r : Refresh} {rest : List (Nat × Refresh)} {report last : TickReport}
      {w v x : World σ} {inside es : List (Episode σ)}
      (later : Passes c z rest { report with refreshed := report.refreshed + 1 } v es last x) :
      Passes c z ((n, r) :: rest) report w (.mk (.refresh z.id n r (.ok ())) w v inside :: es)
        last x
  | ill {n : Nat} {r : Refresh} {rest : List (Nat × Refresh)} {report last : TickReport}
      {w v x : World σ} {e : ExpressionError} {inside es : List (Episode σ)}
      (later : Passes c z rest { report with failed := report.failed + 1 }
        { v with user := c.notice (.stale n e) v.user } es last x) :
      Passes c z ((n, r) :: rest) report w (.mk (.refresh z.id n r (.error e)) w v inside :: es)
        last x

/-- Handlers are run one after the other, each once. -/
inductive Serves : List Handler → World σ → List (Episode σ) → World σ → Prop
  | done {w : World σ} : Serves [] w [] w
  | next {h : Handler} {rest : List Handler} {w v x : World σ} {inside es : List (Episode σ)}
      (later : Serves rest v es x) : Serves (h :: rest) w (.mk (.handler h) w v inside :: es) x

theorem Serves.length_eq {hs : List Handler} {w v : World σ} {es : List (Episode σ)}
    (serves : Serves hs w es v) : hs.length = es.length := by
  induction serves with
  | done => rfl
  | next _ ih => rw [List.length_cons, List.length_cons, ih]

/-- What was called leads from a world to another. -/
def Called.Leads (u : UserCode σ) (w v : World σ) : Called → Prop
  | refresh _ _ r outcome => (r.run u).run w = some (outcome, v)
  | tick z _ report => (z.tick u).run w = some (report, v)
  | handler h => (h.run u).run w = some ((), v)
  | dispatch d node event n => (LiveTemplates.dispatch u d node event).run w = some (n, v)
  | binding b live o z registered => (b.attach u live o z).run w = some (registered, v)
  | mount i => ∃ b o host z, (Blueprint.mount u z b o host).run w = some (i, v)

/-- What is called in a call, and from which world to which. -/
def Called.Consists (c : Code σ) (w v : World σ) (es : List (Episode σ)) : Called → Prop
  | tick z _ report => ∃ x, Passes c z (w.zone z).refreshes {} (z.ticking w) es report x ∧
      v = { x with pins := x.pins.tail }
  | handler (.wrapped _ z h) => ∃ first x,
      (x.alive (c.user 0) z.id = false ∧ es = [.mk (.handler h) w x first] ∧ v = x) ∨
      (x.alive (c.user 0) z.id = true ∧ ∃ report behind,
        es = [.mk (.handler h) w x first, .mk (.tick z true report) x v behind])
  | dispatch d node event n =>
    n = es.length ∧ Serves ((w.listenersFor d node event).map (·.handler)) w es v
  | _ => True

/-- The law of a call: the user's code leads to what came of it, at some depth, and it consists of
what has to be called. -/
structure Episode.Lawful (c : Code σ) (e : Episode σ) : Prop where
  leads : ∃ n, e.what.Leads (c.user n) e.before e.after
  consists : e.what.Consists c e.before e.after e.inside

open Episode

/-! ## Accounts -/

/-- All calls keep to their law; when they begin and behind them, what is left of the refreshes of
a zone is in its order, in front of what is new; what was held before is held meanwhile, and a zone
has ticked as often as ticks of it are told. -/
structure Counts (c : Code σ) (w : World σ) (es : List (Episode σ)) (v : World σ) : Prop where
  lawful : ∀ e ∈ allOf es, e.Lawful c
  zones : w.zones.size ≤ v.zones.size
  trims : ∀ z : Zone, z.id < w.zones.size → (w.zone z).Trims (v.zone z)
  began : ∀ e ∈ allOf es, ∀ z : Zone, z.id < w.zones.size → (w.zone z).Trims (e.before.zone z)
  pins : v.pins = w.pins
  held : ∀ e ∈ allOf es, w.pins <:+ e.after.pins
  ticks : ∀ z : Zone, z.id < w.zones.size →
    (v.zone z).ticks = (w.zone z).ticks + count (isTick z.id) es

/-- These ticks were asked for, but for one behind each wrapped handler that a tick follows. -/
structure Accounts (c : Code σ) (w : World σ) (es : List (Episode σ)) (v : World σ) : Prop
    extends Counts c w es v where
  behind : ∀ n, count (isTick n) es = count (isFollowed n) es + count (isAsked n) es

namespace Counts

variable {c : Code σ} {w v x : World σ} {es fs : List (Episode σ)}

theorem append (first : Counts c w es v) (second : Counts c v fs x) :
    Counts c w (es ++ fs) x where
  lawful e member := by
    rw [allOf_append] at member
    exact (List.mem_append.1 member).elim (first.lawful e) (second.lawful e)
  zones := Nat.le_trans first.zones second.zones
  trims z known := (first.trims z known).trans
    (second.trims z (Nat.lt_of_lt_of_le known first.zones))
  began e member z known := by
    rw [allOf_append] at member
    rcases List.mem_append.1 member with here | there
    · exact first.began e here z known
    · exact (first.trims z known).trans
        (second.began e there z (Nat.lt_of_lt_of_le known first.zones))
  pins := second.pins.trans first.pins
  held e member := by
    rw [allOf_append] at member
    exact (List.mem_append.1 member).elim (first.held e) fun later => first.pins ▸ second.held e later
  ticks z known := by
    rw [second.ticks z (Nat.lt_of_lt_of_le known first.zones), first.ticks z known, count_append,
      Nat.add_assoc]

/-- A call that is no tick counts as what was called in it. -/
theorem call {what : Called} (counts : Counts c w es v) (lawful : Lawful c (.mk what w v es))
    (other : ∀ n, isTick n (.mk what w v es) = false) : Counts c w [.mk what w v es] v where
  lawful := by
    rw [allOf_mk]
    exact List.forall_mem_cons.2 ⟨lawful, counts.lawful⟩
  zones := counts.zones
  trims := counts.trims
  began := by
    rw [allOf_mk]
    exact List.forall_mem_cons.2 ⟨fun _ _ => .of_eq rfl rfl, counts.began⟩
  pins := counts.pins
  held := by
    rw [allOf_mk]
    refine List.forall_mem_cons.2 ⟨?_, counts.held⟩
    show w.pins <:+ v.pins
    rw [counts.pins]
  ticks z known := by
    rw [count_mk, other, counts.ticks z known]
    simp

/-- A tick counts as what was called in it, and one more. -/
theorem tick {z : Zone} {behind : Bool} {report : TickReport}
    (counts : Counts c (z.ticking w) es x)
    (passes : Passes c z (w.zone z).refreshes {} (z.ticking w) es report x)
    (leads : ∃ n, Called.Leads (c.user n) w { x with pins := x.pins.tail } (.tick z behind report)) :
    Counts c w [.mk (.tick z behind report) w { x with pins := x.pins.tail } es]
      { x with pins := x.pins.tail } where
  lawful := by
    rw [allOf_mk]
    exact List.forall_mem_cons.2 ⟨⟨leads, x, passes, rfl⟩, counts.lawful⟩
  zones := by simpa [Zone.ticking, World.onZone] using counts.zones
  trims y known := (z.trims_ticking w y).trans
    (counts.trims y (by simpa [Zone.ticking, World.onZone] using known))
  began := by
    rw [allOf_mk]
    refine List.forall_mem_cons.2 ⟨fun _ _ => .of_eq rfl rfl, fun e member y known => ?_⟩
    exact (z.trims_ticking w y).trans
      (counts.began e member y (by simpa [Zone.ticking, World.onZone] using known))
  pins := congrArg List.tail counts.pins
  held := by
    rw [allOf_mk]
    refine List.forall_mem_cons.2 ⟨?_, fun e member => ?_⟩
    · show w.pins <:+ x.pins.tail
      rw [counts.pins]
      exact List.suffix_refl w.pins
    · exact (List.suffix_cons z w.pins).trans (counts.held e member)
  ticks y known := by
    have tallied := counts.ticks y (by simpa [Zone.ticking, World.onZone] using known)
    have begun : ((z.ticking w).zone y).ticks =
        (w.zone y).ticks + if z.id == y.id then 1 else 0 := by
      rw [Zone.ticking, World.zone_onZone]
      by_cases same : z.id = y.id
      · simp [same, World.zone, known]
      · simp [same, World.zone]
    rw [count_mk, isTick, ← Nat.add_assoc, ← begun]
    exact tallied

end Counts

namespace Accounts

variable {c : Code σ} {w v x : World σ} {es fs : List (Episode σ)}

theorem rests (rests : w.Rests v) : Accounts c w [] v where
  lawful := nofun
  zones := rests.zones
  trims := rests.trims
  began := nofun
  pins := rests.pins
  held := nofun
  ticks z known := rests.ticks z known
  behind _ := rfl

theorem chains (c : Code σ) : Chains (Accounts c) := fun w es v fs x first second =>
  { first.toCounts.append second.toCounts with
    behind := fun n => by
      have one := first.behind n
      have other := second.behind n
      simp only [count_append]
      omega }

theorem bearing (c : Code σ) : Bearing (Accounts c) where
  chains := chains c
  own _ _ := rests (.of_zones rfl rfl)
  borrowed _ _ _ _ accounts :=
    ⟨⟨accounts.lawful, accounts.zones, accounts.trims, accounts.began, accounts.pins, accounts.held,
      accounts.ticks⟩, accounts.behind⟩

/-- A zone that was held meanwhile is let go. -/
theorem release {z : Zone} (accounts : Accounts c { w with pins := z :: w.pins } es v) :
    Accounts c w es { v with pins := v.pins.tail } where
  lawful := accounts.lawful
  zones := accounts.zones
  trims := accounts.trims
  began := accounts.began
  pins := congrArg List.tail accounts.pins
  held e member := (List.suffix_cons z w.pins).trans (accounts.held e member)
  ticks := accounts.ticks
  behind := accounts.behind

/-- A call that is no tick and no handler that a zone has wrapped accounts for what was called
in it. -/
theorem call {what : Called} (accounts : Accounts c w es v) (lawful : Lawful c (.mk what w v es))
    (other : ∀ n, isTick n (.mk what w v es) = false)
    (unwrapped : ∀ n, isWrapped n (.mk what w v es) = false)
    (unasked : ∀ n, isAsked n (.mk what w v es) = false) : Accounts c w [.mk what w v es] v :=
  { accounts.toCounts.call lawful other with
    behind := fun n => by
      simp [count_mk, other, isFollowed, unwrapped, unasked, accounts.behind n] }

end Accounts

/-! ## Ticks -/

/-- What is told is a tick that has passed through the refreshes of its zone. -/
def Ticked (c : Code σ) (z : Zone) (behind : Bool) (report : TickReport) (w : World σ)
    (es : List (Episode σ)) (v : World σ) : Prop :=
  ∃ inside x, es = [.mk (.tick z behind report) w v inside] ∧
    (∃ n, Called.Leads (c.user n) w v (.tick z behind report)) ∧
    Passes c z (w.zone z).refreshes {} (z.ticking w) inside report x ∧
    v = { x with pins := x.pins.tail } ∧ Accounts c (z.ticking w) inside x

namespace Ticked

variable {c : Code σ} {z : Zone} {report : TickReport} {w v : World σ}
  {es : List (Episode σ)}

theorem counts {behind : Bool} (ticked : Ticked c z behind report w es v) : Counts c w es v := by
  obtain ⟨inside, x, rfl, leads, passes, rfl, accounts⟩ := ticked
  exact accounts.toCounts.tick passes leads

/-- A tick that was asked for. -/
theorem asked (ticked : Ticked c z false report w es v) : Accounts c w es v := by
  refine ⟨ticked.counts, fun n => ?_⟩
  obtain ⟨inside, x, rfl, -, -, -, accounts⟩ := ticked
  have inner := accounts.behind n
  by_cases same : z.id = n <;> simp [count_mk, isTick, isAsked, isFollowed, isWrapped, same] <;> omega

/-- A tick behind a wrapped handler is not among those that were asked for. -/
theorem behind (ticked : Ticked c z true report w es v) (n : Nat) :
    count (isTick n) es =
      (if z.id == n then 1 else 0) + count (isFollowed n) es + count (isAsked n) es := by
  obtain ⟨inside, x, rfl, -, -, -, accounts⟩ := ticked
  have inner := accounts.behind n
  by_cases same : z.id = n <;> simp [count_mk, isTick, isAsked, isFollowed, isWrapped, same] <;> omega

end Ticked

/-! ## Handlers -/

/-- What is told is a handler. -/
def Handled (c : Code σ) (h : Handler) (w : World σ) (es : List (Episode σ)) (v : World σ) :
    Prop :=
  Accounts c w es v ∧ ∃ inside, es = [.mk (.handler h) w v inside]

namespace Handled

variable {c : Code σ} {n : Nat} {z : Zone} {h : Handler} {w v x : World σ}
  {es fs : List (Episode σ)}

/-- A wrapped handler whose zone is not alive any more is the handler. -/
theorem alone (handled : Handled c h w es v) (dead : v.alive (c.user 0) z.id = false)
    (leads : ∃ m, Called.Leads (c.user m) w v (.handler (.wrapped n z h))) :
    Handled c (.wrapped n z h) w [.mk (.handler (.wrapped n z h)) w v es] v := by
  obtain ⟨accounts, inside, rfl⟩ := handled
  have consists : Called.Consists c w v [.mk (.handler h) w v inside]
      (.handler (.wrapped n z h)) := ⟨inside, v, .inl ⟨dead, rfl, rfl⟩⟩
  refine ⟨⟨accounts.toCounts.call ⟨leads, consists⟩ fun _ => rfl, fun m => ?_⟩, _, rfl⟩
  have unfollowed : isFollowed m (.mk (.handler (.wrapped n z h)) w v
      [.mk (.handler h) w v inside]) = false := Bool.and_false _
  have outer (p : Episode σ → Bool) := count_mk p (.handler (.wrapped n z h)) w v
  rw [outer, outer, outer, unfollowed, accounts.behind m]
  simp [isTick, isAsked]

/-- Otherwise it is the handler, and a tick of the zone behind it. -/
theorem ticking {report : TickReport} (handled : Handled c h w es x)
    (alive : x.alive (c.user 0) z.id = true) (ticked : Ticked c z true report x fs v)
    (leads : ∃ m, Called.Leads (c.user m) w v (.handler (.wrapped n z h))) :
    Handled c (.wrapped n z h) w [.mk (.handler (.wrapped n z h)) w v (es ++ fs)] v := by
  have counts := handled.1.toCounts.append ticked.counts
  have own := handled.1.behind
  have behind := ticked.behind
  obtain ⟨-, first, rfl⟩ := handled
  obtain ⟨inside, y, rfl, -⟩ := ticked
  have consists : Called.Consists c w v
      ([.mk (.handler h) w x first] ++ [.mk (.tick z true report) x v inside])
      (.handler (.wrapped n z h)) := ⟨first, x, .inr ⟨alive, report, inside, rfl⟩⟩
  refine ⟨⟨counts.call ⟨leads, consists⟩ fun _ => rfl, fun m => ?_⟩, _, rfl⟩
  have followed : isFollowed m (.mk (.handler (.wrapped n z h)) w v
      ([.mk (.handler h) w x first] ++ [.mk (.tick z true report) x v inside])) = (z.id == m) := by
    simp [isFollowed, isWrapped, isTick, Episode.inside]
  have outer (p : Episode σ → Bool) := count_mk p (.handler (.wrapped n z h)) w v
  rw [outer, outer, outer, followed, count_append, count_append, count_append, own m, behind m]
  by_cases same : z.id = m <;> simp [isTick, isAsked, same] <;> omega

end Handled

end LiveTemplates
