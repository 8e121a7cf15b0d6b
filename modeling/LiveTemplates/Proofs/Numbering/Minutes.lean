/-
# LiveTemplates.Proofs.Numbering.Minutes -- what was done with the refreshes of a zone

A zone gives out a number for each refresh that is registered with it, and takes a refresh back
for its number.  Whoever registers one keeps nothing of it but the number, for as long as they
like, while others register refreshes and take theirs back.

The minutes of a zone list each time that this was done, with the answer that was given and with
the registry before and behind.

* `Standing`: what the minutes say is registered: a refresh that got a number, if nobody has
  asked for this number since;
* `Accounted`: the registry is what the minutes say, in rising order of the numbers, which were
  given out as 0, 1, 2 and so on;
* `Minute.Lawful`: what can be done, and what comes of it;
* `WellKept.register`, `WellKept.takeBack`: in a zone whose registry was so at each minute, it goes
  on to be so when a refresh is registered or taken back;
* `WellKept.spent`: no number is given out again, and a number that was asked for is of no use
  later.
-/
import LiveTemplates.World.Basic
import Mathlib.Data.List.Basic
import Mathlib.Data.List.Nodup

namespace LiveTemplates

set_option autoImplicit false

/-! ## Minutes -/

/-- What was done with the refreshes of a zone, and what was answered. -/
inductive Booking where
  /-- A refresh was registered, and got a number. -/
  | given (r : Refresh) (n : Nat)
  /-- The refresh of a number was to be taken back.  Was there one? -/
  | taken (n : Nat) (found : Bool)

/-- A time that something was done with the refreshes of a zone. -/
structure Minute where
  /-- The number of the zone. -/
  zone : Nat
  booking : Booking
  /-- The registries of the zone before, and behind. -/
  before : ZoneState
  after : ZoneState

/-- The number that was given out. -/
def Minute.given? (m : Minute) : Option Nat :=
  match m.booking with
  | .given _ n => some n
  | .taken .. => none

/-- The numbers that were given out, as minutes tell, of which the latest comes first. -/
def numbersGiven (log : List Minute) : List Nat :=
  log.filterMap Minute.given?

/-- A refresh was registered under a number, and since then nobody has asked to take back the
refresh of this number. -/
def Standing (log : List Minute) (n : Nat) (r : Refresh) : Prop :=
  ∃ since m earlier, log = since ++ m :: earlier ∧ m.booking = .given r n ∧
    ∀ l ∈ since, ∀ found, l.booking ≠ .taken n found

/-- The registry of a zone is what the minutes of the zone say. -/
structure Accounted (log : List Minute) (s : ZoneState) : Prop where
  /-- The numbers that were given out are 0, 1, 2 and so on, up to the next one. -/
  numbers : (numbersGiven log).reverse = List.range s.nextTick
  /-- The refreshes are registered in rising order of their numbers. -/
  rising : (s.refreshes.map (·.1)).Pairwise (· < ·)
  /-- They have numbers that were given out. -/
  below : ∀ e ∈ s.refreshes, e.1 < s.nextTick
  /-- They are those that have been registered and not taken back. -/
  standing : ∀ n r, (n, r) ∈ s.refreshes ↔ Standing log n r

/-- What can be done, behind what was done earlier. -/
inductive Minute.Lawful (earlier : List Minute) : Minute → Prop
  /-- A refresh is registered behind all others, under the next number. -/
  | given (zone : Nat) (s : ZoneState) (r : Refresh) : Lawful earlier
      ⟨zone, .given r s.nextTick, s,
        { s with refreshes := s.refreshes ++ [(s.nextTick, r)], nextTick := s.nextTick + 1 }⟩
  /-- The refresh is taken back that was registered under a number, and no other; the others
  stay in their order. -/
  | found (zone : Nat) {s : ZoneState} {n : Nat} {r : Refresh} {front back : List (Nat × Refresh)}
      (standing : Standing earlier n r) (split : s.refreshes = front ++ (n, r) :: back) :
      Lawful earlier ⟨zone, .taken n true, s, { s with refreshes := front ++ back }⟩
  /-- Where none is registered under the number, nothing changes. -/
  | missed (zone : Nat) (s : ZoneState) {n : Nat} (gone : ∀ r, ¬ Standing earlier n r) :
      Lawful earlier ⟨zone, .taken n false, s, s⟩

/-- The registry of a zone was what the minutes say, and still is; each time, it was before and
behind, and what was done was lawful. -/
structure WellKept (log : List Minute) (now : ZoneState) : Prop where
  accounted : Accounted log now
  each : ∀ later m earlier, log = later ++ m :: earlier →
    Accounted earlier m.before ∧ m.Lawful earlier ∧ Accounted (m :: earlier) m.after

/-! ## What stands -/

theorem numbersGiven_append (later earlier : List Minute) :
    numbersGiven (later ++ earlier) = numbersGiven later ++ numbersGiven earlier :=
  List.filterMap_append

theorem numbersGiven_cons (m : Minute) (log : List Minute) :
    numbersGiven (m :: log) = m.given?.toList ++ numbersGiven log := by
  rw [numbersGiven, List.filterMap_cons]
  cases m.given? <;> rfl

theorem not_standing_nil (n : Nat) (r : Refresh) : ¬ Standing [] n r := by
  rintro ⟨since, m, earlier, split, -, -⟩
  simp at split

theorem standing_cons (m : Minute) (log : List Minute) (n : Nat) (r : Refresh) :
    Standing (m :: log) n r ↔
      m.booking = .given r n ∨ Standing log n r ∧ ∀ found, m.booking ≠ .taken n found := by
  constructor
  · rintro ⟨since, l, earlier, split, registered, kept⟩
    cases since with
    | nil =>
        obtain ⟨rfl, rfl⟩ := List.cons.inj split
        exact .inl registered
    | cons l' since =>
        obtain ⟨rfl, rfl⟩ := List.cons.inj split
        obtain ⟨first, others⟩ := List.forall_mem_cons.1 kept
        exact .inr ⟨⟨since, l, earlier, rfl, registered, others⟩, first⟩
  · rintro (registered | ⟨⟨since, l, earlier, rfl, registered, kept⟩, first⟩)
    · exact ⟨[], m, log, rfl, registered, nofun⟩
    · exact ⟨m :: since, l, earlier, rfl, registered, List.forall_mem_cons.2 ⟨first, kept⟩⟩

/-! ## The registry -/

namespace Accounted

variable {log : List Minute} {s t : ZoneState}

/-- In a new zone nothing is registered. -/
theorem new : Accounted [] {} where
  numbers := rfl
  rising := .nil
  below := nofun
  standing n r := by simp [not_standing_nil]

/-- Only the refreshes and the next number matter. -/
theorem congr (accounted : Accounted log s) (refreshes : t.refreshes = s.refreshes)
    (nextTick : t.nextTick = s.nextTick) : Accounted log t where
  numbers := by rw [nextTick, accounted.numbers]
  rising := by rw [refreshes]; exact accounted.rising
  below := by rw [refreshes, nextTick]; exact accounted.below
  standing := by rw [refreshes]; exact accounted.standing

theorem nextTick_eq (accounted : Accounted log s) : s.nextTick = (numbersGiven log).length := by
  have same := congrArg List.length accounted.numbers
  simpa using same.symm

/-- The numbers that were given out are those below the next one. -/
theorem mem_given_iff (accounted : Accounted log s) (n : Nat) :
    n ∈ numbersGiven log ↔ n < s.nextTick := by
  rw [← List.mem_reverse, accounted.numbers, List.mem_range]

/-- No number was given out twice. -/
theorem nodup_given (accounted : Accounted log s) : (numbersGiven log).Nodup := by
  rw [← List.nodup_reverse, accounted.numbers]
  exact List.nodup_range

/-- The refresh of a number is the only one that has it, so that without it the others are left in
their order. -/
theorem filter_eq (accounted : Accounted log s) {n : Nat} {r : Refresh}
    {front back : List (Nat × Refresh)} (split : s.refreshes = front ++ (n, r) :: back) :
    s.refreshes.filter (·.1 != n) = front ++ back := by
  have rising := accounted.rising
  rw [split, List.map_append, List.map_cons, List.pairwise_append, List.pairwise_cons] at rising
  obtain ⟨-, ⟨above, -⟩, below⟩ := rising
  have before : front.filter (·.1 != n) = front := by
    refine List.filter_eq_self.2 fun e member => ?_
    have less := below e.1 (List.mem_map_of_mem member) n List.mem_cons_self
    simp
    omega
  have behind : back.filter (·.1 != n) = back := by
    refine List.filter_eq_self.2 fun e member => ?_
    have more := above e.1 (List.mem_map_of_mem member)
    simp
    omega
  rw [split, List.filter_append, before, List.filter_cons_of_neg (by simp), behind]

/-- A refresh is registered, with the next number. -/
theorem register (accounted : Accounted log s) (zone : Nat) (r : Refresh) {t : ZoneState}
    (same : t = { s with
      refreshes := s.refreshes ++ [(s.nextTick, r)], nextTick := s.nextTick + 1 }) :
    Accounted (⟨zone, .given r s.nextTick, s, t⟩ :: log) t where
  numbers := by
    subst same
    rw [numbersGiven_cons, List.range_succ, ← accounted.numbers]
    simp [Minute.given?]
  rising := by
    subst same
    rw [List.map_append, List.pairwise_append]
    refine ⟨accounted.rising, List.pairwise_singleton _ _, fun n old m new => ?_⟩
    obtain ⟨e, member, rfl⟩ := List.mem_map.1 old
    simp only [List.map_cons, List.map_nil, List.mem_singleton] at new
    rw [new]
    exact accounted.below e member
  below := by
    subst same
    intro e member
    dsimp only at member ⊢
    rcases List.mem_append.1 member with old | new
    · have less := accounted.below e old
      omega
    · rw [List.mem_singleton.1 new]
      exact Nat.lt_succ_self _
  standing n' r' := by
    subst same
    have asked (found : Bool) : Booking.given r s.nextTick ≠ .taken n' found := by simp
    rw [standing_cons, ← accounted.standing, and_iff_left asked]
    constructor
    · intro member
      rcases List.mem_append.1 member with old | new
      · exact .inr old
      · obtain ⟨rfl, rfl⟩ := Prod.mk.inj (List.mem_singleton.1 new)
        exact .inl rfl
    · rintro (registered | old)
      · obtain ⟨rfl, rfl⟩ := Booking.given.inj registered
        exact List.mem_append_right _ List.mem_cons_self
      · exact List.mem_append_left _ old

/-- The refresh of a number is taken back, if there is one. -/
theorem takeBack (accounted : Accounted log s) (zone n : Nat) (found : Bool) {t : ZoneState}
    (same : t = { s with refreshes := s.refreshes.filter (·.1 != n) }) :
    Accounted (⟨zone, .taken n found, s, t⟩ :: log) t where
  numbers := by
    subst same
    exact accounted.numbers
  rising := by
    subst same
    exact accounted.rising.sublist (List.filter_sublist.map _)
  below := by
    subst same
    exact fun e member => accounted.below e (List.mem_of_mem_filter member)
  standing n' r := by
    subst same
    have other : (∀ answer, Booking.taken n found ≠ .taken n' answer) ↔ n' ≠ n := by
      constructor
      · rintro apart rfl
        exact apart found rfl
      · rintro apart answer same
        exact apart (Booking.taken.inj same).1.symm
    rw [standing_cons, ← accounted.standing, other, or_iff_right nofun, List.mem_filter]
    simp

end Accounted

/-! ## One time after the other -/

namespace WellKept

variable {log : List Minute} {now : ZoneState}

theorem new : WellKept [] {} :=
  ⟨.new, by simp⟩

theorem congr {t : ZoneState} (kept : WellKept log now) (refreshes : t.refreshes = now.refreshes)
    (nextTick : t.nextTick = now.nextTick) : WellKept log t :=
  ⟨kept.accounted.congr refreshes nextTick, kept.each⟩

/-- Another minute, behind which the registry is what the minutes say. -/
theorem cons {m : Minute} (kept : WellKept log m.before) (lawful : m.Lawful log)
    (accounted : Accounted (m :: log) m.after) : WellKept (m :: log) m.after := by
  refine ⟨accounted, fun later l earlier split => ?_⟩
  cases later with
  | nil =>
      obtain ⟨rfl, rfl⟩ := List.cons.inj split
      exact ⟨kept.accounted, lawful, accounted⟩
  | cons _ later => exact kept.each later l earlier (List.cons.inj split).2

/-- A refresh is registered. -/
theorem register (kept : WellKept log now) (zone : Nat) (r : Refresh) {t : ZoneState}
    (same : t = { now with
      refreshes := now.refreshes ++ [(now.nextTick, r)], nextTick := now.nextTick + 1 }) :
    WellKept (⟨zone, .given r now.nextTick, now, t⟩ :: log) t := by
  subst same
  exact cons kept (.given zone now r) (kept.accounted.register zone r rfl)

/-- The refresh of a number is taken back, if there is one. -/
theorem takeBack (kept : WellKept log now) (zone n : Nat) {t : ZoneState}
    (same : t = { now with refreshes := now.refreshes.filter (·.1 != n) }) :
    WellKept (⟨zone, .taken n (now.refreshes.any (·.1 == n)), now, t⟩ :: log) t := by
  refine cons kept ?_ (kept.accounted.takeBack zone n _ same)
  subst same
  by_cases registered : ∃ r, (n, r) ∈ now.refreshes
  case pos =>
    obtain ⟨r, member⟩ := registered
    obtain ⟨front, back, split⟩ := List.append_of_mem member
    have answer : now.refreshes.any (·.1 == n) = true :=
      List.any_eq_true.2 ⟨(n, r), member, by simp⟩
    rw [answer, kept.accounted.filter_eq split]
    exact .found zone ((kept.accounted.standing n r).1 member) split
  case neg =>
    have other : ∀ e ∈ now.refreshes, e.1 ≠ n := by
      rintro ⟨m, r⟩ member rfl
      exact registered ⟨r, member⟩
    have answer : now.refreshes.any (·.1 == n) = false := by simpa using other
    have all : now.refreshes.filter (·.1 != n) = now.refreshes := by simpa using other
    rw [answer, all]
    exact .missed zone now fun r standing =>
      registered ⟨r, (kept.accounted.standing n r).2 standing⟩

/-! ## Numbers that are spent -/

/-- Once its number was asked for, a refresh does not stand any more, and nor does another one under
the same number. -/
theorem not_standing {m : Minute} {n : Nat} {found : Bool} {earlier : List Minute}
    (asked : m.booking = .taken n found) (held : n ∈ numbersGiven earlier) (r : Refresh) :
    ∀ {since : List Minute}, (numbersGiven (since ++ m :: earlier)).Nodup →
      ¬ Standing (since ++ m :: earlier) n r
  | [], _ => by
      rw [List.nil_append, standing_cons, asked]
      simp
  | l :: since, distinct => by
      have old : n ∈ numbersGiven (since ++ m :: earlier) := by
        rw [numbersGiven_append, numbersGiven_cons]
        simp [held]
      have fewer : (numbersGiven (since ++ m :: earlier)).Nodup :=
        distinct.sublist ((List.sublist_cons_self _ _).filterMap _)
      rw [List.cons_append, standing_cons]
      rintro (registered | ⟨standing, -⟩)
      · have first : l.given? = some n := by simp [Minute.given?, registered]
        rw [List.cons_append, numbersGiven_cons, first] at distinct
        exact (List.nodup_cons.1 distinct).1 old
      · exact not_standing asked held r fewer standing

/-- Whoever holds a number and has asked for its refresh to be taken back, whatever the answer was,
holds a number that is not given out again.  Asked for again, it finds nothing and changes
nothing. -/
theorem spent (kept : WellKept log now) {later earlier : List Minute} {m : Minute} {n : Nat}
    {found : Bool} (split : log = later ++ m :: earlier) (asked : m.booking = .taken n found)
    (held : n ∈ numbersGiven earlier) {l : Minute} (member : l ∈ later) :
    l.given? ≠ some n ∧
      ∀ answer, l.booking = .taken n answer → answer = false ∧ l.after = l.before := by
  obtain ⟨latest, since, rfl⟩ := List.append_of_mem member
  rw [List.append_assoc, List.cons_append] at split
  obtain ⟨accounted, lawful, -⟩ := kept.each latest l _ split
  have gone (r : Refresh) := not_standing asked held r accounted.nodup_given
  have old : n ∈ numbersGiven (since ++ m :: earlier) := by
    rw [numbersGiven_append, numbersGiven_cons]
    simp [held]
  cases lawful with
  | given zone s r =>
      have less := (accounted.mem_given_iff n).1 old
      refine ⟨fun again => ?_, nofun⟩
      have same := Option.some.inj again
      dsimp only at less same
      omega
  | found zone standing split =>
      refine ⟨nofun, ?_⟩
      rintro _ ⟨⟩
      exact absurd standing (gone _)
  | missed zone s _ =>
      refine ⟨nofun, ?_⟩
      rintro _ ⟨⟩
      exact ⟨rfl, rfl⟩

end WellKept

end LiveTemplates
