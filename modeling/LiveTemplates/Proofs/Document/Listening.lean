/-
# LiveTemplates.Proofs.Document.Listening -- taking back what was registered on a document

Who uses a document registers and takes back handlers of their own, starts applications, and
keeps a history of this.  Methods that are called while an application starts, handlers and
refreshes may do the same, inside of each other to any depth.

* `Document.Use`: what is built of such calls, with whatever leaves the user's own handlers
  alone in between;
* `Document.Follows`: the history only grows, the zones that are put in front are new, and what
  is registered is what the history tells;
* `Document.Use.remove_answers`: a handler that was registered once is taken back, and is never
  run by a dispatch again, as long as no application has started in between.  If one has,
  its zone knows nothing of the handler, which stays.
-/
import Mathlib
import LiveTemplates.Proofs.Document.History
import LiveTemplates.Proofs.Document.Starting

namespace LiveTemplates

set_option autoImplicit false

variable {σ : Type}

/-! ## Starting an application -/

/-- Whatever is reported for an activity. -/
theorem Composes.notices {u : UserCode σ} {z : Zone} {allowed : Refresh → Prop}
    {P : (α : Type) → Run σ α → Prop} (composes : Composes u z allowed P) (notices : List Notice) :
    P _ (notices.forM (Run.notice u)) := by
  induction notices with
  | nil => exact composes.pure ()
  | cons n rest ih => exact composes.bind (composes.notice n) fun _ => ih

/-- An application starts by making a zone, and puts it in front at the end if all goes well. -/
theorem Application.bootstrap_cases {u : UserCode σ} {R : World σ → World σ → Prop}
    (trans : ∀ ⦃w v x⦄, R w v → R v x → R w x)
    (composes : ∀ z, Composes u z (fun _ => True) fun _ x => Keeps R x) {catalog : Catalog}
    {c : ClassRef} {options : CompileOptions} {w v : World σ} {r : Except Fault Application}
    (ran : (Application.bootstrap u catalog c options).run w = some (r, v)) :
    ∃ x, R (w.newZone (.dispatcher 0)).2 x ∧
      ((∃ e, r = .error e) ∧ v = x ∨
        ∃ a, r = .ok a ∧ a.zone = (w.newZone (.dispatcher 0)).1 ∧
          v = { x with target := .zone a.zone }) := by
  have composed := composes (w.newZone (.dispatcher 0)).1
  have ready (notices : List Notice) : R (w.newZone (.dispatcher 0)).2 (prepared u notices w) :=
    trans (composed.fresh _ _ _ (Run.run_fresh _))
      (composed.notices notices _ _ _ (Run.run_notices u notices _))
  obtain ⟨notices, ⟨failed, rfl⟩ | ⟨k, b, host, root, x, -, attached, rfl, rfl⟩⟩ :=
    bootstrap_eq_some ran
  · exact ⟨_, ready notices, .inl ⟨failed, rfl⟩⟩
  · have mounted := composed.attach b host b.allows_all _ _ _ attached
    exact ⟨x, trans (ready notices) mounted, .inr ⟨_, rfl, rfl, rfl⟩⟩

namespace Document

/-! ## Using a document -/

/-- The parts of the user's code that only change the user's own state have no part in the
history. -/
structure Silent (history : σ → History) (u : UserCode σ) : Prop where
  get : ∀ o member s, history (u.get o member s).2 = history s
  set : ∀ o member v s, history (u.set o member v s).2 = history s
  construct : ∀ c o s, history (u.construct c o s) = history s
  notice : ∀ n s, history (u.notice n s) = history s

/-- A change that leaves the user's own handlers alone, or a call that is noted. -/
inductive Calls (history : σ → History) (w : World σ) : World σ → Prop
  | aloof {v : World σ} (aloof : w.Aloof v) (same : history v.user = history w.user) :
      Calls history w v
  | add {k : Request} {s : σ} (noted : history s = .add k :: history w.user) :
      Calls history w { World.addListener w.target k.listener w with user := s }
  | remove {k : Request} {s : σ} (noted : history s = .remove k :: history w.user) :
      Calls history w { (World.removeListener w.target k.listener w).2 with user := s }

/-- An application starts, which is noted if all goes well. -/
inductive Starts (history : σ → History) (u : UserCode σ) (w : World σ) : World σ → Prop
  | failed {catalog : Catalog} {c : ClassRef} {options : CompileOptions} {e : Fault} {v : World σ}
      (ran : (Application.bootstrap u catalog c options).run w = some (.error e, v)) :
      Starts history u w v
  | mounted {catalog : Catalog} {c : ClassRef} {options : CompileOptions} {a : Application}
      {v : World σ} (ran : (Application.bootstrap u catalog c options).run w = some (.ok a, v))
      {s : σ} (noted : history s = .swap a.zone :: history v.user) :
      Starts history u w { v with user := s }

/-- What is built of calls that are noted, one after the other, perhaps without an end, with
evaluations, ticks and dispatches in between that run such code again, and with applications
that call such methods while they start. -/
inductive Use (history : σ → History) : {α : Type} → Run σ α → Prop
  | pure {α : Type} (a : α) : Use history (pure a)
  | bind {α β : Type} {x : Run σ α} {f : α → Run σ β} (first : Use history x)
      (later : ∀ a, Use history (f a)) : Use history (x >>= f)
  | call {α : Type} {x : Run σ α} (calls : Keeps (Calls history) x) : Use history x
  | part {u : UserCode σ} {α : Type} {x : Run σ α} (part : Part u x) (silent : Silent history u)
      (handler : ∀ name, Use history (u.handler name))
      (refresh : ∀ name, Use history (u.refresh name))
      (call : ∀ o method args, Use history (u.call o method args)) : Use history x
  | start {u : UserCode σ} {α : Type} {x : Run σ α} (starts : Keeps (Starts history u) x)
      (silent : Silent history u) (call : ∀ o method args, Use history (u.call o method args)) :
      Use history x

/-! ## What a use leaves -/

/-- The history grows, the zones that are put in front are new, and what is registered is what
the history tells. -/
structure Follows (history : σ → History) (w v : World σ) : Prop where
  zones : w.zones.size ≤ v.zones.size
  grown : ∃ later, history v.user = later ++ history w.user ∧
    ∀ z ∈ fronts later, w.zones.size ≤ z.id
  reflects : Reflects (history w.user) w → Reflects (history v.user) v

namespace Follows

variable {history : σ → History} {u : UserCode σ} {w v x : World σ}

theorem trans (first : Follows history w v) (second : Follows history v x) :
    Follows history w x where
  zones := Nat.le_trans first.zones second.zones
  grown := by
    obtain ⟨later, same, new⟩ := first.grown
    obtain ⟨more, same', new'⟩ := second.grown
    refine ⟨more ++ later, by rw [same', same, List.append_assoc], fun z member => ?_⟩
    rw [fronts_append] at member
    rcases List.mem_append.1 member with late | early
    · exact Nat.le_trans first.zones (new' z late)
    · exact new z early
  reflects before := second.reflects (first.reflects before)

theorem of_aloof (aloof : w.Aloof v) (same : history v.user = history w.user) :
    Follows history w v where
  zones := aloof.zones
  grown := ⟨[], same, nofun⟩
  reflects before := same ▸ before.aloof aloof

/-- A call that puts no zone in front. -/
theorem of_call {c : Call} {s : σ} (noted : history s = c :: history w.user)
    (unswapped : fronts [c] = []) (zones : v.zones.size = w.zones.size)
    (reflects : Reflects (history w.user) w → Reflects (c :: history w.user) v) :
    Follows history w { v with user := s } where
  zones := Nat.le_of_eq zones.symm
  grown := ⟨[c], noted, by rw [unswapped]; nofun⟩
  reflects before := by
    have after := reflects before
    rw [← noted] at after
    exact after.aloof (.plain rfl rfl rfl (Nat.le_refl _))

theorem of_calls (calls : Calls history w v) : Follows history w v := by
  cases calls with
  | aloof aloof same => exact of_aloof aloof same
  | @add k _ noted =>
      have size := (World.Rewired.addListener w.target k.listener w).size
      exact of_call noted rfl size Reflects.add
  | @remove k _ noted =>
      have size := (World.Rewired.removeListener w.target k.listener w).size
      exact of_call noted rfl size fun before => before.remove.2

theorem hosts (silent : Silent history u) : Hosts u (Follows history) where
  trans _ _ _ := trans
  minor step := by
    cases step with
    | same => exact of_aloof (.plain rfl rfl rfl (Nat.le_refl _)) rfl
    | read o member =>
        exact of_aloof (.plain rfl rfl rfl (Nat.le_refl _)) (silent.get o member _)
    | write o member v =>
        exact of_aloof (.plain rfl rfl rfl (Nat.le_refl _)) (silent.set o member v _)
    | report n => exact of_aloof (.plain rfl rfl rfl (Nat.le_refl _)) (silent.notice n _)
    | hold => exact of_aloof (.plain rfl rfl rfl (Nat.le_refl _)) rfl
    | count z => exact of_aloof (.count _ z) rfl
  shows _ _ _ _ := of_aloof (.plain rfl rfl rfl (Nat.le_refl _)) rfl
  borrowed _ _ _ during := ⟨during.zones, during.grown, fun before =>
    (during.reflects (before.aloof (.plain rfl rfl rfl (Nat.le_refl _)))).aloof
      (.plain rfl rfl rfl (Nat.le_refl _))⟩

/-- What attaching does by itself leaves the user's own handlers alone. -/
theorem composes (silent : Silent history u)
    (call : ∀ o method args, Keeps (Follows history) (u.call o method args)) (z : Zone) :
    Composes u z (fun _ => True) fun _ x => Keeps (Follows history) x :=
  have hosts : Hosts u (Follows history) := hosts silent
  { pure := .pure hosts.toBears
    bind := .bind hosts.trans
    notice := .notice hosts.toBears
    fresh := .total Run.run_fresh fun _ => of_aloof (.plain rfl rfl rfl (Nat.le_succ _)) rfl
    construct := fun c => .total (fun _ => rfl) fun w =>
      of_aloof (.plain rfl rfl rfl (Nat.le_succ _)) (silent.construct c w.serial w.user)
    onForest := fun f => .total (Run.run_onForest f) fun _ =>
      of_aloof (.plain rfl rfl rfl (Nat.le_refl _)) rfl
    append := fun _ _ => .total (fun _ => rfl) fun _ =>
      of_aloof (.plain rfl rfl rfl (Nat.le_refl _)) rfl
    addRefresh := fun r _ => .total (fun _ => rfl) fun w => of_aloof (.addRefresh w z r) rfl
    shows := fun live name e o _ =>
      .refreshBound hosts.toBears call (fun w => hosts.shows w live name) e o
    addWrapped := fun _ _ _ _ _ => .total (fun _ => rfl) fun w =>
      of_aloof (.addWrapped z rfl w) (congrArg history (World.Rewired.addWrapped z _ w).user)
    enroll := fun _ => .total (fun _ => rfl) fun _ =>
      of_aloof (.plain rfl rfl rfl (Nat.le_refl _)) rfl
    holding := .holding hosts.toBears z }

/-- The zone of an application is made when this starts, so it was never in front before. -/
theorem of_starts (silent : Silent history u)
    (call : ∀ o method args, Keeps (Follows history) (u.call o method args))
    (starts : Starts history u w v) : Follows history w v := by
  have trans : ∀ ⦃w v x : World σ⦄, Follows history w v → Follows history v x →
      Follows history w x := fun _ _ _ => .trans
  have opened : Follows history w (w.newZone (.dispatcher 0)).2 := of_aloof (.newZone w _) rfl
  cases starts with
  | failed ran =>
      obtain ⟨x, follows, ⟨-, rfl⟩ | ⟨a, no, -⟩⟩ :=
        Application.bootstrap_cases trans (composes silent call) ran
      · exact opened.trans follows
      · cases no
  | @mounted _ _ _ a _ ran s noted =>
      obtain ⟨x, follows, ⟨⟨_, no⟩, -⟩ | ⟨a, same, zone, rfl⟩⟩ :=
        Application.bootstrap_cases trans (composes silent call) ran
      · cases no
      cases same
      obtain ⟨later, grown, new⟩ := follows.grown
      have number : a.zone.id = w.zones.size := by rw [zone]; rfl
      have size : (w.newZone (.dispatcher 0)).2.zones.size = w.zones.size + 1 := by
        simp [World.newZone]
      have inside : a.zone.id < x.zones.size := by
        have := follows.zones
        omega
      have tells : history s = (.swap a.zone :: later) ++ history w.user := by
        rw [noted, List.cons_append]
        exact congrArg _ grown
      refine ⟨(opened.trans follows).zones, ⟨.swap a.zone :: later, tells, ?_⟩, ?_⟩
      · rintro z (_ | ⟨_, member⟩)
        · exact Nat.le_of_eq number.symm
        · have := new z member
          omega
      · intro before
        have reflects := follows.reflects (opened.reflects before)
        have fresh : a.zone.id ∉ (fronts (history x.user)).map Zone.id := by
          rw [grown, fronts_append, List.map_append, number]
          intro member
          rcases List.mem_append.1 member with late | early
          · obtain ⟨z, member, same⟩ := List.mem_map.1 late
            have := new z member
            omega
          · obtain ⟨z, member, same⟩ := List.mem_map.1 early
            have := (before.fronts z member).2
            omega
        have swapped := reflects.swap (by rw [zone]; rfl) inside fresh
        have after : Reflects (history s) _ := noted ▸ swapped
        exact after.aloof (.plain rfl rfl rfl (Nat.le_refl _))

end Follows

/-- The history tells what is registered, whatever is done in a use of the document. -/
theorem Use.follows {history : σ → History} {α : Type} {x : Run σ α} (use : Use history x) :
    Keeps (Follows history) x := by
  have trans : ∀ ⦃w v x : World σ⦄, Follows history w v → Follows history v x →
      Follows history w x := fun _ _ _ => .trans
  induction use with
  | pure a =>
      exact Keeps.total (fun _ => rfl) fun _ => .of_aloof (.plain rfl rfl rfl (Nat.le_refl _)) rfl
  | bind _ _ first later => exact Keeps.bind trans first later
  | call calls => exact fun w a v ran => .of_calls (calls w a v ran)
  | part part silent _ _ _ handler refresh call =>
      exact part.keeps (Follows.hosts silent) ⟨handler, refresh, call⟩
  | start starts silent _ call => exact fun w a v ran => .of_starts silent call (starts w a v ran)

/-! ## Taking back -/

section Removal

variable {history : σ → History} {α : Type} {x : Run σ α} {w v : World σ} {a : α} {k : Request}
  {before later : History}

/-- A dispatch runs no handler that stands nowhere. -/
theorem Reflects.unheard {h : History} (reflects : Reflects h w) (none : standing k h = []) :
    ∀ l ∈ w.listenersFor 0 k.node k.event, l.handler.name? ≠ some k.name := by
  intro l member same
  obtain ⟨listed, isFor⟩ := List.mem_filter.1 member
  have reaches : k.reaches l = true := by
    rw [Request.reaches, isFor, same, Bool.true_and, beq_self_eq_true]
  have stands : l.handler.front? ∈ standing k h := by
    rw [← reflects.listed]
    exact List.mem_map_of_mem (List.mem_filter.2 ⟨listed, reaches⟩)
  rw [none] at stands
  cases stands

/-- A dispatch runs a handler that stands with some target. -/
theorem Reflects.heard {h : History} (reflects : Reflects h w) {t : Option Nat}
    (stands : t ∈ standing k h) :
    ∃ l ∈ w.listenersFor 0 k.node k.event, l.handler.name? = some k.name := by
  rw [← reflects.listed] at stands
  obtain ⟨l, member, -⟩ := List.mem_map.1 stands
  obtain ⟨listed, reaches⟩ := List.mem_filter.1 member
  obtain ⟨isFor, name⟩ := Bool.and_eq_true_iff.1 reaches
  exact ⟨l, List.mem_filter.2 ⟨listed, isFor⟩, by simpa using name⟩

/-- A handler was registered on a document just once, and was not taken back since.  If no
application has started since, it can be taken back, and then no dispatch runs it until it is
registered again, whatever is done.  Otherwise it cannot be taken back, and is still run. -/
theorem Use.remove_answers (use : Use history x) (dispatchers : w.dispatchers = #[[]])
    (zones : w.zones = #[]) (target : w.target = .dispatcher 0) (blank : history w.user = [])
    (ran : x.run w = some (a, v)) (noted : history v.user = later ++ .add k :: before)
    (once : .add k ∉ later ++ before) (kept : .remove k ∉ later) :
    ((∀ z, .swap z ∉ later) →
      (World.removeListener v.target k.listener v).1 = true ∧
      ∀ (s : σ), history s = .remove k :: history v.user →
        ∀ {β : Type} {y : Run σ β} {b : β} {v' : World σ}, Use history y →
          y.run { (World.removeListener v.target k.listener v).2 with user := s } = some (b, v') →
          ∀ more, history v'.user = more ++ .remove k :: history v.user → .add k ∉ more →
            ∀ l ∈ v'.listenersFor 0 k.node k.event, l.handler.name? ≠ some k.name) ∧
    (∀ z, .swap z ∈ later →
      (World.removeListener v.target k.listener v).1 = false ∧
      ∃ l ∈ (World.removeListener v.target k.listener v).2.listenersFor 0 k.node k.event,
        l.handler.name? = some k.name) := by
  have start : Reflects (history w.user) w := blank ▸ .start dispatchers zones target
  have reflects := (use.follows w a v ran).reflects start
  obtain ⟨answer, removed⟩ := reflects.remove (k := k)
  have stands : standing k (history v.user) = [front? before] := noted ▸ standing_once once kept
  have split : history v.user = (later ++ [.add k]) ++ before := by simp [noted]
  have zones : fronts (later ++ [.add k]) = fronts later := by simp [fronts]
  rw [answer, stands]
  refine ⟨fun unswapped => ?_, fun z swapped => ?_⟩
  · have none : fronts later = [] := by
      refine List.eq_nil_iff_forall_not_mem.2 fun z member => ?_
      exact unswapped z (mem_fronts.1 member)
    have same : front? (history v.user) = front? before := by
      rw [split, front?_append (zones.trans none)]
    refine ⟨by simp [same], fun s noted' β y b v' use' ran' more grown absent => ?_⟩
    have after : Reflects (history s) _ := noted' ▸ removed
    have last := (use'.follows _ b v' ran').reflects
      (after.aloof (.plain rfl rfl rfl (Nat.le_refl _)))
    refine last.unheard ?_
    rw [grown]
    refine standing_nil ?_ absent
    rw [standing, if_pos rfl, stands, same]
    cases front? before <;> simp [without]
  · have some : fronts (later ++ [.add k]) ≠ [] := by
      rw [zones]
      exact List.ne_nil_of_mem (mem_fronts.2 swapped)
    have other : front? (history v.user) ≠ front? before := by
      rw [split]
      exact front?_append_ne some (split ▸ reflects.distinct)
    refine ⟨by simpa using other, removed.heard (t := front? before) ?_⟩
    rw [standing, if_pos rfl, stands]
    cases first : front? (history v.user) with
    | none => simp [without, ← first, other.symm]
    | some n => simpa [without, ← first] using other.symm

end Removal

/-! ### An application that starts in between -/

namespace Swapped

/-- A user whose state is the history, and whose code does nothing. -/
def user : UserCode History where
  get _ _ h := (none, h)
  set _ _ _ h := (.ok (), h)
  call _ _ _ := return .ok .undefined
  handler _ := return
  refresh _ := return .ok ()
  construct _ _ h := h
  notice _ h := h
  holds _ _ := true

/-- A document with the element for an application. -/
def blank : World History where
  forest := ⟨#[{ data := .document, children := [1] },
    { data := .element .html "a" [], parent := some 0 }]⟩
  document := 0
  user := []

def request : Request :=
  ⟨1, "x", "own"⟩

/-- The handler is registered. -/
def listen : Run History Unit :=
  modify fun w =>
    { World.addListener w.target request.listener w with user := .add request :: w.user }

/-- The application starts. -/
def launch : Run History Unit := do
  if let .ok a ← Application.bootstrap user [("A", ⟨"", []⟩)] ⟨"A", true⟩ {} then
    modify fun w => { w with user := .swap a.zone :: w.user }

/-- What was done, whether the handler can be taken back, and what is left then. -/
def shape (x : Run History Unit) : Option (History × Bool × List (Option String)) :=
  (x.run blank).map fun (_, w) =>
    let (found, v) := World.removeListener w.target request.listener w
    (w.user, found, (v.listenersFor 0 1 "x").map (·.handler.name?))

def zone : Zone :=
  .mk 0 (.dispatcher 0)

theorem shapes : (shape (launch >>= fun _ => listen), shape (listen >>= fun _ => launch)) =
    (some ([.add request, .swap zone], true, []),
      some ([.swap zone, .add request], false, [some "own"])) := by
  cbv

theorem listen_use : Use id listen :=
  .call (Keeps.total (fun _ => rfl) fun _ => .add rfl)

theorem launch_use : Use id launch := by
  refine .start (u := user) (fun w a v ran => ?_) ⟨fun _ _ _ => rfl, fun _ _ _ _ => rfl,
    fun _ _ _ => rfl, fun _ _ => rfl⟩ fun _ _ _ => .pure _
  obtain ⟨r, x, started, ran⟩ := Run.bind_eq_some.1 ran
  cases r with
  | error e =>
      obtain ⟨-, rfl⟩ := Run.pure_eq_some.1 ran
      exact .failed started
  | ok a =>
      obtain ⟨-, rfl⟩ := Prod.mk.inj (Option.some.inj ran)
      exact .mounted started rfl

end Swapped

open Swapped in
/-- Behind the start of an application a handler can be taken back. -/
theorem Use.remove_answers_behind : ∃ v : World History,
    Use id (launch >>= fun _ => listen) ∧ blank.dispatchers = #[[]] ∧ blank.zones = #[] ∧
    blank.target = .dispatcher 0 ∧ id blank.user = [] ∧
    (launch >>= fun _ => listen).run blank = some ((), v) ∧
    id v.user = [] ++ .add request :: [.swap zone] ∧
    .add request ∉ ([] ++ [.swap zone] : History) ∧ .remove request ∉ ([] : History) ∧
    (∀ z, .swap z ∉ ([] : History)) ∧
    (World.removeListener v.target request.listener v).1 = true := by
  obtain ⟨⟨_, v⟩, ran, facts⟩ := Option.map_eq_some_iff.1 (Prod.mk.inj shapes).1
  have use : Use id (launch >>= fun _ => listen) := .bind launch_use fun _ => listen_use
  have noted : id v.user = [] ++ .add request :: [.swap zone] := (Prod.mk.inj facts).1
  have once : .add request ∉ ([] ++ [.swap zone] : History) := by simp
  have unswapped : ∀ z, .swap z ∉ ([] : History) := by simp
  have answers := use.remove_answers rfl rfl rfl rfl ran noted once (by simp)
  exact ⟨v, use, rfl, rfl, rfl, rfl, ran, noted, once, by simp, unswapped, (answers.1 unswapped).1⟩

open Swapped in
/-- A handler that was registered before an application started is not always taken back. -/
theorem swapped_kept : ¬ ∀ {x : Run History Unit} {v : World History}, Use id x →
    x.run blank = some ((), v) → ∀ (k : Request) (before later : History),
      v.user = later ++ .add k :: before → .add k ∉ later ++ before → .remove k ∉ later →
        (World.removeListener v.target k.listener v).1 = true ∧
        ∀ l ∈ (World.removeListener v.target k.listener v).2.listenersFor 0 k.node k.event,
          l.handler.name? ≠ some k.name := by
  intro always
  obtain ⟨⟨_, v⟩, ran, facts⟩ := Option.map_eq_some_iff.1 (Prod.mk.inj shapes).2
  obtain ⟨noted, others⟩ := Prod.mk.inj facts
  have use : Use id (listen >>= fun _ => launch) := .bind listen_use fun _ => launch_use
  have answer := (always use ran request [] [.swap zone] noted (by simp) (by simp)).1
  rw [(Prod.mk.inj others).1] at answer
  cases answer

end Document

end LiveTemplates
