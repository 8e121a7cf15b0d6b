/-
# LiveTemplates.Proofs.Detaching.Recording -- what a record tells of instances

The record of a run tells which instances were handed out, the numbers of their refreshes, and
which were detached.  A refresh of an instance that is detached, or inside of one, is retired.

* `Retired`: a refresh is retired, as a record tells;
* `Excused`: a refresh that has not returned is run by a tick that began when it was not
  retired, or is not one of an instance that was handed out;
* `Abides`: so it was at each moment of a record;
* `Changes`: activities that do nothing but change the world and detach some instances.
-/
import LiveTemplates.Proofs.Ownership.Shares
import LiveTemplates.Proofs.Reentrancy.Mirroring

namespace LiveTemplates

set_option autoImplicit false

variable {σ : Type}

/-! ## What is told -/

/-- An instance was handed out, by itself or inside of another one. -/
def HandedOut (log : List Moment) (i : Instance) : Prop :=
  ∃ m ∈ log, ∃ root ticks, m.what = .attached root ticks ∧ i ∈ root.all

/-- When an instance was handed out, it had registered a refresh under a number. -/
def Owned (log : List Moment) (i : Instance) (n : Nat) : Prop :=
  ∃ m ∈ log, ∃ root ticks, m.what = .attached root ticks ∧ i ∈ root.all ∧
    ∃ ns, (i.serial, ns) ∈ ticks ∧ n ∈ ns

/-- Detaching an instance has returned. -/
def Detached (log : List Moment) (i : Instance) : Prop :=
  ∃ m ∈ log, m.what = .ends (.detach i)

/-- The refresh of a number in a zone is one of an instance that is detached, or inside of
one. -/
def Retired (log : List Moment) (z n : Nat) : Prop :=
  ∃ i, Detached log i ∧ ∃ j ∈ i.all, j.zone.id = z ∧ Owned log j n

/-- Each refresh that has not returned is run by a tick that began when the refresh was not
retired; or it is not one of an instance that was handed out. -/
def Excused (log : List Moment) : List OpenCall → Prop
  | [] => True
  | c :: outer =>
    (∀ z n, c.call = .refresh z n →
      (∃ before rest, before <:+ log ∧ outer = ⟨.tick z, before.length⟩ :: rest ∧
        ¬ Retired before z n) ∨ ∀ j, j.zone.id = z → ¬ Owned log j n) ∧
    Excused log outer

/-- So it was at each moment of a record. -/
def Abides : List Moment → Prop
  | [] => True
  | m :: earlier => Excused earlier m.calls ∧ Abides earlier

/-- Instances are detached that were handed out, and refreshes run in zones that were made. -/
def Proper : List Moment → Prop
  | [] => True
  | m :: earlier =>
    (∀ i, m.what = .begins (.detach i) → HandedOut earlier i) ∧
    (∀ z n, m.what = .begins (.refresh z n) → ∃ o ∈ earlier, ∃ y, o.what = .opened y ∧ y.id = z) ∧
    Proper earlier

/-- Is an instance handed out? -/
def Happening.handsOut : Happening → Bool
  | .attached .. => true
  | _ => false

section Telling

variable {log past : List Moment} {m : Moment} {i j : Instance} {z n : Nat}

theorem HandedOut.later (sub : past <:+ log) (handed : HandedOut past i) : HandedOut log i := by
  obtain ⟨o, member, found⟩ := handed
  exact ⟨o, sub.subset member, found⟩

theorem HandedOut.inside (handed : HandedOut log i) (inside : j ∈ i.all) : HandedOut log j := by
  obtain ⟨o, member, root, ticks, what, below⟩ := handed
  exact ⟨o, member, root, ticks, what, (root.all_sublist below).subset inside⟩

theorem HandedOut.of_cons (other : m.what.handsOut = false) (handed : HandedOut (m :: log) i) :
    HandedOut log i := by
  obtain ⟨o, member, root, ticks, what, below⟩ := handed
  rcases List.mem_cons.1 member with rfl | old
  · rw [what] at other
    cases other
  · exact ⟨o, old, root, ticks, what, below⟩

theorem Owned.later (sub : past <:+ log) (owned : Owned past i n) : Owned log i n := by
  obtain ⟨o, member, found⟩ := owned
  exact ⟨o, sub.subset member, found⟩

theorem Owned.handedOut (owned : Owned log i n) : HandedOut log i := by
  obtain ⟨o, member, root, ticks, what, below, -⟩ := owned
  exact ⟨o, member, root, ticks, what, below⟩

theorem Owned.of_cons (other : m.what.handsOut = false) (owned : Owned (m :: log) i n) :
    Owned log i n := by
  obtain ⟨o, member, root, ticks, what, found⟩ := owned
  rcases List.mem_cons.1 member with rfl | old
  · rw [what] at other
    cases other
  · exact ⟨o, old, root, ticks, what, found⟩

theorem Detached.later (sub : past <:+ log) (detached : Detached past i) : Detached log i := by
  obtain ⟨o, member, what⟩ := detached
  exact ⟨o, sub.subset member, what⟩

theorem Retired.later (sub : past <:+ log) (retired : Retired past z n) : Retired log z n := by
  obtain ⟨i, detached, j, inside, same, owned⟩ := retired
  exact ⟨i, detached.later sub, j, inside, same, owned.later sub⟩

theorem Proper.before : ∀ {log : List Moment}, Proper log → past <:+ log → Proper past
  | [], proper, sub => by
      rw [List.suffix_nil.1 sub]
      exact proper
  | m :: log, proper, sub => by
      rcases List.suffix_cons_iff.1 sub with rfl | sub
      · exact proper
      · exact proper.2.2.before sub

/-- What excuses the calls at one moment does so later, if none of their refreshes is one of an
instance that was handed out since. -/
theorem Excused.later (sub : past <:+ log) : ∀ {calls : List OpenCall}, Excused past calls →
    (∀ c ∈ calls, ∀ j n, c.call = .refresh j.zone.id n → Owned log j n → Owned past j n) →
      Excused log calls
  | [], _, _ => trivial
  | c :: outer, excused, same => by
      obtain ⟨first, others⟩ := excused
      refine ⟨fun z n refresh => ?_, others.later sub fun d member =>
        same d (List.mem_cons_of_mem _ member)⟩
      obtain ⟨before, rest, old, ticks, standing⟩ | away := first z n refresh
      · exact .inl ⟨before, rest, old.trans sub, ticks, standing⟩
      · refine .inr fun j zone owned => away j zone ?_
        exact same c List.mem_cons_self j n (by rw [refresh, zone]) owned

/-- What is excused at any time of refreshes that are retired. -/
theorem Excused.of_retired {inner outer calls : List OpenCall} {since : Nat}
    (excused : Excused log calls)
    (running : calls = inner ++ ⟨.refresh z n, since⟩ :: outer) (sub : past <:+ log)
    (retired : Retired past z n) :
    ∃ began rest, outer = ⟨.tick z, began⟩ :: rest ∧ began < past.length := by
  induction inner generalizing calls with
  | nil =>
      subst running
      obtain ⟨before, rest, old, ticks, standing⟩ | away := excused.1 z n rfl
      · refine ⟨before.length, rest, ticks, Nat.lt_of_not_le fun less => standing ?_⟩
        exact retired.later (List.suffix_of_suffix_length_le sub old less)
      · obtain ⟨i, -, j, -, zone, owned⟩ := retired
        exact absurd (owned.later sub) (away j zone)
  | cons c inner ih =>
      subst running
      exact ih excused.2 rfl

/-- What a record abides by at one of its moments. -/
theorem Abides.excused {later earlier : List Moment} (abides : Abides (later ++ m :: earlier)) :
    Excused earlier m.calls := by
  induction later with
  | nil => exact abides.1
  | cons _ _ ih => exact ih abides.2

end Telling

/-! ## Activities that change the world -/

/-- Nothing but detaching some instances has begun or ended in between. -/
structure Watch.Silent (is : List Instance) (s t : Watch σ) : Prop where
  log : s.log <:+ t.log
  clear : Abides s.log → Excused s.log s.calls → Abides t.log ∧ Excused t.log t.calls
  handed : ∀ i, HandedOut t.log i → HandedOut s.log i
  owned : ∀ i n, Owned t.log i n → Owned s.log i n
  opened : ∀ m ∈ t.log, ∀ z, m.what = .opened z → m ∈ s.log
  detached : ∀ i, Detached t.log i → Detached s.log i ∨ i ∈ is

namespace Watch.Silent

variable {is : List Instance} {s t r : Watch σ}

theorem refl (is : List Instance) (s : Watch σ) : s.Silent is s :=
  ⟨List.suffix_refl _, fun abides excused => ⟨abides, excused⟩, fun _ => id, fun _ _ => id,
    fun _ member _ _ => member, fun _ => .inl⟩

theorem trans (first : s.Silent is t) (second : t.Silent is r) : s.Silent is r where
  log := first.log.trans second.log
  clear abides excused :=
    have between := first.clear abides excused
    second.clear between.1 between.2
  handed i handed := first.handed i (second.handed i handed)
  owned i n owned := first.owned i n (second.owned i n owned)
  opened m member z what := first.opened m (second.opened m member z what) z what
  detached i detached := (second.detached i detached).elim (first.detached i) .inr

/-- Something is recorded that hands out no instance, makes no zone and detaches none but
those. -/
theorem note {what : Happening} (hands : what.handsOut = false) (opens : ∀ z, what ≠ .opened z)
    (own : ∀ i, what = .ends (.detach i) → i ∈ is) : s.Silent is (s.note what) where
  log := List.suffix_cons _ _
  clear abides excused :=
    ⟨⟨excused, abides⟩, excused.later (List.suffix_cons _ _) fun _ _ _ _ _ => .of_cons hands⟩
  handed _ := .of_cons hands
  owned _ _ := .of_cons hands
  opened m member z opened := by
    rcases List.mem_cons.1 member with rfl | old
    · exact absurd opened (opens z)
    · exact old
  detached i detached := by
    obtain ⟨m, member, ends⟩ := detached
    rcases List.mem_cons.1 member with rfl | old
    · exact .inr (own i ends)
    · exact .inl ⟨m, old, ends⟩

/-- Nothing is recorded, and the calls that have not returned are still excused. -/
theorem unrecorded (log : t.log = s.log) (calls : Excused s.log s.calls → Excused s.log t.calls) :
    s.Silent is t where
  log := by rw [log]
  clear abides excused := by
    rw [log]
    exact ⟨abides, calls excused⟩
  handed i := by rw [log]; exact id
  owned i n := by rw [log]; exact id
  opened m := by rw [log]; exact fun member _ _ => member
  detached i := by rw [Detached, log]; exact .inl

/-- A call begins that runs no refresh. -/
theorem enter {c : Call} (other : ∀ z n, c ≠ .refresh z n) : s.Silent is (s.enter c) := by
  have began : s.Silent is (s.note (.begins c)) := note rfl nofun nofun
  refine began.trans (unrecorded rfl fun excused => ⟨fun z n same => ?_, excused⟩)
  exact absurd same (other z n)

/-- The latest call returns. -/
theorem leave {c : Call} (own : ∀ i, c = .detach i → i ∈ is) : s.Silent is (s.leave c) := by
  have returned : s.Silent is { s with calls := s.calls.tail } := by
    refine unrecorded rfl fun excused => ?_
    show Excused s.log s.calls.tail
    cases calls : s.calls with
    | nil => trivial
    | cons c rest =>
        rw [calls] at excused
        exact excused.2
  refine returned.trans (note rfl nofun fun i same => own i ?_)
  injection same

end Watch.Silent

/-- An activity changes the world as a function says, and does nothing else but detach some
instances. -/
def Changes (is : List Instance) {α : Type} (f : World σ → α × World σ) (y : Watched σ α) :
    Prop :=
  ∀ s, s.Silent is (y.exec s).2 ∧ ∀ a, (y.exec s).1 = .ok a →
    f s.world = (a, (y.exec s).2.world) ∧ (y.exec s).2.calls = s.calls

namespace Changes

open Watched

variable {is : List Instance} {α β : Type}

theorem pure (a : α) : Changes is (fun w : World σ => (a, w)) (Pure.pure a) := by
  refine fun s => ⟨.refl is s, fun b same => ?_⟩
  cases same
  exact ⟨rfl, rfl⟩

theorem bind {f : World σ → α × World σ} {x : Watched σ α} {g : α → World σ → β × World σ}
    {y : α → Watched σ β} (first : Changes is f x) (later : ∀ a, Changes is (g a) (y a)) :
    Changes is (fun w => g (f w).1 (f w).2) (x >>= y) := by
  intro s
  obtain ⟨silent, done⟩ := first s
  rcases ran : x.exec s with ⟨h | a, t⟩
  all_goals rw [ran] at silent done
  · rw [exec_bind_error ran]
    exact ⟨silent, nofun⟩
  · obtain ⟨same, calls⟩ := done a rfl
    obtain ⟨more, done⟩ := later a t
    rw [exec_bind_ok ran]
    refine ⟨silent.trans more, fun b result => ?_⟩
    obtain ⟨also, restored⟩ := done b result
    refine ⟨?_, restored.trans calls⟩
    show g (f s.world).1 (f s.world).2 = _
    rw [same]
    exact also

theorem congr {f g : World σ → α × World σ} {y : Watched σ α} (changes : Changes is f y)
    (same : ∀ w, g w = f w) : Changes is g y :=
  (funext same : g = f) ▸ changes

/-- What is watched changes, and with it the world. -/
theorem change {f : World σ → World σ} {g : Watch σ → Watch σ}
    (silent : ∀ s : Watch σ, s.Silent is (g s)) (world : ∀ s, (g s).world = f s.world)
    (calls : ∀ s, (g s).calls = s.calls) :
    Changes is (fun w => ((), f w)) (modify g : Watched σ Unit) := by
  refine fun s => ⟨silent s, fun _ _ => ⟨?_, calls s⟩⟩
  rw [exec_modify, world]

theorem ask (l : Loan) : Changes is (fun w : World σ => ((), w)) (Watched.ask l) := by
  intro s
  have asked : s.Silent is (s.note (.borrows l)) := .note rfl (by simp) (by simp)
  rw [Watched.ask, exec_bind_ok (exec_note _ s), exec_bind_ok (exec_get _)]
  split
  · exact ⟨asked, fun _ failed => by cases failed⟩
  · exact ⟨asked, fun _ _ => ⟨rfl, rfl⟩⟩

theorem forM {f : α → World σ → World σ} {y : α → Watched σ Unit}
    (each : ∀ a, Changes is (fun w => ((), f a w)) (y a)) (as : List α) :
    Changes is (fun w => ((), as.foldl (fun w a => f a w) w)) (as.forM y) := by
  induction as with
  | nil => exact pure ()
  | cons a rest ih => exact bind (each a) fun _ => ih

theorem foldlM {f : β → α → World σ → β × World σ} {y : β → α → Watched σ β}
    (each : ∀ b a, Changes is (f b a) (y b a)) (as : List α) (b : β) :
    Changes is (fun w => as.foldl (fun p a => f p.1 a p.2) (b, w)) (as.foldlM y b) := by
  induction as generalizing b with
  | nil => exact pure b
  | cons a rest ih =>
      rw [List.foldlM_cons]
      exact bind (each b a) ih

theorem step (loans : List Loan) (f : World σ → α × World σ) :
    Changes is f (Watched.step loans f) := by
  have asked : Changes is (fun w : World σ => ((), w)) (loans.forM Watched.ask) := by
    refine (forM (f := fun _ w => w) ask loans).congr fun w => ?_
    rw [List.foldl_fixed]
  have changed : Changes is f
      (modifyGet fun s => ((f s.world).1, s.onWorld fun w => (f w).2) : Watched σ α) := by
    refine fun s => ⟨.unrecorded rfl id, fun a same => ⟨?_, rfl⟩⟩
    cases same
    rfl
  exact bind asked fun _ => changed

/-- A cell is lent. -/
theorem lend (l : Loan) {f : World σ → α × World σ} {y : Watched σ α} (changes : Changes is f y) :
    Changes is f (Watched.lend l y) := by
  have lent (g : List Loan → List Loan) : Changes is (fun w : World σ => ((), w))
      (modify fun s => { s with loans := g s.loans } : Watched σ Unit) :=
    change (f := id) (fun _ => .unrecorded rfl id) (fun _ => rfl) fun _ => rfl
  exact bind (ask l) fun _ => bind (lent (l :: ·)) fun _ =>
    bind changes fun a => bind (lent List.tail) fun _ => pure a

/-- A call goes on meanwhile. -/
theorem calling {c : Call} (other : ∀ z n, c ≠ .refresh z n) (own : ∀ i, c = .detach i → i ∈ is)
    {f : World σ → α × World σ} {y : Watched σ α} (changes : Changes is f y) :
    Changes is f (Watched.calling c y) := by
  intro s
  have began : s.Silent is (s.enter c) := .enter other
  obtain ⟨silent, done⟩ := changes (s.enter c)
  rw [Watched.calling, exec_bind_ok (exec_modify _ _), closing]
  rcases ran : y.exec (s.enter c) with ⟨h | a, t⟩
  all_goals rw [ran] at silent done
  · rw [exec_bind_error ran]
    exact ⟨began.trans silent, fun _ failed => by cases failed⟩
  · rw [exec_bind_ok ran, exec_bind_ok (exec_modify _ _), exec_pure]
    refine ⟨(began.trans silent).trans (.leave own), fun b same => ?_⟩
    cases same
    obtain ⟨same, calls⟩ := done a rfl
    exact ⟨same, congrArg List.tail calls⟩

/-- Code of the user's runs that only changes the user's own state. -/
theorem own (f : σ → α × σ) :
    Changes is (fun w => ((f w.user).1, { w with user := (f w.user).2 })) (Watched.own f) := by
  have entered : Changes is (fun w : World σ => ((), w)) (Watched.note .user) :=
    change (f := id) (fun _ => .note rfl nofun nofun) (fun _ => rfl) fun _ => rfl
  exact bind entered fun _ => step [] _

/-! ### Registering and taking back -/

theorem removeRefresh (z : Zone) (n : Nat) :
    Changes is (·.removeRefresh z n) (Watched.removeRefresh z n : Watched σ Bool) :=
  step _ _

mutual

theorem addListener : ∀ (t : Target) (l : Listener),
    Changes is (fun w => ((), w.addListener t l)) (Watched.addListener t l : Watched σ Unit)
  | .dispatcher _, _ => step _ _
  | .zone z, l => addWrapped z l

theorem addWrapped : ∀ (z : Zone) (l : Listener),
    Changes is (fun w => ((), w.addWrapped z l)) (Watched.addWrapped z l : Watched σ Unit)
  | .mk id behind, l =>
      bind (step [] fun w => (w.serial, { w with serial := w.serial + 1 })) fun n =>
        bind (step _ _) fun _ =>
          addListener behind { l with handler := .wrapped n (.mk id behind) l.handler }

end

mutual

theorem removeListener : ∀ (t : Target) (l : Listener),
    Changes is (·.removeListener t l) (Watched.removeListener t l : Watched σ Bool)
  | .dispatcher _, _ => step _ _
  | .zone z, l => removeWrapped z l

theorem removeWrapped : ∀ (z : Zone) (l : Listener),
    Changes is (·.removeWrapped z l) (Watched.removeWrapped z l : Watched σ Bool)
  | .mk id behind, l => by
      have each (removed : Bool) (r : Wrapper) :
          Changes is (fun w => ((removed || (w.removeListener behind { l with handler := r.handler }).1),
              (w.removeListener behind { l with handler := r.handler }).2)) (do
            let one ← Watched.removeListener behind { l with handler := r.handler }
            return removed || one : Watched σ Bool) :=
        bind (removeListener behind { l with handler := r.handler }) fun one => pure (removed || one)
      exact (bind (step _ _) fun matching => foldlM each matching false).congr fun _ => rfl

end

/-! ### Detaching -/

/-- What an instance has registered is taken back, one list after the other. -/
theorem takeBack (serial : Nat) (z : Zone) (host : NodeId) (r : Registrations) :
    Changes is (fun w => ((), w.takeBack z host r)) (do
      Watched.lend (Cell.ticks serial).alone do
        r.ticks.forM fun tick => do let _ ← Watched.removeRefresh z tick
      Watched.lend (Cell.subscriptions serial).alone do
        r.listeners.forM fun l => do let _ ← Watched.removeWrapped z l
      Watched.lend (Cell.mounted serial).alone do
        r.mounted.forM fun n => Watched.step [(Cell.nodes host).alone] fun w =>
          ((), { w with forest := (w.forest.remove host n).2 }) : Watched σ Unit) := by
  have tick (n : Nat) : Changes is (fun w => ((), (w.removeRefresh z n).2))
      (do let _ ← Watched.removeRefresh z n : Watched σ Unit) :=
    bind (removeRefresh z n) fun _ => pure ()
  have listener (l : Listener) : Changes is (fun w => ((), (w.removeWrapped z l).2))
      (do let _ ← Watched.removeWrapped z l : Watched σ Unit) :=
    bind (removeWrapped z l) fun _ => pure ()
  exact bind (lend _ (forM tick r.ticks)) fun _ => bind (lend _ (forM listener r.listeners))
    fun _ => lend _ (forM (fun n => step _ _) r.mounted)

/-- The call that detaches an instance. -/
theorem detachOne {i : Instance} (member : i ∈ is) {f : World σ → α × World σ} {x : Watched σ α}
    (changes : Changes is f x) : Changes is f (Watched.calling (.detach i) x) := by
  refine calling (fun _ _ same => by cases same) (fun j same => ?_) changes
  cases same
  exact member

mutual

/-- What goes on while an instance is detached. -/
theorem detaching : ∀ (i : Instance), (∀ j ∈ i.all, j ∈ is) →
    ∃ x : Watched σ Unit, Watched.detach i = Watched.calling (.detach i) x ∧
      Changes is (fun w => ((), i.detach w)) x
  | .mk serial b o os host z children, inside => by
      rw [Instance.all] at inside
      obtain ⟨-, below⟩ := List.forall_mem_cons.1 inside
      rw [Watched.detach]
      refine ⟨_, rfl, ?_⟩
      let rest (r : Registrations) (w : World σ) : Unit × World σ :=
        ((), (Instance.detachAll children w).takeBack z host r)
      refine (bind (g := fun r w => r.elim ((), w) fun r => rest r w) (step [] _)
        fun registrations => ?_).congr fun w => ?_
      · cases registrations with
        | none => exact pure ()
        | some r =>
            exact bind (lend _ (detachAll children below)) fun _ => takeBack serial z host r
      · rw [Instance.detach]
        cases w.registrations? serial with
        | none => rfl
        | some r => rfl

theorem detachAll : ∀ (js : List Instance), (∀ j ∈ Instance.allOf js, j ∈ is) →
    Changes is (fun w => ((), Instance.detachAll js w)) (Watched.detachAll js : Watched σ Unit)
  | [], _ => pure ()
  | i :: rest, inside => by
      rw [Instance.allOf] at inside
      obtain ⟨here, others⟩ := List.forall_mem_append.1 inside
      obtain ⟨x, same, changes⟩ := detaching i here
      rw [Watched.detachAll, same]
      exact (bind (detachOne (here i i.mem_all_self) changes) fun _ =>
        detachAll rest others).congr fun _ => rfl

end

/-- Detaching an instance begins with its call. -/
theorem detach (i : Instance) :
    Changes i.all (fun w => ((), i.detach w)) (Watched.detach i : Watched σ Unit) ∧
      ∀ s, (s.enter (.detach i)).log <:+ ((Watched.detach i : Watched σ Unit).exec s).2.log := by
  obtain ⟨x, same, changes⟩ := detaching (σ := σ) i fun _ => id
  rw [same]
  refine ⟨detachOne i.mem_all_self changes, fun s => ?_⟩
  obtain ⟨silent, -⟩ := changes (s.enter (.detach i))
  rw [Watched.calling, exec_bind_ok (exec_modify _ _), closing]
  rcases ran : x.exec (s.enter (.detach i)) with ⟨h | a, t⟩
  all_goals rw [ran] at silent
  · rw [exec_bind_error ran]
    exact silent.log
  · rw [exec_bind_ok ran]
    exact silent.log.trans (List.suffix_cons _ _)

end Changes

end LiveTemplates
