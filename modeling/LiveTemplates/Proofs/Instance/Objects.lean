/-
# LiveTemplates.Proofs.Instance.Objects -- an object for each instance

Attaching a blueprint makes one object for each instance: its own for the outermost, and
for each other one when the instance around it is mounted.  What is made is tallied along
the run (`Tallies`), whatever the methods do that are called on the way.

* `Tallies.mount`: mounting makes the objects of the instances inside, each by the class
  of its blueprint, and no others;
* `Serials`, `Recorded`: two tallies.  Objects have numbers of their own, and a record of
  all that is made lists them;
* `Compiler.attach_objects`: one object per instance, of the right class.
-/
import LiveTemplates.Proofs.Instance.Lineup

namespace LiveTemplates

set_option autoImplicit false

variable {σ : Type}

/-- An instance as an entry in a record of objects: the class and the object. -/
def Instance.entry (i : Instance) : ClassRef × ObjectId :=
  (i.blueprint.cls, i.object)

theorem Instance.inside_perm (i : Instance) :
    i.inside.Perm (i.children ++ i.children.flatMap Instance.inside) := by
  rw [inside, allOf_eq]
  induction i.children with
  | nil => rfl
  | cons c rest ih =>
      rw [List.flatMap_cons, List.flatMap_cons, all_eq]
      have later : (rest.flatMap all).Perm (rest ++ rest.flatMap inside) := ih
      exact ((later.append_left c.inside).trans (List.perm_append_comm_assoc _ _ _)).cons c

/-- The instances directly inside are those of the children, with their objects. -/
theorem Mounts.entries {u : UserCode σ} {z : Zone} {b : Blueprint} {o : ObjectId}
    {host : NodeId} {w v : World σ} {places : List (List Nat × NodeId)} {i : Instance}
    (mounts : Mounts u z b o host w places i v) (made : b.Made) :
    (i.children.map Instance.entry).Perm (b.childClasses.zip i.childObjects) := by
  have same := (mounts.lineup made).imp (S := fun child c =>
      (child.1.2.cls, child.2) = c.entry) fun child c ⟨_, _, _, _, ran⟩ => by
    obtain ⟨_, inner⟩ := Blueprint.mount_mounts ran
    rw [Instance.entry, inner.blueprint_eq, inner.object_eq]
  rw [← List.forall₂_map_right_iff,
    ← List.forall₂_map_left_iff (f := fun child : (Spot × Blueprint) × ObjectId =>
      (child.1.2.cls, child.2)), List.forall₂_eq_eq_eq] at same
  rw [← same, Blueprint.childClasses, List.zip_map_left]
  exact (made.inOrder_perm _).map _

/-! ## Tallies -/

/-- A relation tells which objects are made from one world to another, in any order.  What is
done by evaluations makes none, nor does anything that leaves the user's own state as it is. -/
structure Tallies (u : UserCode σ)
    (T : List (ClassRef × ObjectId) → World σ → World σ → Prop) : Prop where
  hosts : Hosts u (T [])
  append : ∀ {xs ys w v x}, T xs w v → T ys v x → T (xs ++ ys) w x
  perm : ∀ {xs ys w v}, xs.Perm ys → T xs w v → T ys w v
  plain : ∀ {w v : World σ}, v.user = w.user → w.serial ≤ v.serial → T [] w v
  construct : ∀ (c : ClassRef) (w : World σ), T [(c, w.serial)] w
    { w with serial := w.serial + 1, user := u.construct c w.serial w.user }

namespace Tallies

variable {u : UserCode σ} {T : List (ClassRef × ObjectId) → World σ → World σ → Prop}
  (tallies : Tallies u T)

include tallies

/-- What is added to a list in steps, with something made in each. -/
theorem constructAll {cs : List ClassRef} {os : List ObjectId} {w v : World σ}
    (ran : (cs.mapM (Run.construct u)).run w = some (os, v)) : T (cs.zip os) w v := by
  induction cs generalizing os w with
  | nil =>
      obtain ⟨rfl, rfl⟩ := Run.pure_eq_some.1 ran
      exact tallies.plain rfl (Nat.le_refl _)
  | cons c rest ih =>
      rw [List.mapM_cons] at ran
      obtain ⟨o, w₁, one, ran⟩ := Run.bind_eq_some.1 ran
      obtain ⟨os', w₂, others, last⟩ := Run.bind_eq_some.1 ran
      obtain ⟨rfl, rfl⟩ := Run.pure_eq_some.1 last
      obtain ⟨rfl, rfl⟩ := Prod.mk.inj (Option.some.inj one)
      exact tallies.append (tallies.construct c w) (ih others)

variable (call : ∀ o method args, Keeps (T []) (u.call o method args))

include call

/-- Attaching a binding makes no object. -/
theorem binding (b : Binding) (live : NodeId) (o : ObjectId) (z : Zone) :
    Keeps (T []) (b.attach u live o z) := by
  have hosts := tallies.hosts
  have bears := hosts.toBears
  unfold Binding.attach
  cases b.expression with
  | error e => exact .bind bears.trans (.notice bears _) fun _ => .pure bears _
  | ok e =>
      cases b.kind with
      | input =>
          refine .bind bears.trans (.bind bears.trans
            (.total (g := fun w => w.addRefresh z _) (fun _ => rfl) fun _ =>
              tallies.plain rfl (Nat.le_refl _)) fun tick => ?_) fun _ => .pure bears _
          refine .bind bears.trans (.refreshBound bears call
            (fun w => hosts.shows w live b.name) e o) fun r => ?_
          cases r with
          | error e => exact .bind bears.trans (.notice bears _) fun _ => .pure bears _
          | ok _ => exact .pure bears _
      | output =>
          refine .bind bears.trans (.bind bears.trans
            (.total Run.run_fresh fun _ => tallies.plain rfl (Nat.le_succ _)) fun serial =>
              .bind bears.trans (.total (g := fun w => ((), World.addWrapped z _ w))
                (fun _ => rfl) fun w => ?_) fun _ => .pure bears _) fun _ => .pure bears _
          have registered := World.addWrapped_registered z ⟨live, b.name, .bound serial b.name e o⟩ w
          exact tallies.plain registered.user registered.later

omit call in
/-- Mounting one after the other makes the objects inside of the new instances. -/
theorem row {xs : List (Run σ Instance)} {new : List Instance} {w v : World σ}
    (each : ∀ x ∈ xs, ∀ c w v, x.run w = some (c, v) → T (c.inside.map Instance.entry) w v)
    (row : Run.Row xs w new v) : T (new.flatMap fun c => c.inside.map Instance.entry) w v := by
  induction row with
  | nil w => exact tallies.plain rfl (Nat.le_refl _)
  | cons first _ ih =>
      exact tallies.append (each _ (by simp) _ _ _ first)
        (ih fun x member => each x (List.mem_cons_of_mem _ member))

/-- Wiring copies makes the objects inside of the new instances. -/
theorem wires {z : Zone} {b : Blueprint} {o : ObjectId} {childObjects : List ObjectId}
    {places : List (List Nat × NodeId)} {s t : Wiring} {w v : World σ}
    (each : ∀ part ∈ Blueprint.mountings u z b.children childObjects, ∀ live c w v,
      (part.2 live).run w = some (c, v) → T (c.inside.map Instance.entry) w v)
    (wires : Wires (b.wire u z o childObjects) places s w t v) :
    ∃ new, t.children = s.children ++ new ∧
      T (new.flatMap fun c => c.inside.map Instance.entry) w v := by
  have hosts := tallies.hosts
  induction wires with
  | done s w => exact ⟨[], by simp, tallies.plain rfl (Nat.le_refl _)⟩
  | @grow places s t w v forest _ ih =>
      obtain ⟨new, same, made⟩ := ih
      have grown : T [] w { w with forest := forest } := tallies.plain rfl (Nat.le_refl _)
      exact ⟨new, same, tallies.append grown made⟩
  | @step address live places r s t w v x wired _ ih =>
      obtain ⟨r', w₁, bound, mounted⟩ := Run.bind_eq_some.1 wired
      have none : T [] w w₁ := by
        refine Keeps.foldlM hosts.toBears _ _ (fun s b => ?_) _ _ _ bound
        exact .bind hosts.trans (tallies.binding call b.2 live o z) fun _ => .pure hosts.toBears _
      obtain ⟨_, rfl, -⟩ := Wiring.wireBindings_row bound
      obtain ⟨new, rfl, row⟩ := Wiring.wireChildren_row mounted
      obtain ⟨more, same, made⟩ := ih
      refine ⟨new ++ more, ?_, ?_⟩
      · rw [same, (Wiring.foldl_add _ _).1, List.append_assoc]
      · rw [List.flatMap_append]
        refine tallies.append (tallies.append none (tallies.row ?_ row)) made
        intro x member
        obtain ⟨part, here, rfl⟩ := List.mem_map.1 member
        exact each part (List.mem_of_mem_filter here) _

/-- Mounting a blueprint makes the objects of the instances inside, each by the class of its
blueprint, and no others. -/
theorem mount {b : Blueprint} (made : b.Made) {z : Zone} {o : ObjectId} {host : NodeId}
    {w v : World σ} {i : Instance} (ran : (b.mount u z o host).run w = some (i, v)) :
    T (i.inside.map Instance.entry) w v := by
  induction made generalizing o host w i v with
  | @intro b bindings spots tagged single inside ih =>
      have made : b.Made := .intro bindings spots tagged single inside
      obtain ⟨places, mounts⟩ := Blueprint.mount_mounts ran
      have direct := mounts.entries made
      have objects := mounts.childObjects_eq made
      cases mounts with
      | @intro childObjects s _ w₁ x constructed _ _ wired mounted forest =>
          have first := tallies.constructAll constructed
          rw [made.constructedClasses] at first
          have each : ∀ part ∈ Blueprint.mountings u z b.children childObjects, ∀ live c w v,
              (part.2 live).run w = some (c, v) → T (c.inside.map Instance.entry) w v := by
            rw [Blueprint.mountings_eq (by simp [show childObjects = _ from objects])]
            intro part member live c w v ran
            obtain ⟨child, paired, rfl⟩ := List.mem_map.1 member
            exact ih child.1 (List.of_mem_zip paired).1 ran
          obtain ⟨new, same, later⟩ := tallies.wires call each wired
          have counted : T [] w₁ { w₁ with serial := w₁.serial + 1 } :=
            tallies.plain rfl (Nat.le_succ _)
          have noted : T [] x { x with
              forest := forest
              attached := (w₁.serial, ⟨s.ticks, s.listeners, mounted⟩) :: x.attached } :=
            tallies.plain rfl (Nat.le_refl _)
          have all := tallies.append (tallies.append first counted) (tallies.append later noted)
          refine tallies.perm ?_ all
          let i : Instance := .mk w₁.serial b o childObjects host z s.children
          have children : i.children = new := same
          have parts : i.inside.map Instance.entry |>.Perm
              (i.children.map Instance.entry ++
                i.children.flatMap fun c => c.inside.map Instance.entry) := by
            rw [← List.map_flatMap, ← List.map_append]
            exact i.inside_perm.map _
          rw [children] at parts direct
          simp only [List.append_nil]
          exact (parts.trans (direct.append_right _)).symm

/-- Attaching a blueprint makes the objects of all instances. -/
theorem attach {b : Blueprint} (made : b.Made) {z : Zone} {host : NodeId} {w v : World σ}
    {i : Instance} (ran : (b.attach u host z).run w = some (i, v)) :
    T (i.all.map Instance.entry) w v := by
  obtain ⟨x, mounted, rfl⟩ := Blueprint.attach_mount ran
  obtain ⟨_, mounts⟩ := Blueprint.mount_mounts mounted
  have held : T [] w { w with pins := z :: w.pins } := tallies.plain rfl (Nat.le_refl _)
  have own := tallies.construct b.cls { w with pins := z :: w.pins }
  have released : T [] x { x with pins := x.pins.tail } := tallies.plain rfl (Nat.le_refl _)
  have all := tallies.append held
    (tallies.append own (tallies.append (tallies.mount call made mounted) released))
  rw [Instance.all_eq, List.map_cons, Instance.entry, mounts.blueprint_eq, mounts.object_eq]
  simpa using all

end Tallies

/-! ## Numbers and records -/

/-- Objects have numbers of their own, none of which was given out before. -/
structure Serials (xs : List (ClassRef × ObjectId)) (w v : World σ) : Prop where
  later : w.serial ≤ v.serial
  distinct : (xs.map (·.2)).Nodup
  new : ∀ x ∈ xs, w.serial ≤ x.2 ∧ x.2 < v.serial

namespace Serials

variable {xs ys : List (ClassRef × ObjectId)} {w v x : World σ}

theorem nil (later : w.serial ≤ v.serial) : Serials [] w v :=
  ⟨later, List.nodup_nil, nofun⟩

theorem append (first : Serials xs w v) (second : Serials ys v x) : Serials (xs ++ ys) w x := by
  refine ⟨Nat.le_trans first.later second.later, ?_, ?_⟩
  · rw [List.map_append, List.nodup_append]
    refine ⟨first.distinct, second.distinct, fun o before o' after => ?_⟩
    obtain ⟨e, inside, rfl⟩ := List.mem_map.1 before
    obtain ⟨e', inside', rfl⟩ := List.mem_map.1 after
    exact Nat.ne_of_lt (Nat.lt_of_lt_of_le (first.new e inside).2 (second.new e' inside').1)
  · intro e member
    rcases List.mem_append.1 member with before | after
    · obtain ⟨least, less⟩ := first.new e before
      exact ⟨least, Nat.lt_of_lt_of_le less second.later⟩
    · obtain ⟨least, less⟩ := second.new e after
      exact ⟨Nat.le_trans first.later least, less⟩

theorem perm (serials : Serials xs w v) (perm : xs.Perm ys) : Serials ys w v :=
  ⟨serials.later, (perm.map _).nodup_iff.1 serials.distinct,
    fun e member => serials.new e (perm.symm.subset member)⟩

/-- An object is made under the next number. -/
theorem construct (u : UserCode σ) (c : ClassRef) (w : World σ) : Serials [(c, w.serial)] w
    { w with serial := w.serial + 1, user := u.construct c w.serial w.user } := by
  refine ⟨Nat.le_succ _, List.nodup_singleton _, fun e member => ?_⟩
  rw [List.mem_singleton.1 member]
  exact ⟨Nat.le_refl _, Nat.lt_succ_self _⟩

theorem tallies (u : UserCode σ) : Tallies u (Serials (σ := σ)) where
  hosts := ⟨⟨fun _ _ _ => append, fun step => by cases step <;> exact nil (Nat.le_refl _),
    fun _ _ _ borrowed => nil borrowed.later⟩, fun _ _ _ _ => nil (Nat.le_refl _)⟩
  append := append
  perm same serials := serials.perm same
  plain _ := nil
  construct := construct u

/-- It is enough that methods do not take numbers back. -/
theorem keeps {α : Type} {x : Run σ α} (later : Keeps (fun w v => w.serial ≤ v.serial) x) :
    Keeps (Serials (σ := σ) []) x :=
  fun w a v ran => nil (later w a v ran)

end Serials

/-- The user's own state has a record of all objects that were made.  Methods may make some
of their own. -/
structure UserCode.Records (u : UserCode σ) (made : σ → List (ClassRef × ObjectId)) : Prop where
  get : ∀ o member s, made (u.get o member s).2 = made s
  set : ∀ o member v s, made (u.set o member v s).2 = made s
  notice : ∀ n s, made (u.notice n s) = made s
  construct : ∀ c o s, made (u.construct c o s) = made s ++ [(c, o)]
  call : ∀ o method args, LiveTemplates.Keeps (fun w v => ∃ own, made v.user =
    made w.user ++ own) (u.call o method args)

/-- Methods make no objects. -/
def UserCode.Barren (u : UserCode σ) (made : σ → List (ClassRef × ObjectId)) : Prop :=
  ∀ o method args, LiveTemplates.Keeps (fun w v => made v.user = made w.user)
    (u.call o method args)

/-- What was recorded meanwhile: some objects, and others that methods have made. -/
def Recorded (u : UserCode σ) (made : σ → List (ClassRef × ObjectId))
    (xs : List (ClassRef × ObjectId)) (w v : World σ) : Prop :=
  ∃ news others, made v.user = made w.user ++ news ∧ news.Perm (xs ++ others) ∧
    (u.Barren made → others = [])

namespace Recorded

variable {u : UserCode σ} {made : σ → List (ClassRef × ObjectId)}

theorem tallies (records : u.Records made) : Tallies u (Recorded u made) := by
  have append {xs ys : List (ClassRef × ObjectId)} {w v x : World σ}
      (first : Recorded u made xs w v) (second : Recorded u made ys v x) :
      Recorded u made (xs ++ ys) w x := by
    obtain ⟨news, others, same, perm, barren⟩ := first
    obtain ⟨news', others', same', perm', barren'⟩ := second
    refine ⟨news ++ news', others ++ others', by rw [same', same, List.append_assoc], ?_,
      fun none => by rw [barren none, barren' none, List.append_nil]⟩
    refine (perm.append perm').trans ?_
    simp only [List.append_assoc]
    exact (List.perm_append_comm_assoc _ _ _).append_left xs
  have plain {w v : World σ} (same : made v.user = made w.user) : Recorded u made [] w v :=
    ⟨[], [], by rw [same, List.append_nil], .nil, fun _ => rfl⟩
  refine ⟨⟨⟨fun _ _ _ => append, fun step => ?_, fun _ _ _ => id⟩, fun _ _ _ _ => plain rfl⟩,
    append, fun perm recorded => ?_, fun same _ => plain (by rw [same]), fun c w => ?_⟩
  · cases step with
    | read o member => exact plain (records.get o member _)
    | write o member v => exact plain (records.set o member v _)
    | report n => exact plain (records.notice n _)
    | _ => exact plain rfl
  · obtain ⟨news, others, same, listed, barren⟩ := recorded
    exact ⟨news, others, same, listed.trans (perm.append_right _), barren⟩
  · exact ⟨[(c, w.serial)], [], records.construct c _ _, .refl _, fun _ => rfl⟩

theorem call (records : u.Records made) (o : ObjectId) (method : String) (args : List Value) :
    Keeps (Recorded u made []) (u.call o method args) := by
  intro w r v ran
  obtain ⟨own, same⟩ := records.call o method args w r v ran
  refine ⟨own, own, same, .refl _, fun barren => ?_⟩
  have none : made v.user = made w.user := barren o method args w r v ran
  rw [same] at none
  simpa using none

end Recorded

/-- Each instance of an attached blueprint has an object of its own, which was made for it by
the class of its blueprint.  It has one more for each child of the blueprint, and each of
these is the object of the instance on the copy of the child's element: none is made again
when this instance is mounted.  Nothing else is made, but by methods that are called on the
way. -/
theorem Compiler.attach_objects {serial : Nat} {options : CompileOptions}
    {calls : List (Catalog × ClassRef)} {c : ClassRef} {b : Blueprint} {u : UserCode σ}
    {host : NodeId} {z : Zone} {w v : World σ} {i : Instance}
    (found : (after { serial, options } calls).find? c = some b)
    (numbered : ∀ o method args, Keeps (fun w v => w.serial ≤ v.serial) (u.call o method args))
    (ran : (b.attach u host z).run w = some (i, v)) :
    i.blueprint = b ∧ (i.all.map (·.object)).Nodup ∧
      (∀ j ∈ i.all, w.serial ≤ j.object ∧ j.object < v.serial) ∧
      (∀ j ∈ i.all, ∃ places, j.Copied u places ∧ (places.map (·.1)).Nodup ∧ j.LinesUp places ∧
        Blueprint.mountings u j.zone j.blueprint.children j.childObjects =
          (j.blueprint.children.zip j.childObjects).map fun (child, o) =>
            (child.1, child.2.mount u j.zone o)) ∧
      ∀ made, u.Records made → ∃ news others, made v.user = made w.user ++ news ∧
        news.Perm (i.all.map (fun j => (j.blueprint.cls, j.object)) ++ others) ∧
        (u.Barren made → others = [] ∧ news.length = i.all.length) := by
  have made := made_after found
  obtain ⟨x, mounted, -⟩ := Blueprint.attach_mount ran
  obtain ⟨_, mounts⟩ := Blueprint.mount_mounts mounted
  have serials := (Serials.tallies u).attach
    (fun o method args => Serials.keeps (numbered o method args)) made ran
  refine ⟨mounts.blueprint_eq, ?_, fun j member => ?_, fun j member => ?_, fun log records => ?_⟩
  · have distinct := serials.distinct
    rwa [List.map_map] at distinct
  · exact serials.new j.entry (List.mem_map_of_mem member)
  · obtain ⟨made, places, copied⟩ := made.copied_all mounted j member
    have lines := copied.linesUp made
    refine ⟨places, copied, ?_, lines, Blueprint.mountings_eq (Nat.le_of_eq lines.one.symm)⟩
    obtain ⟨_, _, mounts⟩ := copied
    rw [mounts.addresses]
    exact j.blueprint.template.root.completedBelow_done.imp Address.Done.ne
  · obtain ⟨news, others, same, perm, barren⟩ := (Recorded.tallies records).attach
      (Recorded.call records) made ran
    refine ⟨news, others, same, perm, fun none => ⟨barren none, ?_⟩⟩
    rw [perm.length_eq, barren none, List.append_nil, List.length_map]

/-! ### Two classes of one name -/

namespace Twins

/-- A user whose state is a record of the objects that were made. -/
def recorder : UserCode (List (ClassRef × ObjectId)) where
  get _ _ s := (none, s)
  set _ _ _ s := (.ok (), s)
  call _ _ _ := pure (.ok .undefined)
  handler _ := pure ()
  refresh _ := pure (.ok ())
  construct c o s := s ++ [(c, o)]
  notice _ s := s
  holds _ _ := false

/-- Of two classes of one name, the tag stands for the second. -/
def catalog : Catalog := [("Outer", ⟨"<in></in><in></in>", [⟨"east::In", true⟩, ⟨"west::In", true⟩]⟩)]

def outer : ClassRef := ⟨"Outer", true⟩

def blank : World (List (ClassRef × ObjectId)) where
  forest := ⟨#[{ data := .element .html "div" [] }]⟩
  document := 0
  user := []

theorem records : recorder.Records id where
  get _ _ _ := rfl
  set _ _ _ _ := rfl
  notice _ _ := rfl
  construct _ _ _ := rfl
  call _ _ _ w _ v ran := by
    obtain ⟨-, rfl⟩ := Run.pure_eq_some.1 ran
    exact ⟨[], by simp⟩

theorem barren : recorder.Barren id := by
  intro _ _ _ w _ v ran
  obtain ⟨-, rfl⟩ := Run.pure_eq_some.1 ran
  rfl

/-- The record behind attaching. -/
theorem made :
    (((Compiler.after { serial := 0 } [(catalog, outer)]).find? outer).bind fun b =>
      ((b.attach recorder 0 Nesting.near).run blank).map (·.2.user)) =
        some [(outer, 0), (⟨"west::In", true⟩, 1), (⟨"west::In", true⟩, 2)] := by
  cbv

end Twins

/-- Each instance of a template with a tag for two classes has an object of its own, and there
are as many as were made. -/
theorem Compiler.attach_objects_twins :
    ∃ (b : Blueprint) (i : Instance) (v : World (List (ClassRef × ObjectId))),
      (after { serial := 0 } [(Twins.catalog, Twins.outer)]).find? Twins.outer = some b ∧
      (∀ o method args, Keeps (fun w v => w.serial ≤ v.serial)
        (Twins.recorder.call o method args)) ∧
      (b.attach Twins.recorder 0 Nesting.near).run Twins.blank = some (i, v) ∧
      Twins.recorder.Records id ∧ Twins.recorder.Barren id ∧
      v.user = [(Twins.outer, 0), (⟨"west::In", true⟩, 1), (⟨"west::In", true⟩, 2)] ∧
      (i.all.map (·.object)).Nodup ∧ i.all.length = 3 := by
  obtain ⟨b, found, rest⟩ := Option.bind_eq_some_iff.1 Twins.made
  obtain ⟨⟨i, v⟩, ran, user⟩ := Option.map_eq_some_iff.1 rest
  have numbered : ∀ o method args, Keeps (fun w v => w.serial ≤ v.serial)
      (Twins.recorder.call o method args) := by
    intro _ _ _ w _ v ran
    obtain ⟨-, rfl⟩ := Run.pure_eq_some.1 ran
    exact Nat.le_refl _
  obtain ⟨-, distinct, -, -, recorded⟩ := attach_objects found numbered ran
  obtain ⟨news, others, same, -, counted⟩ := recorded id Twins.records
  refine ⟨b, i, v, found, numbered, ran, Twins.records, Twins.barren, user, distinct, ?_⟩
  obtain ⟨-, count⟩ := counted Twins.barren
  rw [← count]
  have news : v.user = news := same
  rw [← news, user]
  rfl

end LiveTemplates
