/-
# LiveTemplates.Proofs.Separation.Isolation -- instances do not interfere

All instances of a class share a blueprint, and instances on one zone are refreshed together
whenever one of them acts.  Still each has an object and nodes of its own.  Worlds that differ
in the object of one instance go on to differ in this object, and in what this instance shows,
and in nothing else that can be seen.

* `Attached`: blueprints are attached to zones, and nothing else is registered;
* `Instance.Targets`: the attributes in which an instance shows the values of its inputs;
* `Attached.tells`: all that is registered belongs to the instances, which have objects of their
  own and show their values on nodes of their own;
* `Attached.instances_apart`: whatever ticks, is dispatched and is detached, all other objects
  and all other attributes are the same in two worlds that differ in one instance.
-/
import LiveTemplates.Proofs.Ownership.Registrations
import LiveTemplates.Proofs.Separation.Seats
import LiveTemplates.Proofs.Separation.Tandem

namespace LiveTemplates

set_option autoImplicit false

variable {σ β : Type}

/-- Where blueprints were attached to zones and nothing else was registered: the zones and the
instances, in the order in which they came. -/
inductive Attached (u : UserCode σ) : List Zone → List Instance → World σ → Prop
  /-- There are no zones yet, and nothing is registered. -/
  | start {w : World σ} (zones : w.zones = #[]) (listeners : ∀ d, w.listeners d = [])
      (unattached : w.attached = []) : Attached u [] [] w
  | newZone {zs : List Zone} {is : List Instance} {w : World σ} (before : Attached u zs is w)
      {behind : Target} (known : ∀ y, behind = .zone y → y ∈ zs) :
      Attached u (zs ++ [(w.newZone behind).1]) is (w.newZone behind).2
  /-- A compiled blueprint is attached. -/
  | attach {zs : List Zone} {is : List Instance} {w : World σ} (before : Attached u zs is w)
      {b : Blueprint} (made : b.Made) {host : NodeId} {z : Zone} (inside : z ∈ zs) {i : Instance}
      {v : World σ} (ran : (b.attach u host z).run w = some (i, v)) :
      Attached u zs (is ++ [i]) v
  /-- Something else goes on that registers nothing and takes nothing back. -/
  | beside {zs : List Zone} {is : List Instance} {w : World σ} (before : Attached u zs is w)
      {v : World σ} (besides : w.Besides v) (dispatchers : v.dispatchers = w.dispatchers)
      (size : w.forest.size ≤ v.forest.size) : Attached u zs is v

/-- An attribute in which an instance shows the value of one of its inputs: a refresh that is
registered for it shows a value of its object there. -/
def Instance.Targets (i : Instance) (w : World σ) (n : NodeId) (attr : String) : Prop :=
  ∃ r, w.registrations? i.serial = some r ∧ ∃ entry ∈ (w.zone i.zone).refreshes,
    entry.1 ∈ r.ticks ∧ ∃ e, entry.2 = .bound n attr e i.object

namespace Attached

variable {u : UserCode σ} {view : σ → ObjectId → β} {zs : List Zone} {is : List Instance}
  {w v : World σ}

/-- What there is to know of the zones and the instances, if nothing else was done. -/
def diary (zs : List Zone) (is : List Instance) : Diary where
  zones := zs
  known := Instance.allOf is
  live := Instance.allOf is

/-- All that is registered belongs to the instances, each of which has an object of its own and
shows its values on nodes that no other one does. -/
structure Tells (zs : List Zone) (is : List Instance) (w : World σ) : Prop where
  books : ∃ held, Books (diary zs is) {} held w
  objects : ((Instance.allOf is).map (·.object)).Nodup
  given : ∀ j ∈ Instance.allOf is, j.object < w.serial
  seated : ∃ seat, w.Seated seat

namespace Tells

/-- What is registered is an input of one of the instances. -/
theorem targets (tells : Tells zs is w) {z : Zone} {entry : Nat × Refresh}
    (registered : entry ∈ (w.zone z).refreshes) : ∃ j ∈ Instance.allOf is, ∃ n a e,
      entry.2 = .bound n a e j.object ∧ j.Targets w n a := by
  obtain ⟨held, books⟩ := tells.books
  -- the zone of this number is one of the zones
  obtain ⟨y, inside, number⟩ : ∃ y ∈ zs, y.id = z.id := by
    have here : z.id < w.zones.size := by
      by_contra away
      simp [World.zone, Array.getElem?_eq_none (Nat.le_of_not_lt away)] at registered
    have ids : zs.map Zone.id = List.range w.zones.size := books.divided.laid.ids
    exact List.mem_map.1 (ids ▸ List.mem_range.2 here)
  have same : w.zone z = w.zone y := by rw [World.zone, World.zone, number]
  rw [same] at registered
  rcases List.mem_append.1 ((books.refreshes_at inside).mem_iff.1 registered) with direct | part
  · cases direct
  · obtain ⟨p, member, own⟩ := List.mem_flatMap.1 part
    obtain ⟨member, on⟩ := List.mem_filter.1 member
    have also := List.mem_append_left (Frame.held {}) member
    obtain ⟨n, a, e, bound⟩ := (books.divided.owns p also).refreshes_bound entry own
    obtain ⟨mounted, recorded⟩ := books.divided.recorded p also
    have zone : w.zone p.1.zone = w.zone y := by
      rw [World.zone, World.zone, show p.1.zone.id = y.id from of_decide_eq_true on]
    refine ⟨p.1, books.live.mem_iff.1 (List.mem_map_of_mem member), n, a, e, bound, _, recorded,
      entry, ?_, List.mem_map_of_mem own, e, bound⟩
    rw [zone]
    exact registered

variable {i j : Instance}

theorem object_ne (tells : Tells zs is w) (member : i ∈ Instance.allOf is)
    (also : j ∈ Instance.allOf is) (other : j ≠ i) : j.object ≠ i.object :=
  fun same => other (List.inj_on_of_nodup_map tells.objects also member same)

/-- Different instances show their values in different attributes. -/
theorem apart (tells : Tells zs is w) (member : i ∈ Instance.allOf is)
    (also : j ∈ Instance.allOf is) (other : j ≠ i) {n : NodeId} {a : String}
    (targets : j.Targets w n a) : ¬ i.Targets w n a := by
  intro both
  obtain ⟨seat, seated⟩ := tells.seated
  have given {k : Instance} (targets : k.Targets w n a) : seat n = k.object := by
    obtain ⟨_, -, entry, registered, -, e, bound⟩ := targets
    obtain ⟨m, b, f, same, -⟩ := seated.inputs _ entry registered
    obtain ⟨rfl, -, -, object⟩ := Refresh.bound.inj (same.symm.trans bound)
    exact object
  exact tells.object_ne member also other ((given targets).symm.trans (given both))

/-- Only an instance itself shows values of its object. -/
theorem binds (tells : Tells zs is w) (member : i ∈ Instance.allOf is) :
    w.Binds i.object (i.Targets w) where
  inputs z entry registered := by
    obtain ⟨j, also, n, a, e, bound, targets⟩ := tells.targets registered
    refine ⟨n, a, e, j.object, bound, fun same => ?_⟩
    by_cases own : j = i
    · rwa [own] at targets
    · exact absurd same (tells.object_ne member also own)
  outputs := tells.seated.choose_spec.outputs

end Tells

/-- All that is registered belongs to the instances. -/
theorem tells (own : u.Local view) (attached : Attached u zs is w) : Tells zs is w := by
  induction attached with
  | start zones listeners unattached =>
      refine ⟨⟨[], .blank zones unattached⟩, List.nodup_nil, List.forall_mem_nil _,
        fun _ => 0, ?_, ?_⟩
      · intro z entry member
        simp [World.zone, zones] at member
      · intro d l member
        simp [listeners] at member
  | @newZone zs is w before behind known ih =>
      obtain ⟨⟨held, books⟩, objects, given, seat, seated⟩ := ih
      have more : zs ⊆ zs ++ [(w.newZone behind).1] := List.subset_append_left _ _
      have registered := books.renote (e := diary (zs ++ [(w.newZone behind).1]) is) more rfl rfl
        rfl (List.forall_mem_nil _) (.newZone w behind) (books.divided.newZone known)
      refine ⟨⟨held, registered⟩, objects, given, seat, fun z entry member => ?_, seated.outputs⟩
      refine seated.inputs z entry ?_
      simp only [World.zone, World.newZone, Array.getElem?_push] at member ⊢
      split at member
      · simp at member
      · exact member
  | @attach zs is w before b made host z inside i v ran ih =>
      obtain ⟨⟨held, books⟩, objects, given, seat, seated⟩ := ih
      have onUser (o : ObjectId) (method : String) (args : List Value) :
          Keeps World.Besides (u.call o method args) := by
        obtain ⟨f, same, -⟩ := own.call o method args
        rw [same]
        exact .total (Run.run_onUser f) fun _ => .of_zones rfl rfl (Nat.le_refl _)
      let note (_ : σ) : Diary := diary zs is
      have discreet : u.Discreet note :=
        ⟨fun _ _ _ => rfl, fun _ _ _ _ => rfl, fun _ _ _ => rfl, fun _ _ => rfl⟩
      obtain ⟨parts, all, adds⟩ := Adds.attach discreet
        (fun o method args w r v ran => .beside (onUser o method args w r v ran) rfl) made inside ran
      obtain ⟨held', books⟩ := adds.books books
      have noted := books.noteInstance all
      have serials := (Serials.tallies u).attach (fun o method args =>
        Serials.keeps fun w r v ran => (onUser o method args w r v ran).later) made ran
      have listed : Instance.allOf (is ++ [i]) = Instance.allOf is ++ i.all := by
        simp [Instance.allOf_eq]
      obtain ⟨-, seat', -, seated⟩ :=
        World.Seats.attach own b host z w i v ran seat (fun _ _ none => none.elim) seated
      have distinct := serials.distinct
      have new := serials.new
      rw [List.map_map] at distinct
      refine ⟨⟨held' ++ parts, ?_⟩, ?_, ?_, seat', seated⟩
      · rw [diary, listed]
        exact noted
      · rw [listed, List.map_append, List.nodup_append]
        refine ⟨objects, distinct, fun o before o' after => ?_⟩
        obtain ⟨j, old, rfl⟩ := List.mem_map.1 before
        obtain ⟨k, inside, rfl⟩ := List.mem_map.1 after
        exact Nat.ne_of_lt (Nat.lt_of_lt_of_le (given j old)
          (new k.entry (List.mem_map_of_mem inside)).1)
      · rw [listed]
        intro j member
        rcases List.mem_append.1 member with old | inside
        · exact Nat.lt_of_lt_of_le (given j old) serials.later
        · exact (new j.entry (List.mem_map_of_mem inside)).2
  | beside before besides dispatchers size ih =>
      obtain ⟨⟨held, books⟩, objects, given, seat, seated⟩ := ih
      exact ⟨⟨held, books.beside besides⟩, objects,
        fun j member => Nat.lt_of_lt_of_le (given j member) besides.later, seat,
        seated.later size besides.refreshes dispatchers⟩

/-- Two worlds in which the same blueprints are attached, and which differ in the object of one
instance and in what this one shows.  Whatever ticks, is dispatched and is detached then in both
of them, all other objects are seen to be the same, and so are all attributes but those of this
instance; among them are all in which another instance shows its values. -/
theorem instances_apart (own : u.Local view) (attached : Attached u zs is w) {i : Instance}
    (member : i ∈ Instance.allOf is) (differ : w.Differ u view i.object (i.Targets w) v)
    (chores : List Chore) :
    ∃ w' v', (chores.forM (Chore.run u)).run w = some ((), w') ∧
      (chores.forM (Chore.run u)).run v = some ((), v') ∧
      (∀ p, p ≠ i.object → view v'.user p = view w'.user p) ∧
      (∀ n a, ¬ i.Targets w n a → (v'.forest.data n).attr? a = (w'.forest.data n).attr? a) ∧
      ∀ j ∈ Instance.allOf is, j ≠ i → view v'.user j.object = view w'.user j.object ∧
        ∀ n a, j.Targets w n a → (v'.forest.data n).attr? a = (w'.forest.data n).attr? a := by
  have tells := attached.tells own
  obtain ⟨w', v', ran, ran', -, differ⟩ := Chore.run_all own chores ⟨tells.binds member, differ⟩
  obtain ⟨others, alike⟩ : (∀ p, p ≠ i.object → view v'.user p = view w'.user p) ∧
      w'.forest.Alike (i.Targets w) v'.forest := by
    cases differ with
    | intro others _ alike => exact ⟨others, alike⟩
  refine ⟨w', v', ran, ran', others, fun n a fixed => alike.attr? fixed, fun j also other => ?_⟩
  exact ⟨others _ (tells.object_ne member also other),
    fun n a targets => alike.attr? (tells.apart member also other targets)⟩

end Attached

/-! ### A component inside of another -/

namespace Neighbours

/-- Each object has a name, which can be read and written. -/
def named : UserCode (ObjectId → String) where
  get o member s := (if member = "name" then some (.text (s o)) else none, s)
  set o _ v s := (.ok (), fun p => if p = o then v.display else s p)
  call _ _ _ := Run.onUser fun s => (.ok .undefined, s)
  handler _ := pure ()
  refresh _ := pure (.ok ())
  construct _ o s := fun p => if p = o then "new" else s p
  notice _ s := s
  holds _ _ := true

theorem own : named.Local fun s => s where
  get o member :=
    ⟨fun _ _ _ => rfl, fun _ => rfl, fun s t same => ⟨by simp only [named, same], same⟩⟩
  set o member v := by
    refine ⟨fun s p other => if_neg other, fun _ => rfl, fun s t same => ⟨rfl, ?_⟩⟩
    exact (if_pos rfl).trans (if_pos rfl).symm
  call _ _ _ := ⟨_, rfl, .pure _⟩
  notice _ _ := ⟨rfl, rfl⟩

/-- A component with an input, and another inside with an input and an output. -/
def catalog : Catalog :=
  [("Outer", ⟨"<p [title]=name><in></in></p>", [⟨"In", true⟩]⟩),
    ("In", ⟨"<b [lang]=name (click)=\"name = 'renamed'\"></b>", []⟩)]

def outer : ClassRef := ⟨"Outer", true⟩

def near : Zone := .mk 0 (.dispatcher 0)

/-- A document that is one element. -/
def blank : World (ObjectId → String) where
  forest := ⟨#[{ data := .element .html "div" [] }]⟩
  document := 0
  user _ := ""

/-- The first object has another name. -/
def other (w : World (ObjectId → String)) : World (ObjectId → String) :=
  { w with user := fun p => if p = 0 then "other" else w.user p }

/-- An event on the element of the component inside, and another tick. -/
def chores : List Chore := [.dispatch 0 5 "click", .tick near]

/-- The names of both objects, and what is shown of them. -/
def shown (w : World (ObjectId → String)) : List String × List (Option String) :=
  ([w.user 0, w.user 1], [(w.forest.data 2).attr? "title", (w.forest.data 5).attr? "lang"])

set_option maxRecDepth 20000 in
theorem runs :
    (((Compiler.after { serial := 0 } [(catalog, outer)]).find? outer).bind fun b =>
      ((b.attach named 0 near).run (blank.newZone (.dispatcher 0)).2).bind fun (i, w) =>
        (((chores.forM (Chore.run named)).run w).bind fun (_, w') =>
          ((chores.forM (Chore.run named)).run (other w)).map fun (_, v') =>
            (i.object, i.children.map (·.object), shown w', shown v'))) =
      some (0, [1], (["new", "renamed"], [some "new", some "renamed"]),
        (["other", "renamed"], [some "other", some "renamed"])) := by
  cbv

theorem attached : ∃ (b : Blueprint) (i : Instance) (w w' v' : World (ObjectId → String)),
    (Compiler.after { serial := 0 } [(catalog, outer)]).find? outer = some b ∧
      (b.attach named 0 near).run (blank.newZone (.dispatcher 0)).2 = some (i, w) ∧
      (chores.forM (Chore.run named)).run w = some ((), w') ∧
      (chores.forM (Chore.run named)).run (other w) = some ((), v') ∧
      i.object = 0 ∧ i.children.map (·.object) = [1] ∧
      shown w' = (["new", "renamed"], [some "new", some "renamed"]) ∧
      shown v' = (["other", "renamed"], [some "other", some "renamed"]) := by
  obtain ⟨b, found, rest⟩ := Option.bind_eq_some_iff.1 runs
  obtain ⟨⟨i, w⟩, ran, rest⟩ := Option.bind_eq_some_iff.1 rest
  obtain ⟨⟨_, w'⟩, first, rest⟩ := Option.bind_eq_some_iff.1 rest
  obtain ⟨⟨_, v'⟩, second, facts⟩ := Option.map_eq_some_iff.1 rest
  obtain ⟨object, facts⟩ := Prod.mk.inj facts
  obtain ⟨inside, facts⟩ := Prod.mk.inj facts
  obtain ⟨seen, seen'⟩ := Prod.mk.inj facts
  exact ⟨b, i, w, w', v', found, ran, first, second, object, inside, seen, seen'⟩

end Neighbours

/-- When the component around it has another name, the one inside is renamed by an event all the
same, and shows the new name. -/
theorem Attached.instances_apart_neighbours :
    ∃ (b : Blueprint) (i j : Instance) (w w' v' : World (ObjectId → String)),
      (Compiler.after { serial := 0 } [(Neighbours.catalog, Neighbours.outer)]).find?
        Neighbours.outer = some b ∧
      Attached Neighbours.named [Neighbours.near] [i] w ∧ i ∈ Instance.allOf [i] ∧
      w.Differ Neighbours.named (fun s => s) i.object (i.Targets w) (Neighbours.other w) ∧
      (Neighbours.chores.forM (Chore.run Neighbours.named)).run w = some ((), w') ∧
      (Neighbours.chores.forM (Chore.run Neighbours.named)).run (Neighbours.other w) =
        some ((), v') ∧
      j ∈ i.children ∧ v'.user j.object = w'.user j.object ∧
      (∀ n a, ¬ i.Targets w n a → (v'.forest.data n).attr? a = (w'.forest.data n).attr? a) ∧
      Neighbours.shown w' = (["new", "renamed"], [some "new", some "renamed"]) ∧
      Neighbours.shown v' = (["other", "renamed"], [some "other", some "renamed"]) := by
  obtain ⟨b, i, w, w', v', found, ran, first, second, object, inside, seen, seen'⟩ :=
    Neighbours.attached
  obtain ⟨j, member, number⟩ : ∃ j ∈ i.children, j.object = 1 :=
    List.mem_map.1 (inside ▸ List.mem_cons_self)
  have started : Attached Neighbours.named [] [] Neighbours.blank :=
    .start rfl (fun d => by cases d <;> rfl) rfl
  have zoned : Attached Neighbours.named [Neighbours.near] []
      (Neighbours.blank.newZone (.dispatcher 0)).2 :=
    .newZone started nofun
  have attached : Attached Neighbours.named [Neighbours.near] [i] w :=
    .attach zoned (Compiler.made_after found) List.mem_cons_self ran
  have listed : i ∈ Instance.allOf [i] := by
    rw [Instance.allOf_eq]
    exact List.mem_flatMap.2 ⟨i, List.mem_cons_self, i.mem_all_self⟩
  have differ : w.Differ Neighbours.named (fun s => s) i.object (i.Targets w)
      (Neighbours.other w) :=
    .intro (fun p other => if_neg (object ▸ other)) rfl (.refl _ _)
  obtain ⟨w₁, v₁, ran₁, ran₂, others, shows, -⟩ :=
    Attached.instances_apart Neighbours.own attached listed differ Neighbours.chores
  obtain ⟨-, rfl⟩ := Prod.mk.inj (Option.some.inj (first.symm.trans ran₁))
  obtain ⟨-, rfl⟩ := Prod.mk.inj (Option.some.inj (second.symm.trans ran₂))
  have apart : j.object ≠ i.object := by rw [number, object]; exact Nat.one_ne_zero
  exact ⟨b, i, j, w, w', v', found, attached, listed, differ, first, second, member,
    others _ apart, shows, seen, seen'⟩

end LiveTemplates
