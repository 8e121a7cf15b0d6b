/-
# LiveTemplates.Proofs.Reentrancy.Instances -- registering, attaching and detaching, watched

Registering and taking back borrow one list after the other, and are done with each before
they go on.  Attaching runs code of the user's between its steps, and no cell is lent then.
Detaching goes through the lists of an instance while they are lent, but runs no code of the
user's.

* `Mirrors.addListener`, `Mirrors.removeListener`: registering and taking back;
* `Mirrors.attachBinding`, `Mirrors.attach`: attaching bindings, and blueprints;
* `Mirrors.detach`: detaching instances, while lists of children are lent.
-/
import LiveTemplates.Proofs.Reentrancy.Mirroring

namespace LiveTemplates

set_option autoImplicit false

variable {σ : Type}

/-- Is it one of the lists of an instance? -/
def Cell.isInstances : Cell → Bool
  | .children _ | .ticks _ | .subscriptions _ | .mounted _ => true
  | _ => false

namespace Mirrors

variable {held : List Loan} {α β : Type}

/-- What does the same as an activity is mirrored in the same way. -/
theorem congr {x x' : Run σ α} {y : Watched σ α} (mirrors : Mirrors held x y)
    (same : ∀ w, x'.run w = x.run w) : Mirrors held x' y :=
  (funext same : x' = x) ▸ mirrors

/-- A change that goes through a list. -/
theorem foldl {f : World σ → α → World σ} {g : α → Watched σ Unit}
    (each : ∀ a, Mirrors held (modify (f · a) : Run σ Unit) (g a)) (as : List α) :
    Mirrors held (modify fun w => as.foldl f w : Run σ Unit) (as.forM g) := by
  induction as with
  | nil => exact pure ()
  | cons a rest ih => exact (bind (each a) fun _ => ih).congr fun _ => rfl

/-- A change that goes through a list with a result. -/
theorem foldlM_change {f : β → α → World σ → β × World σ} {g : β → α → Watched σ β}
    (each : ∀ b a, Mirrors held (modifyGet (f b a) : Run σ β) (g b a)) (as : List α) (b : β) :
    Mirrors held (modifyGet fun w => as.foldl (fun p a => f p.1 a p.2) (b, w) : Run σ β)
      (as.foldlM g b) := by
  induction as generalizing b with
  | nil => exact pure b
  | cons a rest ih =>
      rw [List.foldlM_cons]
      exact (bind (each b a) ih).congr fun _ => rfl

/-! ## Registering -/

mutual

theorem addListener : ∀ (t : Target) (l : Listener),
    Mirrors [] (modify (World.addListener t l) : Run σ Unit) (Watched.addListener t l)
  | .dispatcher _, _ => step (fun _ => rfl) (fun _ => rfl) (free_nil _)
  | .zone z, l => addWrapped z l

theorem addWrapped : ∀ (z : Zone) (l : Listener),
    Mirrors [] (modify (World.addWrapped z l) : Run σ Unit) (Watched.addWrapped z l)
  | .mk id behind, l => by
      refine congr (x := do
        let n ← Run.fresh
        let handler := Handler.wrapped n (.mk id behind) l.handler
        modify fun w => w.onZone (.mk id behind) fun s =>
          { s with wrappers := s.wrappers ++ [⟨l, handler⟩] }
        modify (World.addListener behind { l with handler := handler })) ?_ fun w => rfl
      refine bind (plain Run.run_fresh fun _ => rfl) fun n => ?_
      exact bind (step (fun _ => rfl) (fun _ => rfl) (free_nil _)) fun _ => addListener behind _

end

/-- While only lists of instances are lent, all other cells are free. -/
theorem free_of_instances (lists : ∀ h ∈ held, h.cell.isInstances = true) {c : Cell}
    (other : c.isInstances = false) : held.any c.alone.clashes = false := by
  refine List.any_eq_false.2 fun h member clash => ?_
  have same : c = h.cell := beq_iff_eq.1 (Bool.and_eq_true_iff.1 clash).1
  rw [same, lists h member] at other
  cases other

theorem free_one {l : Loan} (free : held.any l.clashes = false) :
    ∀ l' ∈ [l], held.any l'.clashes = false := by
  intro l' member
  rw [List.mem_singleton.1 member]
  exact free

section Removing

variable (lists : ∀ h ∈ held, h.cell.isInstances = true)

include lists

theorem removeRefresh (z : Zone) (n : Nat) :
    Mirrors held (modifyGet (·.removeRefresh z n) : Run σ Bool) (Watched.removeRefresh z n) :=
  step (fun _ => rfl) (fun _ => rfl) (free_one (free_of_instances lists rfl))

mutual

theorem removeListener : ∀ (t : Target) (l : Listener),
    Mirrors held (modifyGet (World.removeListener t l) : Run σ Bool) (Watched.removeListener t l)
  | .dispatcher _, _ =>
      step (fun _ => rfl) (fun _ => rfl) (free_one (free_of_instances lists rfl))
  | .zone z, l => removeWrapped z l

theorem removeWrapped : ∀ (z : Zone) (l : Listener),
    Mirrors held (modifyGet (World.removeWrapped z l) : Run σ Bool) (Watched.removeWrapped z l)
  | .mk id behind, l => by
      refine congr (x := do
        let matching ← modifyGet fun w =>
          ((w.zone (.mk id behind)).wrappers.filter (·.inner.same l),
            w.onZone (.mk id behind) fun s =>
              { s with wrappers := s.wrappers.filter fun r => !r.inner.same l })
        modifyGet fun w => matching.foldl (fun p r =>
          let (one, w) := World.removeListener behind { l with handler := r.handler } p.2
          (p.1 || one, w)) (false, w)) ?_ fun w => rfl
      refine bind (step (fun _ => rfl) (fun _ => rfl) (free_one (free_of_instances lists rfl)))
        fun matching => ?_
      refine foldlM_change (f := fun removed r (w : World σ) =>
        let (one, w) := World.removeListener behind { l with handler := r.handler } w
        (removed || one, w)) (fun removed r => ?_) matching false
      exact (bind (removeListener behind { l with handler := r.handler }) fun one =>
        pure (removed || one)).congr fun _ => rfl

end

end Removing

/-! ## Detaching -/

/-- While only lists of children are lent, and these are shared, all other lists are free. -/
theorem free_beside (shared : ∀ h ∈ held, ∃ n, h = (Cell.children n).shared) {c : Cell}
    (other : ∀ n, c ≠ .children n) : held.any c.alone.clashes = false := by
  refine List.any_eq_false.2 fun h member clash => ?_
  obtain ⟨n, rfl⟩ := shared h member
  exact other n (beq_iff_eq.1 (Bool.and_eq_true_iff.1 clash).1)

/-- Lists of children can be shared. -/
theorem free_shared (shared : ∀ h ∈ held, ∃ n, h = (Cell.children n).shared) (n : Nat) :
    held.any (Cell.children n).shared.clashes = false := by
  refine List.any_eq_false.2 fun h member clash => ?_
  obtain ⟨m, rfl⟩ := shared h member
  exact Bool.noConfusion (Bool.and_eq_true_iff.1 clash).2

theorem instances_of_shared (shared : ∀ h ∈ held, ∃ n, h = (Cell.children n).shared) :
    ∀ h ∈ held, h.cell.isInstances = true := by
  intro h member
  obtain ⟨n, rfl⟩ := shared h member
  rfl

/-- What an instance has registered is taken back, one list after the other. -/
theorem takeBack (shared : ∀ h ∈ held, ∃ n, h = (Cell.children n).shared) (serial : Nat) (z : Zone)
    (host : NodeId) (r : Registrations) :
    Mirrors held (modify (·.takeBack z host r) : Run σ Unit) (do
      Watched.lend (Cell.ticks serial).alone do
        r.ticks.forM fun tick => do let _ ← Watched.removeRefresh z tick
      Watched.lend (Cell.subscriptions serial).alone do
        r.listeners.forM fun l => do let _ ← Watched.removeWrapped z l
      Watched.lend (Cell.mounted serial).alone do
        r.mounted.forM fun n => Watched.step [(Cell.nodes host).alone] fun w =>
          ((), { w with forest := (w.forest.remove host n).2 })) := by
  have lists {c : Cell} (list : c.isInstances = true) :
      ∀ h ∈ c.alone :: held, h.cell.isInstances = true :=
    List.forall_mem_cons.2 ⟨list, instances_of_shared shared⟩
  have ticks : Mirrors held
      (modify fun w => r.ticks.foldl (fun w tick => (w.removeRefresh z tick).2) w : Run σ Unit)
      (Watched.lend (Cell.ticks serial).alone do
        r.ticks.forM fun tick => do let _ ← Watched.removeRefresh z tick) := by
    refine lend (free_beside shared nofun) (foldl (fun tick => ?_) r.ticks)
    exact (bind (removeRefresh (lists rfl) z tick) fun _ => pure ()).congr fun _ => rfl
  have listeners : Mirrors held
      (modify fun w => r.listeners.foldl (fun w l => (w.removeWrapped z l).2) w : Run σ Unit)
      (Watched.lend (Cell.subscriptions serial).alone do
        r.listeners.forM fun l => do let _ ← Watched.removeWrapped z l) := by
    refine lend (free_beside shared nofun) (foldl (fun l => ?_) r.listeners)
    exact (bind (removeWrapped (lists rfl) z l) fun _ => pure ()).congr fun _ => rfl
  have mounted : Mirrors held
      (modify fun w => r.mounted.foldl (fun w n =>
        { w with forest := (w.forest.remove host n).2 }) w : Run σ Unit)
      (Watched.lend (Cell.mounted serial).alone do
        r.mounted.forM fun n => Watched.step [(Cell.nodes host).alone] fun w =>
          ((), { w with forest := (w.forest.remove host n).2 })) := by
    refine lend (free_beside shared nofun) (foldl (fun n => ?_) r.mounted)
    exact step (fun _ => rfl) (fun _ => rfl) (free_one (free_of_instances (lists rfl) rfl))
  exact (bind ticks fun _ => bind listeners fun _ => mounted).congr fun _ => rfl

mutual

theorem detach : ∀ (i : Instance) {held : List Loan},
    (∀ h ∈ held, ∃ n, h = (Cell.children n).shared) →
      Mirrors held (modify i.detach : Run σ Unit) (Watched.detach i)
  | .mk serial b o os host z children, held, shared => by
      rw [Watched.detach]
      refine calling nofun ?_
      refine congr (x := do
        let registrations ← modifyGet fun w => match w.registrations? serial with
          | none => (none, w)
          | some r => (some r, w.forget serial)
        match registrations with
        | none => return
        | some r =>
          modify (Instance.detachAll children)
          modify (·.takeBack z host r)) ?_ fun w => ?_
      · refine bind (plain (fun _ => rfl) fun w => ?_) fun registrations => ?_
        · cases w.registrations? serial <;> rfl
        · cases registrations with
          | none => exact pure ()
          | some r =>
              have inner : ∀ h ∈ (Cell.children serial).shared :: held,
                  ∃ n, h = (Cell.children n).shared :=
                List.forall_mem_cons.2 ⟨⟨serial, rfl⟩, shared⟩
              exact bind (lend (free_shared shared serial) (detachAll children inner)) fun _ =>
                takeBack shared serial z host r
      · have ran : (modify (Instance.mk serial b o os host z children).detach : Run σ Unit).run w =
            some ((), (Instance.mk serial b o os host z children).detach w) := rfl
        rw [ran, Instance.detach, StateT.run_bind]
        cases found : w.registrations? serial with
        | none => simp [found]
        | some r => simp [found]

theorem detachAll : ∀ (is : List Instance) {held : List Loan},
    (∀ h ∈ held, ∃ n, h = (Cell.children n).shared) →
      Mirrors held (modify (Instance.detachAll is) : Run σ Unit) (Watched.detachAll is)
  | [], _, _ => pure ()
  | i :: rest, _, shared => by
      rw [Watched.detachAll]
      exact (bind (detach i shared) fun _ => detachAll rest shared).congr fun _ => rfl

end

/-! ## Attaching -/

theorem construct (u : UserCode σ) (c : ClassRef) :
    Mirrors [] (Run.construct u c) (Watched.construct u c) :=
  bind (plain Run.run_fresh fun _ => rfl) fun o => bind (own fun _ => rfl) fun _ => pure o

theorem attachOutput (b : Binding) (e : Expression) (live : NodeId) (o : ObjectId) (z : Zone) :
    Mirrors [] (b.attachOutput e live o z : Run σ Listener) (Watched.attachOutput b e live o z) :=
  bind (plain Run.run_fresh fun _ => rfl) fun _ => bind (addWrapped z _) fun _ => pure _

/-- The lists of an instance are free between the steps of attaching. -/
theorem keeping (serial : Nat) (a : Option Attachment) {x : Run σ α} {y : Watched σ α}
    (mirrors : Mirrors [] x y) :
    Mirrors [] x (do Watched.step (Watched.keeper serial a) fun world => ((), world); y) :=
  touching (free_nil _) mirrors

section User

variable {u : UserCode σ} {v : Hooks σ} (hooks : v.Mirror u)

include hooks

theorem attachInput (b : Binding) (e : Expression) (live : NodeId) (o : ObjectId) (z : Zone) :
    Mirrors [] (b.attachInput u e live o z) (Watched.attachInput u v b e live o z) := by
  refine bind (step (fun _ => rfl) (fun _ => rfl) (free_nil _)) fun tick => ?_
  refine bind (calling nofun (refresh hooks _)) fun r => ?_
  cases r with
  | ok _ => exact pure tick
  | error e => exact bind (notice u _) fun _ => pure tick

theorem attachBinding (b : Binding) (live : NodeId) (o : ObjectId) (z : Zone) :
    Mirrors [] (b.attach u live o z) (Watched.attachBinding u v b live o z) := by
  unfold Binding.attach Watched.attachBinding
  cases b.expression with
  | error e => exact bind (notice u _) fun _ => pure none
  | ok e =>
      cases b.kind with
      | input => exact bind (attachInput hooks b e live o z) fun _ => pure _
      | output => exact bind (attachOutput b e live o z) fun _ => pure _

theorem wireBindings (z : Zone) (o : ObjectId) (serial : Nat) (bindings : List (Spot × Binding))
    (address : List Nat) (live : NodeId) (w : Wiring) :
    Mirrors [] (Wiring.wireBindings u z o bindings address live w)
      (Watched.wireBindings u v z o serial bindings address live w) := by
  refine foldlM (fun w p => ?_) _ w
  exact bind (attachBinding hooks p.2 live o z) fun a => keeping serial a (pure (w.add a))

end User

/-- Ways of mounting that mirror each other, one by one. -/
def Parts (parts : List (Spot × Mounting σ))
    (watched : List (Spot × (NodeId → Watched σ Instance))) : Prop :=
  List.Forall₂ (fun p q => p.1 = q.1 ∧ ∀ live, Mirrors [] (p.2 live) (q.2 live)) parts watched

theorem wireChildren {parts : List (Spot × Mounting σ)}
    {watched : List (Spot × (NodeId → Watched σ Instance))} (same : Parts parts watched)
    (serial : Nat) (address : List Nat) (live : NodeId) (w : Wiring) :
    Mirrors [] (Wiring.wireChildren parts address live w)
      (Watched.wireChildren serial watched address live w) := by
  refine stepwise.foldlM_of_forall₂ (fun w p q both => ?_) (List.rel_filter ?_ same) w
  · exact bind (both.2 live) fun i => touching (free_nil _) (pure _)
  · intro p q both
    simp [both.1]

section Copying

variable {ω : Type} {wire : List Nat → NodeId → ω → Run σ ω}
  {wire' : List Nat → NodeId → ω → Watched σ ω} (cells : List Nat → List Loan)

mutual

theorem copy (wires : ∀ address live w, Mirrors [] (wire address live w) (wire' address live w)) :
    ∀ (address : List Nat) (t : Tree) (w : ω),
    Mirrors [] (Wiring.copy wire address t w) (Watched.copy cells wire' address t w)
  | address, .node d ts, w => by
      rw [Wiring.copy, Watched.copy]
      refine bind (step (Run.run_onForest _) (fun _ => rfl) (free_nil _)) fun live => ?_
      exact bind (copyAll wires live address 0 ts w) fun w =>
        bind (wires address live w) fun _ => pure _

theorem copyAll
    (wires : ∀ address live w, Mirrors [] (wire address live w) (wire' address live w)) :
    ∀ (parent : NodeId) (address : List Nat) (i : Nat) (ts : List Tree) (w : ω),
    Mirrors [] (Wiring.copyAll wire parent address i ts w)
      (Watched.copyAll cells wire' parent address i ts w)
  | _, _, _, [], w => pure w
  | parent, address, i, t :: ts, w => by
      rw [Wiring.copyAll, Watched.copyAll]
      refine bind (copy wires (address ++ [i]) t w) fun p => ?_
      exact bind (step (fun _ => rfl) (fun _ => rfl) (free_nil _)) fun _ =>
        copyAll wires parent address (i + 1) ts p.2

end

end Copying

section User

variable {u : UserCode σ} {v : Hooks σ}

mutual

theorem mount (hooks : v.Mirror u) (z : Zone) : ∀ (b : Blueprint) (o : ObjectId) (host : NodeId),
    Mirrors [] (b.mount u z o host) (Watched.mount u v z b o host)
  | .mk compiler cls template bindings children warnings, o, host => by
      rw [Blueprint.mount, Watched.mount]
      refine bind (mapM (construct u) _) fun objects => ?_
      refine bind (plain Run.run_fresh fun _ => rfl) fun serial => ?_
      refine bind (step (Run.run_onForest _) (fun _ => rfl) (free_nil _)) fun fragment => ?_
      have parts := mountings hooks z children objects
      refine bind (copyAll _ (fun address live w => ?_) fragment [] 0 _ ({} : Wiring)) fun w => ?_
      · exact bind (wireBindings hooks z o serial bindings address live w) fun w =>
          wireChildren parts serial address live w
      · refine bind (step (Run.run_onForest _) (fun _ => rfl) (free_nil _)) fun mounted => ?_
        exact bind (step (fun _ => rfl) (fun _ => rfl) (free_nil _)) fun _ => pure _

theorem mountings (hooks : v.Mirror u) (z : Zone) :
    ∀ (children : List (Spot × Blueprint)) (objects : List ObjectId),
    Parts (Blueprint.mountings u z children objects) (Watched.mountings u v z children objects)
  | [], _ => by
      rw [Blueprint.mountings, Watched.mountings]
      exact .nil
  | (spot, b) :: rest, o :: os => by
      rw [Blueprint.mountings, Watched.mountings]
      exact .cons ⟨rfl, mount hooks z b o⟩ (mountings hooks z rest os)
  | (spot, b) :: rest, [] => by
      rw [Blueprint.mountings, Watched.mountings]
      exact .cons ⟨rfl, fun live => bind (construct u b.cls) fun o => mount hooks z b o live⟩
        (mountings hooks z rest [])

end

theorem attach (hooks : v.Mirror u) (b : Blueprint) (host : NodeId) (z : Zone) :
    Mirrors [] (b.attach u host z) (Watched.attach u v b host z) := by
  have mounted : Mirrors [] (b.attach u host z) (Watched.holding z do
      let object ← Watched.construct u b.cls
      Watched.mount u v z b object host) :=
    holding z (bind (construct u b.cls) fun o => mount hooks z b o host)
  refine calling nofun ((bind (f := Pure.pure) mounted fun i => ?_).congr fun w => ?_)
  · exact telling (fun w => .attached i (Watched.ticksOf w i)) nofun (pure i)
  · rw [bind_pure]

end User

end Mirrors

end LiveTemplates
