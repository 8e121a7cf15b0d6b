/-
# LiveTemplates.Proofs.Reentrancy.Compiling -- compiling, watched

A compiler borrows its tables for each look and each change, and is done with them before it
asks a class for its declarations, reports something, or compiles a class inside.

* `WatchedCompiling`: work of a compiler under watch;
* `Compiling.Shows`: it comes to what the work comes to, in any way that goes together with
  borrowing cells for a moment and noting code of the user's;
* `Mirrors.compile`: it does what the work does, and no cell is lent where code of the
  user's runs.
-/
import LiveTemplates.Application
import LiveTemplates.Proofs.Blueprint.Workshop
import LiveTemplates.Proofs.Reentrancy.Instances

namespace LiveTemplates

set_option autoImplicit false

variable {σ : Type} {α β : Type}

/-! ## Work under watch -/

/-- Work of a compiler under watch, which can fail. -/
abbrev WatchedCompiling (σ : Type) := ExceptT ConfigurationError (StateT Workshop (Watched σ))

namespace WatchedCompiling

/-- Does something in the world. -/
def world (x : Watched σ α) : WatchedCompiling σ α :=
  ExceptT.lift (StateT.lift x)

/-- Borrows cells, each for a moment. -/
def touch (loans : List Loan) : WatchedCompiling σ Unit :=
  world (Watched.step loans fun w => ((), w))

/-- Reports something. -/
def report (n : Notice) : WatchedCompiling σ Unit := do
  world (Watched.note .user)
  modify fun w => { w with notices := n :: w.notices }

/-- Changes a table of the compiler. -/
def change (table : Nat → Cell) (f : Compiler → Compiler) : WatchedCompiling σ Unit := do
  touch [(table (← get).compiler.serial).alone]
  modify fun w => { w with compiler := f w.compiler }

/-- Does work with a class in progress. -/
def within (c : ClassRef) (work : WatchedCompiling σ α) : WatchedCompiling σ α := do
  change .inProgress fun k => { k with inProgress := k.inProgress ++ [c] }
  let outcome ← ExceptT.lift work.run
  change .inProgress fun k => { k with inProgress := k.inProgress.dropLast }
  liftExcept outcome

section Reading

variable (compile : ClassRef → WatchedCompiling σ Blueprint) (owner : ClassRef)
  (declared : List ClassRef)

/-- Compiles the class that an element stands for, if it stands for one. -/
def addChild (spot : Spot) (s : Scan) : WatchedCompiling σ Scan :=
  match Scan.classOf? declared spot.tag with
  | none => return s
  | some c => do
    let b ← compile c
    let used := if s.used.any c.same then s.used else s.used ++ [c]
    return { s with children := s.children ++ [(spot, b)], used := used }

/-- Adds a binding of an element. -/
def addBinding (strict : Bool) (spot : Spot) (s : Scan) (b : Binding) :
    WatchedCompiling σ Scan := do
  if let .error e := b.expression then
    if strict then throw (.invalidBinding owner.name b.written e)
    report (.broken owner.name b.written e)
  return { s with bindings := s.bindings ++ [(spot, b)] }

/-- Reads an element. -/
def addElement (strict : Bool) (s : Scan) (element : List Nat × NodeData) :
    WatchedCompiling σ Scan := do
  let (address, data) := element
  let spot : Spot := ⟨address, data.describe⟩
  let s ← addChild compile declared spot s
  touch [(Cell.templateContent (← get).compiler.serial owner.id address).shared]
  (Binding.among data.attrs).foldlM (addBinding owner strict spot) s

/-- Reads the elements of a template. -/
def ofTree (root : Tree) : WatchedCompiling σ Scan := do
  let k := (← get).compiler
  touch (root.elementsBelow.map fun element =>
    (Cell.templateNodes k.serial owner.id element.1).shared)
  root.elementsBelow.foldlM (addElement compile owner declared k.options.strictExpressions) {}

end Reading

/-- What a class declares; asking for it runs code of the user's. -/
def consult (catalog : Catalog) (c : ClassRef) : WatchedCompiling σ Metadata := do
  if c.declared then report (.consulted c.id)
  liftExcept (catalog.metadata c)

/-- The template of a class. -/
def readTemplate (c : ClassRef) (markup : String) : WatchedCompiling σ Template :=
  match Template.parse? markup with
  | some t => return t
  | none => throw (.templateParse c.name Template.noBodyReason)

/-- Reports the classes that are unused, or fails with the first. -/
def warnUnused (owner : ClassRef) (unused : List ClassRef) :
    WatchedCompiling σ (List ConfigurationError) := do
  let strict := (← get).compiler.options.strictComponents
  unused.mapM fun c => do
    let e := ConfigurationError.unusedComponent owner.name c.name c.tag
    if strict then throw e
    report (.unused e)
    return e

/-- Makes the blueprint of a class that has none. -/
def make (catalog : Catalog) (compile : ClassRef → WatchedCompiling σ Blueprint) (c : ClassRef) :
    WatchedCompiling σ Blueprint := do
  let metadata ← consult catalog c
  let template ← readTemplate c metadata.template
  let s ← within c (ofTree compile c metadata.components template.root)
  let warnings ← warnUnused c (s.unused metadata.components)
  let b := Blueprint.mk (← get).compiler.serial c template s.bindings s.children warnings
  change .blueprints (·.keep b)
  return b

/-- The blueprint of a class: the one there is, or else a new one. -/
def obtain (catalog : Catalog) (compile : ClassRef → WatchedCompiling σ Blueprint)
    (c : ClassRef) : WatchedCompiling σ Blueprint := do
  let k := (← get).compiler
  touch [(Cell.blueprints k.serial).shared]
  match k.find? c with
  | some b => return b
  | none =>
    touch [(Cell.inProgress k.serial).shared]
    if k.isCompiling c then throw (.recursiveComponent c.name)
    make catalog compile c

/-- Compiles a class, with classes inside of it down to a depth. -/
def compileWithin (catalog : Catalog) : Nat → ClassRef → WatchedCompiling σ Blueprint
  | 0, c => throw (.recursiveComponent c.name)
  | depth + 1, c => obtain catalog (compileWithin catalog depth) c

end WatchedCompiling

namespace Watched

/-- Compiles a class with a compiler. -/
def compile (u : UserCode σ) (k : Compiler) (catalog : Catalog) (c : ClassRef) :
    Watched σ (Except ConfigurationError Blueprint × Compiler) := do
  let work := WatchedCompiling.compileWithin catalog (Compiler.depthBound catalog) c
  let (outcome, w) ← (ExceptT.run work).run { compiler := k }
  w.notices.reverse.forM (notice u)
  return (outcome, w.compiler)

end Watched

/-! ## It mirrors the work -/

/-- How work goes on after what was done first. -/
def Compiling.onward (f : α → Compiling β) :
    Except ConfigurationError α × Workshop → Except ConfigurationError β × Workshop
  | (.ok a, v) => (f a).exec v
  | (.error e, v) => (.error e, v)

/-- How work under watch goes on after what was done first. -/
def WatchedCompiling.onward (f : α → WatchedCompiling σ β) :
    Except ConfigurationError α × Workshop → Watched σ (Except ConfigurationError β × Workshop)
  | (.ok a, v) => (ExceptT.run (f a)).run v
  | (.error e, v) => Pure.pure (.error e, v)

/-- A way to come to results under watch.  What comes to nothing new, one thing after the
other, borrowing cells for a moment, and code of the user's: all of this does. -/
class Watched.Way (R : (α : Type) → α → Watched σ α → Prop) : Prop where
  pure {α : Type} (a : α) : R α a (Pure.pure a)
  bind {α β : Type} {a : α} {x : Watched σ α} {g : α → β} {f : α → Watched σ β} :
    R α a x → (∀ a, R β (g a) (f a)) → R β (g a) (x >>= f)
  user : R Unit () (Watched.note .user)
  touch (loans : List Loan) : R Unit () (Watched.step loans fun w => ((), w))

/-- Work under watch comes to what work of a compiler does, from each workshop on. -/
def Compiling.Shows (R : (α : Type) → α → Watched σ α → Prop) (work : Compiling α)
    (watched : WatchedCompiling σ α) : Prop :=
  ∀ w : Workshop, R _ (work.exec w) ((ExceptT.run watched).run w)

namespace Compiling.Shows

variable {R : (α : Type) → α → Watched σ α → Prop} [way : Watched.Way R]

theorem pure (a : α) : Shows R (Pure.pure a) (Pure.pure a : WatchedCompiling σ α) :=
  fun w => way.pure (Except.ok a, w)

theorem throw (e : ConfigurationError) :
    Shows R (MonadExcept.throw e : Compiling α) (MonadExcept.throw e : WatchedCompiling σ α) :=
  fun w => way.pure (Except.error e, w)

theorem liftExcept (r : Except ConfigurationError α) :
    Shows R (liftExcept r) (liftExcept r : WatchedCompiling σ α) := by
  cases r with
  | ok a => exact pure a
  | error e => exact throw e

theorem bind {x : Compiling α} {y : WatchedCompiling σ α} {f : α → Compiling β}
    {g : α → WatchedCompiling σ β} (first : Shows R x y) (later : ∀ a, Shows R (f a) (g a)) :
    Shows R (x >>= f) (y >>= g) := by
  intro w
  have plain : (x >>= f).exec w = Compiling.onward f (x.exec w) := exec_bind x f w
  have watched : (ExceptT.run (y >>= g)).run w =
      (ExceptT.run y).run w >>= WatchedCompiling.onward g := by
    rw [ExceptT.run_bind, StateT.run_bind]
    refine bind_congr fun p => ?_
    obtain ⟨_ | a, v⟩ := p <;> rfl
  rw [plain, watched]
  refine way.bind (first w) (g := onward f) fun p => ?_
  obtain ⟨_ | a, v⟩ := p
  · exact way.pure _
  · exact later a v

/-- What changes nothing in the workshop. -/
theorem world {x : Watched σ α} {a : α} (comes : R α a x) :
    Shows R (Pure.pure a) (WatchedCompiling.world x) := by
  intro w
  have watched : (ExceptT.run (WatchedCompiling.world x)).run w =
      x >>= fun a => Pure.pure (Except.ok a, w) := by
    simp [WatchedCompiling.world]
  rw [watched]
  exact way.bind comes (g := fun a => (Except.ok a, w)) fun a => way.pure (Except.ok a, w)

theorem get : Shows R (MonadState.get : Compiling Workshop)
    (MonadState.get : WatchedCompiling σ Workshop) :=
  fun w => way.pure (Except.ok w, w)

theorem changing (f : Workshop → Workshop) :
    Shows R (modify f) (modify f : WatchedCompiling σ Unit) :=
  fun w => way.pure (Except.ok (), f w)

theorem touching (loans : List Loan) {x : Compiling α} {y : WatchedCompiling σ α}
    (shows : Shows R x y) : Shows R x (do WatchedCompiling.touch loans; y) :=
  bind (f := fun _ => x) (world (way.touch loans)) fun _ => shows

theorem report (n : Notice) :
    Shows R (Compiling.report n) (WatchedCompiling.report n : WatchedCompiling σ Unit) :=
  bind (f := fun _ => Compiling.report n) (world way.user) fun _ => changing _

theorem change (table : Nat → Cell) (f : Compiler → Compiler) :
    Shows R (Compiling.change f) (WatchedCompiling.change table f : WatchedCompiling σ Unit) :=
  bind (f := fun _ => Compiling.change f) get fun _ => touching _ (changing _)

theorem within (c : ClassRef) {work : Compiling α} {watched : WatchedCompiling σ α}
    (shows : Shows R work watched) :
    Shows R (Compiling.within c work) (WatchedCompiling.within c watched) := by
  refine bind (change .inProgress _) fun _ => bind (fun w => ?_) fun outcome =>
    bind (change .inProgress _) fun _ => liftExcept outcome
  have lifted : (ExceptT.run (ExceptT.lift (ExceptT.run watched) : WatchedCompiling σ _)).run w =
      (ExceptT.run watched).run w >>= fun p => Pure.pure (.ok p.1, p.2) := by
    simp
  rw [lifted]
  exact way.bind (shows w) (g := fun p => (Except.ok p.1, p.2)) fun p => way.pure _

theorem stepwise : Stepwise fun (α : Type) (work : Compiling α)
    (watched : WatchedCompiling σ α) => Shows R work watched where
  pure a := pure a
  bind first later := bind first later

theorem foldlM {γ : Type} {f : β → γ → Compiling β} {g : β → γ → WatchedCompiling σ β}
    (each : ∀ b c, Shows R (f b c) (g b c)) (cs : List γ) (b : β) :
    Shows R (cs.foldlM f b) (cs.foldlM g b) :=
  stepwise.foldlM each cs b

theorem mapM {f : α → Compiling β} {g : α → WatchedCompiling σ β}
    (each : ∀ a, Shows R (f a) (g a)) (as : List α) : Shows R (as.mapM f) (as.mapM g) :=
  stepwise.mapM each as

section Reading

variable {compile : ClassRef → Compiling Blueprint} {watched : ClassRef → WatchedCompiling σ Blueprint}
  (compiles : ∀ c, Shows R (compile c) (watched c)) (owner : ClassRef) (declared : List ClassRef)

theorem addBinding (strict : Bool) (spot : Spot) (s : Scan) (b : Binding) :
    Shows R (s.addBinding owner strict spot b)
      (WatchedCompiling.addBinding owner strict spot s b : WatchedCompiling σ Scan) := by
  unfold Scan.addBinding WatchedCompiling.addBinding
  cases b.expression with
  | ok e => exact pure _
  | error e =>
      cases strict with
      | true => exact throw _
      | false => exact bind (report _) fun _ => pure _

include compiles

theorem addChild (spot : Spot) (s : Scan) :
    Shows R (s.addChild compile declared spot) (WatchedCompiling.addChild watched declared spot s) := by
  unfold Scan.addChild WatchedCompiling.addChild
  cases Scan.classOf? declared spot.tag with
  | none => exact pure s
  | some c => exact bind (compiles c) fun b => pure _

theorem addElement (strict : Bool) (s : Scan) (element : List Nat × NodeData) :
    Shows R (s.addElement compile owner declared strict element)
      (WatchedCompiling.addElement watched owner declared strict s element) := by
  refine bind (addChild compiles declared _ s) fun s => ?_
  refine bind (f := fun _ => _) get fun _ => touching _ ?_
  exact foldlM (addBinding owner strict _) _ s

theorem ofTree (root : Tree) : Shows R (Scan.ofTree compile owner declared root)
    (WatchedCompiling.ofTree watched owner declared root) :=
  bind get fun _ => touching _ (foldlM (addElement compiles owner declared _) _ {})

end Reading

theorem consult (catalog : Catalog) (c : ClassRef) : Shows R (Compiler.consult catalog c)
    (WatchedCompiling.consult catalog c : WatchedCompiling σ Metadata) := by
  unfold Compiler.consult WatchedCompiling.consult
  cases c.declared with
  | true => exact bind (report _) fun _ => liftExcept _
  | false => exact liftExcept _

theorem readTemplate (c : ClassRef) (markup : String) : Shows R (Compiler.readTemplate c markup)
    (WatchedCompiling.readTemplate c markup : WatchedCompiling σ Template) := by
  unfold Compiler.readTemplate WatchedCompiling.readTemplate
  cases Template.parse? markup with
  | some t => exact pure t
  | none => exact throw _

theorem warnUnused (owner : ClassRef) (unused : List ClassRef) :
    Shows R (Compiler.warnUnused owner unused)
      (WatchedCompiling.warnUnused owner unused : WatchedCompiling σ _) := by
  refine bind get fun w => mapM (fun c => ?_) unused
  cases w.compiler.options.strictComponents with
  | true => exact throw _
  | false => exact bind (report _) fun _ => pure _

section Making

variable {compile : ClassRef → Compiling Blueprint} {watched : ClassRef → WatchedCompiling σ Blueprint}
  (compiles : ∀ c, Shows R (compile c) (watched c)) (catalog : Catalog) (c : ClassRef)

include compiles

theorem make : Shows R (Compiler.make catalog compile c)
    (WatchedCompiling.make catalog watched c) := by
  refine bind (consult catalog c) fun metadata => ?_
  refine bind (readTemplate c metadata.template) fun template => ?_
  refine bind (within c (ofTree compiles c metadata.components template.root)) fun s => ?_
  refine bind (warnUnused c _) fun warnings => bind get fun w => ?_
  exact bind (change .blueprints _) fun _ => pure _

theorem obtain : Shows R (Compiler.obtain catalog compile c)
    (WatchedCompiling.obtain catalog watched c) := by
  refine bind get fun w => touching _ ?_
  dsimp only
  cases w.compiler.find? c with
  | some b => exact pure b
  | none =>
      refine touching _ ?_
      cases w.compiler.isCompiling c with
      | true => exact bind (throw _) fun _ => make compiles catalog c
      | false => exact make compiles catalog c

end Making

theorem compileWithin (catalog : Catalog) (depth : Nat) (c : ClassRef) :
    Shows R (Compiler.compileWithin catalog depth c)
      (WatchedCompiling.compileWithin catalog depth c : WatchedCompiling σ Blueprint) := by
  induction depth generalizing c with
  | zero => exact throw _
  | succ depth ih => exact obtain ih catalog c

end Compiling.Shows

/-- To mirror results is a way to come to them. -/
instance Mirrors.way :
    Watched.Way fun (α : Type) (a : α) (x : Watched σ α) => Mirrors [] (Pure.pure a) x where
  pure a := .pure a
  bind first later := (Mirrors.bind first later).congr fun _ => rfl
  user := .noting (.pure ()) fun _ => rfl
  touch _ := .step (fun _ => rfl) (fun _ => rfl) (free_nil _)

/-- Compiling under watch does what compiling does. -/
theorem Mirrors.compile (u : UserCode σ) (k : Compiler) (catalog : Catalog) (c : ClassRef) :
    Mirrors [] (Run.compiling u k (Compiler.compile catalog c))
      (Watched.compile u k catalog c) := by
  have work := Compiling.Shows.compileWithin
    (R := fun (α : Type) (a : α) (x : Watched σ α) => Mirrors [] (Pure.pure a) x) catalog
    (Compiler.depthBound catalog) c
  refine (bind (work { compiler := k }) (f := fun (outcome, w) => do
    w.notices.reverse.forM (Run.notice u)
    return (outcome, w.compiler)) fun p => ?_).congr fun _ => rfl
  exact bind (forM (notice u) _) fun _ => pure _

end LiveTemplates
