/-
# LiveTemplates.Proofs.Blueprint.Workshop -- the work of a compiler, step by step

Work of a compiler ends with an outcome in a later workshop, also where it fails
(`Compiling.exec`).  This module says once what each step of compiling a class can do;
everything else about compilers is derived from that.

* `Scan.Reads`: reading elements either comes to their end, stops at a class that does
  not compile, or stops at a broken binding where these are not admitted;
* `Compiler.Makes`: making a blueprint stops at one of four places or keeps it;
* `Compiler.exec_obtain_cases`: a class has its blueprint already, or is in progress,
  or is made.
-/
import LiveTemplates.Blueprint.Compiler

namespace LiveTemplates

set_option autoImplicit false

/-! ## Workshops -/

namespace Workshop

/-- A class is taken up. -/
def enter (w : Workshop) (c : ClassRef) : Workshop :=
  { w with compiler := { w.compiler with inProgress := w.compiler.inProgress ++ [c] } }

/-- The class that was taken up last is laid down. -/
def leave (w : Workshop) : Workshop :=
  { w with compiler := { w.compiler with inProgress := w.compiler.inProgress.dropLast } }

/-- Reports are added, latest first. -/
def reporting (w : Workshop) (ns : List Notice) : Workshop :=
  { w with notices := ns ++ w.notices }

/-- A blueprint is kept. -/
def keep (w : Workshop) (b : Blueprint) : Workshop :=
  { w with compiler := w.compiler.keep b }

theorem reporting_nil (w : Workshop) : w.reporting [] = w := rfl

theorem reporting_reporting (w : Workshop) (ns ms : List Notice) :
    (w.reporting ns).reporting ms = w.reporting (ms ++ ns) := by
  simp [reporting]

@[simp] theorem notices_reporting (w : Workshop) (ns : List Notice) :
    (w.reporting ns).notices = ns ++ w.notices := rfl

@[simp] theorem inProgress_enter (w : Workshop) (c : ClassRef) :
    (w.enter c).compiler.inProgress = w.compiler.inProgress ++ [c] := rfl

@[simp] theorem blueprints_leave (w : Workshop) :
    w.leave.compiler.blueprints = w.compiler.blueprints := rfl

@[simp] theorem inProgress_leave (w : Workshop) :
    w.leave.compiler.inProgress = w.compiler.inProgress.dropLast := rfl

@[simp] theorem options_leave (w : Workshop) :
    w.leave.compiler.options = w.compiler.options := rfl

@[simp] theorem blueprints_keep (w : Workshop) (b : Blueprint) :
    (w.keep b).compiler.blueprints = w.compiler.blueprints ++ [(b.cls.id, b)] := rfl

@[simp] theorem inProgress_keep (w : Workshop) (b : Blueprint) :
    (w.keep b).compiler.inProgress = w.compiler.inProgress := rfl

end Workshop

/-! ## Outcomes -/

namespace Compiling

variable {α β : Type}

/-- The outcome of work from a workshop on, and the workshop behind it. -/
def exec (work : Compiling α) (w : Workshop) : Except ConfigurationError α × Workshop :=
  (ExceptT.run work).run w

theorem exec_pure (a : α) (w : Workshop) : (pure a : Compiling α).exec w = (.ok a, w) := rfl

theorem exec_throw (e : ConfigurationError) (w : Workshop) :
    (throw e : Compiling α).exec w = (.error e, w) := rfl

theorem exec_bind (work : Compiling α) (next : α → Compiling β) (w : Workshop) :
    (work >>= next).exec w = match work.exec w with
      | (.ok a, v) => (next a).exec v
      | (.error e, v) => (.error e, v) := by
  simp only [exec, ExceptT.run_bind, StateT.run_bind]
  rcases (ExceptT.run work).run w with ⟨_ | a, v⟩ <;> rfl

theorem exec_get (w : Workshop) : (get : Compiling Workshop).exec w = (.ok w, w) := rfl

theorem exec_report (n : Notice) (w : Workshop) :
    (report n).exec w = (.ok (), w.reporting [n]) := rfl

theorem exec_change (f : Compiler → Compiler) (w : Workshop) :
    (change f).exec w = (.ok (), { w with compiler := f w.compiler }) := rfl

theorem exec_liftExcept (r : Except ConfigurationError α) (w : Workshop) :
    (liftExcept r : Compiling α).exec w = (r, w) := by
  cases r <;> rfl

theorem exec_lift (work : StateM Workshop α) (w : Workshop) :
    exec (ExceptT.lift work) w = (.ok (work.run w).1, (work.run w).2) := rfl

theorem exec_within (c : ClassRef) (work : Compiling α) (w : Workshop) :
    (within c work).exec w = ((work.exec (w.enter c)).1, (work.exec (w.enter c)).2.leave) := by
  simp only [within, exec_bind, exec_change, exec_lift, exec_liftExcept]
  rfl

end Compiling

/-! ## Reading elements -/

namespace Scan

open Compiling

/-- The place of an element. -/
def spotOf (element : List Nat × NodeData) : Spot :=
  ⟨element.1, element.2.describe⟩

/-- The bindings on elements, in document order. -/
def bindingsOn (elements : List (List Nat × NodeData)) : List (Spot × Binding) :=
  elements.flatMap fun element => (Binding.among element.2.attrs).map (spotOf element, ·)

/-- Are bindings admitted?  Where they are to be sound, the first broken one is not. -/
def accept (owner : ClassRef) (strict : Bool) : List Binding → Except ConfigurationError Unit
  | [] => .ok ()
  | b :: rest =>
    match b.expression with
    | .ok _ => accept owner strict rest
    | .error e =>
      if strict then .error (.invalidBinding owner.name b.written e) else accept owner strict rest

/-- The reports about broken bindings, latest first. -/
def complaints (owner : ClassRef) : List Binding → List Notice
  | [] => []
  | b :: rest =>
    match b.expression with
    | .ok _ => complaints owner rest
    | .error e => complaints owner rest ++ [.broken owner.name b.written e]

/-- The classes that are met on elements, together with others. -/
def usedOn (declared : List ClassRef) (used : List ClassRef)
    (elements : List (List Nat × NodeData)) : List ClassRef :=
  elements.foldl (fun used element =>
    match classOf? declared element.2.describe with
    | none => used
    | some c => if used.any c.same then used else used ++ [c]) used

/-- What is found in front of elements and on them, if these have the given children. -/
def extended (s : Scan) (declared : List ClassRef) (elements : List (List Nat × NodeData))
    (children : List (Spot × Blueprint)) : Scan :=
  ⟨s.bindings ++ bindingsOn elements, s.children ++ children, usedOn declared s.used elements⟩

variable (compile : ClassRef → Compiling Blueprint) (owner : ClassRef)
  (declared : List ClassRef) (strict : Bool)

theorem accept_lax (bs : List Binding) : accept owner false bs = .ok () := by
  induction bs with
  | nil => rfl
  | cons b rest ih => cases sound : b.expression <;> simp [accept, sound, ih]

theorem exec_addBindings (spot : Spot) (s : Scan) (bs : List Binding) (w : Workshop) :
    (bs.foldlM (addBinding owner strict spot) s).exec w = match accept owner strict bs with
      | .ok () => (.ok { s with bindings := s.bindings ++ bs.map (spot, ·) },
          w.reporting (complaints owner bs))
      | .error e => (.error e, w) := by
  induction bs generalizing s w with
  | nil => simp [accept, complaints, exec_pure, Workshop.reporting_nil]
  | cons b rest ih =>
      rw [List.foldlM_cons, exec_bind]
      cases sound : b.expression with
      | ok expression =>
          have step : (addBinding owner strict spot s b).exec w =
              (.ok { s with bindings := s.bindings ++ [(spot, b)] }, w) := by
            simp only [addBinding, sound]
            rfl
          simp [step, ih, accept, complaints, sound]
      | error e =>
          cases strict with
          | true =>
              have step : (addBinding owner true spot s b).exec w =
                  (.error (.invalidBinding owner.name b.written e), w) := by
                simp only [addBinding, sound]
                rfl
              simp [step, accept, sound]
          | false =>
              have step : (addBinding owner false spot s b).exec w =
                  (.ok { s with bindings := s.bindings ++ [(spot, b)] },
                    w.reporting [.broken owner.name b.written e]) := by
                simp only [addBinding, sound]
                rfl
              simp [step, ih, accept_lax, complaints, sound, Workshop.reporting_reporting]

/-- What takes the place of an element: nothing, or the blueprint of the class that its
tag stands for. -/
inductive Places (w : Workshop) (element : List Nat × NodeData) :
    Except ConfigurationError (List (Spot × Blueprint)) → Workshop → Prop
  | plain (unmatched : classOf? declared element.2.describe = none) :
      Places w element (.ok []) w
  | taken {c : ClassRef} {r : Except ConfigurationError Blueprint} {v : Workshop}
      (matched : classOf? declared element.2.describe = some c)
      (compiled : (compile c).exec w = (r, v)) :
      Places w element (r.map fun b => [(spotOf element, b)]) v

/-- Reading elements in order, up to their end or to the first failure. -/
inductive Reads : Workshop → List (List Nat × NodeData) →
    Except ConfigurationError (List (Spot × Blueprint)) → Workshop → Prop
  | done (w : Workshop) : Reads w [] (.ok []) w
  | stopped {w v : Workshop} {element : List Nat × NodeData}
      {rest : List (List Nat × NodeData)} {e : ConfigurationError}
      (placed : Places compile declared w element (.error e) v) :
      Reads w (element :: rest) (.error e) v
  | refused {w v : Workshop} {element : List Nat × NodeData}
      {rest : List (List Nat × NodeData)} {e : ConfigurationError}
      {here : List (Spot × Blueprint)}
      (placed : Places compile declared w element (.ok here) v)
      (broken : accept owner strict (Binding.among element.2.attrs) = .error e) :
      Reads w (element :: rest) (.error e) v
  | next {w v u : Workshop} {element : List Nat × NodeData}
      {rest : List (List Nat × NodeData)} {here : List (Spot × Blueprint)}
      {r : Except ConfigurationError (List (Spot × Blueprint))}
      (placed : Places compile declared w element (.ok here) v)
      (admitted : accept owner strict (Binding.among element.2.attrs) = .ok ())
      (later : Reads (v.reporting (complaints owner (Binding.among element.2.attrs))) rest r u) :
      Reads w (element :: rest) (r.map (here ++ ·)) u

theorem exec_addChild (element : List Nat × NodeData) (s : Scan) (w : Workshop) :
    ∃ r v, Places compile declared w element r v ∧
      (addChild compile declared (spotOf element) s).exec w =
        (r.map fun here => { s with
          children := s.children ++ here
          used := usedOn declared s.used [element] }, v) := by
  cases matched : classOf? declared element.2.describe with
  | none =>
      refine ⟨.ok [], w, .plain matched, ?_⟩
      simp [addChild, spotOf, matched, usedOn, exec_pure, Except.map]
  | some c =>
      rcases compiled : (compile c).exec w with ⟨r, v⟩
      refine ⟨_, v, .taken matched compiled, ?_⟩
      simp only [addChild, spotOf, matched, exec_bind, compiled]
      cases r with
      | error e => rfl
      | ok b => simp only [exec_pure, Except.map, usedOn, List.foldl, matched]

theorem addElement_eq (element : List Nat × NodeData) (s : Scan) :
    addElement compile owner declared strict s element =
      (addChild compile declared (spotOf element) s >>= fun s =>
        (Binding.among element.2.attrs).foldlM (addBinding owner strict (spotOf element)) s) := by
  unfold addElement spotOf
  dsimp only

theorem exec_addElements (elements : List (List Nat × NodeData)) (s : Scan) (w : Workshop) :
    ∃ r v, Reads compile owner declared strict w elements r v ∧
      (elements.foldlM (addElement compile owner declared strict) s).exec w =
        (r.map (s.extended declared elements), v) := by
  induction elements generalizing s w with
  | nil =>
      refine ⟨_, w, .done w, ?_⟩
      simp [exec_pure, extended, bindingsOn, usedOn, Except.map]
  | cons element rest ih =>
      obtain ⟨r, v, placed, child⟩ := exec_addChild compile declared element s w
      rw [List.foldlM_cons, exec_bind, addElement_eq, exec_bind, child]
      cases r with
      | error e => exact ⟨_, v, .stopped placed, rfl⟩
      | ok here =>
          simp only [Except.map, exec_addBindings]
          cases admitted : accept owner strict (Binding.among element.2.attrs) with
          | error e => exact ⟨_, v, .refused placed admitted, rfl⟩
          | ok _ =>
              obtain ⟨r, u, later, outcome⟩ := ih
                ⟨s.bindings ++ (Binding.among element.2.attrs).map (spotOf element, ·),
                  s.children ++ here, usedOn declared s.used [element]⟩ (v.reporting _)
              refine ⟨_, u, .next placed admitted later, ?_⟩
              simp only [outcome]
              cases r <;> simp [Except.map, extended, bindingsOn, usedOn]

theorem exec_ofTree (root : Tree) (w : Workshop) :
    ∃ r v, Reads compile owner declared w.compiler.options.strictExpressions w
        root.elementsBelow r v ∧
      (ofTree compile owner declared root).exec w =
        (r.map (({} : Scan).extended declared root.elementsBelow), v) := by
  simp only [ofTree, exec_bind, exec_get]
  exact exec_addElements _ _ _ _ _ _ _

/-- The faults of declared classes that are unused, or the first where none may be. -/
def verdict (owner : ClassRef) (strict : Bool) (unused : List ClassRef) :
    Except ConfigurationError (List ConfigurationError) :=
  match strict, unused with
  | true, c :: _ => .error (.unusedComponent owner.name c.name c.tag)
  | _, _ => .ok (unused.map fun c => .unusedComponent owner.name c.name c.tag)

end Scan

/-! ## Making blueprints -/

namespace Compiler

open Compiling Scan

theorem exec_warnUnused (owner : ClassRef) (unused : List ClassRef) (w : Workshop) :
    (warnUnused owner unused).exec w =
      match verdict owner w.compiler.options.strictComponents unused with
      | .ok warnings => (.ok warnings, w.reporting (warnings.map .unused).reverse)
      | .error e => (.error e, w) := by
  simp only [warnUnused, exec_bind, exec_get]
  generalize strict : w.compiler.options.strictComponents = b
  cases b with
  | true =>
      cases unused with
      | nil => rfl
      | cons c rest => simp only [List.mapM_cons, exec_bind]; rfl
  | false =>
      clear strict
      simp only [verdict, Bool.false_eq_true, if_false]
      induction unused generalizing w with
      | nil => rfl
      | cons c rest ih =>
          simp only [List.mapM_cons, exec_bind, exec_report, exec_pure] at ih ⊢
          rw [ih]
          simp [Workshop.reporting_reporting]

theorem exec_consult (catalog : Catalog) (c : ClassRef) (w : Workshop) :
    (consult catalog c).exec w = match catalog.metadata c with
      | .ok m => (.ok m, w.reporting [.consulted c.id])
      | .error e => (.error e, w) := by
  simp only [consult, Catalog.metadata]
  cases c.declared <;> rfl

theorem exec_readTemplate (c : ClassRef) (markup : String) (w : Workshop) :
    (readTemplate c markup).exec w = match Template.parse? markup with
      | some t => (.ok t, w)
      | none => (.error (.templateParse c.name Template.noBodyReason), w) := by
  simp only [readTemplate]
  cases Template.parse? markup <;> rfl

variable (catalog : Catalog) (compile : ClassRef → Compiling Blueprint)

/-- The workshop in which the template of a class is read. -/
def opened (w : Workshop) (c : ClassRef) : Workshop :=
  (w.reporting [.consulted c.id]).enter c

/-- The declared classes that a template does not use. -/
def unusedIn (m : Metadata) (t : Template) : List ClassRef :=
  m.components.filter fun c => !(usedOn m.components [] t.root.elementsBelow).any c.same

/-- Making the blueprint of a class, up to its end or to one of four failures. -/
inductive Makes (w : Workshop) (c : ClassRef) :
    Except ConfigurationError Blueprint → Workshop → Prop
  | undeclared {e : ConfigurationError} (missing : catalog.metadata c = .error e) :
      Makes w c (.error e) w
  | unreadable {m : Metadata} (declared : catalog.metadata c = .ok m)
      (unparsed : Template.parse? m.template = none) :
      Makes w c (.error (.templateParse c.name Template.noBodyReason))
        (w.reporting [.consulted c.id])
  | unread {m : Metadata} {t : Template} {e : ConfigurationError} {v : Workshop}
      (declared : catalog.metadata c = .ok m) (parsed : Template.parse? m.template = some t)
      (read : Reads compile c m.components w.compiler.options.strictExpressions (opened w c)
        t.root.elementsBelow (.error e) v) :
      Makes w c (.error e) v.leave
  | unused {m : Metadata} {t : Template} {children : List (Spot × Blueprint)}
      {e : ConfigurationError} {v : Workshop}
      (declared : catalog.metadata c = .ok m) (parsed : Template.parse? m.template = some t)
      (read : Reads compile c m.components w.compiler.options.strictExpressions (opened w c)
        t.root.elementsBelow (.ok children) v)
      (judged : verdict c v.compiler.options.strictComponents (unusedIn m t) = .error e) :
      Makes w c (.error e) v.leave
  | made {m : Metadata} {t : Template} {children : List (Spot × Blueprint)}
      {warnings : List ConfigurationError} {v : Workshop}
      (declared : catalog.metadata c = .ok m) (parsed : Template.parse? m.template = some t)
      (read : Reads compile c m.components w.compiler.options.strictExpressions (opened w c)
        t.root.elementsBelow (.ok children) v)
      (judged : verdict c v.compiler.options.strictComponents (unusedIn m t) = .ok warnings) :
      Makes w c
        (.ok (.mk v.compiler.serial c t (bindingsOn t.root.elementsBelow) children warnings))
        ((v.leave.reporting (warnings.map .unused).reverse).keep
          (.mk v.compiler.serial c t (bindingsOn t.root.elementsBelow) children warnings))

theorem exec_make (c : ClassRef) (w : Workshop) {r : Except ConfigurationError Blueprint}
    {v : Workshop} (run : (make catalog compile c).exec w = (r, v)) :
    Makes catalog compile w c r v := by
  simp only [make, exec_bind, exec_consult] at run
  cases declared : catalog.metadata c with
  | error e =>
      simp only [declared, Prod.mk.injEq] at run
      obtain ⟨rfl, rfl⟩ := run
      exact .undeclared declared
  | ok m =>
      simp only [declared, exec_readTemplate] at run
      cases parsed : Template.parse? m.template with
      | none =>
          simp only [parsed, Prod.mk.injEq] at run
          obtain ⟨rfl, rfl⟩ := run
          exact .unreadable declared parsed
      | some t =>
          obtain ⟨read, u, reads, outcome⟩ := exec_ofTree compile c m.components t.root
            (opened w c)
          simp only [parsed, exec_within] at run
          rw [show (w.reporting [.consulted c.id]).enter c = opened w c from rfl, outcome] at run
          cases read with
          | error e =>
              simp only [Except.map, Prod.mk.injEq] at run
              obtain ⟨rfl, rfl⟩ := run
              exact .unread declared parsed reads
          | ok children =>
              simp only [Except.map, exec_warnUnused] at run
              rw [show (({} : Scan).extended m.components t.root.elementsBelow children).unused
                m.components = unusedIn m t from rfl] at run
              cases judged : verdict c u.compiler.options.strictComponents (unusedIn m t) with
              | error e =>
                  simp only [Workshop.options_leave, judged, Prod.mk.injEq] at run
                  obtain ⟨rfl, rfl⟩ := run
                  exact .unused declared parsed reads judged
              | ok warnings =>
                  simp only [Workshop.options_leave, judged, exec_get, exec_change, exec_pure,
                    Prod.mk.injEq] at run
                  obtain ⟨rfl, rfl⟩ := run
                  exact .made declared parsed reads judged

/-- A class has its blueprint already, or it is in progress, or its blueprint is made. -/
theorem exec_obtain_cases (c : ClassRef) (w : Workshop)
    {r : Except ConfigurationError Blueprint} {v : Workshop}
    (run : (obtain catalog compile c).exec w = (r, v)) :
    (∃ b, w.compiler.find? c = some b ∧ r = .ok b ∧ v = w) ∨
      (w.compiler.find? c = none ∧ w.compiler.isCompiling c = true ∧
        r = .error (.recursiveComponent c.name) ∧ v = w) ∨
      (w.compiler.find? c = none ∧ w.compiler.isCompiling c = false ∧
        Makes catalog compile w c r v) := by
  simp only [obtain, exec_bind, exec_get] at run
  cases found : w.compiler.find? c with
  | some b =>
      simp only [found, exec_pure, Prod.mk.injEq] at run
      exact .inl ⟨b, rfl, run.1.symm, run.2.symm⟩
  | none =>
      cases busy : w.compiler.isCompiling c with
      | true =>
          simp only [found, busy, if_true, exec_bind, exec_throw, Prod.mk.injEq] at run
          exact .inr (.inl ⟨rfl, rfl, run.1.symm, run.2.symm⟩)
      | false =>
          simp only [found, busy, Bool.false_eq_true, if_false] at run
          exact .inr (.inr ⟨rfl, rfl, exec_make catalog compile c w run⟩)

end Compiler

end LiveTemplates
