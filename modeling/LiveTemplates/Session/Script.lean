/-
# LiveTemplates.Session.Script -- the user's code of a session

Handlers, refreshes and methods are scripts: they take further steps, which can run
further scripts.  How deep this goes is bounded; beyond the bound there is no result.
-/
import LiveTemplates.Session.Perform.Events
import LiveTemplates.Session.Perform.Instances
import LiveTemplates.Session.Perform.Tree

namespace LiveTemplates.Session

/-- How a step that is taken inside of a script runs. -/
abbrev Stepping := Json → Act Json

namespace Script

/-- Adds an entry to the log. -/
def say (entry : Json) : Act Unit :=
  modify fun w => { w with user := w.user.say entry }

/-- Takes a step inside of a script, and logs its answer unless it logs by itself. -/
def take (step : Stepping) (j : Json) : Act Unit := do
  let answer ← step j
  if kindOfStep j != "log" then say (.list [.text "r", .text (kindOfStep j), answer])

/-- Changes the object of a number. -/
def change (o : ObjectId) (f : Object → Object) : Act Unit :=
  modify fun w => { w with user := w.user.setObject o (f (w.user.object o)) }

/-- The value of a member as an action reads it. -/
def member (o : ObjectId) (name : String) : Act Value :=
  return ((← get).user.object o).member name

/-- Runs the actions of a method. -/
def run (step : Stepping) (o : ObjectId) (args : List Value) :
    List Action → Act (Except ExpressionError Value)
  | [] => return .ok .undefined
  | a :: rest => do
    match a with
    | .assign name x =>
      change o (·.put name (x.eval args))
      run step o args rest
    | .increase name x =>
      let v ← member o name
      change o (·.put name (.number (v.toNumber + (x.eval args).toNumber)))
      run step o args rest
    | .extend name x =>
      let v ← member o name
      change o (·.put name (.text (v.display ++ (x.eval args).display)))
      run step o args rest
    | .step s =>
      take step s
      run step o args rest
    | .fail message => return .error (.runtime message)
    | .giveMember name => return .ok (← member o name)
    | .give x => return .ok (x.eval args)

/-- Calls a method of an object. -/
def call (step : Stepping) (o : ObjectId) (method : String) (args : List Value) :
    Act (Except ExpressionError Value) := do
  let object := (← get).user.object o
  say (.list [.text "call", .text object.label, .text method, .list (args.map ofValue)])
  match object.method? method with
  | none => return .error (.unknownMethod method)
  | some actions => run step o args actions

/-- Runs a handler. -/
def handler (step : Stepping) (name : String) : Act Unit := do
  say (.list [.text "handler", .text name])
  (((← get).user.setting.handlers.lookup name).getD []).forM (take step)

/-- Runs a refresh. -/
def refresh (step : Stepping) (name : String) : Act (Except ExpressionError Unit) := do
  say (.list [.text "refresh", .text name])
  let r := ((← get).user.setting.refreshes.lookup name).getD {}
  r.steps.forM (take step)
  match r.failure with
  | none => return .ok ()
  | some message => return .error (.runtime message)

end Script

/-- The user's code, with a way to run steps inside of scripts. -/
def codeWith (step : Stepping) : UserCode State where
  get := State.getMember
  set := State.setMember
  call := Script.call step
  handler := Script.handler step
  refresh := Script.refresh step
  construct := State.construct
  notice n s := s.say (ofNotice n)
  holds := State.holds

/-- Performs a task. -/
def Task.perform (u : UserCode State) (register : Option String) : Task → Answering Json
  | .tree s => s.perform register
  | .compiler s => s.perform u register
  | .instances s => s.perform u register
  | .event s => s.perform u register

/-- Performs the step that a record describes. -/
def performRecord (u : UserCode State) (j : Json) : Act Json :=
  match Step.read? j with
  | none => return badReference
  | some s => return (← (s.task.perform u s.register).run).getD badReference

/-- The user's code, with scripts inside of each other down to a depth. -/
def code : Nat → UserCode State
  | 0 => codeWith fun _ => failure
  | depth + 1 => codeWith (performRecord (code depth))

/-- How deep scripts may go. -/
def scriptDepth : Nat := 1000

end LiveTemplates.Session
