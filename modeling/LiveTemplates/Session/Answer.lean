/-
# LiveTemplates.Session.Answer -- requests and their answers

A request asks a question about values, texts and classes, compiles an expression and
runs it against an object, or is a whole session: a document and the steps that are
taken one after the other.
-/
import LiveTemplates.Session.Script

namespace LiveTemplates.Session

/-! ## Sessions -/

/-- A refresh that a record describes. -/
def toRefresh (j : Json) : ScriptedRefresh :=
  ⟨itemsAt j "steps", text? j "fail"⟩

/-- What a request sets up for a session. -/
def toSetting (q : Json) : Setting where
  catalog := toCatalog (q.field? "classes")
  scopes := (entriesOf (q.field? "classes")).filterMap fun (id, j) => (j.field? "scope").map (id, ·)
  handlers := (entriesOf (q.field? "handlers")).map fun (name, j) => (name, (j.items?).getD [])
  refreshes := (entriesOf (q.field? "refreshes")).map fun (name, j) => (name, toRefresh j)

/-- The world around a document. -/
def worldAround (markup : String) (setting : Setting) : World State :=
  let (forest, document) := Markup.parse markup
  { forest := forest, document := document, user := { setting := setting } }

/-- The log of a world, in order, and the world with an empty one. -/
def takeLog (w : World State) : List Json × World State :=
  (w.user.log.reverse, { w with user := { w.user with log := [] } })

/-- The answers to steps; `before` is the markup of the document in front of them.  Where
scripts go too deep nothing more is answered. -/
def answerSteps (u : UserCode State) : String → List Json → World State → List Json
  | _, [], _ => []
  | before, step :: steps, w =>
    match (performRecord u step).run w with
    | none => []
    | some (answer, w) =>
      let (log, w) := takeLog w
      let after := markupBelow w.forest w.document
      let entries := [("r", answer)]
        ++ (if log.isEmpty then [] else [("log", .list log)])
        ++ (if after == before then [] else [("html", .text after)])
      record entries :: answerSteps u after steps w

/-- The answer to a session. -/
def answerSession (q : Json) : Json :=
  let w := worldAround (textAt q "html") (toSetting q)
  let before := markupBelow w.forest w.document
  .list (record [("html", .text before)]
    :: answerSteps (code scriptDepth) before (itemsAt q "steps") w)

/-! ## Expressions -/

/-- Evaluates with an object that is busy meanwhile. -/
def evaluateHeld (u : UserCode State) (e : Expression) (o : ObjectId) : Act Json := do
  modify fun w => { w with busy := o :: w.busy }
  let outcome ← e.evaluate u o
  modify fun w => { w with busy := w.busy.erase o }
  return ofOutcome outcome

/-- The register of the object of an expression. -/
def ownName : String := "o"

/-- Performs a step with an expression and an object. -/
def performWith (u : UserCode State) (e : Expression) (o : ObjectId) (j : Json) : Act Json := do
  match kindOfStep j, j with
  | "eval", _ | "shared", _ => return ofOutcome (← e.evaluate u o)
  | "held", _ => evaluateHeld u e o
  | "get", .record entries | "set", .record entries | "call", .record entries =>
    performRecord u (.record (entries ++ [("of", .text ownName)]))
  | _, _ => return badReference

/-- The answers to steps with an expression and an object, and the world behind them. -/
def answerStepsWith (u : UserCode State) (e : Expression) (o : ObjectId) :
    List Json → World State → List Json × World State
  | [], w => ([], w)
  | step :: steps, w =>
    match (performWith u e o step).run w with
    | none => ([], w)
    | some (answer, w) =>
      let (log, w) := takeLog w
      let (answers, w) := answerStepsWith u e o steps w
      (record [("r", answer), ("log", .list log)] :: answers, w)

/-- The steps of a question about an expression: an evaluation if it has none of its own. -/
def stepsOf (q : Json) : List Json :=
  match (q.field? "steps").bind Json.items? with
  | some steps => steps
  | none => [record [("do", .text "eval")]]

/-- The answer about an expression and an object. -/
def answerExpression (q : Json) : Json :=
  match Expression.compile (kindAt q) (textAt q "source") with
  | .error e => ofExpressionError e
  | .ok e =>
    let o : ObjectId := 0
    let object := Object.ofJson ownName ((q.field? "scope").getD (.record []))
    let w := worldAround "" {}
    let w := { w with
      serial := 1
      user := { w.user.setObject o object with objectNames := [(ownName, o)] } }
    let (answers, w) := answerStepsWith (code scriptDepth) e o (stepsOf q) w
    let program := if (q.field? "ast").bind Json.bool? = some false then []
      else [("program", ofProgram e.program)]
    record (program ++ [("dependencies", texts e.dependencies), ("kind", ofBindingKind e.kind),
      ("steps", .list answers), ("members", (w.user.object o).shownMembers)])

/-! ## Requests -/

/-- The answer to a request. -/
def answer (q : Json) : Json :=
  match textAt q "op" with
  | "session" => answerSession q
  | "expr" => answerExpression q
  | _ => (inspect? q).getD badReference

/-- The answer to a line of text. -/
def answerLine (line : String) : String :=
  let reply := match Json.read line with
    | .ok q => answer q
    | .error _ => record [("error", .text "BadRequest")]
  Json.write reply

end LiveTemplates.Session
