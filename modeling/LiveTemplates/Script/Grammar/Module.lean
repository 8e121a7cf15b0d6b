/-
# LiveTemplates.Script.Grammar.Module -- sources as a whole

A source is read as one expression (`readExpression`) or as a module, a list of
statements (`readModule`).  Only a module may import and export, and only at its
top.  The texts that stand as statements at its start are directives and no part
of what it does.
-/
import LiveTemplates.Script.Grammar.Statement

namespace LiveTemplates.Script

/-! ## The rules tied together -/

/-- The rules of the language, with references up to a depth. -/
def Grammar.ofDepth : Nat → Grammar
  | 0 => .empty
  | depth + 1 =>
    let g := ofDepth depth
    { expression := expressionRule g
      assignment := assignmentRule g
      operation := operationRule g
      operand := operandRule g
      primary := fun ctx => primaryRule g ctx (constructionExpression g ctx)
      access := accessRule g
      binding := bindingRule g
      statement := statementRule g }

/-! ## Imports and exports -/

/-- What a module exports or imports under a name: a word or a text. -/
def exportedName : Parse Unit := do
  match ← kind with
  | .word .. | .text _ => advance
  | _ => refuse

/-- The name that an import declares. -/
def importedBinding (ctx : Context) : Parse Unit := do
  if (← nameHere? ctx).isSome then advance else refuse

/-- One of the imported names between braces. -/
def importSpecifier (ctx : Context) : Parse Unit := do
  let declares := (← nameHere? ctx).isSome
  exportedName
  if ← eatWord "as" then importedBinding ctx
  else if !declares then refuse

/-- One of the exported names between braces; the result tells whether it could
name something of this module. -/
def exportSpecifier (ctx : Context) : Parse Bool := do
  let isName := (← nameHere? ctx).isSome
  exportedName
  if ← eatWord "as" then exportedName
  return isName

/-- One attribute of an import. -/
def importAttribute : Parse Unit := do
  exportedName
  expectMark ":"
  match ← kind with
  | .text _ => advance
  | _ => refuse

/-- The attributes of an import, if there are any. -/
def importAttributes : Parse Unit := do
  if (← atWord "with") || ((← atWord "assert") && !(← afterBreak)) then
    advance
    expectMark "\x7b"
    let _ ← listUntil "\x7d" importAttribute (← remaining) []
    expectMark "\x7d"

/-- The source of an import with its attributes, up to the end of the statement. -/
def importSource : Parse Unit := do
  match ← kind with
  | .text _ => advance
  | _ => refuse
  importAttributes
  endStatement

/-- The names that an import declares. -/
def importNames (ctx : Context) : Parse Unit := do
  let more ← if (← nameHere? ctx).isSome then
      advance
      eatMark ","
    else pure true
  if more then
    if ← eatMark "*" then
      expectWord "as"
      importedBinding ctx
    else
      expectMark "\x7b"
      let _ ← listUntil "\x7d" (importSpecifier ctx) (← remaining) []
      expectMark "\x7d"

/-- An import with its keyword. -/
def importDeclaration (ctx : Context) : Parse Unit := do
  expectWord "import"
  match ← kind with
  | .text _ => importSource
  | _ =>
    let phased ← (do
      if ← atWord "defer" then aheadIs (atMark "*")
      else if ← atWord "source" then
        aheadIs do
          if (← nameHere? ctx).isNone then return false
          return !(← atWord "from") || (← aheadIs (atWord "from"))
      else return false)
    if phased then advance
    importNames ctx
    expectWord "from"
    importSource

/-- What may be exported by default. -/
def exportDefault (g : Grammar) (ctx : Context) : Parse Unit := do
  if ← atFunction then
    let _ ← functionForm g ctx false
  else if (← atWord "class") || (← atMark "@") then classForm g ctx false
  else
    let _ ← assignmentRule g { ctx with inOperator := true }
    endStatement

/-- An export behind its keyword. -/
def exportDeclaration (g : Grammar) (ctx : Context) : Parse Unit := do
  if ← eatWord "default" then exportDefault g ctx
  else if ← eatMark "*" then
    if ← eatWord "as" then exportedName
    expectWord "from"
    importSource
  else if ← eatMark "\x7b" then
    let (names, _) ← listUntil "\x7d" (exportSpecifier ctx) (← remaining) []
    expectMark "\x7d"
    if ← eatWord "from" then importSource
    else
      if !names.all id then refuse
      endStatement
  else
    let declares := (← atFunction) || (← atWord "class") || (← atMark "@") || (← atWord "var")
      || (← atWord "const") || (← atChangeable true)
    if !declares then refuse
    let _ ← statementRule g ctx true

/-! ## Modules -/

/-- Is an import declaration here, and not an expression that starts alike? -/
def atImport : Parse Bool := do
  if ← atWord "import" then aheadIs do return !(← atMarks [".", "("])
  else return false

/-- A statement at the top of a module. -/
def moduleItem (g : Grammar) (ctx : Context) : Parse Statement := do
  let start ← here
  if ← atImport then
    importDeclaration ctx
    return .other (← spanFrom start)
  decorators g ctx (← remaining)
  if ← eatWord "export" then
    exportDeclaration g ctx
    return .other (← spanFrom start)
  if (← here) == start then statementRule g ctx true
  else
    classForm g ctx true
    return .other (← spanFrom start)

/-- The statements of a module; the texts in front are left out while `directives`. -/
def moduleItems (g : Grammar) (ctx : Context) :
    Nat → Bool → List Statement → Parse (List Statement)
  | 0, _, _ => refuse
  | fuel + 1, directives, done => do
    if (← kind) == .finish then return done.reverse
    let item ← moduleItem g ctx
    match directives, item with
    | true, .expression (.literal _ (.text _)) => moduleItems g ctx fuel true done
    | _, item => moduleItems g ctx fuel false (item :: done)

/-! ## Reading -/

/-- A depth that no source of this length can exceed. -/
def depthOf (source : List Char) : Nat :=
  4 * source.length + 16

/-- Runs a rule from the start of a source; no name of an object may be left with a
default. -/
def readFrom {α : Type} (c : Cursor) (rule : Parse α) : Option α := do
  let p ← Position.start c
  let (a, p) ← rule.run p
  if p.defaults.isEmpty then some a else none

/-- The expression at the start of a source; the token behind it has to be one. -/
def readExpression (source : List Char) : Option Term :=
  readFrom ⟨source, 0⟩ (expressionRule (.ofDepth (depthOf source)) {})

/-- Behind the line that may name the interpreter of a source. -/
def skipInterpreterLine (source : List Char) : Cursor :=
  match source with
  | '#' :: '!' :: rest =>
    let line := rest.takeWhile fun c => !isLineBreak c
    ⟨rest.drop line.length, line.length + 2⟩
  | _ => ⟨source, 0⟩

/-- The statements of a source, without directives. -/
def readModule (source : List Char) : Option (List Statement) :=
  readFrom (skipInterpreterLine source) do
    moduleItems (.ofDepth (depthOf source)) {} (← remaining) true []

end LiveTemplates.Script
