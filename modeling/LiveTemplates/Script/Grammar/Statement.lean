/-
# LiveTemplates.Script.Grammar.Statement -- statements

Of a statement that is no expression only the place is kept, so its parts are
read to find its end.  A statement that stands alone, as the body of a loop or
behind a label, must not declare a class, a constant or a function that waits or
generates.
-/
import LiveTemplates.Script.Grammar.Expression

namespace LiveTemplates.Script

/-- An expression of which nothing is kept. -/
def skipExpression (g : Grammar) (ctx : Context) : Parse Unit := do
  let _ ← expressionRule g { ctx with inOperator := true }

/-- A condition between parentheses. -/
def condition (g : Grammar) (ctx : Context) : Parse Unit := do
  expectMark "("
  skipExpression g ctx
  expectMark ")"

/-- A statement that stands alone. -/
def loneStatement (g : Grammar) (ctx : Context) : Parse Unit := do
  let _ ← g.statement ctx false

/-! ## Declarations of variables -/

/-- The keywords that declare variables. -/
inductive Declarator where
  | variable | changeable | constant | resource
deriving DecidableEq

/-- One declared variable or pattern.  Where `complete`, what is never assigned
afterwards needs its value here. -/
def declared (g : Grammar) (ctx : Context) (d : Declarator) (complete : Bool) : Parse Unit := do
  let isPattern ← atMarks ["[", "\x7b"]
  if isPattern && d == .resource then refuse
  g.binding ctx
  if ← eatMark "=" then
    let _ ← g.assignment ctx
  else if complete && (isPattern || d == .constant || d == .resource) then refuse

/-- Declared variables separated by commas. -/
def declaredList (g : Grammar) (ctx : Context) (d : Declarator) (complete : Bool) : Nat → Parse Unit
  | 0 => refuse
  | fuel + 1 => do
    declared g ctx d complete
    if ← eatMark "," then declaredList g ctx d complete fuel

/-- Is the declaration of a resource here, `using` with a name on its line? -/
def atResource (ctx : Context) : Parse Bool := do
  if ← atWord "using" then
    aheadIs do return (← nameOnLine ctx) && !(← atWord "of")
  else return false

/-- Is a waiting declaration of a resource here? -/
def atAwaitedResource (ctx : Context) : Parse Bool := do
  if ctx.await && (← atWord "await") then
    aheadIs do return !(← afterBreak) && (← atResource ctx)
  else return false

/-- Does `let` start a declaration here?  In front of an operator, a member, a call
or the end of the statement it is a name. -/
def atChangeable (listed : Bool) : Parse Bool := do
  if ← atWord "let" then
    aheadIs do
      let k ← kind
      let isOperator := (assignmentOperator? k).isSome || (infixed? k).isSome
      let isName := isOperator || (← atMarks [".", "(", ";"]) || (!listed && !(← atMark "["))
      return !isName
  else return false

/-- Takes the keyword of a declaration, if there is one. -/
def eatDeclarator (ctx : Context) (listed : Bool) : Parse (Option Declarator) := do
  if ← eatWord "var" then return some .variable
  if ← eatWord "const" then return some .constant
  if ← atChangeable listed then advance; return some .changeable
  if ← atResource ctx then advance; return some .resource
  if ← atAwaitedResource ctx then advance; advance; return some .resource
  return none

/-! ## Loops -/

/-- The rest of a loop over the members of something, from `in` or `of`. -/
def loopOver (g : Grammar) (ctx : Context) : Parse Unit := do
  if ← eatWord "in" then skipExpression g ctx
  else
    expectWord "of"
    let _ ← assignmentRule g { ctx with inOperator := true }
  expectMark ")"
  loneStatement g ctx

/-- The rest of a counting loop, from its first semicolon. -/
def loopCounting (g : Grammar) (ctx : Context) : Parse Unit := do
  expectMark ";"
  if !(← atMark ";") then skipExpression g ctx
  expectMark ";"
  if !(← atMark ")") then skipExpression g ctx
  expectMark ")"
  loneStatement g ctx

/-- Is a loop over members to come? -/
def atLoopOver : Parse Bool := do
  return (← atWord "in") || (← atWord "of")

def forStatement (g : Grammar) (ctx : Context) : Parse Unit := do
  advance
  let awaits ← if ctx.await then eatWord "await" else pure false
  expectMark "("
  if !awaits && (← atMark ";") then loopCounting g ctx
  else
    let head := { ctx with inOperator := false }
    let start ← get
    match ← eatDeclarator ctx true with
    | some d =>
      declaredList g head d false (← remaining)
      if ← atLoopOver then loopOver g ctx
      else if awaits then refuse
      else
        set start
        let _ ← eatDeclarator ctx true
        declaredList g head d true (← remaining)
        loopCounting g ctx
    | none =>
      let asyncName ← atWord "async"
      let letName ← atWord "let"
      let t ← expressionRule g head
      if ← atLoopOver then
        let _ ← asTarget t
        if (← atWord "of") && (letName || (asyncName && !awaits && t matches .name ..)) then refuse
        loopOver g ctx
      else if awaits then refuse
      else loopCounting g ctx

def whileStatement (g : Grammar) (ctx : Context) : Parse Unit := do
  advance
  condition g ctx
  loneStatement g ctx

def doStatement (g : Grammar) (ctx : Context) : Parse Unit := do
  advance
  loneStatement g ctx
  expectWord "while"
  condition g ctx
  let _ ← eatMark ";"

/-! ## Branches -/

def ifStatement (g : Grammar) (ctx : Context) : Parse Unit := do
  advance
  condition g ctx
  loneStatement g ctx
  if ← eatWord "else" then loneStatement g ctx

/-- The statements of a case, up to the next case. -/
def caseStatements (g : Grammar) (ctx : Context) : Nat → Parse Unit
  | 0 => refuse
  | fuel + 1 => do
    if (← atWord "case") || (← atWord "default") || (← atMark "\x7d") then return
    innerStatement g ctx
    caseStatements g ctx fuel

/-- One case of a switch. -/
def switchCase (g : Grammar) (ctx : Context) : Parse Unit := do
  if ← eatWord "case" then skipExpression g ctx
  else expectWord "default"
  expectMark ":"
  caseStatements g ctx (← remaining)

def switchStatement (g : Grammar) (ctx : Context) : Parse Unit := do
  advance
  condition g ctx
  expectMark "\x7b"
  repeatUntil "\x7d" (switchCase g ctx) (← remaining)

def tryStatement (g : Grammar) (ctx : Context) : Parse Unit := do
  advance
  block g ctx
  let catches ← eatWord "catch"
  if catches then
    if ← eatMark "(" then
      g.binding ctx
      expectMark ")"
    block g ctx
  let finishes ← eatWord "finally"
  if finishes then block g ctx
  if !catches && !finishes then refuse

/-! ## Jumps -/

/-- `break` and `continue`, which may name a label on their line. -/
def jumpStatement (ctx : Context) : Parse Unit := do
  advance
  if ← nameOnLine ctx then advance
  endStatement

/-- Does the statement end in front of the current token? -/
def atStatementEnd : Parse Bool := do
  return (← atMarks [";", "\x7d"]) || (← kind) == .finish || (← afterBreak)

def returnStatement (g : Grammar) (ctx : Context) : Parse Unit := do
  advance
  if !ctx.returning then refuse
  if !(← atStatementEnd) then skipExpression g ctx
  endStatement

def throwStatement (g : Grammar) (ctx : Context) : Parse Unit := do
  advance
  if ← afterBreak then refuse
  skipExpression g ctx
  endStatement

/-! ## All of them -/

/-- A statement that starts with an expression: the expression, or a label with
its statement. -/
def expressionStatement (g : Grammar) (ctx : Context) : Parse Statement := do
  let start ← here
  let t ← expressionRule g { ctx with inOperator := true }
  if let .name .. := t then
    if ← eatMark ":" then
      loneStatement g ctx
      return .other (← spanFrom start)
  endStatement
  return .expression t

/-- The statements that a keyword starts. -/
def keywordStatement? (g : Grammar) (ctx : Context) : TokenKind → Option (Parse Unit)
  | .mark "\x7b" => some (block g ctx)
  | .word "if" false => some (ifStatement g ctx)
  | .word "for" false => some (forStatement g ctx)
  | .word "while" false => some (whileStatement g ctx)
  | .word "do" false => some (doStatement g ctx)
  | .word "break" false | .word "continue" false => some (jumpStatement ctx)
  | .word "with" false => some (whileStatement g ctx)
  | .word "switch" false => some (switchStatement g ctx)
  | .word "throw" false => some (throwStatement g ctx)
  | .word "try" false => some (tryStatement g ctx)
  | .word "debugger" false => some (do advance; endStatement)
  | .word "return" false => some (returnStatement g ctx)
  | _ => none

/-- A statement inside of a list of them or, if not `listed`, alone. -/
def statementRule (g : Grammar) (ctx : Context) (listed : Bool) : Parse Statement := do
  let start ← here
  if ← eatMark ";" then return .empty
  if let some rule := keywordStatement? g ctx (← kind) then
    rule
    return .other (← spanFrom start)
  if ← atFunction then
    let (isAsync, isGenerator) ← functionForm g ctx true
    if !listed && (isAsync || isGenerator) then refuse
    return .other (← spanFrom start)
  if (← atWord "class") || (← atMark "@") then
    if !listed then refuse
    classForm g ctx true
    return .other (← spanFrom start)
  match ← eatDeclarator ctx listed with
  | some d =>
    if !listed && d != .variable then refuse
    declaredList g { ctx with inOperator := true } d true (← remaining)
    endStatement
    return .other (← spanFrom start)
  | none => expressionStatement g ctx

end LiveTemplates.Script
