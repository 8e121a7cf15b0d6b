/-
# LiveTemplates.Script.Grammar.Expression -- expressions

From the loosest to the tightest: expressions separated by commas, assignments
and arrow functions, conditional expressions, operations with two operands,
operators in front of an operand, members and calls, primary expressions.
-/
import LiveTemplates.Script.Grammar.Function
import LiveTemplates.Script.Grammar.Pattern

namespace LiveTemplates.Script

/-! ## Literals with parts -/

/-- The pieces and expressions of a text, from its first piece. -/
def templatePieces (g : Grammar) (ctx : Context) :
    Nat → List (Option String) → List Term → Parse (List (Option String) × List Term)
  | 0, _, _ => refuse
  | fuel + 1, texts, parts => do
    match ← kind with
    | .piece s last =>
      advance
      if last then return ((s :: texts).reverse, parts.reverse)
      let part ← g.expression { ctx with inOperator := true }
      if !(← atMark "\x7d") then refuse
      retakePiece
      templatePieces g ctx fuel (s :: texts) (part :: parts)
    | _ => refuse

/-- A text with expressions; its escapes have to be right. -/
def templateLiteral (g : Grammar) (ctx : Context) : Parse Term := do
  let start ← here
  let (texts, parts) ← templatePieces g ctx (← remaining) [] []
  if texts.all (·.isSome) then
    return .template (← spanFrom start) (texts.filterMap id) parts
  refuse

/-- An item of a list or an argument: an expression, or a spread one. -/
def itemOrSpread (g : Grammar) (ctx : Context) : Parse Term := do
  let start ← here
  if ← eatMark "..." then
    let inner ← g.assignment { ctx with inOperator := true }
    return .spread (← spanFrom start) inner
  g.assignment { ctx with inOperator := true }

/-- The items of a list behind its bracket; a missing item is a hole. -/
def arrayItems (g : Grammar) (ctx : Context) :
    Nat → List Term → Bool → Parse (List Term × Bool)
  | 0, _, _ => refuse
  | fuel + 1, done, comma => do
    if ← atMark "]" then return (done.reverse, comma)
    let start ← here
    if ← eatMark "," then
      arrayItems g ctx fuel (.other ⟨start, start⟩ .hole :: done) false
    else
      let item ← itemOrSpread g ctx
      if ← atMark "]" then return ((item :: done).reverse, false)
      expectMark ","
      arrayItems g ctx fuel (item :: done) true

def arrayLiteral (g : Grammar) (ctx : Context) : Parse Term := do
  let start ← here
  expectMark "["
  let (items, comma) ← arrayItems g ctx (← remaining) [] false
  expectMark "]"
  return .array (← spanFrom start) items comma

/-- Does the name of a property end at the current token? -/
def endsPropertyName : Parse Bool :=
  atMarks ["(", ":", ",", "=", "\x7d"]

/-- Takes a word with more of the property behind it. -/
def eatPropertyModifier (w : String) (sameLine : Bool) : Parse Bool := do
  if ← atWord w then
    if ← aheadIs do return !(← endsPropertyName) && !(sameLine && (← afterBreak)) then
      advance
      return true
  return false

/-- One entry of an object. -/
def objectEntry (g : Grammar) (ctx : Context) : Parse Term := do
  let start ← here
  if ← atMark "..." then itemOrSpread g ctx
  else
    let isAsync ← eatPropertyModifier "async" true
    let accessor ← if isAsync then pure false
      else if ← eatPropertyModifier "get" false then pure true
      else eatPropertyModifier "set" false
    let isGenerator ← if accessor then pure false else eatMark "*"
    let word := (← nameHere? ctx)
    let _ ← propertyName g ctx
    if ← atMark "(" then
      functionRest g isAsync isGenerator
      return .other (← spanFrom start) .function
    if isAsync || accessor || isGenerator then refuse
    if ← eatMark ":" then
      let value ← g.assignment { ctx with inOperator := true }
      return .entry (← spanFrom start) value
    match word with
    | none => refuse
    | some id =>
      if ← eatMark "=" then
        let _ ← g.assignment { ctx with inOperator := true }
        modify fun p => { p with defaults := start :: p.defaults }
        return .shorthand (← spanFrom start) id true
      return .shorthand (← spanFrom start) id false

def objectLiteral (g : Grammar) (ctx : Context) : Parse Term := do
  let start ← here
  expectMark "\x7b"
  let (entries, comma) ← listUntil "\x7d" (objectEntry g ctx) (← remaining) []
  expectMark "\x7d"
  return .object (← spanFrom start) entries comma

/-- Expressions between parentheses. -/
def groupExpression (g : Grammar) (ctx : Context) : Parse Term := do
  let start ← here
  expectMark "("
  let inner ← g.expression { ctx with inOperator := true }
  expectMark ")"
  return .group (← spanFrom start) inner

/-! ## Primary expressions -/

/-- What may follow the keyword `import` in an expression. -/
def importExpression (g : Grammar) (ctx : Context) : Parse Term := do
  let start ← here
  advance
  if ← eatMark "." then
    if ← eatWord "meta" then return .other (← spanFrom start) .metaProperty
    if !((← eatWord "source") || (← eatWord "defer")) then refuse
  expectMark "("
  let _ ← g.assignment { ctx with inOperator := true }
  if ← eatMark "," then
    if !(← atMark ")") then
      let _ ← g.assignment { ctx with inOperator := true }
      let _ ← eatMark ","
  expectMark ")"
  return .other (← spanFrom start) .importCall

/-- A name, a literal, or an expression between brackets. -/
def primaryRule (g : Grammar) (ctx : Context) (construction : Parse Term) : Parse Term := do
  let start ← here
  let literal (v : Value) : Parse Term := do
    advance
    return .literal (← spanFrom start) v
  if ← atFunction then
    let _ ← functionForm g ctx false
    return .other (← spanFrom start) .function
  match ← kind with
  | .number x => literal (.number x)
  | .text s => literal (.text s)
  | .bigInteger => advance; return .other (← spanFrom start) .bigInteger
  | .piece .. => templateLiteral g ctx
  | .mark "(" => groupExpression g ctx
  | .mark "[" => arrayLiteral g ctx
  | .mark "\x7b" => objectLiteral g ctx
  | .mark "/" | .mark "/=" =>
    let span ← takePattern
    return .other span .pattern
  | .mark "@" => classForm g ctx false; return .other (← spanFrom start) .classBody
  | .word w escaped =>
    if !escaped then
      match w with
      | "this" => advance; return .this (← spanFrom start)
      | "null" => literal .null
      | "true" => literal (.bool true)
      | "false" => literal (.bool false)
      | "class" => classForm g ctx false; return .other (← spanFrom start) .classBody
      | "new" => construction
      | "import" => importExpression g ctx
      | _ =>
        if ctx.allowsName w then advance; return .name (← spanFrom start) w
        refuse
    else if ctx.allowsName w then advance; return .name (← spanFrom start) w
    else refuse
  | _ => refuse

/-! ## Members and calls -/

/-- What is reached from an expression by a name. -/
def memberNamed (start : Nat) (object : Term) : Parse Term := do
  match ← kind with
  | .privateName => advance; return .other (← spanFrom start) .privateField
  | .word w _ => advance; return .member (← spanFrom start) object w
  | _ => refuse

/-- What is reached from an expression by an index. -/
def memberIndexed (g : Grammar) (ctx : Context) (start : Nat) (object : Term) : Parse Term := do
  expectMark "["
  let index ← g.expression { ctx with inOperator := true }
  expectMark "]"
  return .element (← spanFrom start) object index

/-- Arguments between parentheses. -/
def arguments (g : Grammar) (ctx : Context) : Parse (List Term) := do
  expectMark "("
  let (args, _) ← listUntil ")" (itemOrSpread g ctx) (← remaining) []
  expectMark ")"
  return args

/-- The members and calls behind an expression.  Of a construction the callee is
read without calls and optional members.  The result tells whether a member or
call was optional. -/
def accessRest (g : Grammar) (ctx : Context) (calls : Bool) (start : Nat) :
    Nat → Term → Bool → Parse (Term × Bool)
  | 0, _, _ => refuse
  | fuel + 1, t, chain => do
    match ← kind with
    | .mark "." =>
      advance
      accessRest g ctx calls start fuel (← memberNamed start t) chain
    | .mark "[" => accessRest g ctx calls start fuel (← memberIndexed g ctx start t) chain
    | .mark "?." =>
      if !calls then refuse
      advance
      let next ← do
        if ← atMark "[" then memberIndexed g ctx start t
        else if ← atMark "(" then
          let args ← arguments g ctx
          pure (.call (← spanFrom start) t args)
        else memberNamed start t
      accessRest g ctx calls start fuel next true
    | .piece .. =>
      if chain then refuse
      let _ ← templatePieces g ctx (← remaining) [] []
      accessRest g ctx calls start fuel (.other (← spanFrom start) .taggedTemplate) chain
    | .mark "(" =>
      if !calls then return (t, chain)
      let args ← arguments g ctx
      accessRest g ctx calls start fuel (.call (← spanFrom start) t args) chain
    | _ => return (t, chain)

/-- `super`, which needs a member or a call behind it. -/
def superExpression : Parse Term := do
  let start ← here
  advance
  if ← atMarks [".", "[", "("] then return .other (← spanFrom start) .super
  refuse

/-- A construction with its keyword. -/
def constructionExpression (g : Grammar) (ctx : Context) : Parse Term := do
  let start ← here
  advance
  if ← eatMark "." then
    expectWord "target"
    return .other (← spanFrom start) .metaProperty
  let calleeStart ← here
  let base ← if ← atWord "super" then superExpression else g.primary ctx
  let (callee, _) ← accessRest g ctx false calleeStart (← remaining) base false
  match callee with
  | .other _ .importCall => refuse
  | _ =>
    if ← atMark "(" then
      let _ ← arguments g ctx
    return .other (← spanFrom start) .construction

/-- A primary expression with its members and calls. -/
def accessRule (g : Grammar) (ctx : Context) : Parse Term := do
  let start ← here
  let base ← if ← atWord "super" then superExpression
    else primaryRule g ctx (constructionExpression g ctx)
  let (t, chain) ← accessRest g ctx true start (← remaining) base false
  if chain then return .other (← spanFrom start) .chain
  return t

/-! ## Operators in front of and behind an operand -/

/-- The operator that a token stands for in front of an operand. -/
def unaryOperator? : TokenKind → Option UnaryOperator
  | .mark "!" => some .not
  | .mark "-" => some .negate
  | .mark "+" => some .plus
  | .mark "~" => some .complement
  | .word "typeof" false => some .typeOf
  | .word "void" false => some .void
  | .word "delete" false => some .delete
  | _ => none

/-- `true` for the increment, `false` for the decrement. -/
def updateOperator? : TokenKind → Option Bool
  | .mark "++" => some true
  | .mark "--" => some false
  | _ => none

/-- An operand with the operators in front of it. -/
def operandRule (g : Grammar) (ctx : Context) : Parse Term := do
  let start ← here
  let k ← kind
  if let some op := unaryOperator? k then
    advance
    let argument ← g.operand ctx
    return .unary (← spanFrom start) op argument
  if let some increment := updateOperator? k then
    advance
    let target ← asPlace (← g.operand ctx)
    return .update (← spanFrom start) increment true target
  if ctx.await && (← atWord "await") then
    advance
    let _ ← g.operand ctx
    return .other (← spanFrom start) .await
  let t ← accessRule g ctx
  match updateOperator? (← kind) with
  | some increment =>
    if ← afterBreak then return t
    advance
    let target ← asPlace t
    return .update (← spanFrom start) increment false target
  | none => return t

/-! ## Operations with two operands -/

/-- An operator between two operands. -/
inductive Infixed where
  | binary (op : BinaryOperator)
  | logical (op : LogicalOperator)

/-- An operator with its level; a greater level binds tighter. -/
def infixed? : TokenKind → Option (Infixed × Nat)
  | .mark "??" => some (.logical .coalesce, 1)
  | .mark "||" => some (.logical .or, 2)
  | .mark "&&" => some (.logical .and, 3)
  | .mark "|" => some (.binary .bitOr, 4)
  | .mark "^" => some (.binary .bitXor, 5)
  | .mark "&" => some (.binary .bitAnd, 6)
  | .mark "==" => some (.binary .eq, 7)
  | .mark "!=" => some (.binary .notEq, 7)
  | .mark "===" => some (.binary .strictEq, 7)
  | .mark "!==" => some (.binary .strictNotEq, 7)
  | .mark "<" => some (.binary .lt, 8)
  | .mark "<=" => some (.binary .ltEq, 8)
  | .mark ">" => some (.binary .gt, 8)
  | .mark ">=" => some (.binary .gtEq, 8)
  | .word "in" false => some (.binary .isIn, 8)
  | .word "instanceof" false => some (.binary .instanceOf, 8)
  | .mark "<<" => some (.binary .shiftLeft, 9)
  | .mark ">>" => some (.binary .shiftRight, 9)
  | .mark ">>>" => some (.binary .shiftRightZero, 9)
  | .mark "+" => some (.binary .add, 10)
  | .mark "-" => some (.binary .sub, 10)
  | .mark "*" => some (.binary .mul, 11)
  | .mark "/" => some (.binary .div, 11)
  | .mark "%" => some (.binary .rem, 11)
  | .mark "**" => some (.binary .power, 12)
  | _ => none

/-- The level of the comparisons. -/
def comparisonLevel : Nat := 8

/-- Is the tree an operation whose operator must not meet `??` without
parentheses? -/
def mixesWithCoalesce : Term → Bool
  | .logical _ .and _ _ | .logical _ .or _ _ => true
  | _ => false

/-- May the tree be the base of a power?  An operator in front of it would be
ambiguous. -/
def isPowerBase : Term → Bool
  | .unary .. | .other _ .await => false
  | _ => true

/-- An operation of two operands; `leftOpen` and `rightOpen` tell whether the
operand starts with a parenthesis. -/
def combine (span : Span) (op : Infixed) (leftOpen : Bool) (left : Term) (rightOpen : Bool)
    (right : Term) : Option Term :=
  match op with
  | .logical .coalesce =>
    let clash := match right with
      | .logical .. => !rightOpen && mixesWithCoalesce right
      | _ => !leftOpen && mixesWithCoalesce left
    if clash then none else some (.logical span .coalesce left right)
  | .logical op => some (.logical span op left right)
  | .binary .power =>
    if leftOpen || isPowerBase left then some (.binary span .power left right) else none
  | .binary op => some (.binary span op left right)

/-- The operations behind a left operand, as long as their operators bind tighter
than `level`; powers group to the right. -/
def operationRest (g : Grammar) (ctx : Context) (level start : Nat) (leftOpen : Bool) :
    Nat → Term → Parse Term
  | 0, _ => refuse
  | fuel + 1, left => do
    match infixed? (← kind) with
    | none => return left
    | some (op, own) =>
      let stops : Bool := match op with
        | .binary .power => own < level
        | .binary .isIn => own ≤ level || !ctx.inOperator
        | _ => own ≤ level
      if stops then return left
      advance
      let rightOpen ← atMark "("
      let right ← g.operation ctx own
      match combine (← spanFrom start) op leftOpen left rightOpen right with
      | none => refuse
      | some t => operationRest g ctx level start leftOpen fuel t

/-- Operands joined by operators that bind tighter than `level`. -/
def operationRule (g : Grammar) (ctx : Context) (level : Nat) : Parse Term := do
  let start ← here
  let leftOpen ← atMark "("
  let left ← do
    if (← kind) == .privateName && ctx.inOperator then
      advance
      expectWord "in"
      match ← g.operation ctx comparisonLevel with
      | .other _ .privateIn => refuse
      | _ => pure (.other (← spanFrom start) .privateIn)
    else operandRule g ctx
  operationRest g ctx level start leftOpen (← remaining) left

/-! ## Assignments and arrow functions -/

/-- The operator of an assignment. -/
def assignmentOperator? : TokenKind → Option AssignmentOperator
  | .mark "=" => some .plain
  | .mark "+=" => some (.compound .add)
  | .mark "-=" => some (.compound .sub)
  | .mark "*=" => some (.compound .mul)
  | .mark "/=" => some (.compound .div)
  | .mark "%=" => some (.compound .rem)
  | .mark "**=" => some (.compound .power)
  | .mark "<<=" => some (.compound .shiftLeft)
  | .mark ">>=" => some (.compound .shiftRight)
  | .mark ">>>=" => some (.compound .shiftRightZero)
  | .mark "|=" => some (.compound .bitOr)
  | .mark "^=" => some (.compound .bitXor)
  | .mark "&=" => some (.compound .bitAnd)
  | .mark "&&=" => some (.logical .and)
  | .mark "||=" => some (.logical .or)
  | .mark "??=" => some (.logical .coalesce)
  | _ => none

/-- The body of an arrow function behind its parameters. -/
def arrowBody (g : Grammar) (ctx : Context) (isAsync : Bool) (start : Nat) : Parse Term := do
  if ← afterBreak then refuse
  expectMark "=>"
  let inner := { ctx with await := isAsync || ctx.await }
  if ← atMark "\x7b" then
    block g { inner with inOperator := true, returning := true }
  else
    let _ ← g.assignment inner
  return .other (← spanFrom start) .arrow

/-- The head of an arrow function with parentheses, up to its arrow. -/
def arrowHead (g : Grammar) (ctx : Context) : Parse Bool := do
  let isAsync ← eatWord "async"
  if isAsync && (← afterBreak) then refuse
  parameters g { ctx with inOperator := true, await := isAsync || ctx.await }
  if ← atMark "=>" then return isAsync
  refuse

/-- Is an arrow function of one asynchronous parameter without parentheses here? -/
def atAsyncArrow (ctx : Context) : Parse Bool := do
  if ← atWord "async" then
    aheadIs do
      if ← nameOnLine ctx then
        advance
        return (← atMark "=>") && !(← afterBreak)
      return false
  else return false

/-- `yield` with its optional argument. -/
def yieldExpression (g : Grammar) (ctx : Context) : Parse Term := do
  let start ← here
  advance
  if !(← afterBreak) then
    let delegates ← eatMark "*"
    let ends := (← atMarks [";", "\x7d", ")", "]", ":", ","]) || (← kind) == .finish
      || (← atWord "in")
    if delegates || !ends then
      let _ ← g.assignment ctx
  return .other (← spanFrom start) .yield

/-- An assignment, an arrow function, or a conditional expression. -/
def assignmentRule (g : Grammar) (ctx : Context) : Parse Term := do
  let start ← here
  if ctx.yield && (← atWord "yield") then return ← yieldExpression g ctx
  if (← atMark "(") || (← atWord "async") then
    if let some isAsync ← attempt (arrowHead g ctx) then return ← arrowBody g ctx isAsync start
  if ← atAsyncArrow ctx then
    advance
    advance
    return ← arrowBody g ctx true start
  let left ← operationRule g ctx 0
  let k ← kind
  if let .name .. := left then
    if k == .mark "=>" then return ← arrowBody g ctx false start
  if let some op := assignmentOperator? k then
    let target ← if op == .plain then asTarget left else asPlace left
    advance
    let value ← g.assignment ctx
    return .assign (← spanFrom start) op target value
  if k == .mark "?" then
    advance
    let consequent ← g.assignment { ctx with inOperator := true }
    expectMark ":"
    let alternate ← g.assignment ctx
    return .conditional (← spanFrom start) left consequent alternate
  return left

/-- The expressions behind the first comma. -/
def sequenceRest (g : Grammar) (ctx : Context) : Nat → List Term → Parse (List Term)
  | 0, _ => refuse
  | fuel + 1, done => do
    if ← eatMark "," then
      let t ← g.assignment ctx
      sequenceRest g ctx fuel (t :: done)
    else return done.reverse

/-- Expressions separated by commas. -/
def expressionRule (g : Grammar) (ctx : Context) : Parse Term := do
  let start ← here
  let first ← assignmentRule g ctx
  if ← atMark "," then
    let items ← sequenceRest g ctx (← remaining) [first]
    return .sequence (← spanFrom start) items
  return first

end LiveTemplates.Script
