/-
# LiveTemplates.Script.Grammar.Function -- declarations of functions and classes

Functions and classes are read to find their ends; nothing of them is kept.
-/
import LiveTemplates.Script.Grammar.Basic

namespace LiveTemplates.Script

/-! ## What a declaration binds -/

/-- A binding with an optional default. -/
def bindingWithDefault (g : Grammar) (ctx : Context) : Parse Unit := do
  g.binding ctx
  if ← eatMark "=" then
    let _ ← g.assignment { ctx with inOperator := true }

/-- The name of a property; gives the name if it is an unquoted word. -/
def propertyName (g : Grammar) (ctx : Context) : Parse (Option String) := do
  match ← kind with
  | .word w _ => advance; return some w
  | .text _ | .number _ | .bigInteger => advance; return none
  | .mark "[" =>
    advance
    let _ ← g.assignment { ctx with inOperator := true }
    expectMark "]"
    return none
  | _ => refuse

/-- The elements of a list pattern behind its bracket. -/
def listPattern (g : Grammar) (ctx : Context) : Nat → Parse Unit
  | 0 => refuse
  | fuel + 1 => do
    if ← eatMark "]" then return
    if ← eatMark "," then listPattern g ctx fuel
    else if ← eatMark "..." then
      g.binding ctx
      expectMark "]"
    else
      bindingWithDefault g ctx
      if ← eatMark "]" then return
      expectMark ","
      listPattern g ctx fuel

/-- One property of an object pattern. -/
def patternProperty (g : Grammar) (ctx : Context) : Parse Unit := do
  if ← eatMark "..." then
    g.binding ctx
    if !(← atMark "\x7d") then refuse
  else
    let shorthand := (← nameHere? ctx).isSome
    let _ ← propertyName g ctx
    if ← eatMark ":" then bindingWithDefault g ctx
    else if shorthand then
      if ← eatMark "=" then
        let _ ← g.assignment { ctx with inOperator := true }
    else refuse

/-- A name or a pattern of names. -/
def bindingRule (g : Grammar) (ctx : Context) : Parse Unit := do
  if ← eatMark "[" then listPattern g ctx (← remaining)
  else if ← eatMark "\x7b" then
    let _ ← listUntil "\x7d" (patternProperty g ctx) (← remaining) []
    expectMark "\x7d"
  else if (← nameHere? ctx).isSome then advance
  else refuse

/-! ## Functions -/

/-- One parameter; the last may take the rest of the arguments. -/
def parameter (g : Grammar) (ctx : Context) : Parse Unit := do
  if ← eatMark "..." then
    g.binding ctx
    if !(← atMark ")") then refuse
  else bindingWithDefault g ctx

/-- Parameters between parentheses. -/
def parameters (g : Grammar) (ctx : Context) : Parse Unit := do
  expectMark "("
  let _ ← listUntil ")" (parameter g ctx) (← remaining) []
  expectMark ")"

/-- A statement of a list of which nothing is kept. -/
def innerStatement (g : Grammar) (ctx : Context) : Parse Unit := do
  let _ ← g.statement ctx true

/-- Statements between braces. -/
def block (g : Grammar) (ctx : Context) : Parse Unit := do
  expectMark "\x7b"
  repeatUntil "\x7d" (innerStatement g ctx) (← remaining)

/-- The surroundings inside of a function. -/
def Context.inFunction (isAsync isGenerator : Bool) : Context :=
  { inOperator := true, await := isAsync, yield := isGenerator, returning := true }

/-- Parameters and body of a function. -/
def functionRest (g : Grammar) (isAsync isGenerator : Bool) : Parse Unit := do
  let ctx := Context.inFunction isAsync isGenerator
  parameters g ctx
  block g ctx

/-- Is the current token the start of a function? -/
def atFunction : Parse Bool := do
  if ← atWord "function" then return true
  if ← atWord "async" then
    aheadIs do return (← atWord "function") && !(← afterBreak)
  else return false

/-- A function with its keywords.  Whether it has to have a name depends on where
it stands; the result tells what kind of function it is. -/
def functionForm (g : Grammar) (ctx : Context) (needsName : Bool) : Parse (Bool × Bool) := do
  let isAsync ← eatWord "async"
  expectWord "function"
  let isGenerator ← eatMark "*"
  let named : Option String ← nameHere?
    (if needsName then ctx else { ctx with await := isAsync, yield := isGenerator })
  if named.isSome then advance
  else if needsName then refuse
  functionRest g isAsync isGenerator
  return (isAsync, isGenerator)

/-! ## Classes -/

/-- Decorators in front of a class or a member. -/
def decorators (g : Grammar) (ctx : Context) : Nat → Parse Unit
  | 0 => refuse
  | fuel + 1 => do
    if ← eatMark "@" then
      let _ ← g.access ctx
      decorators g ctx fuel

/-- Does a member's name end at the current token, so that the word before is the
name and no modifier? -/
def endsMemberName : Parse Bool := do
  return (← atMarks ["(", "=", ";", "\x7d"]) || (← kind) == .finish

/-- Takes a modifier: a word with more of the member behind it. -/
def eatModifier (w : String) (sameLine : Bool) : Parse Bool := do
  if ← atWord w then
    if ← aheadIs do return !(← endsMemberName) && !(sameLine && (← afterBreak)) then
      advance
      return true
  return false

/-- One member of a class. -/
def classMember (g : Grammar) (ctx : Context) : Parse Unit := do
  if ← eatMark ";" then return
  decorators g ctx (← remaining)
  let isStatic ← eatModifier "static" false
  if isStatic && (← atMark "\x7b") then
    block g { Context.inFunction false false with returning := false }
  else
    let _ ← eatModifier "accessor" true
    let isAsync ← eatModifier "async" true
    let getter ← if isAsync then pure false else eatModifier "get" false
    let setter ← if isAsync || getter then pure false else eatModifier "set" false
    let isGenerator ← eatMark "*"
    match ← kind with
    | .privateName => advance
    | _ => let _ ← propertyName g ctx
    if ← atMark "(" then functionRest g isAsync isGenerator
    else if isAsync || getter || setter || isGenerator then refuse
    else
      if ← eatMark "=" then
        let _ ← g.assignment { Context.inFunction false false with returning := false }
      endStatement

/-- A class with its keyword. -/
def classForm (g : Grammar) (ctx : Context) (needsName : Bool) : Parse Unit := do
  decorators g ctx (← remaining)
  expectWord "class"
  if !(← atWord "extends") && (← nameHere? ctx).isSome then advance
  else if needsName then refuse
  if ← eatWord "extends" then
    let _ ← g.access ctx
  expectMark "\x7b"
  repeatUntil "\x7d" (classMember g ctx) (← remaining)

end LiveTemplates.Script
