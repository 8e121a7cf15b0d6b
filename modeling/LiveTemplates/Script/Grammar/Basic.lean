/-
# LiveTemplates.Script.Grammar.Basic -- reading a script token by token

A reader looks at the current token and either takes it and goes on or gives up;
a source that no reader takes is not in the language, and why is not recorded.

The rules of the language refer to each other.  `Grammar` is the record of the
rules that others refer to; each rule is written against such a record, and the
record itself is tied in as many steps as the source can be nested.
-/
import LiveTemplates.Script.Token

namespace LiveTemplates.Script

/-- A place between two tokens, with the token that follows. -/
structure Position where
  token : Token
  /-- Where the current token starts. -/
  here : Cursor
  /-- Where the current token ends. -/
  next : Cursor
  /-- Where the token before ends. -/
  lastStop : Nat
  /-- Where names with a default stand in objects that no assignment has turned
  into a pattern yet. -/
  defaults : List Nat
deriving Inhabited

/-- A reader: from a place to a result and a later place, if it fits. -/
abbrev Parse := StateT Position Option

/-- What the surroundings allow. -/
structure Context where
  /-- The operator `in` may be used. -/
  inOperator : Bool := true
  /-- `await` is an operator. -/
  await : Bool := true
  /-- `yield` is an operator. -/
  yield : Bool := false
  /-- A value may be returned. -/
  returning : Bool := false

/-- Gives up. -/
def refuse {α : Type} : Parse α :=
  fun _ => none

/-! ## Moving on -/

/-- The place at the first token of a source. -/
def Position.start (c : Cursor) : Option Position := do
  let (token, next) ← scan c
  return ⟨token, { c with rest := c.rest.drop (token.span.start - c.pos), pos := token.span.start },
    next, c.pos, []⟩

/-- Takes the current token. -/
def advance : Parse Unit := fun p => do
  let q ← Position.start p.next
  return ((), { q with lastStop := p.token.span.stop, defaults := p.defaults })

/-- The current token. -/
def token : Parse Token := do
  return (← get).token

/-- The current token's kind. -/
def kind : Parse TokenKind := do
  return (← get).token.kind

/-- Where the current token starts. -/
def here : Parse Nat := do
  return (← get).token.span.start

/-- From a start up to the end of the token before. -/
def spanFrom (start : Nat) : Parse Span := do
  return ⟨start, (← get).lastStop⟩

/-- Is the current token this mark? -/
def atMark (m : String) : Parse Bool := do
  return (← kind) == .mark m

/-- Is the current token one of these marks? -/
def atMarks (ms : List String) : Parse Bool := do
  match ← kind with
  | .mark m => return ms.contains m
  | _ => return false

/-- Is the current token this word, written without escapes? -/
def atWord (w : String) : Parse Bool := do
  return (← kind) == .word w false

/-- Is the current token on a line of its own? -/
def afterBreak : Parse Bool := do
  return (← token).afterBreak

/-- Takes the mark if it is there. -/
def eatMark (m : String) : Parse Bool := do
  if ← atMark m then advance; return true
  return false

/-- Takes the word if it is there. -/
def eatWord (w : String) : Parse Bool := do
  if ← atWord w then advance; return true
  return false

/-- Takes the mark or gives up. -/
def expectMark (m : String) : Parse Unit := do
  if !(← eatMark m) then refuse

/-- Takes the word or gives up. -/
def expectWord (w : String) : Parse Unit := do
  if !(← eatWord w) then refuse

/-- The result of a reader at this place, without moving; `none` if it gives up. -/
def ahead {α : Type} (r : Parse α) : Parse (Option α) := fun p =>
  some ((r.run p).map (·.1), p)

/-- Is the condition met behind the current token? -/
def aheadIs (r : Parse Bool) : Parse Bool := do
  return (← ahead (do advance; r)).getD false

/-- Tries a reader; where it gives up, nothing is taken. -/
def attempt {α : Type} (r : Parse α) : Parse (Option α) := fun p =>
  match r.run p with
  | some (a, q) => some (some a, q)
  | none => some (none, p)

/-- Reads the current token again as a pattern. -/
def takePattern : Parse Span := do
  let p ← get
  match rescanPattern p.here p.token.afterBreak with
  | none => refuse
  | some (t, next) =>
    set { p with token := t, next := next }
    advance
    return t.span

/-- Reads the closing brace again as a piece of a text with expressions. -/
def retakePiece : Parse Unit := do
  let p ← get
  match rescanTemplate p.here with
  | none => refuse
  | some (t, next) => set { p with token := t, next := next }

/-- A bound on the number of tokens left. -/
def remaining : Parse Nat := do
  return (← get).next.rest.length + 2

/-- A statement ends with a semicolon, which may be missing at the end, in front
of a closing brace and at the end of a line. -/
def endStatement : Parse Unit := do
  if ← eatMark ";" then return
  if (← atMark "\x7d") || (← kind) == .finish || (← afterBreak) then return
  refuse

/-! ## Words -/

/-- Words that are never identifiers. -/
def reservedWords : List String :=
  ["break", "case", "catch", "class", "const", "continue", "debugger", "default", "delete", "do",
   "else", "enum", "export", "extends", "false", "finally", "for", "function", "if", "import", "in",
   "instanceof", "new", "null", "return", "super", "switch", "this", "throw", "true", "try",
   "typeof", "var", "void", "while", "with"]

/-- May the word name something here? -/
def Context.allowsName (ctx : Context) (w : String) : Bool :=
  !(reservedWords.contains w || (w == "await" && ctx.await) || (w == "yield" && ctx.yield))

/-- The name that the current token stands for here, if any. -/
def nameHere? (ctx : Context) : Parse (Option String) := do
  match ← kind with
  | .word w _ => return if ctx.allowsName w then some w else none
  | _ => return none

/-- Is a name the current token, on the same line? -/
def nameOnLine (ctx : Context) : Parse Bool := do
  return (← nameHere? ctx).isSome && !(← afterBreak)

/-! ## Lists -/

/-- Items separated by commas up to a closing mark, which is left; whether a comma
stands behind the last. -/
def listUntil {α : Type} (close : String) (item : Parse α) :
    Nat → List α → Parse (List α × Bool)
  | 0, _ => refuse
  | fuel + 1, done => do
    if ← atMark close then return (done.reverse, !done.isEmpty)
    let a ← item
    if ← atMark close then return ((a :: done).reverse, false)
    expectMark ","
    listUntil close item fuel (a :: done)

/-- Runs a reader until a mark is reached, which is taken. -/
def repeatUntil (close : String) (item : Parse Unit) : Nat → Parse Unit
  | 0 => refuse
  | fuel + 1 => do
    if ← eatMark close then return
    item
    repeatUntil close item fuel

/-! ## Rules that refer to each other -/

/-- The rules of the language that others refer to. -/
structure Grammar where
  /-- Expressions separated by commas. -/
  expression : Context → Parse Term
  /-- One expression of a list. -/
  assignment : Context → Parse Term
  /-- Operands joined by operators that bind tighter than the given level. -/
  operation : Context → Nat → Parse Term
  /-- An operand with the operators in front of it. -/
  operand : Context → Parse Term
  /-- A name, a literal or an expression between brackets. -/
  primary : Context → Parse Term
  /-- An operand with its members and calls, without operators in front of it. -/
  access : Context → Parse Term
  /-- What a declaration can bind. -/
  binding : Context → Parse Unit
  /-- A statement inside of a list of them or, if not `listed`, alone. -/
  statement : Context → Bool → Parse Statement

/-- The record of rules that take nothing. -/
def Grammar.empty : Grammar where
  expression _ := refuse
  assignment _ := refuse
  operation _ _ := refuse
  operand _ := refuse
  primary _ := refuse
  access _ := refuse
  binding _ := refuse
  statement _ _ := refuse

end LiveTemplates.Script
