/-
# LiveTemplates.Program.Scope -- what a program is evaluated against

A scope is all that a program can reach: members to read and write and methods
to call, with whatever effects `m` they have.  Reading gives `none` where there is no
such member; writing and calling can fail.

A `MapScope` is a scope with nothing behind it but a table of members.
-/
import LiveTemplates.Fault
import LiveTemplates.Value

namespace LiveTemplates

/-- The members and methods that a program can reach. -/
structure Scope (m : Type → Type) where
  get : String → m (Option Value)
  set : String → Value → m (Except ExpressionError Unit)
  call : String → List Value → m (Except ExpressionError Value)

namespace Scope

variable {m : Type → Type} [Monad m]

/-- The value of a member, which has to exist. -/
def read (s : Scope m) (member : String) : ExceptT ExpressionError m Value := do
  match ← ExceptT.lift (s.get member) with
  | some v => return v
  | none => throw (.unknownMember member)

/-- Gives a member a value. -/
def write (s : Scope m) (member : String) (v : Value) : ExceptT ExpressionError m Unit :=
  ExceptT.mk (s.set member v)

/-- Calls a method. -/
def invoke (s : Scope m) (method : String) (args : List Value) : ExceptT ExpressionError m Value :=
  ExceptT.mk (s.call method args)

end Scope

/-- A table of members.  Every member can be written, and there are no methods. -/
@[ext]
structure MapScope where
  members : String → Option Value

namespace MapScope

/-- The table without members. -/
def empty : MapScope :=
  ⟨fun _ => none⟩

/-- Gives a member a value, or adds it. -/
def put (a : MapScope) (member : String) (v : Value) : MapScope :=
  ⟨fun name => if name = member then some v else a.members name⟩

/-- What a program reaches of a table. -/
def scope : Scope (StateM MapScope) where
  get member := do return (← get).members member
  set member v := do
    modify (·.put member v)
    return .ok ()
  call method _ := return .error (.unknownMethod method)

end MapScope

end LiveTemplates
