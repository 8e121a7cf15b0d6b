/-
# LiveTemplates.Session.Object -- the objects of a session

The objects of components are scripted.  An object holds members; a method is a list of
actions, which change members past all restrictions, take further steps of the session,
fail, or return a value.
-/
import LiveTemplates.Session.Classes

namespace LiveTemplates.Session

/-- What an object admits. -/
inductive ObjectKind where
  /-- Every member can be written, and there are no methods. -/
  | map
  /-- Existing members can be written, and methods called. -/
  | object
  /-- Nothing can be written or called. -/
  | fixed
deriving Repr, DecidableEq

/-- What an action works with: an argument of the call, or a value. -/
inductive Operand where
  | argument (i : Nat)
  | value (v : Value)

/-- An action of a method. -/
inductive Action where
  | assign (member : String) (x : Operand)
  | increase (member : String) (x : Operand)
  | extend (member : String) (x : Operand)
  | step (s : Json)
  | fail (message : String)
  | giveMember (member : String)
  | give (x : Operand)

/-- An object. -/
structure Object where
  label : String
  kind : ObjectKind := .object
  members : List (String × Value) := []
  /-- Members that cannot be written. -/
  readOnly : List String := []
  /-- Members that are written as numbers. -/
  numeric : List String := []
  methods : List (String × List Action) := []

namespace Operand

/-- The operand of an action, under a key of its own if it is no argument. -/
def ofJson (j : Json) (key : String) : Operand :=
  match (j.field? "arg").bind Json.nat? with
  | some i => .argument i
  | none => .value (((j.field? key).map toValue).getD .null)

/-- The value of an operand. -/
def eval (args : List Value) : Operand → Value
  | argument i => args.getD i .undefined
  | value v => v

end Operand

/-- The action that a record describes. -/
def Action.ofJson (j : Json) : Action :=
  let text key := (j.field? key).bind Json.text?
  if let some m := text "set" then .assign m (.ofJson j "to")
  else if let some m := text "inc" then .increase m (.ofJson j "by")
  else if let some m := text "append" then .extend m (.ofJson j "text")
  else if let some s := j.field? "run" then .step s
  else if let some message := text "fail" then .fail message
  else if let some m := text "returnMember" then .giveMember m
  else .give (.ofJson j "return")

namespace Object

/-- The kind of a name. -/
def kindOf : Option String → ObjectKind
  | some "map" => .map
  | some "fixed" => .fixed
  | _ => .object

/-- The texts of a list. -/
def textsAt (j : Json) (name : String) : List String :=
  (itemsAt j name).filterMap Json.text?

/-- The object that a record describes. -/
def ofJson (label : String) (j : Json) : Object where
  label := label
  kind := kindOf ((j.field? "kind").bind Json.text?)
  members := (entriesOf (j.field? "members")).map fun (name, v) => (name, toValue v)
  readOnly := textsAt j "readonly"
  numeric := textsAt j "numeric"
  methods := (entriesOf (j.field? "methods")).map fun (name, actions) =>
    (name, ((actions.items?).getD []).map Action.ofJson)

/-- The value of a member. -/
def get? (o : Object) (member : String) : Option Value :=
  o.members.lookup member

/-- Gives a member a value, or adds it. -/
def put (o : Object) (member : String) (v : Value) : Object :=
  if o.members.any (·.1 == member) then
    { o with members := o.members.map fun (name, old) => (name, if name == member then v else old) }
  else { o with members := o.members ++ [(member, v)] }

/-- Writes a member, as far as the object admits it. -/
def write (o : Object) (member : String) (v : Value) : Except ExpressionError Object :=
  match o.kind with
  | .map => pure (o.put member v)
  | .fixed => throw (.readOnly member)
  | .object =>
    if (o.get? member).isNone || o.readOnly.contains member then throw (.readOnly member)
    else if o.numeric.contains member then pure (o.put member (.number v.toNumber))
    else pure (o.put member v)

/-- The actions of a method, if the object has it. -/
def method? (o : Object) (name : String) : Option (List Action) :=
  match o.kind with
  | .object => o.methods.lookup name
  | _ => none

/-- A member as an action reads it. -/
def member (o : Object) (name : String) : Value :=
  (o.get? name).getD .undefined

/-- The members as a datum. -/
def shownMembers (o : Object) : Json :=
  record (o.members.map fun (name, v) => (name, ofValue v))

end Object

end LiveTemplates.Session
