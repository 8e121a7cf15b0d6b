/-
# LiveTemplates.Options -- how strictly classes are compiled and mounted

Options are read from a text: a record of switches, of which unknown ones are
passed over and missing ones keep their defaults, or a list of the switches in
order, which may end early.
-/
import LiveTemplates.Json.Reader

namespace LiveTemplates

/-- How strictly classes are compiled and mounted. -/
structure CompileOptions where
  /-- A declared class that its template never uses is an error. -/
  strictComponents : Bool := false
  /-- A binding that does not compile is an error. -/
  strictExpressions : Bool := false
  /-- Of several places to mount the first is taken; otherwise they are an error. -/
  allowDuplicateHosts : Bool := true
deriving Repr, DecidableEq, Inhabited

namespace CompileOptions

/-- One of the switches. -/
inductive Switch where
  | strictComponents | strictExpressions | allowDuplicateHosts
deriving Repr, DecidableEq

/-- The switch of a name. -/
def Switch.ofName? : String → Option Switch
  | "strictComponents" => some .strictComponents
  | "strictExpressions" => some .strictExpressions
  | "allowDuplicateHosts" => some .allowDuplicateHosts
  | _ => none

/-- The options with a switch set. -/
def set (o : CompileOptions) (s : Switch) (b : Bool) : CompileOptions :=
  match s with
  | .strictComponents => { o with strictComponents := b }
  | .strictExpressions => { o with strictExpressions := b }
  | .allowDuplicateHosts => { o with allowDuplicateHosts := b }

/-! ## From a text -/

/-- The setting of a switch. -/
def readSetting (cs : List Char) : Except Json.Fault (Bool × List Char) := do
  match Json.skipSpace cs with
  | [] => throw .cutShort
  | c :: rest =>
    if c == '[' || c == '\x7b' then throw .mismatch
    else match ← Json.readScalar false c rest with
      | (.bool b, rest) => return (b, rest)
      | _ => throw .mismatch

/-- The settings of a record behind its brace or an entry; a switch must not be set
twice. -/
def readRecord : Nat → Bool → List Switch → CompileOptions → List Char →
    Except Json.Fault (CompileOptions × List Char)
  | 0, _, _, _, _ => .error .cutShort
  | fuel + 1, first, seen, o, cs => do
    match ← Json.readName false first cs with
    | (none, rest) => return (o, rest)
    | (some name, rest) =>
      match Switch.ofName? name with
      | none =>
        let rest ← Json.readColon rest
        let rest ← Json.skimValue rest
        readRecord fuel false seen o rest
      | some s =>
        if seen.contains s then throw .mismatch
        let rest ← Json.readColon rest
        let (b, rest) ← readSetting rest
        readRecord fuel false (s :: seen) (o.set s b) rest

/-- The end of a list that has all its settings. -/
def readListEnd (cs : List Char) : Except Json.Fault (List Char) :=
  match Json.skipSpace cs with
  | [] => .error .cutShort
  | ']' :: rest => .ok rest
  | _ => .error .malformed

/-- The settings of a list behind its bracket or a setting, for the switches left. -/
def readList : List Switch → Bool → CompileOptions → List Char →
    Except Json.Fault (CompileOptions × List Char)
  | [], _, o, cs => do return (o, ← readListEnd cs)
  | s :: switches, first, o, cs => do
    match Json.skipSpace cs with
    | [] => throw .cutShort
    | ']' :: rest => return (o, rest)
    | c :: rest =>
      let item ← if first then pure (c :: rest)
        else if c == ',' then
          match Json.skipSpace rest with
          | [] => throw .cutShort
          | ']' :: _ => throw .malformed
          | rest => pure rest
        else throw .malformed
      let (b, rest) ← readSetting item
      readList switches false (o.set s b) rest

/-- The options that a text stands for. -/
def read (text : String) : Except Json.Fault CompileOptions := do
  match Json.skipSpace text.toList with
  | [] => throw .cutShort
  | '[' :: rest =>
    let (o, rest) ← readList [.strictComponents, .strictExpressions, .allowDuplicateHosts] true {} rest
    Json.expectEnd rest
    return o
  | '\x7b' :: rest =>
    let (o, rest) ← readRecord (rest.length + 1) true [] {} rest
    Json.expectEnd rest
    return o
  | c :: rest =>
    let _ ← Json.readScalar false c rest
    throw .mismatch

/-! ## From a datum -/

/-- Sets the switches of a list in order. -/
def setAll : List Switch → CompileOptions → List Json → Except Json.Fault CompileOptions
  | _, o, [] => pure o
  | [], _, _ :: _ => throw .malformed
  | s :: switches, o, .bool b :: rest => setAll switches (o.set s b) rest
  | _ :: _, _, _ :: _ => throw .mismatch

/-- The options that a datum stands for. -/
def ofJson : Json → Except Json.Fault CompileOptions
  | .list items => setAll [.strictComponents, .strictExpressions, .allowDuplicateHosts] {} items
  | .record entries =>
    entries.foldlM (fun o (name, v) =>
      match Switch.ofName? name, v with
      | none, _ => pure o
      | some s, .bool b => pure (o.set s b)
      | some _, _ => throw .mismatch) {}
  | _ => throw .mismatch

end CompileOptions

end LiveTemplates
