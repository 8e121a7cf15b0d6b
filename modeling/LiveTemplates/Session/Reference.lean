/-
# LiveTemplates.Session.Reference -- how steps refer to things

* A node is referred to by a base and a path: `doc`, `body`, `@instance` for the host of an
  instance or `$register`, then any of `/i` for the child of an index and `>tag#n` for one
  of the elements with a tag below.
* An instance is referred to by the name of an application or a register, then `.i`
  for the instances inside.
* A zone is referred to by the name of an application or a register, a target by the
  name of a zone, by `doc` or `events`, or by the register of a dispatcher.
* An object is referred to by a register, or by an instance, whose own object or one of
  whose children's objects it is.
-/
import LiveTemplates.Session.State

namespace LiveTemplates.Session

/-! ## Written references -/

/-- An instance: a name and the indexes of instances inside. -/
structure InstancePath where
  name : String
  inside : List Nat := []

/-- Where the path to a node starts. -/
inductive NodeBase where
  | document
  | body
  | host (i : InstancePath)
  | register (name : String)

/-- A step on the path to a node. -/
inductive NodeMove where
  | child (i : Nat)
  | tagged (tag : String) (n : Nat)

/-- A node: where to start and how to go on. -/
structure NodePath where
  base : NodeBase
  moves : List NodeMove := []

/-- The number that digits stand for. -/
def readIndex? (cs : List Char) : Option Nat :=
  if cs ≠ [] ∧ cs.all Char.isDigit then
    some (cs.foldl (fun n c => 10 * n + (c.toNat - '0'.toNat)) 0)
  else none

/-- The pieces between separators. -/
def piecesOf (separator : Char) : List Char → List (List Char)
  | [] => [[]]
  | c :: rest =>
    let pieces := piecesOf separator rest
    if c = separator then [] :: pieces
    else
      match pieces with
      | piece :: pieces => (c :: piece) :: pieces
      | [] => [[c]]

/-- The instance that a text refers to. -/
def InstancePath.read? (cs : List Char) : Option InstancePath :=
  match piecesOf '.' cs with
  | [] => none
  | name :: indexes => do
    return ⟨String.ofList name, ← indexes.mapM readIndex?⟩

namespace NodePath

/-- Does a character start a move? -/
def startsMove (c : Char) : Bool :=
  c == '/' || c == '>'

/-- The move that a text stands for, with the character in front of it. -/
def readMove? (lead : Char) (cs : List Char) : Option NodeMove :=
  if lead = '/' then (readIndex? cs).map .child
  else
    let tag := String.ofList (cs.takeWhile (· != '#'))
    match cs.dropWhile (· != '#') with
    | [] => some (.tagged tag 0)
    | _ :: digits => (readIndex? digits).map (.tagged tag)

/-- The text of a move, and what follows it. -/
def splitMove (cs : List Char) : List Char × List Char :=
  cs.span fun c => !startsMove c

/-- The moves that a text stands for; `fuel` bounds their number. -/
def readMoves? : Nat → List Char → Option (List NodeMove)
  | _, [] => some []
  | 0, _ => none
  | fuel + 1, lead :: cs => do
    let (piece, rest) := splitMove cs
    let m ← readMove? lead piece
    return m :: (← readMoves? fuel rest)

/-- The base that a text stands for. -/
def readBase? (cs : List Char) : Option NodeBase :=
  match cs with
  | '@' :: rest => (InstancePath.read? rest).map .host
  | '$' :: rest => some (.register (String.ofList rest))
  | cs =>
    if cs = "doc".toList then some .document
    else if cs = "body".toList then some .body
    else none

/-- The node that a text refers to. -/
def read? (text : String) : Option NodePath := do
  let (base, rest) := splitMove text.toList
  return ⟨← readBase? base, ← readMoves? rest.length rest⟩

end NodePath

/-! ## What they refer to -/

namespace State

/-- The instance inside of an instance. -/
def insideOf (i : Instance) : List Nat → Option Instance
  | [] => some i
  | n :: rest => do insideOf (← i.children[n]?) rest

/-- The instance that a path refers to. -/
def instance? (s : State) (p : InstancePath) : Option Instance := do
  let top ← ((s.applications.lookup p.name).map (·.root)) <|> s.instances.lookup p.name
  insideOf top p.inside

/-- The zone of a name. -/
def zone? (s : State) (name : String) : Option Zone :=
  ((s.applications.lookup name).map (·.zone)) <|> s.zones.lookup name

/-- The name of the document's dispatcher. -/
def isDocument (name : String) : Bool :=
  name == "doc" || name == "events"

/-- The dispatcher of a name. -/
def dispatcher? (s : State) (name : String) : Option Nat :=
  if isDocument name then some 0 else s.dispatchers.lookup name

/-- The target of a name. -/
def target? (s : State) (name : String) : Option Target :=
  ((s.zone? name).map .zone) <|> ((s.dispatcher? name).map .dispatcher)

/-- The blueprint of a name: of a register, an application or an instance. -/
def blueprint? (s : State) (name : String) : Option Blueprint :=
  s.blueprints.lookup name
    <|> ((s.applications.lookup name).map (·.blueprint))
    <|> (((InstancePath.read? name.toList).bind s.instance?).map (·.blueprint))

/-- The compiler of a name. -/
def compiler? (s : State) (name : String) : Option Compiler :=
  ((s.applications.lookup name).map (·.compiler)) <|> s.compilers.lookup name

/-- Changes the compiler of a name. -/
def setCompiler (s : State) (name : String) (k : Compiler) : State :=
  match s.applications.lookup name with
  | some a => { s with applications := s.applications.put name { a with compiler := k } }
  | none => { s with compilers := s.compilers.put name k }

/-- The object of a register, or of an instance. -/
def object? (s : State) (name : String) (child : Option Nat) : Option ObjectId :=
  s.objectNames.lookup name <|> do
    let i ← (InstancePath.read? name.toList).bind s.instance?
    match child with
    | none => some i.object
    | some n => i.childObjects[n]?

end State

/-- The node that a base refers to. -/
def NodeBase.node? (w : World State) : NodeBase → Option NodeId
  | .document => some w.document
  | .body => (w.forest.elementsByTag w.document "BODY").head?
  | .host i => (w.user.instance? i).map (·.host)
  | .register name => w.user.nodes.lookup name

/-- The node that a move leads to. -/
def NodeMove.node? (w : World State) (n : NodeId) : NodeMove → Option NodeId
  | .child i => (w.forest.children n)[i]?
  | .tagged tag k => (w.forest.elementsByTag n tag)[k]?

/-- The node that a path refers to. -/
def NodePath.node? (w : World State) (p : NodePath) : Option NodeId := do
  p.moves.foldlM (NodeMove.node? w) (← p.base.node? w)

end LiveTemplates.Session
