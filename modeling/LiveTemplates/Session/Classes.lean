/-
# LiveTemplates.Session.Classes -- the classes of a session

A session names its classes by identity, out of a fixed palette, and declares
them in a record.
-/
import LiveTemplates.Component.Class
import LiveTemplates.Session.Data

namespace LiveTemplates.Session

/-- The identities that classes can have. -/
def palette : List String :=
  ["App", "Counter", "Label", "MyWidget", "Widget", "FooBarBaz", "HTMLView", "Htmlview", "Title",
   "Body", "Section", "Recorder", "RecorderLeaf", "Panel", "ItemRow", "Ouroboros", "PingSide",
   "PongSide", "PangSide", "my_elem", "iPhone", "X2Y", "Straße", "ÉlanVital", "alt::Label",
   "alt::Counter", "Boxed<u8>", "Boxed<alt::Label>"]

/-- The class that a datum refers to. -/
def toClassRef? : Json → Option ClassRef
  | .text id => if palette.contains id then some ⟨id, true⟩ else none
  | j =>
    match j.field? "bare" with
    | some (.text id) => if palette.contains id then some ⟨id, false⟩ else none
    | _ => none

/-- The text of an entry, or nothing. -/
def textAt (j : Json) (name : String) : String :=
  ((j.field? name).bind Json.text?).getD ""

/-- The items of an entry, or none. -/
def itemsAt (j : Json) (name : String) : List Json :=
  ((j.field? name).bind Json.items?).getD []

/-- What a datum declares about a class. -/
def toMetadata (j : Json) : Metadata :=
  ⟨textAt j "template", (itemsAt j "components").filterMap toClassRef?⟩

/-- The entries of a record. -/
def entriesOf : Option Json → List (String × Json)
  | some (.record entries) => entries.reverse
  | _ => []

/-- The declarations of a session's classes. -/
def toCatalog (classes : Option Json) : Catalog :=
  (entriesOf classes).map fun (id, j) => (id, toMetadata j)

end LiveTemplates.Session
