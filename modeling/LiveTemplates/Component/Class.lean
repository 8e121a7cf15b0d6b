/-
# LiveTemplates.Component.Class -- classes of components

A class is told from others by its identity.  Its name is the identity without
what qualifies it in front and without what parametrizes it behind, so different
classes can share a name and with it a tag.

What a class declares about itself, its template and the classes that this may
use, is found in a catalog.  A class may be referred to without its declaration.
-/
import LiveTemplates.Component.Tag
import LiveTemplates.Fault
import LiveTemplates.Text.Quoted

namespace LiveTemplates

/-- A reference to a class, with or without its declaration. -/
structure ClassRef where
  id : String
  declared : Bool := true
deriving Repr, DecidableEq, Inhabited

namespace ClassRef

/-- The characters behind the last double colon. -/
def unqualified : List Char → List Char → List Char
  | best, [] => best
  | _, ':' :: ':' :: rest => unqualified rest rest
  | best, _ :: rest => unqualified best rest

/-- The name of a class. -/
def name (c : ClassRef) : String :=
  let base := c.id.toList.takeWhile (· != '<')
  String.ofList (unqualified base base)

/-- The tag that stands for a class in templates. -/
def tag (c : ClassRef) : String :=
  Tag.ofName c.name

/-- Is it the same class? -/
def same (c d : ClassRef) : Bool :=
  c.id == d.id

/-- A class in a message for programmers. -/
def describe (c : ClassRef) : String :=
  s!"ComponentClass \x7b name: {Text.quoted c.name}, has_metadata: {c.declared} \x7d"

end ClassRef

/-- What a class declares about itself. -/
structure Metadata where
  template : String := ""
  /-- The classes that the template may use. -/
  components : List ClassRef := []
deriving Repr, DecidableEq, Inhabited

/-- The declarations of classes.  A class that is not listed has an empty template
and uses nothing. -/
abbrev Catalog := List (String × Metadata)

/-- What a class declares; nothing if the reference goes without. -/
def Catalog.metadata (catalog : Catalog) (c : ClassRef) : Except ConfigurationError Metadata :=
  if c.declared then pure ((catalog.lookup c.id).getD {})
  else throw (.missingMetadata c.name)

end LiveTemplates
