/-
# LiveTemplates.Component.Tag -- the tag that stands for a class

A class stands in templates under a tag made of its name: a hyphen at every step
from a small to a capital letter, all in capitals.  A run of capitals is one
word, so `FooBar` is `FOO-BAR` and `HTMLView` is `HTMLVIEW`.
-/
import LiveTemplates.Text.Uppercase

namespace LiveTemplates.Tag

/-- Puts a hyphen between every small letter and a capital behind it. -/
def hyphenate : List Char → List Char
  | [] => []
  | [c] => [c]
  | c :: d :: rest =>
    if c.isLower && d.isUpper then c :: '-' :: hyphenate (d :: rest)
    else c :: hyphenate (d :: rest)

/-- The tag made of a name. -/
def ofName (name : String) : String :=
  Text.uppercase (String.ofList (hyphenate name.toList))

end LiveTemplates.Tag
