/-
# LiveTemplates.Json.Basic -- structured data as text exchanges it

A datum is null, a truth value, a number, a text, a list or a record.  A number
without fraction and exponent that fits 64 bits is kept as an integer, any other
as a double.  A record keeps its entries in the order in which they were read.
-/

namespace LiveTemplates

/-- A structured datum. -/
inductive Json where
  | null
  | bool (b : Bool)
  | integer (n : Int)
  | double (x : Float)
  | text (s : String)
  | list (items : List Json)
  | record (entries : List (String × Json))

namespace Json

/-- Why a text is not the datum that was asked for. -/
inductive Fault where
  /-- The text breaks the grammar. -/
  | malformed
  /-- The text ends too early. -/
  | cutShort
  /-- The text is grammatical and stands for something else. -/
  | mismatch
deriving Repr, DecidableEq

/-- The value of an entry of a record; of several entries of one name the last. -/
def field? (j : Json) (name : String) : Option Json :=
  match j with
  | .record entries => entries.reverse.lookup name
  | _ => none

/-- The text of a textual datum. -/
def text? : Json → Option String
  | .text s => some s
  | _ => none

/-- The items of a list. -/
def items? : Json → Option (List Json)
  | .list items => some items
  | _ => none

/-- The truth value of a logical datum. -/
def bool? : Json → Option Bool
  | .bool b => some b
  | _ => none

/-- A natural number. -/
def nat? : Json → Option Nat
  | .integer n => if 0 ≤ n then some n.toNat else none
  | _ => none

end Json

end LiveTemplates
