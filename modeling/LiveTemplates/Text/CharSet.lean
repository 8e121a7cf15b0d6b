/-
# LiveTemplates.Text.CharSet -- sets of characters by their boundaries

A set of code points is given by the ascending list of the points at which
membership changes: `[b₀, b₁, b₂, …]` holds `b₀ … b₁ - 1`, then `b₂ …`.  The
tables of a standard's properties are such lists.
-/

namespace LiveTemplates.Text.CharSet

/-- Is `n` behind an odd number of the boundaries?  The list ascends, so the
first boundary above `n` ends the count. -/
def contains : List Nat → Nat → Bool
  | [], _ => false
  | b :: rest, n => if n < b then false else !contains rest n

end LiveTemplates.Text.CharSet
