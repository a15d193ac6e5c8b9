/-! How deep patterns are nested.

The height of a part of a pattern is the number of parts around its innermost part, itself
included. A character has height zero, and parts count as nested in what joins them.
-/

set_option autoImplicit false

namespace FacetedSearch.Pattern

/-- Parts side by side: their number, and the height of the tallest. -/
structure Row where
  size : Nat := 0
  tallest : Nat := 0
  deriving DecidableEq, Repr

def Row.add (row : Row) (height : Nat) : Row := ⟨row.size + 1, max row.tallest height⟩

def Row.raise (row : Row) (height : Nat) : Row := { row with tallest := max row.tallest height }

/-- The height of what joins the parts; one part alone needs no joining. -/
def Row.height (row : Row) : Nat := if row.size ≤ 1 then row.tallest else row.tallest + 1

def heightLimit : Nat := 250

end FacetedSearch.Pattern
