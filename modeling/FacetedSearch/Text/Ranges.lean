/-! Sets of characters, given as ranges of code points. -/

set_option autoImplicit false

namespace FacetedSearch.Text

def inRanges (ranges : List (Nat × Nat)) (n : Nat) : Bool :=
  ranges.any fun (first, last) => first ≤ n && n ≤ last

end FacetedSearch.Text
