/-! The lines of a text. -/

set_option autoImplicit false

namespace FacetedSearch.Text

/-- The lines of a text, which end with a line feed and perhaps a carriage return before it. There
is no line after the last of these. -/
def lines : List Char → List (List Char)
  | [] => []
  | '\n' :: rest | '\r' :: '\n' :: rest => [] :: lines rest
  | c :: rest =>
    match lines rest with
    | [] => [[c]]
    | first :: others => (c :: first) :: others

end FacetedSearch.Text
