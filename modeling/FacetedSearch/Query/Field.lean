import FacetedSearch.Query.Term
import FacetedSearch.Text.Bytes

/-! The fields of a query: what stands in it, before any dialect is applied.

A field keeps the place of its text in the query, counted in bytes of UTF-8. Fields with an
empty value are kept here; reading a query into facets drops them.
-/

set_option autoImplicit false

namespace FacetedSearch.Query

/-- A range of bytes, from `start` up to but not including `stop`. -/
structure Span where
  start : Nat
  stop : Nat
  deriving DecidableEq, Repr

/-- One field of a query. The category is absent for free text. -/
structure Field where
  category : Option String
  value : String
  span : Span
  deriving DecidableEq, Repr

/-- What a term says: its text without enclosing marks and without blanks at the ends. -/
def Term.content (term : List Char) : String := String.ofList (Text.trimChars (Term.unquote term))

def byteAt (cs : List Char) (index : Nat) : Nat := Text.byteLength (cs.take index)

end FacetedSearch.Query
