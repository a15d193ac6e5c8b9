import FacetedSearch.Dialect
import FacetedSearch.Facet
import FacetedSearch.Query.Term

/-! Writing facets as a query. -/

set_option autoImplicit false

namespace FacetedSearch.Query

open Text (isBlank)

/-- Enclose a text in marks if it would not be read back as a bare term. A text with double
quotes only gets single ones; a text with single quotes or blanks gets double ones. -/
def quoteChars (cs : List Char) : List Char :=
  if cs.contains '"' && !cs.contains '\'' then '\'' :: (cs ++ ['\''])
  else if cs.any isBlank || cs.contains '\'' then '"' :: (cs ++ ['"'])
  else cs

def quote (text : String) : String := String.ofList (quoteChars text.toList)

/-- The text of one facet in a query. A blank value has none; free text stands by itself. -/
def renderFacet (dialect : Dialect) (facet : Facet) : String :=
  let value := Text.trim facet.value
  if value.isEmpty then ""
  else if dialect.isRemainder facet.category then value
  else if dialect.isUnquotable facet.category then quote facet.category ++ ": " ++ value
  else quote facet.category ++ ": " ++ quote value

def render (dialect : Dialect) (facets : List Facet) : String :=
  String.intercalate " " ((facets.map (renderFacet dialect)).filter (!·.isEmpty))

end FacetedSearch.Query
