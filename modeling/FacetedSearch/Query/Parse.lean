import FacetedSearch.Dialect
import FacetedSearch.Facet
import FacetedSearch.Query.Scan

/-! Reading a query into facets.

Every text is a query. Fields with an empty value say nothing and are dropped; free text, and a
pair whose category is blank between its marks, go to the remainder category of the dialect.
-/

set_option autoImplicit false

namespace FacetedSearch.Query

def Field.categoryIn (field : Field) (dialect : Dialect) : String :=
  match field.category with
  | some category => if category.isEmpty then dialect.remainder else category
  | none => dialect.remainder

def Field.toFacet (field : Field) (dialect : Dialect) : Facet :=
  Facet.make (field.categoryIn dialect) field.value

/-- The fields of a query that become facets: those with a value. -/
def keptFields (query : String) : List Field :=
  (fields query).filter fun field => !field.value.isEmpty

def parse (dialect : Dialect) (query : String) : List Facet :=
  (keptFields query).map (·.toFacet dialect)

end FacetedSearch.Query
