import FacetedSearch.FacetList.Basic
import FacetedSearch.Query.Render

/-! Questions to a facet list: by identity, by index, by category, and as a query. -/

set_option autoImplicit false

namespace FacetedSearch.FacetList

def length (list : FacetList) : Nat := list.entries.length

def isEmpty (list : FacetList) : Bool := list.entries.isEmpty

def get? (list : FacetList) (id : FacetId) : Option Facet :=
  (list.entries.find? fun entry => entry.id == id).map Entry.facet

def idAt (list : FacetList) (index : Nat) : Option FacetId := list.entries[index]?.map Entry.id

def pairs (list : FacetList) : List (String × String) := list.toList.map Facet.pair

def labels (list : FacetList) : List String := list.toList.map Facet.shown

def find (list : FacetList) (category : String) : Option String :=
  (list.toList.find? (·.isCategory category)).map Facet.value

def count (list : FacetList) (category : String) : Nat :=
  (list.toList.filter (·.isCategory category)).length

def values (list : FacetList) (category : String) : List String :=
  (list.toList.filter (·.isCategory category)).map Facet.value

/-- Whether a category has a facet, and one with exactly this value if a value is given. -/
def has (list : FacetList) (category : String) (value : Option String) : Bool :=
  list.toList.any fun facet =>
    facet.isCategory category && (value.all fun value => facet.value == value)

def render (list : FacetList) (dialect : Dialect) : String := Query.render dialect list.toList

def renderExcluding (list : FacetList) (dialect : Dialect) (categories : List String) : String :=
  Query.render dialect (list.toList.filter fun facet => !categories.any facet.isCategory)

end FacetedSearch.FacetList
