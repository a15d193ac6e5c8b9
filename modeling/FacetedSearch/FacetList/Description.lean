import FacetedSearch.FacetList.Basic
import FacetedSearch.Text.Literal

/-! A full description of a facet list, for diagnostics. -/

set_option autoImplicit false

namespace FacetedSearch

/-- An optional string as `Some` of its literal, or `None`. -/
def describeLabel : Option String → String
  | some label => "Some(" ++ Text.literal label ++ ")"
  | none => "None"

def Facet.describe (facet : Facet) : String :=
  "Facet \x7b category: " ++ Text.literal facet.category ++ ", value: " ++
    Text.literal facet.value ++ ", label: " ++ describeLabel facet.label ++ " \x7d"

def Entry.describe (entry : Entry) : String :=
  "Entry \x7b id: FacetId(" ++ toString entry.id ++ "), facet: " ++ entry.facet.describe ++ " \x7d"

def FacetList.describe (list : FacetList) : String :=
  "FacetList \x7b facets: [" ++ String.intercalate ", " (list.entries.map Entry.describe) ++
    "], observers: " ++ toString list.observers.live.length ++ " \x7d"

end FacetedSearch
