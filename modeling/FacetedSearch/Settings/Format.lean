/-! The formats in which parsed facets are printed. -/

set_option autoImplicit false

namespace FacetedSearch

inductive Format where
  | json
  | tag
  | query
  deriving DecidableEq, Repr

def Format.name : Format → String
  | .json => "json"
  | .tag => "tag"
  | .query => "query"

def Format.ofName? (name : String) : Option Format :=
  [Format.json, .tag, .query].find? (·.name == name)

def Format.unknownMessage (name : String) : String :=
  "unknown format '" ++ name ++ "' (expected json, tag or query)"

end FacetedSearch
