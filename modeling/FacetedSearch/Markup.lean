import FacetedSearch.Facet

/-! Facets as markup: one element per line, which holds the value and names the category. -/

set_option autoImplicit false

namespace FacetedSearch.Markup

def substitute (c : Char) (entity : String) (cs : List Char) : List Char :=
  cs.flatMap fun other => if other = c then entity.toList else [other]

/-- The characters that mean something in markup, and the entities that stand for them. The
ampersand comes first, so that those of the other entities are not taken for characters. -/
def entities : List (Char × String) :=
  [('&', "&amp;"), ('<', "&lt;"), ('>', "&gt;"), ('"', "&quot;")]

def escape (text : String) : String :=
  String.ofList (entities.foldl (fun cs (c, entity) => substitute c entity cs) text.toList)

def element (facet : Facet) : String :=
  "<facet category=\"" ++ escape facet.category ++ "\">" ++ escape facet.value ++ "</facet>"

def render (facets : List Facet) : String := String.intercalate "\n" (facets.map element)

end FacetedSearch.Markup
