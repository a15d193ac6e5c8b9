import FacetedSearch.Text.Blank
import FacetedSearch.Text.Lowercase

/-! Facets: a category, a value, and perhaps a label to show in place of the value. -/

set_option autoImplicit false

namespace FacetedSearch

/-- Whether two names are the same category. Case does not matter: two ASCII names are compared
letter by letter, and otherwise the lowercase forms of all characters are compared. -/
def sameCategory (first second : String) : Bool :=
  let left := first.toList
  let right := second.toList
  if left.all (·.toNat < 0x80) && right.all (·.toNat < 0x80) then
    left.map Char.toLower == right.map Char.toLower
  else
    Text.lowercaseChars left == Text.lowercaseChars right

/-- One constraint of a query. The label changes only what is shown, never what is searched. -/
structure Facet where
  category : String
  value : String
  label : Option String := none
  deriving DecidableEq, Repr

namespace Facet

def make (category value : String) : Facet := ⟨category, Text.trim value, none⟩

def withLabel (facet : Facet) (label : String) : Facet := { facet with label := some label }

def withValue (facet : Facet) (value : String) : Facet := { facet with value := Text.trim value }

def shown (facet : Facet) : String := facet.label.getD facet.value

def isCategory (facet : Facet) (category : String) : Bool := sameCategory facet.category category

/-- Whether the value has no character at all; a blank value is not empty. -/
def isEmpty (facet : Facet) : Bool := facet.value.isEmpty

def normalized (facet : Facet) : Facet := facet.withValue facet.value

def pair (facet : Facet) : String × String := (facet.category, facet.value)

end Facet

end FacetedSearch
