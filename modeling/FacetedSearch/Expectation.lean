import FacetedSearch.Facet
import FacetedSearch.Text.Literal

/-! Expectations about a list of facets, and what is said when they are not met.

Expectations are checked in order, and the first that is not met is reported.
-/

set_option autoImplicit false

namespace FacetedSearch

/-- What is expected of one facet; parts that are not given may be anything. -/
structure FacetPattern where
  category : Option String := none
  value : Option String := none
  label : Option String := none
  deriving DecidableEq, Repr

inductive Expectation where
  | count (expected : Nat)
  | facet (index : Nat) (pattern : FacetPattern)
  | categories (expected : List String)
  | values (expected : List String)
  deriving DecidableEq, Repr

namespace Expectation

inductive Failure where
  | count (found : List Facet) (expected : Nat)
  | noFacet (found : List Facet) (index : Nat)
  | part (index : Nat) (name found expected : String)
  | categories (found expected : List String)
  | values (found expected : List String)
  deriving DecidableEq, Repr

def summary (facets : List Facet) : String :=
  String.intercalate ", "
    (facets.map fun facet => facet.category ++ "=" ++ Text.literal facet.value)

def report (reason found expected : String) : String :=
  "assertion `left == right` failed: " ++ reason ++ "\n  left: " ++ found ++
    "\n right: " ++ expected

def Failure.message : Failure → String
  | .count found expected =>
    let length := toString found.length
    report ("Expected " ++ toString expected ++ " facets, found " ++ length ++ ": [" ++
      summary found ++ "]") length (toString expected)
  | .noFacet found index =>
    "Facet index " ++ toString index ++ " out of bounds (" ++ toString found.length ++
      " facets: [" ++ summary found ++ "])"
  | .part index name found expected =>
    report ("facets[" ++ toString index ++ "]: expected " ++ name ++ " '" ++ expected ++
      "', found '" ++ found ++ "'") (Text.literal found) (Text.literal expected)
  | .categories found expected =>
    report "Category order mismatch" (Text.literalList found) (Text.literalList expected)
  | .values found expected =>
    report "Value order mismatch" (Text.literalList found) (Text.literalList expected)

/-- The parts of a pattern in the order in which they are checked: the name of each, what the
facet has, and what it has to be. -/
def parts (facet : Facet) (pattern : FacetPattern) : List (String × String × Option String) :=
  [("category", facet.category, pattern.category), ("value", facet.value, pattern.value),
    ("label", facet.shown, pattern.label)]

def checkPart (index : Nat) : String × String × Option String → Option Failure
  | (_, _, none) => none
  | (name, found, some expected) =>
    if found = expected then none else some (.part index name found expected)

def failure? (facets : List Facet) : Expectation → Option Failure
  | .count expected =>
    if facets.length = expected then none else some (.count facets expected)
  | .facet index pattern =>
    match facets[index]? with
    | none => some (.noFacet facets index)
    | some found => (parts found pattern).findSome? (checkPart index)
  | .categories expected =>
    let found := facets.map (·.category)
    if found = expected then none else some (.categories found expected)
  | .values expected =>
    let found := facets.map (·.value)
    if found = expected then none else some (.values found expected)

def firstFailure? (facets : List Facet) : List Expectation → Option (Nat × Failure)
  | [] => none
  | expectation :: rest =>
    match expectation.failure? facets with
    | some failure => some (0, failure)
    | none => (firstFailure? facets rest).map fun (index, failure) => (index + 1, failure)

end Expectation

end FacetedSearch
