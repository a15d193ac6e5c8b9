import FacetedSearch.FacetList.Description
import FacetedSearch.FacetList.Lookup

/-! Everything that can be asked of a facet list, as data, so that whole sessions can be run.

Mutations change entries, subscriptions change observers, and lookups change nothing.
-/

set_option autoImplicit false

namespace FacetedSearch.FacetList

inductive Mutation where
  | reset (facets : List Facet)
  | add (facet : Facet)
  | insert (position : Nat) (facet : Facet)
  | remove (id : FacetId)
  | updateValue (id : FacetId) (value : String)
  | setLabel (id : FacetId) (label : Option String)
  | pruneEmpty
  deriving DecidableEq, Repr

inductive Lookup where
  | size
  | get (id : FacetId)
  | position (id : FacetId)
  | idAt (index : Nat)
  | facets
  | pairs
  | labels
  | find (category : String)
  | count (category : String)
  | values (category : String)
  | has (category : String) (value : Option String)
  | query
  | queryExcluding (categories : List String)
  | description
  deriving DecidableEq, Repr

inductive Request where
  | mutation (mutation : Mutation)
  | subscribe
  | unsubscribe (id : SubscriptionId)
  | lookup (lookup : Lookup)
  deriving DecidableEq, Repr

inductive Reply where
  | nothing
  | truth (answer : Bool)
  | number (answer : Nat)
  | number? (answer : Option Nat)
  | text (answer : String)
  | text? (answer : Option String)
  | texts (answer : List String)
  | facet? (answer : Option Facet)
  | facets (answer : List Facet)
  | pairs (answer : List (String × String))
  deriving DecidableEq, Repr

def perform (list : FacetList) : Mutation → Outcome Reply
  | .reset facets => (list.reset facets).map fun _ => .nothing
  | .add facet => (list.add facet).map .number
  | .insert position facet => (list.insert position facet).map .number
  | .remove id => (list.remove id).map .facet?
  | .updateValue id value => (list.updateValue id value).map .truth
  | .setLabel id label => (list.setLabel id label).map .truth
  | .pruneEmpty => list.pruneEmpty.map .number

def answer (list : FacetList) (dialect : Dialect) : Lookup → Reply
  | .size => .number list.length
  | .get id => .facet? (list.get? id)
  | .position id => .number? (list.position id)
  | .idAt index => .number? (list.idAt index)
  | .facets => .facets list.toList
  | .pairs => .pairs list.pairs
  | .labels => .texts list.labels
  | .find category => .text? (list.find category)
  | .count category => .number (list.count category)
  | .values category => .texts (list.values category)
  | .has category value => .truth (list.has category value)
  | .query => .text (list.render dialect)
  | .queryExcluding categories => .text (list.renderExcluding dialect categories)
  | .description => .text list.describe

/-- Answer a request; only mutations and subscriptions lead to another list. -/
def handle (list : FacetList) (dialect : Dialect) : Request → Outcome Reply
  | .mutation mutation => list.perform mutation
  | .subscribe => list.subscribe.map .number
  | .unsubscribe id => (list.unsubscribe id).map .truth
  | .lookup lookup => ⟨list, list.answer dialect lookup, []⟩

def session (list : FacetList) (dialect : Dialect) : List Request → List (Outcome Reply)
  | [] => []
  | request :: rest =>
    let outcome := list.handle dialect request
    outcome :: outcome.list.session dialect rest

end FacetedSearch.FacetList
