import FacetedSearch.Facet
import FacetedSearch.Journal.Note

/-! Changes of a facet list, and who hears of them.

A change says what happened and shows the facets of the list right after it. Observers are kept
as the subscriptions that are live, in the order in which they were made.
-/

set_option autoImplicit false

namespace FacetedSearch

abbrev FacetId := Nat

abbrev SubscriptionId := Nat

inductive ChangeKind where
  | reset
  | added (id : FacetId) (index : Nat)
  | removed (id : FacetId) (index : Nat) (facet : Facet)
  | changed (id : FacetId) (index : Nat)
  deriving DecidableEq, Repr

/-- Something that happened, with the facets of the list right after it. -/
structure Change where
  kind : ChangeKind
  snapshot : List Facet
  deriving DecidableEq, Repr

structure Delivery where
  subscriber : SubscriptionId
  change : Change
  deriving DecidableEq, Repr

def Change.note? (change : Change) : Option Journal.Note :=
  match change.kind with
  | .reset => some (.listReset change.snapshot.length)
  | .added _ index => change.snapshot[index]?.map fun facet => .facetAdded facet.category index
  | .removed _ index facet => some (.facetRemoved facet.category index)
  | .changed _ _ => none

structure Observers where
  live : List SubscriptionId := []
  next : SubscriptionId := 0
  deriving DecidableEq, Repr

/-- Add a subscription, under a number that was never used before. -/
def Observers.subscribe (observers : Observers) : Observers :=
  ⟨observers.live ++ [observers.next], observers.next + 1⟩

def Observers.unsubscribe (observers : Observers) (id : SubscriptionId) : Observers :=
  { observers with live := observers.live.filter (· != id) }

def Observers.deliver (observers : Observers) (change : Change) : List Delivery :=
  observers.live.map fun subscriber => ⟨subscriber, change⟩

end FacetedSearch
