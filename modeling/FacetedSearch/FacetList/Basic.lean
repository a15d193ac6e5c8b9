import FacetedSearch.FacetList.Change

/-! Facet lists: an order of facets in which each has an identity of its own.

The order is that of the query and changes only where an operation says so. Several facets may
have one category and value; they differ in their identity, which is never given out again.
Every operation returns the new list with the changes that it made, in the order made.
-/

set_option autoImplicit false

namespace FacetedSearch

structure Entry where
  id : FacetId
  facet : Facet
  deriving DecidableEq, Repr

structure FacetList where
  entries : List Entry := []
  nextId : FacetId := 0
  observers : Observers := {}
  deriving DecidableEq, Repr

structure Outcome (α : Type) where
  list : FacetList
  result : α
  changes : List Change := []
  deriving Repr

def Outcome.deliveries {α : Type} (outcome : Outcome α) : List Delivery :=
  outcome.changes.flatMap outcome.list.observers.deliver

def Outcome.notes {α : Type} (outcome : Outcome α) : List Journal.Note :=
  outcome.changes.filterMap Change.note?

def Outcome.map {α β : Type} (f : α → β) (outcome : Outcome α) : Outcome β :=
  { outcome with result := f outcome.result }

namespace FacetList

def toList (list : FacetList) : List Facet := list.entries.map Entry.facet

def position (list : FacetList) (id : FacetId) : Option Nat :=
  list.entries.findIdx? fun entry => entry.id == id

def changeTo (list : FacetList) (kind : ChangeKind) : Change := ⟨kind, list.toList⟩

/-- Give consecutive identities to facets, the first of them `next`. -/
def number (next : FacetId) : List Facet → List Entry
  | [] => []
  | facet :: rest => ⟨next, facet⟩ :: number (next + 1) rest

def reset (list : FacetList) (facets : List Facet) : Outcome Unit :=
  let list := { list with
    entries := number list.nextId facets, nextId := list.nextId + facets.length }
  ⟨list, (), [list.changeTo .reset]⟩

/-- Insert a facet at a position; past the end it is appended. The result is its identity. -/
def insert (list : FacetList) (position : Nat) (facet : Facet) : Outcome FacetId :=
  let index := min position list.entries.length
  let id := list.nextId
  let list := { list with entries := list.entries.insertIdx index ⟨id, facet⟩, nextId := id + 1 }
  ⟨list, id, [list.changeTo (.added id index)]⟩

def add (list : FacetList) (facet : Facet) : Outcome FacetId :=
  list.insert list.entries.length facet

def remove (list : FacetList) (id : FacetId) : Outcome (Option Facet) :=
  match list.position id with
  | none => ⟨list, none, []⟩
  | some index =>
    match list.entries[index]? with
    | none => ⟨list, none, []⟩
    | some entry =>
      let list := { list with entries := list.entries.eraseIdx index }
      ⟨list, some entry.facet, [list.changeTo (.removed id index entry.facet)]⟩

def change (list : FacetList) (id : FacetId) (edit : Facet → Facet) : Outcome Bool :=
  match list.position id with
  | none => ⟨list, false, []⟩
  | some index =>
    let list := { list with
      entries := list.entries.modify index fun entry => { entry with facet := edit entry.facet } }
    ⟨list, true, [list.changeTo (.changed id index)]⟩

def updateValue (list : FacetList) (id : FacetId) (value : String) : Outcome Bool :=
  list.change id (·.withValue value)

def setLabel (list : FacetList) (id : FacetId) (label : Option String) : Outcome Bool :=
  list.change id fun facet => { facet with label }

def removeAll (list : FacetList) : List FacetId → Outcome Unit
  | [] => ⟨list, (), []⟩
  | id :: rest =>
    let first := list.remove id
    let last := first.list.removeAll rest
    ⟨last.list, (), first.changes ++ last.changes⟩

def emptyIds (list : FacetList) : List FacetId :=
  (list.entries.filter (·.facet.isEmpty)).map Entry.id

/-- Remove every facet with an empty value; the result is how many there were. -/
def pruneEmpty (list : FacetList) : Outcome Nat :=
  (list.removeAll list.emptyIds).map fun _ => list.emptyIds.length

def subscribe (list : FacetList) : Outcome SubscriptionId :=
  ⟨{ list with observers := list.observers.subscribe }, list.observers.next, []⟩

def unsubscribe (list : FacetList) (id : SubscriptionId) : Outcome Bool :=
  ⟨{ list with observers := list.observers.unsubscribe id }, list.observers.live.contains id, []⟩

def ofFacets (facets : List Facet) : Outcome Unit := FacetList.reset {} facets

end FacetList

end FacetedSearch
