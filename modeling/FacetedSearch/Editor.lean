import FacetedSearch.FacetList.Request
import FacetedSearch.Query.Parse

/-! Editors: one facet list with the dialect in which it is read and written.

A search box owns an editor and calls it when the user edits the query.
-/

set_option autoImplicit false

namespace FacetedSearch

def Query.parseNotes (dialect : Dialect) (query : String) : List Journal.Note :=
  (Query.keptFields query).map (fun field =>
    .facetRead (field.categoryIn dialect) field.value field.span) ++
    [.queryRead (Query.parse dialect query).length (Text.byteLength query.toList)]

structure Editor where
  dialect : Dialect := {}
  facets : FacetList := {}
  deriving DecidableEq, Repr

namespace Editor

/-- What an operation on an editor leads to: changes of its list, and notes for the journal. -/
structure Outcome (α : Type) where
  editor : Editor
  result : α
  changes : List Change := []
  notes : List Journal.Note := []
  deriving Repr

def Outcome.map {α β : Type} (f : α → β) (outcome : Outcome α) : Outcome β :=
  { outcome with result := f outcome.result }

def Outcome.deliveries {α : Type} (outcome : Outcome α) : List Delivery :=
  outcome.changes.flatMap outcome.editor.facets.observers.deliver

def ofList {α : Type} (editor : Editor) (outcome : FacetedSearch.Outcome α) : Outcome α :=
  ⟨{ editor with facets := outcome.list }, outcome.result, outcome.changes, outcome.notes⟩

def setQuery (editor : Editor) (query : String) : Outcome Unit :=
  let outcome := editor.ofList (editor.facets.reset (Query.parse editor.dialect query))
  { outcome with notes := Query.parseNotes editor.dialect query ++ outcome.notes }

def withQuery (dialect : Dialect) (query : String) : Outcome Unit :=
  Editor.setQuery { dialect } query

def value (editor : Editor) : String := editor.facets.render editor.dialect

/-- Insert a facet, at the end without a position. Category and value are trimmed; nothing is
inserted under a blank category. The result is the identity of the facet. -/
def addFacet (editor : Editor) (category value : String) (position : Option Nat) :
    Outcome (Option FacetId) :=
  let category := Text.trim category
  if category.isEmpty then ⟨editor, none, [], []⟩
  else
    let facet := Facet.make category value
    let outcome := match position with
      | some position => editor.facets.insert position facet
      | none => editor.facets.add facet
    (editor.ofList outcome).map some

def addText (editor : Editor) (text : String) (position : Option Nat) :
    Outcome (Option FacetId) :=
  if (Text.trim text).isEmpty then ⟨editor, none, [], []⟩
  else editor.addFacet editor.dialect.remainder text position

/-- Start a search: the facets are written as a query and read back, and what is searched is
that query with the facets read. The result is the query. -/
def search (editor : Editor) : Outcome String :=
  let query := editor.value
  let outcome := editor.setQuery query
  { outcome with
    result := query
    notes := outcome.notes ++ [.searched query outcome.editor.facets.length] }

inductive Request where
  | setQuery (query : String)
  | value
  | dialect
  | addFacet (category value : String) (position : Option Nat)
  | addText (text : String) (position : Option Nat)
  | search
  | list (request : FacetList.Request)
  deriving DecidableEq, Repr

inductive Reply where
  | nothing
  | text (answer : String)
  | dialect (answer : Dialect)
  | inserted (id : Option FacetId)
  | searched (query : String) (facets : FacetList)
  | list (reply : FacetList.Reply)
  deriving DecidableEq, Repr

def handle (editor : Editor) : Request → Outcome Reply
  | .setQuery query => (editor.setQuery query).map fun _ => .nothing
  | .value => ⟨editor, .text editor.value, [], []⟩
  | .dialect => ⟨editor, .dialect editor.dialect, [], []⟩
  | .addFacet category value position =>
    (editor.addFacet category value position).map .inserted
  | .addText text position => (editor.addText text position).map .inserted
  | .search =>
    let outcome := editor.search
    outcome.map fun query => .searched query outcome.editor.facets
  | .list request => (editor.ofList (editor.facets.handle editor.dialect request)).map .list

def session (editor : Editor) : List Request → List (Outcome Reply)
  | [] => []
  | request :: rest =>
    let outcome := editor.handle request
    outcome :: outcome.editor.session rest

end Editor

end FacetedSearch
