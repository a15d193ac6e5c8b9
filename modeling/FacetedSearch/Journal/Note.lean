import FacetedSearch.Query.Field
import FacetedSearch.Text.Lines
import FacetedSearch.Text.Literal

/-! The notes of the journal: what the library reports about its own work.

Every note has a level, a target (the part of the program that it is about), members that tell
what happened, and a text.
-/

set_option autoImplicit false

namespace FacetedSearch.Journal

/-- How much detail a note belongs to; a filter that admits a level admits all before it. -/
inductive Level where
  | error
  | warn
  | info
  | debug
  | trace
  deriving DecidableEq, Repr

def Level.rank : Level → Nat
  | .error => 1
  | .warn => 2
  | .info => 3
  | .debug => 4
  | .trace => 5

def Level.name : Level → String
  | .error => "ERROR"
  | .warn => "WARN"
  | .info => "INFO"
  | .debug => "DEBUG"
  | .trace => "TRACE"

inductive Note where
  | facetRead (category value : String) (span : Query.Span)
  | queryRead (facets bytes : Nat)
  | facetAdded (category : String) (index : Nat)
  | facetRemoved (category : String) (index : Nat)
  | listReset (facets : Nat)
  | searched (query : String) (facets : Nat)
  deriving DecidableEq, Repr

def Note.level : Note → Level
  | .facetRead .. => .trace
  | _ => .debug

def Note.target : Note → String
  | .facetRead .. | .queryRead .. => "facetq::query::parsing"
  | .facetAdded .. | .facetRemoved .. | .listReset .. => "facetq::query::facet_list"
  | .searched .. => "facetq::query::editor"

def Note.members : Note → List String
  | .facetRead .. => ["message", "category", "value", "span"]
  | .queryRead .. => ["message", "facets", "query_len"]
  | .facetAdded .. | .facetRemoved .. => ["message", "category", "index"]
  | .listReset .. => ["message", "facets"]
  | .searched .. => ["message", "query", "facets"]

def Note.text : Note → String
  | .facetRead category value span =>
    "facet category=" ++ Text.literal category ++ " value=" ++ Text.literal value ++
      " span=" ++ toString span.start ++ ".." ++ toString span.stop
  | .queryRead facets bytes =>
    "parsed query facets=" ++ toString facets ++ " query_len=" ++ toString bytes
  | .facetAdded category index => "facet added category=" ++ category ++ " index=" ++ toString index
  | .facetRemoved category index =>
    "facet removed category=" ++ category ++ " index=" ++ toString index
  | .listReset facets => "facet list reset facets=" ++ toString facets
  | .searched query facets => "search query=" ++ query ++ " facets=" ++ toString facets

/-- A note as the lines that it takes in the journal. None starts with a blank. -/
def Note.lines (note : Note) : List String :=
  let entry := note.level.name ++ " " ++ note.target ++ ": " ++ note.text
  (Text.lines entry.toList).map fun line => String.ofList (line.dropWhile Text.isBlank)

end FacetedSearch.Journal
