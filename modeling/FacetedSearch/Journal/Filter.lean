import FacetedSearch.Journal.Directive

/-! Which notes of the journal are wanted.

A filter selects notes by level: for all targets or for those whose names start in a given way,
and perhaps for the notes only that have some member.
-/

set_option autoImplicit false

namespace FacetedSearch.Journal

/-- Several rules; the most specific of those that apply decides. -/
abbrev Filter := List Rule

def Filter.upTo (level : Level) : Filter := [{ target := "", rank := level.rank }]

def Filter.rankFor (filter : Filter) (note : Note) : Nat :=
  match filter.filter (·.appliesTo note) with
  | [] => 0
  | first :: rest =>
    (rest.foldl (fun best rule => if best.yieldsTo rule then rule else best) first).rank

def Filter.admits (filter : Filter) (note : Note) : Bool :=
  note.level.rank ≤ filter.rankFor note

def Filter.ofDirectives : List Directive → Filter
  | [] => Filter.upTo .error
  | directives => directives.filterMap fun
    | .rule rule => some rule
    | .spans => none

/-- Read a filter: directives with commas between them. After a malformed directive, the text is
read as if it asked for warnings. There is no filter after one with a divided part. -/
def Filter.read? (text : String) : Option Filter :=
  match ((text.splitOn ",").filter (!·.isEmpty)).mapM Directive.read with
  | .ok directives => some (Filter.ofDirectives directives)
  | .error .malformed => some (Filter.upTo .warn)
  | .error .divided => none

end FacetedSearch.Journal
