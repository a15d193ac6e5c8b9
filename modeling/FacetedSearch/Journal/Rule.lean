import FacetedSearch.Journal.Note

/-! Rules about the notes of the journal, and which of two rules decides. -/

set_option autoImplicit false

namespace FacetedSearch.Journal

/-- Notes whose targets start with `target`, and that have the member if one is given, are
reported up to `rank`. -/
structure Rule where
  target : String
  member : Option String := none
  rank : Nat
  deriving DecidableEq, Repr

def Rule.appliesTo (rule : Rule) (note : Note) : Bool :=
  rule.target.toList.isPrefixOf note.target.toList && rule.member.all note.members.contains

/-- Whether a rule gives way to a later one where both apply: unless its target is longer, or as
long and its member is the only one or the later one in the order of names. -/
def Rule.yieldsTo (rule other : Rule) : Bool :=
  if rule.target.length != other.target.length then rule.target.length < other.target.length
  else
    match rule.member, other.member with
    | none, _ => true
    | some _, none => false
    | some name, some otherName => !(otherName < name)

end FacetedSearch.Journal
