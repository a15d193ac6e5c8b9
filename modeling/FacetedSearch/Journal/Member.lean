import FacetedSearch.Pattern.Basic

/-! What a filter of the journal can ask of the members of notes.

A member has to be there, or has to have a value: a number, or a text of some pattern.
-/

set_option autoImplicit false

namespace FacetedSearch.Journal

def isNumber (cs : List Char) : Bool :=
  let lower := String.ofList (cs.map Char.toLower)
  let whole := cs.dropWhile Char.isDigit
  let fraction := if whole.head? == some '.' then (whole.drop 1).dropWhile Char.isDigit else whole
  let mantissa := cs.length - fraction.length
  let hasDigits := (cs.take mantissa).any Char.isDigit
  let exponent := match fraction with
    | [] => true
    | mark :: '+' :: digits | mark :: '-' :: digits | mark :: digits =>
      (mark == 'e' || mark == 'E') && !digits.isEmpty && digits.all Char.isDigit
  ["inf", "infinity", "nan"].contains lower || (hasDigits && exponent)

/-- Whether a member can be asked to have a value. Numbers are patterns too, unless they have a
plus sign. -/
def isValue (cs : List Char) : Bool :=
  Pattern.isPattern cs || (cs.head? == some '+' && isNumber (cs.drop 1))

structure MemberRequest where
  name : String
  hasValue : Bool
  deriving DecidableEq, Repr

/-- Read a member with perhaps a value after `=`; what follows another `=` has no meaning. -/
def MemberRequest.read? (cs : List Char) : Option MemberRequest :=
  let name := String.ofList (cs.takeWhile (· != '='))
  match cs.dropWhile (· != '=') with
  | [] => some { name, hasValue := false }
  | _ :: rest =>
    if isValue (rest.takeWhile (· != '=')) then some { name, hasValue := true } else none

end FacetedSearch.Journal
