import FacetedSearch.Pattern.Mode
import FacetedSearch.Text.Alphanumeric

/-! The starts of groups in patterns: what follows their brackets. -/

set_option autoImplicit false

namespace FacetedSearch.Pattern

inductive Opening where
  | group (mode : Mode) (name : Option (List Char))
  /-- No group, but flags for what follows. -/
  | flags (mode : Mode)
  deriving DecidableEq, Repr

def startsName (c : Char) : Bool := c == '_' || Text.isAlphabetic c

def continuesName (c : Char) : Bool := "_.[]".toList.contains c || Text.isAlphanumeric c

def readName? (cs : List Char) : Option (List Char × List Char) :=
  let name := cs.takeWhile (· != '>')
  match cs.dropWhile (· != '>') with
  | _ :: rest =>
    if name.head?.any startsName && name.all continuesName then some (name, rest) else none
  | [] => none

/-- Read flags: none is given twice, and some follow the sign of negation. -/
def readFlags? (given : List Char) (on : Bool) (mode : Mode) :
    List Char → Option (Opening × List Char)
  | ':' :: rest => some (.group mode none, rest)
  | ')' :: rest => if given.isEmpty then none else some (.flags mode, rest)
  | '-' :: c :: rest =>
    if !on || c == ':' || c == ')' then none else readFlags? given false mode (c :: rest)
  | c :: rest =>
    if flagLetters.contains c && !given.contains c then
      readFlags? (c :: given) on (mode.switch c on) rest
    else none
  | [] => none

def readOpening? (mode : Mode) (cs : List Char) : Option (Opening × List Char) :=
  match mode.skip cs with
  | '?' :: 'P' :: '<' :: rest | '?' :: '<' :: rest =>
    (readName? rest).map fun (name, rest) => (.group mode (some name), rest)
  | '?' :: rest => readFlags? [] true mode rest
  | rest => some (.group mode none, rest)

end FacetedSearch.Pattern
