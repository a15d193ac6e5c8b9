import FacetedSearch.Settings.Setting

/-! Key paths: where in nested settings a setting stands.

A path is a name followed by names after dots and indices in brackets, such as
`query.unquotable[0]`.
-/

set_option autoImplicit false

namespace FacetedSearch.Settings

/-- One step into a setting. A negative index counts from the end. -/
inductive Step where
  | name (name : String)
  | index (index : Int)
  deriving DecidableEq, Repr

/-- A name in the outermost table, and the steps from there. -/
structure KeyPath where
  root : String
  steps : List Step
  deriving DecidableEq, Repr

def isNameCharacter (c : Char) : Bool := c.isAlphanum || c == ' ' || c == '_' || c == '-'

def readName? (cs : List Char) : Option (String × List Char) :=
  let name := cs.takeWhile isNameCharacter
  if name.isEmpty then none else some (String.ofList name, cs.dropWhile isNameCharacter)

def skipGap (cs : List Char) : List Char := cs.dropWhile fun c => c == ' ' || c == '\t'

def boundedIndex? (negative : Bool) (magnitude : Nat) : Option Int :=
  if negative then if magnitude ≤ Nat.pow 2 63 then some (-magnitude) else none
  else if magnitude < Nat.pow 2 63 then some magnitude else none

def readIndex? (cs : List Char) : Option (Int × List Char) :=
  let (negative, cs) := match skipGap cs with
    | '-' :: rest => (true, rest)
    | cs => (false, cs)
  let digits := cs.takeWhile Char.isDigit
  if digits.isEmpty then none
  else match skipGap (cs.dropWhile Char.isDigit) with
    | ']' :: rest =>
      (boundedIndex? negative (Nat.ofDigitChars 10 digits 0)).map fun index => (index, rest)
    | _ => none

def readSteps? : Nat → List Char → Option (List Step)
  | _, [] => some []
  | 0, _ => none
  | bound + 1, '.' :: rest => do
    let (name, rest) ← readName? rest
    return .name name :: (← readSteps? bound rest)
  | bound + 1, '[' :: rest => do
    let (index, rest) ← readIndex? rest
    return .index index :: (← readSteps? bound rest)
  | _, _ => none

def KeyPath.read? (text : String) : Option KeyPath := do
  let (root, rest) ← readName? text.toList
  return ⟨root, ← readSteps? rest.length rest⟩

def longestList : Nat := Nat.pow 2 24

/-- The place in a list that an index means. There is none before its start, and none that only a
list longer than all could have. -/
def placeOf? (index : Int) (length : Nat) : Option Nat :=
  let place := if 0 ≤ index then index else length + index
  if 0 ≤ place ∧ place < longestList then some place.toNat else none

def putAt (elements : List Setting) (place : Nat) (setting : Setting) : List Setting :=
  (elements ++ List.replicate (place + 1 - elements.length) Setting.nothing).set place setting

/-- Put a setting at the end of steps into another one, if every index on the way has a place. What
is on the way becomes a table or a list as the steps need it. -/
def Setting.putAlong (setting : Setting) : List Step → Setting → Option Setting
  | [], _ => some setting
  | [.name name], target => some (.table (setting.putInto name target.entries))
  | .name name :: steps, target => do
    let inner := (Entries.get? target.entries (lowerName name)).getD .nothing
    return .table (Entries.put target.entries (lowerName name) (← setting.putAlong steps inner))
  | .index index :: steps, target => do
    let place ← placeOf? index target.elements.length
    let inner := target.elements[place]?.getD .nothing
    return .list (putAt target.elements place (← setting.putAlong steps inner))

def KeyPath.put? (path : KeyPath) (setting : Setting) (entries : Entries) : Option Entries :=
  (setting.putAlong (.name path.root :: path.steps) (.table entries)).map Setting.entries

end FacetedSearch.Settings
