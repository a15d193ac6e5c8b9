import FacetedSearch.Dialect
import FacetedSearch.Facet
import FacetedSearch.Json.Reader
import FacetedSearch.Json.Value

/-! Facets and dialects as JSON.

Both are written as objects; a missing label is left out. They are read from objects with their
members in any order, or from arrays of the members' values, where trailing members with a
default may be missing. Members of other names are passed over.
-/

set_option autoImplicit false

namespace FacetedSearch

open Json

namespace Facet

def toJson (facet : Facet) : Json.Value :=
  .object ([("category", .string facet.category), ("value", .string facet.value)] ++
    facet.label.toList.map fun label => ("label", .string label))

/-- A facet while its members are read. A label of `null` has been seen, but is no label. -/
structure Draft where
  category : Option String := none
  value : Option String := none
  label : Option (Option String) := none

def Draft.readMember (name : String) (draft : Draft) : Reader Draft := fun cs =>
  match name with
  | "category" => (readOnce name draft.category readString cs).map fun (category, rest) =>
    ({ draft with category }, rest)
  | "value" => (readOnce name draft.value readString cs).map fun (value, rest) =>
    ({ draft with value }, rest)
  | "label" => (readOnce name draft.label readString? cs).map fun (label, rest) =>
    ({ draft with label }, rest)
  | _ => skipMember draft cs

def Draft.finish (draft : Draft) : Except Failure Facet :=
  match draft.category, draft.value with
  | none, _ => .error (.mismatch (.missing "category"))
  | _, none => .error (.mismatch (.missing "value"))
  | some category, some value => .ok ⟨category, value, draft.label.join⟩

def tooShort (length : Nat) : Failure :=
  .mismatch (.length length "struct Facet with 3 elements")

def readArray (cs : List Char) : Except Failure (Facet × List Char) := do
  match ← nextElement true cs with
  | none => .error (tooShort 0)
  | some cs =>
    let (category, cs) ← readString cs
    match ← nextElement false cs with
    | none => .error (tooShort 1)
    | some cs =>
      let (value, cs) ← readString cs
      match ← nextElement false cs with
      | none => return (⟨category, value, none⟩, ← endArray cs)
      | some cs =>
        let (label, cs) ← readString? cs
        return (⟨category, value, label⟩, ← endArray cs)

def readObject (cs : List Char) : Except Failure (Facet × List Char) := do
  let (draft, rest) ← readMembers Draft.readMember (cs.length + 1) true {} cs
  return (← draft.finish, rest)

/-- Read a facet as it stands; its value is not trimmed. -/
def read : Reader Facet := fun cs =>
  match skipSpace cs with
  | [] => .error .incomplete
  | '[' :: rest => readArray rest
  | '\x7b' :: rest => readObject rest
  | c :: rest => .error (unexpected "struct Facet" c rest)

def listToJson (facets : List Facet) : Json.Value := .array (facets.map toJson)

def ofJson (text : String) : Except Failure (List Facet) := readWhole (Json.readArray read) text

end Facet

namespace Dialect

def toJson (dialect : Dialect) : Json.Value :=
  .object [("remainder", .string dialect.remainder),
    ("unquotable", .array (dialect.unquotable.map .string))]

structure Draft where
  remainder : Option String := none
  unquotable : Option (List String) := none

def Draft.readMember (name : String) (draft : Draft) : Reader Draft := fun cs =>
  match name with
  | "remainder" => (readOnce name draft.remainder readString cs).map fun (remainder, rest) =>
    ({ draft with remainder }, rest)
  | "unquotable" =>
    (readOnce name draft.unquotable (Json.readArray readString) cs).map fun (unquotable, rest) =>
      ({ draft with unquotable }, rest)
  | _ => skipMember draft cs

def Draft.finish (draft : Draft) : Except Failure Dialect :=
  match draft.remainder with
  | none => .error (.mismatch (.missing "remainder"))
  | some remainder => .ok ⟨remainder, draft.unquotable.getD []⟩

def readArray (cs : List Char) : Except Failure (Dialect × List Char) := do
  match ← nextElement true cs with
  | none => .error (.mismatch (.length 0 "struct QueryConfig with 2 elements"))
  | some cs =>
    let (remainder, cs) ← readString cs
    match ← nextElement false cs with
    | none => return (⟨remainder, []⟩, ← endArray cs)
    | some cs =>
      let (unquotable, cs) ← Json.readArray readString cs
      return (⟨remainder, unquotable⟩, ← endArray cs)

def readObject (cs : List Char) : Except Failure (Dialect × List Char) := do
  let (draft, rest) ← readMembers Draft.readMember (cs.length + 1) true {} cs
  return (← draft.finish, rest)

def read : Reader Dialect := fun cs =>
  match skipSpace cs with
  | [] => .error .incomplete
  | '[' :: rest => readArray rest
  | '\x7b' :: rest => readObject rest
  | c :: rest => .error (unexpected "struct QueryConfig" c rest)

def ofJson (text : String) : Except Failure Dialect := readWhole read text

end Dialect

end FacetedSearch
