import FacetedSearch.Toml.Value

/-! Tables while a document is read.

A table can be made in three ways, and the way decides what may still be added to it: by a header
of its own, by a longer header that passes through it, or by dotted keys. Values, inline tables
among them, are closed.
-/

set_option autoImplicit false

namespace FacetedSearch.Toml

inductive Origin where
  | header
  | passed
  | dotted
  deriving DecidableEq, Repr

/-- What a key stands for: a value, a table that may grow, or an array of such tables. -/
inductive Item where
  | value (value : Value)
  | table (origin : Origin) (items : List (String × Item))
  | tables (all : List (List (String × Item)))

abbrev Items := List (String × Item)

mutual

def Item.toValue : Item → Value
  | .value value => value
  | .table _ items => .table (itemsToEntries items)
  | .tables all => .array (tablesToValues all)

def itemsToEntries : List (String × Item) → List (String × Value)
  | [] => []
  | (key, item) :: rest => (key, item.toValue) :: itemsToEntries rest

def tablesToValues : List (List (String × Item)) → List Value
  | [] => []
  | items :: rest => .table (itemsToEntries items) :: tablesToValues rest

end

def Items.put (items : Items) (key : String) (item : Item) : Items :=
  if items.any (·.1 == key) then
    items.map fun entry => if entry.1 == key then (key, item) else entry
  else items ++ [(key, item)]

def Items.get? (items : Items) (key : String) : Option Item :=
  (items.find? (·.1 == key)).map (·.2)

def editLast (edit : Items → Option Items) (all : List Items) : Option (List Items) := do
  let last ← all.getLast?
  return all.dropLast ++ [← edit last]

/-- Edit the table at the end of a path of headers, whose last part is edited by `edit`. Tables
on the way are made if need be; an array of tables stands for its last one. -/
def Items.alongHeader (edit : String → Items → Option Items) : List String → Items → Option Items
  | [], _ => none
  | [key], items => edit key items
  | key :: path, items =>
    match items.get? key with
    | none => do return items.put key (.table .passed (← Items.alongHeader edit path []))
    | some (.table origin inner) => do
      return items.put key (.table origin (← Items.alongHeader edit path inner))
    | some (.tables all) => do
      return items.put key (.tables (← editLast (Items.alongHeader edit path) all))
    | some (.value _) => none

/-- Open the table of a header. A table may have one header, and none if dotted keys made it. It
takes its place among the others when its header comes. -/
def openTable (key : String) (items : Items) : Option Items :=
  match items.get? key with
  | none => some (items.put key (.table .header []))
  | some (.table .passed inner) =>
    some (items.filter (·.1 != key) ++ [(key, .table .header inner)])
  | _ => none

def openElement (key : String) (items : Items) : Option Items :=
  match items.get? key with
  | none => some (items.put key (.tables [[]]))
  | some (.tables all) => some (items.put key (.tables (all ++ [[]])))
  | _ => none

/-- Add a value under a dotted key. The tables on the way are made by dotted keys alone. -/
def Items.assign (value : Value) : List String → Items → Option Items
  | [], _ => none
  | [key], items => if (items.get? key).isSome then none else some (items.put key (.value value))
  | key :: path, items =>
    match items.get? key with
    | none => do return items.put key (.table .dotted (← Items.assign value path []))
    | some (.table .dotted inner) => do
      return items.put key (.table .dotted (← Items.assign value path inner))
    | some (.table .passed inner) =>
      match path with
      | _ :: _ :: _ => do
        return items.put key (.table .passed (← Items.assign value path inner))
      | _ => none
    | some (.tables all) =>
      match path with
      | _ :: _ :: _ => do
        return items.put key (.tables (← editLast (Items.assign value path) all))
      | _ => none
    | _ => none

def Items.within (edit : Items → Option Items) (header : List String) (items : Items) :
    Option Items :=
  if header.isEmpty then edit items
  else Items.alongHeader (fun key items =>
    match items.get? key with
    | some (.table origin inner) => do return items.put key (.table origin (← edit inner))
    | some (.tables all) => do return items.put key (.tables (← editLast edit all))
    | _ => none) header items

end FacetedSearch.Toml
