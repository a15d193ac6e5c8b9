import FacetedSearch.Number.Decimal
import FacetedSearch.Text.Lowercase
import FacetedSearch.Toml.Value

/-! Untyped settings: what files and overrides say, before it is known what is asked for.

The names of settings do not depend on case, so tables hold lowercase names only. Putting a table
in place of a table merges the two, name by name; anything else replaces what was there.
-/

set_option autoImplicit false

namespace FacetedSearch.Settings

open Number (Binary64)

inductive Setting where
  | nothing
  | boolean (value : Bool)
  | integer (value : Int)
  | float (value : Binary64)
  | text (value : String)
  | list (elements : List Setting)
  | table (entries : List (String × Setting))
  deriving Inhabited

abbrev Entries := List (String × Setting)

mutual

/-- A value of a configuration file as a setting; dates and times are texts. -/
def Setting.ofToml : Toml.Value → Setting
  | .text value => .text value
  | .integer value => .integer value
  | .float value => .float value
  | .boolean value => .boolean value
  | .moment text => .text text
  | .array elements => .list (settingsOfToml elements)
  | .table entries => .table (entriesOfToml entries)

def settingsOfToml : List Toml.Value → List Setting
  | [] => []
  | value :: rest => Setting.ofToml value :: settingsOfToml rest

def entriesOfToml : List (String × Toml.Value) → Entries
  | [] => []
  | (name, value) :: rest => (name, Setting.ofToml value) :: entriesOfToml rest

end

def lowerName (name : String) : String := String.ofList (Text.lowercaseChars name.toList)

def Entries.get? (entries : Entries) (name : String) : Option Setting :=
  (entries.find? (·.1 == name)).map (·.2)

def Entries.put : Entries → String → Setting → Entries
  | [], name, setting => [(name, setting)]
  | entry :: rest, name, setting =>
    if entry.1 == name then (name, setting) :: rest else entry :: Entries.put rest name setting

def Setting.entries : Setting → Entries
  | .table entries => entries
  | _ => []

def Setting.elements : Setting → List Setting
  | .list elements => elements
  | _ => []

mutual

def Setting.putInto (setting : Setting) (name : String) (entries : Entries) : Entries :=
  match setting with
  | .table incoming =>
    let target := (entries.get? (lowerName name)).getD (.table [])
    entries.put (lowerName name) (mergeEntries incoming target)
  | other => entries.put (lowerName name) other

/-- A setting after entries were put into it. It becomes a table with the first of them. -/
def mergeEntries (incoming : List (String × Setting)) (target : Setting) : Setting :=
  match incoming with
  | [] => target
  | (name, setting) :: rest =>
    mergeEntries rest (.table (setting.putInto name target.entries))

end

end FacetedSearch.Settings
