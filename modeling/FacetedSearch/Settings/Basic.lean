import FacetedSearch.Dialect
import FacetedSearch.Files
import FacetedSearch.Settings.Format
import FacetedSearch.Settings.KeyPath
import FacetedSearch.Toml.Document

/-! The settings of the program, and how they come from layers.

The built-in defaults are the lowest layer. Files are put over them in order, and overrides over
all files, whatever their place among the layers. The result has to have the right types;
scalars are converted where that makes sense.
-/

set_option autoImplicit false

namespace FacetedSearch

structure OutputSettings where
  format : Format := .json
  pretty : Bool := true
  deriving DecidableEq, Repr

structure Settings where
  query : Dialect := {}
  output : OutputSettings := {}
  deriving DecidableEq, Repr

namespace Settings

inductive Failure where
  | keyPath
  | missingFile
  | file
  | scalar
  /-- A section, a list or a format is something else. -/
  | shape
  /-- An index in a key path has no place in its list. -/
  | index
  deriving DecidableEq, Repr

def Setting.toText : Setting → Except Failure String
  | .text value => .ok value
  | .boolean value => .ok (if value then "true" else "false")
  | .integer value => .ok (toString value)
  | .float value => .ok (value.write .positional)
  | _ => .error .scalar

def Setting.toBool : Setting → Except Failure Bool
  | .boolean value => .ok value
  | .integer value => .ok (value != 0)
  | .float value => .ok (!value.isZero)
  | .text value =>
    let lower := lowerName value
    if ["1", "true", "on", "yes"].contains lower then .ok true
    else if ["0", "false", "off", "no"].contains lower then .ok false
    else .error .scalar
  | _ => .error .scalar

def Setting.toTexts : Setting → Except Failure (List String)
  | .list elements => elements.mapM Setting.toText
  | _ => .error .shape

def formatNamed (name : String) : Except Failure Format :=
  match Format.ofName? (lowerName name) with
  | some format => .ok format
  | none => .error .shape

/-- A setting as a format: its name, or a table with the name as its only entry. -/
def Setting.toFormat : Setting → Except Failure Format
  | .text name => formatNamed name
  | .table [(name, _)] => formatNamed name
  | _ => .error .shape

def required {α : Type} : Option α → Except Failure α
  | some value => .ok value
  | none => .error .shape

/-- The members of a section by name, or by position in a list. -/
def Setting.members (names : List String) : Setting → Except Failure (List (Option Setting))
  | .table entries => .ok (names.map (Entries.get? entries))
  | .list elements => .ok ((List.range names.length).map (elements[·]?))
  | _ => .error .shape

/-- A setting as a dialect. The members that are there are read before one is found missing. -/
def Setting.toDialect (setting : Setting) : Except Failure Dialect := do
  match ← setting.members ["remainder", "unquotable"] with
  | [remainder, unquotable] =>
    let remainder ← remainder.mapM Setting.toText
    let unquotable ← unquotable.mapM Setting.toTexts
    return ⟨← required remainder, unquotable.getD []⟩
  | _ => .error .shape

def Setting.toOutput (setting : Setting) : Except Failure OutputSettings := do
  match ← setting.members ["format", "pretty"] with
  | [format, pretty] =>
    let format ← format.mapM Setting.toFormat
    let pretty ← pretty.mapM Setting.toBool
    return ⟨← required format, ← required pretty⟩
  | _ => .error .shape

def ofEntries (entries : Entries) : Except Failure Settings := do
  let query ← (← required (entries.get? "query")).toDialect
  let output ← (← required (entries.get? "output")).toOutput
  return ⟨query, output⟩

def defaultEntries : Entries := [
  ("query", .table [("remainder", .text "text"), ("unquotable", .list [])]),
  ("output", .table [("format", .text "json"), ("pretty", .boolean true)])]

inductive Layer where
  | file (path : String)
  | optionalFile (path : String)
  | override (key : String) (setting : Setting)

def overlay (entries : Entries) (path : KeyPath) (setting : Setting) : Except Failure Entries :=
  match path.put? setting entries with
  | some entries => .ok entries
  | none => .error .index

/-- Put an entry of a file over others. A name that is a path goes to the end of the path. -/
def overlayEntry (entries : Entries) (entry : String × Setting) : Except Failure Entries :=
  match KeyPath.read? entry.1 with
  | some path => overlay entries path entry.2
  | none => .ok (entry.2.putInto entry.1 entries)

def overlayFile (entries : Entries) (text : String) : Except Failure Entries :=
  match Toml.parse? text with
  | some incoming => (entriesOfToml incoming).foldlM overlayEntry entries
  | none => .error .file

def overlayFiles (files : Files) : List Layer → Entries → Except Failure Entries
  | [], entries => .ok entries
  | .override _ _ :: rest, entries => overlayFiles files rest entries
  | .file path :: rest, entries =>
    match files.configuration? path with
    | some text => do overlayFiles files rest (← overlayFile entries text)
    | none => .error .missingFile
  | .optionalFile path :: rest, entries =>
    match files.configuration? path with
    | some text => do overlayFiles files rest (← overlayFile entries text)
    | none => overlayFiles files rest entries

def overrides : List Layer → Except Failure (List (KeyPath × Setting))
  | [] => .ok []
  | .override key setting :: rest =>
    match KeyPath.read? key with
    | some path => do return (path, setting) :: (← overrides rest)
    | none => .error .keyPath
  | _ :: rest => overrides rest

/-- The overrides that no later one of the same path takes the place of. -/
def latest : List (KeyPath × Setting) → List (KeyPath × Setting)
  | [] => []
  | (path, setting) :: rest =>
    if rest.any (·.1 == path) then latest rest else (path, setting) :: latest rest

def load (files : Files) (layers : List Layer) : Except Failure Settings := do
  let overrides ← overrides layers
  let entries ← overlayFiles files layers defaultEntries
  ofEntries (← (latest overrides).foldlM (fun entries (path, setting) =>
    overlay entries path setting) entries)

end Settings

end FacetedSearch
