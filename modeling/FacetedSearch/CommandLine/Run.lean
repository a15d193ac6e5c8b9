import FacetedSearch.CommandLine.Arguments
import FacetedSearch.Editor
import FacetedSearch.Journal.Filter
import FacetedSearch.Json.Codec
import FacetedSearch.Markup
import FacetedSearch.Settings.Basic

/-! What the commands do with what they can read.

A run has a text for standard output, perhaps a complaint, and notes for the journal. A command
that cannot do its work prints nothing.
-/

set_option autoImplicit false

namespace FacetedSearch.CommandLine

structure Surroundings where
  files : Files
  input : Option String := none
  journal : Option String := none

inductive Failure where
  | journal
  | settings (cause : Settings.Failure)
  | unreadable
  | json (cause : Json.Failure)
  | format (name : String)
  deriving DecidableEq, Repr

inductive Complaint where
  | misuse
  | failure (cause : Failure)
  /-- Facets that were written as a query were read back as others. -/
  | mismatch (parsed reparsed : List Facet)
  deriving DecidableEq, Repr

structure Outcome where
  output : String := ""
  complaint : Option Complaint := none
  notes : List Journal.Note := []
  deriving DecidableEq, Repr

def Failure.breaksOff : Failure → Bool
  | .journal | .settings .index => true
  | _ => false

/-- The exit status of a run: one for failures, two for misuse and for mismatches, and another
for a run that was broken off. -/
def Outcome.status (outcome : Outcome) : Nat :=
  match outcome.complaint with
  | none => 0
  | some (.failure cause) => if cause.breaksOff then 101 else 1
  | some .misuse | some (.mismatch _ _) => 2

def Failure.subject : Failure → String
  | .journal => "Journal filter"
  | .settings _ => "Configuration error"
  | .unreadable => "IO error"
  | .json _ => "Invalid facet JSON"
  | .format name => Format.unknownMessage name

def Failure.detail? : Failure → Option String
  | .journal => some "a part ends inside of a character"
  | .settings .keyPath => some "invalid key path"
  | .settings .missingFile => some "configuration file not found"
  | .settings .file => some "malformed configuration file"
  | .settings .scalar => some "a scalar of the wrong type"
  | .settings .shape => some "a section, list or format expected"
  | .settings .index => some "an index outside of its list"
  | .json (.mismatch cause) => some cause.message
  | .json .malformed => some "malformed text"
  | .json .incomplete => some "incomplete text"
  | .unreadable | .format _ => none

def Failure.message (failure : Failure) : String :=
  "Error: " ++ failure.subject ++
    match failure.detail? with
    | some detail => ": " ++ detail ++ "\n"
    | none => "\n"

def usage : String :=
  "Usage: facetq [--config FILE] [--remainder CATEGORY] [--unquotable CATEGORY]... COMMAND\n\n" ++
  "Commands:\n" ++
  "  parse QUERY [--format FORMAT]  Print the facets of a query\n" ++
  "  serialize [PATH]               Turn a JSON array of facets into a query\n" ++
  "  roundtrip QUERY                Serialize, parse again and compare\n"

def markupLine (facets : List Facet) : String :=
  String.ofList ((Markup.render facets).toList.map fun c => if c = '\n' then ' ' else c)

def Complaint.message : Complaint → String
  | .misuse => usage
  | .failure cause => cause.message
  | .mismatch parsed reparsed =>
    "Round-trip mismatch:\n" ++
    "  parsed:   " ++ markupLine parsed ++ "\n" ++
    "  reparsed: " ++ markupLine reparsed ++ "\n"

def localConfiguration : String := "facetq.toml"

/-- The layers of the settings: the local file, the file that was named, and the option for the
remainder category. -/
def Options.layers (options : Options) : List Settings.Layer :=
  .optionalFile localConfiguration :: (options.config.toList.map .file ++
    options.remainder.toList.map fun remainder =>
      .override "query.remainder" (.text remainder))

/-- The settings of a run. Unquotable categories are added to those of the layers. -/
def Options.load (options : Options) (files : Files) :
    Except Settings.Failure Settings := do
  let settings ← Settings.load files options.layers
  return { settings with query := settings.query.withUnquotable options.unquotable }

def present (settings : Settings) (facets : List Facet) : Format → String
  | .json =>
    let json := Facet.listToJson facets
    if settings.output.pretty then json.pretty else json.compact
  | .tag => Markup.render facets
  | .query => Query.render settings.query facets

def parse (settings : Settings) (format : Format) (query : String) : Outcome where
  output := present settings (Query.parse settings.query query) format ++ "\n"
  notes := Query.parseNotes settings.query query

def serialize (settings : Settings) (text : String) : Outcome :=
  match Facet.ofJson text with
  | .error cause => { complaint := some (.failure (.json cause)) }
  | .ok facets => { output := Query.render settings.query (facets.map Facet.normalized) ++ "\n" }

def roundtrip (settings : Settings) (query : String) : Outcome :=
  let parsed := Query.parse settings.query query
  let rendered := Query.render settings.query parsed
  let reparsed := Query.parse settings.query rendered
  { output := rendered ++ "\n"
    complaint := if reparsed = parsed then none else some (.mismatch parsed reparsed)
    notes := Query.parseNotes settings.query query ++ Query.parseNotes settings.query rendered }

def Options.format? (options : Options) (settings : Settings) : Except Failure Format :=
  match options.format with
  | none => .ok settings.output.format
  | some name =>
    match Format.ofName? name with
    | some format => .ok format
    | none => .error (.format name)

def Surroundings.text? (surroundings : Surroundings) : Option String → Option String
  | none => surroundings.input
  | some path => (surroundings.files.find? path).map Readable.text

def Request.perform (request : Request) (surroundings : Surroundings) :
    Except Failure Outcome := do
  let settings ← (request.options.load surroundings.files).mapError Failure.settings
  match request.task with
  | .parse query => return parse settings (← request.options.format? settings) query
  | .serialize path =>
    match surroundings.text? path with
    | some text => return serialize settings text
    | none => .error .unreadable
  | .roundtrip query => return roundtrip settings query

def banner : String := "facetq 0.1.0"

def perform (surroundings : Surroundings) (arguments : List String) : Outcome :=
  match Request.read arguments with
  | .error .help => { output := usage }
  | .error .version => { output := banner ++ "\n" }
  | .error .misuse => { complaint := some .misuse }
  | .ok request =>
    match request.perform surroundings with
    | .ok outcome => outcome
    | .error cause => { complaint := some (.failure cause) }

/-- The filter for the journal; warnings are reported if no text asks for another. -/
def Surroundings.filter? (surroundings : Surroundings) : Option Journal.Filter :=
  match surroundings.journal with
  | none => some (Journal.Filter.upTo .warn)
  | some text => Journal.Filter.read? text

def run (surroundings : Surroundings) (arguments : List String) : Outcome :=
  match surroundings.filter? with
  | none => { complaint := some (.failure .journal) }
  | some filter =>
    let outcome := perform surroundings arguments
    { outcome with notes := outcome.notes.filter filter.admits }

end FacetedSearch.CommandLine
