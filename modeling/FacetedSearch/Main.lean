import FacetedSearch.CommandLine.Run

/-! The program: it reads what a command line asks for and prints what the run leads to. -/

set_option autoImplicit false

namespace FacetedSearch.CommandLine

def readPath? (onlyFiles : Bool) (path : String) : IO (Option (String × Readable)) := do
  try
    let isFile := (← ((← IO.currentDir) / path).metadata).type matches .file
    if onlyFiles && !isFile then return none
    let text? := String.fromUTF8? (← IO.FS.readBinFile path)
    return text?.map fun text => (path, if isFile then .file text else .stream text)
  catch _ =>
    return none

def Request.gather (request : Request) (here : String) : IO Surroundings := do
  let paths := localConfiguration :: request.options.config.toList
  let files ← (paths.flatMap (configurationPaths here)).filterMapM (readPath? true)
  let texts ← match request.task with
    | .serialize (some path) => [path].filterMapM (readPath? false)
    | _ => pure []
  let input ← match request.task with
    | .serialize none => pure (String.fromUTF8? (← (← IO.getStdin).readBinToEnd))
    | _ => pure none
  return { files := ⟨here, fun path => (texts ++ files).lookup path⟩, input }

/-- Run a command line: the notes and the complaint go to standard error. The result is the exit
status. -/
def execute (arguments : List String) : IO UInt32 := do
  let surroundings ← match Request.read arguments with
    | .error _ => pure { files := ⟨"", fun _ => none⟩ }
    | .ok request => request.gather (← IO.currentDir).toString
  let outcome := run { surroundings with journal := ← IO.getEnv "FACETQ_LOG" } arguments
  for line in outcome.notes.flatMap Journal.Note.lines do
    IO.eprintln line
  IO.print outcome.output
  match outcome.complaint with
  | some complaint => IO.eprint complaint.message
  | none => pure ()
  return outcome.status.toUInt32

end FacetedSearch.CommandLine

def main (arguments : List String) : IO UInt32 := FacetedSearch.CommandLine.execute arguments
