import FacetedSearch.Path

/-! Files and other things that can be read as texts, by the paths that lead there. -/

set_option autoImplicit false

namespace FacetedSearch

inductive Readable where
  | file (text : String)
  /-- Something else than a file, such as standard input. -/
  | stream (text : String)
  deriving DecidableEq, Repr

def Readable.text : Readable → String
  | .file text | .stream text => text

def Readable.fileText? : Readable → Option String
  | .file text => some text
  | .stream _ => none

structure Files where
  /-- The path of the directory where other paths start. -/
  here : String
  find? : String → Option Readable

/-- The paths where a configuration file can be: its own and, if it has a name, the one with an
ending after the name. -/
def configurationPaths (here path : String) : List String :=
  let path := Path.absolute here path
  path :: ((Path.untilName? path).map (· ++ ".toml")).toList

def Files.configuration? (files : Files) (path : String) : Option String :=
  (configurationPaths files.here path).findSome? fun path => do (← files.find? path).fileText?

end FacetedSearch
