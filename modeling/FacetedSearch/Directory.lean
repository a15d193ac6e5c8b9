import FacetedSearch.Files

/-! Directories that are held in memory, with some of what is around them: the files of a run whose
surroundings are given as data.

A path leads from place to place, and each part but the last has to lead to a directory. Standard
input, an empty stream and some files about the system have places of their own.
-/

set_option autoImplicit false

namespace FacetedSearch

structure Directory where
  files : List (String × String) := []
  input : Option String := none
  deriving DecidableEq, Repr

namespace Directory

/-- A place in the tree of directories: the names on the way from the root. -/
abbrev Place := List String

def home : Place := ["tmp", ".tmp000000"]

def homePath : String := String.join (home.map ("/" ++ ·))

def inputPlace : Place := ["proc", "self", "fd", "0"]

def emptyPlace : Place := ["dev", "null"]

def directories : List Place :=
  [home, [], ["proc", "self"], ["proc", "self", "fd"], ["usr", "bin"], ["usr", "lib"],
    ["usr", "local"], ["usr", "share"], ["var", "log"], ["var", "tmp"]] ++
    ["boot", "dev", "etc", "home", "media", "mnt", "opt", "proc", "root", "run", "srv", "sys",
      "tmp", "usr", "var"].map ([·])

def systemFiles : List Place :=
  ["group", "hostname", "hosts", "os-release", "passwd"].map (["etc", ·]) ++
    ["cpuinfo", "filesystems", "meminfo", "stat", "uptime", "version"].map (["proc", ·]) ++
    ["cmdline", "environ", "limits", "maps", "stat", "status"].map (["proc", "self", ·])

/-- A text for all files about the system, which have no form in common. -/
def systemText : String := "root:x:0:0:root:/root:/bin/sh\n"

def links : List (Place × Place) := [
  (["bin"], ["usr", "bin"]),
  (["dev", "fd"], ["proc", "self", "fd"]),
  (["dev", "stdin"], inputPlace),
  (["lib"], ["usr", "lib"]),
  (["proc", "self", "cwd"], home),
  (["proc", "self", "root"], [])]

def step? (place : Place) (part : String) : Option Place :=
  if !directories.contains place then none
  else if part == "" || part == "." then some place
  else if part == ".." then some place.dropLast
  else
    let next := place ++ [part]
    some ((links.lookup next).getD next)

def pathLimit : Nat := 4096

def place? (path : String) : Option Place :=
  if pathLimit ≤ path.utf8ByteSize then none
  else
    ((Path.segments path.toList).map String.ofList).foldlM step?
      (if Path.isAbsolute path then [] else home)

def name? (place : Place) : Option String :=
  if place.dropLast == home then place.getLast? else none

def readable? (directory : Directory) (place : Place) : Option Readable :=
  if place == inputPlace then directory.input.map .stream
  else if place == emptyPlace then some (.stream "")
  else if systemFiles.contains place then some (.file systemText)
  else do (directory.files.lookup (← name? place)).map .file

def toFiles (directory : Directory) : Files where
  here := homePath
  find? path := do directory.readable? (← place? path)

end Directory

end FacetedSearch
