import FacetedSearch.Pattern.Class
import FacetedSearch.Pattern.Group

/-! Which texts are patterns.

Only the form of a pattern is looked at: groups and classes have to be closed, no two groups have
the same name, repetitions need something to repeat, escapes need a meaning, and nothing is nested
too deep. Repetitions with counts are not known.
-/

set_option autoImplicit false

namespace FacetedSearch.Pattern

/-- What has been read of a group, or of the pattern as a whole. -/
structure Progress where
  mode : Mode := {}
  names : List (List Char) := []
  branches : Row := {}
  parts : Row := {}
  /-- The height of the last part, if it can be repeated. -/
  repeatable : Option Nat := none
  deriving DecidableEq, Repr

namespace Progress

def height (progress : Progress) : Nat := (progress.branches.add progress.parts.height).height

def add (progress : Progress) (height : Nat) : Progress :=
  { progress with parts := progress.parts.add height, repeatable := some height }

def addFlags (progress : Progress) (mode : Mode) : Progress :=
  { progress with mode, parts := progress.parts.add 0, repeatable := none }

def repeatLast? (progress : Progress) : Option Progress :=
  progress.repeatable.map fun height =>
    { progress with parts := progress.parts.raise (height + 1), repeatable := some (height + 1) }

def branch (progress : Progress) : Progress :=
  { progress with
    branches := progress.branches.add progress.parts.height, parts := {}, repeatable := none }

def enter? (progress : Progress) (mode : Mode) (name : Option (List Char)) : Option Progress :=
  match name with
  | none => some { mode, names := progress.names }
  | some name =>
    if progress.names.contains name then none else some { mode, names := name :: progress.names }

def addGroup (progress group : Progress) : Progress :=
  { progress with names := group.names }.add (group.height + 1)

end Progress

def readFrom? (inGroup : Bool) : Nat → Progress → List Char → Option (Progress × List Char)
  | 0, _, _ => none
  | bound + 1, progress, cs =>
    match progress.mode.skip cs with
    | [] => if inGroup then none else some (progress, [])
    | c :: rest =>
      match c with
      | ')' => if inGroup then some (progress, rest) else none
      | '|' => readFrom? inGroup bound progress.branch rest
      | '(' => do
        match ← readOpening? progress.mode rest with
        | (.flags mode, rest) => readFrom? inGroup bound (progress.addFlags mode) rest
        | (.group mode name, rest) =>
          let (group, rest) ← readFrom? true bound (← progress.enter? mode name) rest
          readFrom? inGroup bound (progress.addGroup group) rest
      | '[' => do
        let (height, rest) ← readClass? progress.mode rest
        readFrom? inGroup bound (progress.add height) rest
      | '\\' => do
        let (escape, rest) ← readEscape? progress.mode rest
        if escape.isUsable progress.mode then readFrom? inGroup bound (progress.add 0) rest
        else none
      | '*' | '?' | '+' => do
        let rest := if rest.head? == some '?' then rest.drop 1 else rest
        readFrom? inGroup bound (← progress.repeatLast?) rest
      | '\x7b' => none
      | '.' => if progress.mode.unicode then readFrom? inGroup bound (progress.add 0) rest else none
      | _ => readFrom? inGroup bound (progress.add 0) rest

def isPattern (cs : List Char) : Bool :=
  match readFrom? false (cs.length + 1) {} cs with
  | some (pattern, _) => pattern.height ≤ heightLimit
  | none => false

end FacetedSearch.Pattern
