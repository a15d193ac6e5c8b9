import FacetedSearch.Pattern.Escape
import FacetedSearch.Pattern.Row

/-! Classes in patterns: sets of characters in brackets.

A class has characters, ranges, escapes and further classes, and perhaps operators between them.
Hyphens and a bracket can stand at its start as characters.
-/

set_option autoImplicit false

namespace FacetedSearch.Pattern

def Escape.isMember (mode : Mode) (escape : Escape) : Bool :=
  match escape with
  | .character c => mode.unicode || c.toNat < 0x80
  | .edge | .wordEdge => false
  | _ => escape.isUsable mode

def Escape.character? : Escape → Option Char
  | .character c | .byte c => some c
  | _ => none

def readMember? (mode : Mode) : List Char → Option (Escape × List Char)
  | '\\' :: rest => readEscape? mode rest
  | c :: rest => some (.character c, rest)
  | [] => none

def isRange (mode : Mode) (first last : Escape) : Bool :=
  match first.character?, last.character? with
  | some low, some high => first.isMember mode && last.isMember mode && low ≤ high
  | _, _ => false

/-- Pass over a member, or over a range that starts with it. -/
def passMember? (mode : Mode) (cs : List Char) : Option (List Char) := do
  let (first, rest) ← readMember? mode cs
  let single := fun rest => if first.isMember mode then some rest else none
  match mode.skip rest with
  | '-' :: after =>
    if mode.afterHyphen? after == some ']' || mode.afterHyphen? after == some '-' then
      single ('-' :: after)
    else do
      let (last, rest) ← readMember? mode (mode.skip after)
      if isRange mode first last then some rest else none
  | rest => single rest

def classNames : List String := ["alnum", "alpha", "ascii", "blank", "cntrl", "digit", "graph",
  "lower", "print", "punct", "space", "upper", "word", "xdigit"]

def readClassName? : List Char → Option (Bool × List Char)
  | ':' :: cs =>
    let negated := cs.head? == some '^'
    let cs := if negated then cs.drop 1 else cs
    match cs.dropWhile (· != ':') with
    | ':' :: ']' :: rest =>
      if classNames.contains (String.ofList (cs.takeWhile (· != ':'))) then some (negated, rest)
      else none
    | _ => none
  | _ => none

def passNegation? (mode : Mode) (cs : List Char) : Option (List Char) :=
  match mode.skip cs with
  | '^' :: rest => if mode.unicode then some rest else none
  | rest => some rest

structure ClassProgress where
  /-- Nothing but hyphens has been read. -/
  opening : Bool := true
  /-- The height of what stands before the last operator. -/
  left : Option Nat := none
  members : Row := {}
  deriving DecidableEq, Repr

namespace ClassProgress

def height (progress : ClassProgress) : Nat :=
  match progress.left with
  | none => progress.members.height
  | some left => max left progress.members.height + 1

def add (progress : ClassProgress) (height : Nat) : ClassProgress :=
  { progress with opening := false, members := progress.members.add height }

def addHyphen (progress : ClassProgress) : ClassProgress :=
  { progress with members := progress.members.add 0 }

def operate (progress : ClassProgress) : ClassProgress :=
  { opening := false, left := some progress.height }

end ClassProgress

/-- Read the rest of a class in so many steps; the result begins with the height of the class. -/
def readClassFrom? (mode : Mode) : Nat → ClassProgress → List Char → Option (Nat × List Char)
  | 0, _, _ => none
  | bound + 1, progress, cs =>
    match mode.skip cs with
    | [] => none
    | ']' :: rest =>
      if progress.opening && progress.members.size == 0 then
        readClassFrom? mode bound (progress.add 0) rest
      else some (progress.height + 1, rest)
    | '[' :: rest =>
      match readClassName? rest with
      | some (negated, rest) =>
        if negated && !mode.unicode then none
        else readClassFrom? mode bound (progress.add 0) rest
      | none => do
        let (height, rest) ← readClassFrom? mode bound {} (← passNegation? mode rest)
        readClassFrom? mode bound (progress.add height) rest
    | '&' :: '&' :: rest | '~' :: '~' :: rest => readClassFrom? mode bound progress.operate rest
    | '-' :: rest =>
      if progress.opening then readClassFrom? mode bound progress.addHyphen rest
      else
        match rest with
        | '-' :: rest => readClassFrom? mode bound progress.operate rest
        | _ => do readClassFrom? mode bound (progress.add 0) (← passMember? mode ('-' :: rest))
    | rest => do readClassFrom? mode bound (progress.add 0) (← passMember? mode rest)

def readClass? (mode : Mode) (cs : List Char) : Option (Nat × List Char) := do
  readClassFrom? mode (cs.length + 1) {} (← passNegation? mode cs)

end FacetedSearch.Pattern
