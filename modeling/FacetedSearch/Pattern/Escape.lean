import FacetedSearch.Pattern.Mode
import FacetedSearch.Text.Digits

/-! Escapes in patterns: what can follow a backslash. -/

set_option autoImplicit false

namespace FacetedSearch.Pattern

inductive Escape where
  | character (c : Char)
  /-- A character given by two digits: a byte where characters are those of ASCII. -/
  | byte (c : Char)
  | kind (negated : Bool)
  | category
  | edge
  | wordEdge
  deriving DecidableEq, Repr

/-- Whether an escape can be used: no byte has its highest bit set, nothing stands for characters
outside of ASCII when there are none, and words are not known in all of Unicode. -/
def Escape.isUsable (mode : Mode) : Escape → Bool
  | .character _ | .edge => true
  | .byte c => mode.unicode || c.toNat < 0x80
  | .kind negated => mode.unicode || !negated
  | .category => mode.unicode
  | .wordEdge => !mode.unicode

def controlNamed? : Char → Option Char
  | 'a' => some '\x07'
  | 'f' => some '\x0c'
  | 'n' => some '\n'
  | 'r' => some '\r'
  | 't' => some '\t'
  | 'v' => some '\x0b'
  | _ => none

def isEscapable (c : Char) : Bool := c.toNat < 0x80 && !c.isAlphanum

def readHex? (mode : Mode) : Nat → Nat → List Char → Option (Nat × List Char)
  | 0, n, cs => some (n, cs)
  | count + 1, n, cs =>
    match mode.skip cs with
    | c :: rest => do readHex? mode count (16 * n + (← Text.digitValue? c)) rest
    | [] => none

def readCode? (mode : Mode) (count : Nat) (cs : List Char) : Option (Char × List Char) := do
  let (n, rest) ← readHex? mode count 0 cs
  if h : n.isValidChar then some (Char.ofNatAux n h, rest) else none

def readCategory? (mode : Mode) (cs : List Char) : Option (Escape × List Char) :=
  match mode.skip cs with
  | c :: rest => if "CLMNPSZclmnpsz".toList.contains c then some (.category, rest) else none
  | [] => none

def readEscape? (mode : Mode) : List Char → Option (Escape × List Char)
  | [] => none
  | c :: rest =>
    match c with
    | 'x' => (readCode? mode 2 rest).map fun (c, rest) => (.byte c, rest)
    | 'u' => (readCode? mode 4 rest).map fun (c, rest) => (.character c, rest)
    | 'U' => (readCode? mode 8 rest).map fun (c, rest) => (.character c, rest)
    | 'p' | 'P' => readCategory? mode rest
    | 'd' | 's' | 'w' => some (.kind false, rest)
    | 'D' | 'S' | 'W' => some (.kind true, rest)
    | 'A' | 'z' => some (.edge, rest)
    | 'b' | 'B' | '<' | '>' => some (.wordEdge, rest)
    | _ =>
      if isEscapable c then some (.character c, rest)
      else (controlNamed? c).map fun c => (.character c, rest)

end FacetedSearch.Pattern
