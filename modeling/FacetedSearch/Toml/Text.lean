import FacetedSearch.Text.Digits

/-! Blanks, comments and strings of TOML.

A reader returns what it read and what follows it, or nothing if the text is not valid.
-/

set_option autoImplicit false

namespace FacetedSearch.Toml

open Text (readCodePoint?)

def isWhite (c : Char) : Bool := c == ' ' || c == '\t'

def skipWhite (cs : List Char) : List Char := cs.dropWhile isWhite

def isPlain (c : Char) : Bool := c == '\t' || (0x20 ≤ c.toNat && c.toNat != 0x7F)

def readBreak? : List Char → Option (List Char)
  | '\n' :: rest => some rest
  | '\r' :: '\n' :: rest => some rest
  | _ => none

def skipComment : List Char → List Char
  | '#' :: rest => rest.dropWhile isPlain
  | cs => cs

def readLineEnd? (cs : List Char) : Option (List Char) :=
  match skipComment (skipWhite cs) with
  | [] => some []
  | rest => readBreak? rest

def skipLines : Nat → List Char → List Char
  | 0, cs => cs
  | bound + 1, cs =>
    let rest := skipComment (skipWhite cs)
    match readBreak? rest with
    | some rest => skipLines bound rest
    | none => rest

def readEscape? : List Char → Option (Char × List Char)
  | 'b' :: rest => some ('\x08', rest)
  | 't' :: rest => some ('\t', rest)
  | 'n' :: rest => some ('\n', rest)
  | 'f' :: rest => some ('\x0c', rest)
  | 'r' :: rest => some ('\r', rest)
  | '"' :: rest => some ('"', rest)
  | '\\' :: rest => some ('\\', rest)
  | 'u' :: rest => readCodePoint? 4 rest
  | 'U' :: rest => readCodePoint? 8 rest
  | _ => none

def readBasic? : Nat → List Char → Option (List Char × List Char)
  | 0, _ => none
  | _ + 1, '"' :: rest => some ([], rest)
  | bound + 1, '\\' :: rest => do
    let (c, rest) ← readEscape? rest
    let (chars, rest) ← readBasic? bound rest
    return (c :: chars, rest)
  | bound + 1, c :: rest =>
    if isPlain c then do
      let (chars, rest) ← readBasic? bound rest
      return (c :: chars, rest)
    else none
  | _ + 1, [] => none

def readLiteral? (cs : List Char) : Option (List Char × List Char) :=
  let isInside (c : Char) : Bool := isPlain c && c != '\''
  match cs.dropWhile isInside with
  | '\'' :: rest => some (cs.takeWhile isInside, rest)
  | _ => none

/-- A line break right after the opening quotes does not belong to a string of several lines. -/
def skipFirstBreak (cs : List Char) : List Char := (readBreak? cs).getD cs

def skipBreaks : List Char → List Char
  | '\r' :: '\n' :: rest => skipBreaks rest
  | c :: rest => if isWhite c || c == '\n' then skipBreaks rest else c :: rest
  | [] => []

/-- Read the quotes that may close a string of several lines: up to two of them still belong to
it. The result is how many do, and the text after the string if it is closed. -/
def readClosing (quote : Char) (cs : List Char) : Nat × Option (List Char) :=
  let run := (cs.takeWhile (· == quote)).length
  if run < 3 then (run, none)
  else
    let kept := min (run - 3) 2
    (kept, some (cs.drop (kept + 3)))

def readBasicLines? : Nat → List Char → Option (List Char × List Char)
  | 0, _ => none
  | _ + 1, [] => none
  | bound + 1, '"' :: rest =>
    match readClosing '"' ('"' :: rest) with
    | (kept, some after) => some (List.replicate kept '"', after)
    | (kept, none) => do
      let (chars, after) ← readBasicLines? bound (('"' :: rest).drop kept)
      return (List.replicate kept '"' ++ chars, after)
  | bound + 1, '\\' :: rest =>
    match readBreak? (skipWhite rest) with
    | some rest => readBasicLines? bound (skipBreaks rest)
    | none => do
      let (c, rest) ← readEscape? rest
      let (chars, rest) ← readBasicLines? bound rest
      return (c :: chars, rest)
  | bound + 1, c :: rest =>
    match readBreak? (c :: rest) with
    | some rest => do
      let (chars, rest) ← readBasicLines? bound rest
      return ('\n' :: chars, rest)
    | none =>
      if isPlain c then do
        let (chars, rest) ← readBasicLines? bound rest
        return (c :: chars, rest)
      else none

def readLiteralLines? : Nat → List Char → Option (List Char × List Char)
  | 0, _ => none
  | _ + 1, [] => none
  | bound + 1, '\'' :: rest =>
    match readClosing '\'' ('\'' :: rest) with
    | (kept, some after) => some (List.replicate kept '\'', after)
    | (kept, none) => do
      let (chars, after) ← readLiteralLines? bound (('\'' :: rest).drop kept)
      return (List.replicate kept '\'' ++ chars, after)
  | bound + 1, c :: rest =>
    match readBreak? (c :: rest) with
    | some rest => do
      let (chars, rest) ← readLiteralLines? bound rest
      return ('\n' :: chars, rest)
    | none =>
      if isPlain c then do
        let (chars, rest) ← readLiteralLines? bound rest
        return (c :: chars, rest)
      else none

def readLineString? : List Char → Option (String × List Char)
  | '"' :: rest =>
    (readBasic? (rest.length + 1) rest).map fun (chars, rest) => (String.ofList chars, rest)
  | '\'' :: rest => (readLiteral? rest).map fun (chars, rest) => (String.ofList chars, rest)
  | _ => none

def readString? : List Char → Option (String × List Char)
  | '"' :: '"' :: '"' :: rest =>
    (readBasicLines? (rest.length + 1) (skipFirstBreak rest)).map fun (chars, rest) =>
      (String.ofList chars, rest)
  | '\'' :: '\'' :: '\'' :: rest =>
    (readLiteralLines? (rest.length + 1) (skipFirstBreak rest)).map fun (chars, rest) =>
      (String.ofList chars, rest)
  | cs => readLineString? cs

end FacetedSearch.Toml
