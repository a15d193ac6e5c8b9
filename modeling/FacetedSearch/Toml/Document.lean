import FacetedSearch.Toml.Scalar
import FacetedSearch.Toml.Table
import FacetedSearch.Toml.Text

/-! Reading TOML documents. -/

set_option autoImplicit false

namespace FacetedSearch.Toml

/-- Arrays and inline tables may be nested, and keys may have parts, fewer times than this. -/
def nestingLimit : Nat := 80

def isBareKeyCharacter (c : Char) : Bool := c.isAlphanum || c == '_' || c == '-'

def readKeyPart? (cs : List Char) : Option (String × List Char) :=
  match cs with
  | '"' :: _ | '\'' :: _ => readLineString? cs
  | _ =>
    let part := cs.takeWhile isBareKeyCharacter
    if part.isEmpty then none else some (String.ofList part, cs.dropWhile isBareKeyCharacter)

def readKeyParts? : Nat → List Char → Option (List String × List Char)
  | 0, _ => none
  | bound + 1, cs => do
    let (part, cs) ← readKeyPart? (skipWhite cs)
    match skipWhite cs with
    | '.' :: rest => do
      let (parts, rest) ← readKeyParts? bound rest
      return (part :: parts, rest)
    | rest => return ([part], rest)

def readKey? (cs : List Char) : Option (List String × List Char) :=
  readKeyParts? (nestingLimit - 1) cs

def readKeyOfValue? (cs : List Char) : Option (List String × List Char) := do
  let (key, cs) ← readKey? cs
  match cs with
  | '=' :: rest => return (key, skipWhite rest)
  | _ => none

def skipAllLines (cs : List Char) : List Char := skipLines (cs.length + 1) cs

mutual

def readValue? : Nat → Nat → List Char → Option (Value × List Char)
  | 0, _, _ => none
  | bound + 1, depth, cs =>
    match cs with
    | '"' :: _ | '\'' :: _ => (readString? cs).map fun (text, rest) => (.text text, rest)
    | '[' :: rest =>
      if depth + 1 < nestingLimit then do
        let (elements, rest) ← readElements? bound (depth + 1) (skipAllLines rest)
        return (.array elements, rest)
      else none
    | '\x7b' :: rest =>
      if depth + 1 < nestingLimit then
        match skipWhite rest with
        | '\x7d' :: rest => some (.table [], rest)
        | rest => do
          let (items, rest) ← readMembers? bound (depth + 1) [] rest
          return (.table (itemsToEntries items), rest)
      else none
    | _ => readScalar? cs

def readElements? : Nat → Nat → List Char → Option (List Value × List Char)
  | 0, _, _ => none
  | bound + 1, depth, cs =>
    match cs with
    | ']' :: rest => some ([], rest)
    | _ => do
      let (value, rest) ← readValue? bound depth cs
      match skipAllLines rest with
      | ',' :: rest => do
        let (values, rest) ← readElements? bound depth (skipAllLines rest)
        return (value :: values, rest)
      | ']' :: rest => return ([value], rest)
      | _ => none

def readMembers? : Nat → Nat → Items → List Char → Option (Items × List Char)
  | 0, _, _, _ => none
  | bound + 1, depth, items, cs => do
    let (key, rest) ← readKeyOfValue? cs
    let (value, rest) ← readValue? bound depth rest
    let items ← items.assign value key
    match skipWhite rest with
    | ',' :: rest => readMembers? bound depth items rest
    | '\x7d' :: rest => return (items, rest)
    | _ => none

end

structure Document where
  items : Items := []
  header : List String := []

def Document.readHeader? (document : Document) (cs : List Char) :
    Option (Document × List Char) := do
  match cs with
  | '[' :: rest =>
    let (path, rest) ← readKey? rest
    match rest with
    | ']' :: ']' :: rest =>
      return (⟨← document.items.alongHeader openElement path, path⟩, rest)
    | _ => none
  | _ =>
    let (path, rest) ← readKey? cs
    match rest with
    | ']' :: rest => return (⟨← document.items.alongHeader openTable path, path⟩, rest)
    | _ => none

def Document.readEntry? (document : Document) (cs : List Char) :
    Option (Document × List Char) := do
  let (key, rest) ← readKeyOfValue? cs
  let (value, rest) ← readValue? (2 * rest.length + 2) 0 rest
  return ({ document with items := ← document.items.within (·.assign value key) document.header },
    rest)

def Document.readLines? : Nat → Document → List Char → Option Document
  | 0, _, _ => none
  | bound + 1, document, cs =>
    match skipAllLines cs with
    | [] => some document
    | '[' :: rest => do
      let (document, rest) ← document.readHeader? rest
      Document.readLines? bound document (← readLineEnd? rest)
    | rest => do
      let (document, rest) ← document.readEntry? rest
      Document.readLines? bound document (← readLineEnd? rest)

def skipByteOrderMark : List Char → List Char
  | c :: rest => if c.toNat == 0xFEFF then rest else c :: rest
  | [] => []

/-- Read a document: the entries of its outermost table, if it is valid. This table is no mark of
a moment. -/
def parse? (text : String) : Option (List (String × Value)) := do
  let cs := skipByteOrderMark text.toList
  let document ← Document.readLines? (cs.length + 1) {} cs
  match ← (Value.table (itemsToEntries document.items)).settle? with
  | .table entries => return entries
  | _ => none

end FacetedSearch.Toml
