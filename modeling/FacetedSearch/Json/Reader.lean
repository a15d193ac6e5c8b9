import FacetedSearch.Json.Scalar

/-! Reading JSON values of a known shape.

A reader takes a value of its shape from the start of a text, and stops at the first character
that does not fit. Whatever follows is left to the reader of the next part. Loops over elements
and members take an upper bound on their number, for which the length of the text will do.
-/

set_option autoImplicit false

namespace FacetedSearch.Json

abbrev Reader (α : Type) := List Char → Except Failure (α × List Char)

/-- The failure of a value that starts with `c` and should be `expected`. The value is read as
far as the failure tells about it. -/
def unexpected (expected : String) (c : Char) (rest : List Char) : Failure :=
  let ofKind (read : Except Failure (Kind × List Char)) : Failure :=
    match read with
    | .ok (kind, _) => .mismatch (.type kind expected)
    | .error failure => failure
  let ofWord (word : List Char) (kind : Kind) : Failure :=
    ofKind ((readWord word rest).map fun rest => (kind, rest))
  if c == 'n' then ofWord ['u', 'l', 'l'] .null
  else if c == 't' then ofWord ['r', 'u', 'e'] (.boolean true)
  else if c == 'f' then ofWord ['a', 'l', 's', 'e'] (.boolean false)
  else if c == '-' then ofKind (readNumber true rest)
  else if c.isDigit then ofKind (readNumber false (c :: rest))
  else if c == '"' then
    ofKind ((readStringChars rest).map fun (chars, rest) => (.string (String.ofList chars), rest))
  else if c == '[' then .mismatch (.type .sequence expected)
  else if c == '\x7b' then .mismatch (.type .map expected)
  else .malformed

def readString : Reader String := fun cs =>
  match skipSpace cs with
  | [] => .error .incomplete
  | '"' :: rest => (readStringChars rest).map fun (chars, rest) => (String.ofList chars, rest)
  | c :: rest => .error (unexpected "a string" c rest)

def readString? : Reader (Option String) := fun cs =>
  match skipSpace cs with
  | 'n' :: rest => (readWord ['u', 'l', 'l'] rest).map fun rest => (none, rest)
  | _ => (readString cs).map fun (text, rest) => (some text, rest)

def nextElement (first : Bool) (cs : List Char) : Except Failure (Option (List Char)) :=
  match skipSpace cs with
  | [] => .error .incomplete
  | ']' :: _ => .ok none
  | c :: rest =>
    if first then .ok (some (c :: rest))
    else if c == ',' then
      match skipSpace rest with
      | [] => .error .incomplete
      | ']' :: _ => .error .malformed
      | next => .ok (some next)
    else .error .malformed

def endArray (cs : List Char) : Except Failure (List Char) :=
  match skipSpace cs with
  | [] => .error .incomplete
  | ']' :: rest => .ok rest
  | _ => .error .malformed

def readElements {α : Type} (read : Reader α) : Nat → Bool → Reader (List α)
  | 0, _, _ => .error .incomplete
  | bound + 1, first, cs => do
    match ← nextElement first cs with
    | none => return ([], ← endArray cs)
    | some cs =>
      let (head, cs) ← read cs
      let (tail, cs) ← readElements read bound false cs
      return (head :: tail, cs)

def readArray {α : Type} (read : Reader α) : Reader (List α) := fun cs =>
  match skipSpace cs with
  | [] => .error .incomplete
  | '[' :: rest => readElements read (rest.length + 1) true rest
  | c :: rest => .error (unexpected "a sequence" c rest)

def nextMember (first : Bool) (cs : List Char) : Except Failure (Option (List Char)) :=
  match skipSpace cs with
  | [] => .error .incomplete
  | '\x7d' :: _ => .ok none
  | c :: rest =>
    if first then if c == '"' then .ok (some rest) else .error .malformed
    else if c == ',' then
      match skipSpace rest with
      | [] => .error .incomplete
      | '"' :: rest => .ok (some rest)
      | _ => .error .malformed
    else .error .malformed

def readColon (cs : List Char) : Except Failure (List Char) :=
  match skipSpace cs with
  | [] => .error .incomplete
  | ':' :: rest => .ok rest
  | _ => .error .malformed

def readOnce {α : Type} (name : String) (seen : Option α) (read : Reader α) : Reader (Option α) :=
  fun cs =>
    match seen with
    | some _ => .error (.mismatch (.duplicate name))
    | none => do
      let (value, cs) ← read (← readColon cs)
      return (some value, cs)

/-- Read the members of an object and its end. What is read is gathered in a draft; `read` adds
the member of some name to it, from the text after the name. -/
def readMembers {δ : Type} (read : String → δ → Reader δ) : Nat → Bool → δ → Reader δ
  | 0, _, _, _ => .error .incomplete
  | bound + 1, first, draft, cs => do
    match ← nextMember first cs with
    | none => return (draft, (skipSpace cs).drop 1)
    | some cs =>
      let (name, cs) ← readStringChars cs
      let (draft, cs) ← read (String.ofList name) draft cs
      readMembers read bound false draft cs

inductive Frame where
  | array
  | object
  deriving DecidableEq, Repr

def Frame.closer : Frame → Char
  | .array => ']'
  | .object => '\x7d'

inductive Expecting where
  | value
  | firstPart
  | member
  | afterValue
  deriving DecidableEq, Repr

def Frame.part : Frame → Expecting
  | .array => .value
  | .object => .member

def skipScalar : List Char → Except Failure (List Char)
  | [] => .error .incomplete
  | 'n' :: rest => readWord ['u', 'l', 'l'] rest
  | 't' :: rest => readWord ['r', 'u', 'e'] rest
  | 'f' :: rest => readWord ['a', 'l', 's', 'e'] rest
  | '-' :: rest => skipNumber rest
  | '"' :: rest => skipStringChars rest
  | c :: rest => if c.isDigit then skipNumber (c :: rest) else .error .malformed

def skipFrom : Nat → Expecting → List Frame → List Char → Except Failure (List Char)
  | 0, _, _, _ => .error .incomplete
  | bound + 1, .value, frames, cs =>
    match skipSpace cs with
    | '[' :: rest => skipFrom bound .firstPart (.array :: frames) rest
    | '\x7b' :: rest => skipFrom bound .firstPart (.object :: frames) rest
    | cs => do skipFrom bound .afterValue frames (← skipScalar cs)
  | _ + 1, .firstPart, [], cs => .ok cs
  | bound + 1, .firstPart, frame :: frames, cs =>
    match skipSpace cs with
    | [] => .error .incomplete
    | c :: rest =>
      if c == frame.closer then skipFrom bound .afterValue frames rest
      else skipFrom bound frame.part (frame :: frames) (c :: rest)
  | bound + 1, .member, frames, cs =>
    match skipSpace cs with
    | [] => .error .incomplete
    | '"' :: rest => do skipFrom bound .value frames (← readColon (← skipStringChars rest))
    | _ => .error .malformed
  | _ + 1, .afterValue, [], cs => .ok cs
  | bound + 1, .afterValue, frame :: frames, cs =>
    match skipSpace cs with
    | [] => .error .incomplete
    | c :: rest =>
      if c == ',' then skipFrom bound frame.part (frame :: frames) rest
      else if c == frame.closer then skipFrom bound .afterValue frames rest
      else .error .malformed

def skipValue (cs : List Char) : Except Failure (List Char) :=
  skipFrom (2 * cs.length + 2) .value [] cs

def skipMember {δ : Type} (draft : δ) : Reader δ := fun cs => do
  return (draft, ← skipValue (← readColon cs))

def readWhole {α : Type} (read : Reader α) (text : String) : Except Failure α := do
  let (value, rest) ← read text.toList
  match skipSpace rest with
  | [] => return value
  | _ => .error .malformed

end FacetedSearch.Json
