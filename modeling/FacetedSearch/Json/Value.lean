/-! JSON values as this library writes them: strings, arrays, and objects with ordered members.

Two layouts are written. The compact one has no blanks outside strings; the pretty one has every
element and member on a line of its own, indented by two spaces a level.
-/

set_option autoImplicit false

namespace FacetedSearch.Json

inductive Value where
  | string (text : String)
  | array (elements : List Value)
  | object (members : List (String × Value))

def hexDigit (n : Nat) : Char := Nat.digitChar n

def escapeChar (c : Char) : List Char :=
  if c == '"' then ['\\', '"']
  else if c == '\\' then ['\\', '\\']
  else if c == '\x08' then ['\\', 'b']
  else if c == '\x0c' then ['\\', 'f']
  else if c == '\n' then ['\\', 'n']
  else if c == '\r' then ['\\', 'r']
  else if c == '\t' then ['\\', 't']
  else if c.toNat < 0x20 then
    ['\\', 'u', '0', '0', hexDigit (c.toNat / 16), hexDigit (c.toNat % 16)]
  else [c]

def quoted (text : String) : List Char := '"' :: (text.toList.flatMap escapeChar ++ ['"'])

mutual

def Value.compactChars : Value → List Char
  | .string text => quoted text
  | .array elements => '[' :: (compactElements elements ++ [']'])
  | .object members => '\x7b' :: (compactMembers members ++ ['\x7d'])

def compactElements : List Value → List Char
  | [] => []
  | [last] => last.compactChars
  | first :: rest => first.compactChars ++ ',' :: compactElements rest

def compactMembers : List (String × Value) → List Char
  | [] => []
  | [(name, value)] => quoted name ++ ':' :: value.compactChars
  | (name, value) :: rest =>
    quoted name ++ ':' :: (value.compactChars ++ ',' :: compactMembers rest)

end

def newline (level : Nat) : List Char := '\n' :: List.replicate (2 * level) ' '

mutual

/-- The pretty text of a value at some level of indentation. -/
def Value.prettyChars (level : Nat) : Value → List Char
  | .string text => quoted text
  | .array [] => ['[', ']']
  | .array elements =>
    '[' :: (prettyElements (level + 1) elements ++ newline level ++ [']'])
  | .object [] => ['\x7b', '\x7d']
  | .object members =>
    '\x7b' :: (prettyMembers (level + 1) members ++ newline level ++ ['\x7d'])

def prettyElements (level : Nat) : List Value → List Char
  | [] => []
  | [last] => newline level ++ last.prettyChars level
  | first :: rest => newline level ++ first.prettyChars level ++ ',' :: prettyElements level rest

def prettyMembers (level : Nat) : List (String × Value) → List Char
  | [] => []
  | [(name, value)] => newline level ++ quoted name ++ ':' :: ' ' :: value.prettyChars level
  | (name, value) :: rest =>
    newline level ++ quoted name ++
      ':' :: ' ' :: (value.prettyChars level ++ ',' :: prettyMembers level rest)

end

def Value.compact (value : Value) : String := String.ofList value.compactChars

def Value.pretty (value : Value) : String := String.ofList (value.prettyChars 0)

end FacetedSearch.Json
