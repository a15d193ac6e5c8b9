import FacetedSearch.Text.Printable

/-! Quoted literals: a text between double quotes with everything unprintable escaped.

Diagnostics show strings in this form, so that blanks at the ends and invisible characters can
be seen.
-/

set_option autoImplicit false

namespace FacetedSearch.Text

def hexDigits (n : Nat) : List Char := Nat.toDigits 16 n

def escapeLiteral (c : Char) : List Char :=
  if c == '\x00' then ['\\', '0']
  else if c == '\t' then ['\\', 't']
  else if c == '\n' then ['\\', 'n']
  else if c == '\r' then ['\\', 'r']
  else if c == '"' || c == '\\' then ['\\', c]
  else if isPrintable c then [c]
  else ['\\', 'u', '\x7b'] ++ hexDigits c.toNat ++ ['\x7d']

def literal (s : String) : String :=
  String.ofList ('"' :: (s.toList.flatMap escapeLiteral ++ ['"']))

def literalList (strings : List String) : String :=
  "[" ++ String.intercalate ", " (strings.map literal) ++ "]"

end FacetedSearch.Text
