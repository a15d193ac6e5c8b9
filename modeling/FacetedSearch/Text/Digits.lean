/-! Digits and the numbers and characters that they spell. -/

set_option autoImplicit false

namespace FacetedSearch.Text

def digitValue? (c : Char) : Option Nat :=
  if c.isDigit then some (c.toNat - '0'.toNat)
  else if 'a' ≤ c && c ≤ 'f' then some (c.toNat - 'a'.toNat + 10)
  else if 'A' ≤ c && c ≤ 'F' then some (c.toNat - 'A'.toNat + 10)
  else none

def numberInBase? (base : Nat) (digits : List Char) : Option Nat :=
  digits.foldlM (fun n c => do
    let digit ← digitValue? c
    if digit < base then some (base * n + digit) else none) 0

def readCodePoint? (count : Nat) (cs : List Char) : Option (Char × List Char) := do
  let digits := cs.take count
  if digits.length < count then none
  else
    let n ← numberInBase? 16 digits
    if h : n.isValidChar then some (Char.ofNatAux n h, cs.drop count) else none

end FacetedSearch.Text
