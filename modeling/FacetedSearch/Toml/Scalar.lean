import FacetedSearch.Toml.Moment
import FacetedSearch.Toml.Value

/-! Numbers, truth values and moments of TOML.

These values are words without blanks, and a word is one of them as a whole or not at all. Only a
date and a time may have a space between them.
-/

set_option autoImplicit false

namespace FacetedSearch.Toml

open Number (Binary64)
open Text (digitValue? numberInBase?)

def isWordCharacter (c : Char) : Bool :=
  c.isAlphanum || c == '_' || c == '+' || c == '-' || c == '.' || c == ':'

/-- Digits that may have single underscores between them, without these. -/
def digitRun? (isDigit : Char → Bool) : List Char → Option (List Char)
  | [] => none
  | [c] => if isDigit c then some [c] else none
  | c :: '_' :: rest => if isDigit c then (digitRun? isDigit rest).map (c :: ·) else none
  | c :: rest => if isDigit c then (digitRun? isDigit rest).map (c :: ·) else none

def takeSign : List Char → Bool × List Char
  | '+' :: rest => (false, rest)
  | '-' :: rest => (true, rest)
  | cs => (false, cs)

def wholeDigits? (cs : List Char) : Option (List Char) := do
  let digits ← digitRun? Char.isDigit cs
  if digits.length != 1 && digits.head? == some '0' then none else some digits

def integer? (negative : Bool) (magnitude : Nat) : Option Value :=
  if negative then if magnitude ≤ Nat.pow 2 63 then some (.integer (-magnitude)) else none
  else if magnitude < Nat.pow 2 63 then some (.integer magnitude) else none

def basedInteger? (base : Nat) (cs : List Char) : Option Value := do
  let isDigit (c : Char) : Bool := (digitValue? c).any (· < base)
  integer? false (← numberInBase? base (← digitRun? isDigit cs))

def readInteger? : List Char → Option Value
  | '0' :: 'x' :: rest => basedInteger? 16 rest
  | '0' :: 'o' :: rest => basedInteger? 8 rest
  | '0' :: 'b' :: rest => basedInteger? 2 rest
  | cs => do
    let (negative, rest) := takeSign cs
    integer? negative (← numberInBase? 10 (← wholeDigits? rest))

def readExponent? (cs : List Char) : Option Int := do
  let (negative, rest) := takeSign cs
  let magnitude ← numberInBase? 10 (← digitRun? Char.isDigit rest)
  return if negative then -(magnitude : Int) else magnitude

def isExponentMark (c : Char) : Bool := c == 'e' || c == 'E'

/-- A word as a float. Too large a positive number is none. -/
def readFloat? (cs : List Char) : Option Value := do
  let (negative, rest) := takeSign cs
  if rest == ['i', 'n', 'f'] then return .float (.infinite negative)
  if rest == ['n', 'a', 'n'] then return .float .nan
  let mantissa := rest.takeWhile (!isExponentMark ·)
  let exponent ← match rest.dropWhile (!isExponentMark ·) with
    | [] => some none
    | _ :: exponent => (readExponent? exponent).map some
  let whole ← wholeDigits? (mantissa.takeWhile (· != '.'))
  let fraction ← match mantissa.dropWhile (· != '.') with
    | [] => if exponent.isNone then none else some []
    | _ :: fraction => digitRun? Char.isDigit fraction
  let digits ← numberInBase? 10 (whole ++ fraction)
  let magnitude := Binary64.ofDecimal digits (exponent.getD 0 - (fraction.length : Int))
  if magnitude.isInfinite && !negative then none
  else return .float (magnitude.withSign negative)

def readBoolean? (word : List Char) : Option Value :=
  if word == ['t', 'r', 'u', 'e'] then some (.boolean true)
  else if word == ['f', 'a', 'l', 's', 'e'] then some (.boolean false)
  else none

def readScalar? (cs : List Char) : Option (Value × List Char) :=
  match readMoment? cs with
  | some (text, rest) =>
    if rest.head?.any isWordCharacter then none else some (.moment text, rest)
  | none => do
    let word := cs.takeWhile isWordCharacter
    let value ← readBoolean? word <|> readInteger? word <|> readFloat? word
    return (value, cs.dropWhile isWordCharacter)

end FacetedSearch.Toml
