import FacetedSearch.Number.Binary64

/-! Decimal texts of binary64 numbers.

A finite number is written with the fewest digits that read back as the same number; of several
such texts the nearest to the number is taken. How the digits are laid out is a `Layout`.
-/

set_option autoImplicit false

namespace FacetedSearch.Number

structure Decimal where
  digits : Nat
  exponent : Int
  deriving DecidableEq, Repr

structure Ratio where
  numerator : Nat
  denominator : Nat

def Ratio.lt (a b : Ratio) : Bool := a.numerator * b.denominator < b.numerator * a.denominator

def Ratio.le (a b : Ratio) : Bool := a.numerator * b.denominator ≤ b.numerator * a.denominator

def Ratio.ofBinary (mantissa : Nat) (exponent : Int) : Ratio :=
  ⟨mantissa * Nat.pow 2 exponent.toNat, Nat.pow 2 (-exponent).toNat⟩

def Ratio.ofDecimal (decimal : Decimal) : Ratio :=
  ⟨decimal.digits * Nat.pow 10 decimal.exponent.toNat, Nat.pow 10 (-decimal.exponent).toNat⟩

/-- The interval of quotients that read back as one positive number; its ends belong to it when
`closed` holds. -/
structure Rounding where
  value : Ratio
  low : Ratio
  high : Ratio
  closed : Bool

/-- The interval that rounds to `mantissa * 2 ^ exponent`. Below a power of two the neighbouring
numbers are nearer. -/
def Rounding.of (mantissa : Nat) (exponent : Int) : Rounding :=
  let nearer := mantissa == Nat.pow 2 52 && Binary64.minExponent < exponent
  { value := Ratio.ofBinary mantissa exponent
    low := Ratio.ofBinary (4 * mantissa - (if nearer then 1 else 2)) (exponent - 2)
    high := Ratio.ofBinary (4 * mantissa + 2) (exponent - 2)
    closed := mantissa % 2 == 0 }

def Rounding.contains (rounding : Rounding) (point : Ratio) : Bool :=
  if rounding.closed then rounding.low.le point && point.le rounding.high
  else rounding.low.lt point && point.lt rounding.high

def powerOfTen (value : Ratio) (start : Int) : Nat → Int
  | 0 => start
  | steps + 1 =>
    if (Ratio.ofDecimal ⟨1, start + 1⟩).le value then powerOfTen value (start + 1) steps else start

def leadingPower (value : Ratio) : Int :=
  let bits : Int := (value.numerator.log2 : Int) - (value.denominator.log2 : Int)
  powerOfTen value (bits * 30103 / 100000 - 2) 4

/-- Whether the decimal with one more in its last place is nearer to the value than `lower`; of
two equally near ones the even one is. -/
def Rounding.prefersUpper (rounding : Rounding) (lower : Decimal) : Bool :=
  let middle := Ratio.ofDecimal ⟨2 * lower.digits + 1, lower.exponent⟩
  let twice : Ratio := ⟨2 * rounding.value.numerator, rounding.value.denominator⟩
  middle.lt twice || (!twice.lt middle && lower.digits % 2 == 1)

def Decimal.successor (decimal : Decimal) (count : Nat) : Decimal :=
  if decimal.digits + 1 == Nat.pow 10 count then ⟨1, decimal.exponent + count⟩
  else ⟨decimal.digits + 1, decimal.exponent⟩

/-- The decimal with `count` digits that is nearest to the value among those next to it that
read back, if one of them does. -/
def Rounding.atCount? (rounding : Rounding) (count : Nat) : Option Decimal :=
  let exponent := leadingPower rounding.value - (count : Int) + 1
  let scaled : Ratio := ⟨rounding.value.numerator * Nat.pow 10 (-exponent).toNat,
    rounding.value.denominator * Nat.pow 10 exponent.toNat⟩
  let lower : Decimal := ⟨scaled.numerator / scaled.denominator, exponent⟩
  let upper := lower.successor count
  match rounding.contains (Ratio.ofDecimal lower), rounding.contains (Ratio.ofDecimal upper) with
  | true, true => some (if rounding.prefersUpper lower then upper else lower)
  | true, false => some lower
  | false, true => some upper
  | false, false => none

def Rounding.shortestFrom (rounding : Rounding) (count : Nat) : Nat → Decimal
  | 0 => ⟨0, 0⟩
  | steps + 1 => (rounding.atCount? count).getD (rounding.shortestFrom (count + 1) steps)

def shortest (mantissa : Nat) (exponent : Int) : Decimal :=
  if mantissa == 0 then ⟨0, 0⟩ else (Rounding.of mantissa exponent).shortestFrom 1 17

inductive Layout where
  /-- Every digit in its place, and no point behind a whole number. -/
  | positional
  /-- At least one digit after the point; a power of ten, always with a sign, for numbers that
  would need more than sixteen digits before the point or more than four zeros after it. -/
  | scientific
  deriving DecidableEq, Repr

def zeros (count : Nat) : String := String.ofList (List.replicate count '0')

def splitAtPoint (digits : List Char) (place : Nat) : String :=
  String.ofList (digits.take place) ++ "." ++ String.ofList (digits.drop place)

def Layout.write (layout : Layout) (decimal : Decimal) : String :=
  let digits := Nat.toDigits 10 decimal.digits
  let place : Int := digits.length + decimal.exponent
  let whole := String.ofList digits ++ zeros decimal.exponent.toNat
  match layout with
  | .positional =>
    if 0 ≤ decimal.exponent then whole
    else if 0 < place then splitAtPoint digits place.toNat
    else "0." ++ zeros (-place).toNat ++ String.ofList digits
  | .scientific =>
    if 0 ≤ decimal.exponent && place ≤ 16 then whole ++ ".0"
    else if 0 < place && place ≤ 16 then splitAtPoint digits place.toNat
    else if -5 < place && place ≤ 0 then "0." ++ zeros (-place).toNat ++ String.ofList digits
    else
      let first := if digits.length == 1 then String.ofList digits else splitAtPoint digits 1
      first ++ (if 0 < place then "e+" else "e") ++ toString (place - 1)

def Binary64.write (number : Binary64) (layout : Layout) : String :=
  match number with
  | .finite negative mantissa exponent =>
    (if negative then "-" else "") ++ layout.write (shortest mantissa exponent)
  | .infinite negative => if negative then "-inf" else "inf"
  | .nan => "NaN"

end FacetedSearch.Number
