/-! Numbers of the binary64 format, in exact integer arithmetic.

A finite number is a sign and a product of a natural number below 2^53 and a power of two. Reading
rounds to the nearest such number; of two equally near ones the even one is taken.
-/

set_option autoImplicit false

namespace FacetedSearch.Number

/-- A number of the format. The finite ones are `mantissa * 2 ^ exponent`, with a sign. -/
inductive Binary64 where
  | finite (negative : Bool) (mantissa : Nat) (exponent : Int)
  | infinite (negative : Bool)
  | nan
  deriving DecidableEq, Repr

namespace Binary64

def minExponent : Int := -1074

def maxExponent : Int := 971

def zero : Binary64 := .finite false 0 minExponent

def scaled (numerator denominator : Nat) (exponent : Int) : Nat × Nat :=
  (numerator * Nat.pow 2 (-exponent).toNat, denominator * Nat.pow 2 exponent.toNat)

/-- The quotient rounded to the nearest natural number, halves to the even one. -/
def divideToEven (numerator denominator : Nat) : Nat :=
  let quotient := numerator / denominator
  let twice := 2 * (numerator % denominator)
  if denominator < twice || (twice == denominator && quotient % 2 == 1) then quotient + 1
  else quotient

def ofRatio (numerator denominator : Nat) : Binary64 :=
  if numerator == 0 then zero
  else
    let guess : Int := (numerator.log2 : Int) - (denominator.log2 : Int) - 52
    let (n, d) := scaled numerator denominator guess
    let exponent := max minExponent (if n < d * Nat.pow 2 52 then guess - 1 else guess)
    let (n, d) := scaled numerator denominator exponent
    let mantissa := divideToEven n d
    let (mantissa, exponent) :=
      if mantissa == Nat.pow 2 53 then (Nat.pow 2 52, exponent + 1) else (mantissa, exponent)
    if maxExponent < exponent then .infinite false else .finite false mantissa exponent

def ofNat (n : Nat) : Binary64 := ofRatio n 1

def negate : Binary64 → Binary64
  | .finite negative mantissa exponent => .finite (!negative) mantissa exponent
  | .infinite negative => .infinite (!negative)
  | .nan => .nan

def withSign (negative : Bool) (magnitude : Binary64) : Binary64 :=
  if negative then magnitude.negate else magnitude

/-- The number nearest to `digits * 10 ^ exponent`. Magnitudes far outside the range are not
written out: from `10 ^ 310` on they are infinite, and below `10 ^ -330` they are zero. -/
def ofDecimal (digits : Nat) (exponent : Int) : Binary64 :=
  let magnitude : Int := (Nat.toDigits 10 digits).length + exponent
  if digits == 0 || magnitude < -330 then zero
  else if 310 < magnitude then .infinite false
  else ofRatio (digits * Nat.pow 10 exponent.toNat) (Nat.pow 10 (-exponent).toNat)

def mul : Binary64 → Binary64 → Binary64
  | .finite _ m e, .finite _ n f =>
    ofRatio (m * n * Nat.pow 2 (e + f).toNat) (Nat.pow 2 (-(e + f)).toNat)
  | .nan, _ | _, .nan => .nan
  | _, _ => .infinite false

def div : Binary64 → Binary64 → Binary64
  | .finite _ m e, .finite _ n f =>
    ofRatio (m * Nat.pow 2 (e - f).toNat) (n * Nat.pow 2 (-(e - f)).toNat)
  | _, _ => .nan

def isInfinite : Binary64 → Bool
  | .infinite _ => true
  | _ => false

def isZero : Binary64 → Bool
  | .finite _ mantissa _ => mantissa == 0
  | _ => false

end Binary64

end FacetedSearch.Number
