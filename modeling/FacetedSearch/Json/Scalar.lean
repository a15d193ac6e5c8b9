import FacetedSearch.Json.Failure
import FacetedSearch.Text.Bytes
import FacetedSearch.Text.Digits

/-! Reading the parts of JSON that hold no further values: blanks, words, strings and numbers. -/

set_option autoImplicit false

namespace FacetedSearch.Json

open Number (Binary64)

def isSpace (c : Char) : Bool := c == ' ' || c == '\n' || c == '\t' || c == '\r'

def skipSpace (cs : List Char) : List Char := cs.dropWhile isSpace

def readWord : List Char → List Char → Except Failure (List Char)
  | [], rest => .ok rest
  | _ :: _, [] => .error .incomplete
  | expected :: word, c :: rest => if c == expected then readWord word rest else .error .malformed

/-- Read four hexadecimal digits. A text with fewer than four bytes left is incomplete. -/
def readHex4 (cs : List Char) : Except Failure (Nat × List Char) :=
  if Text.byteLength (cs.take 4) < 4 then .error .incomplete
  else match cs with
    | a :: b :: c :: d :: rest =>
      match Text.numberInBase? 16 [a, b, c, d] with
      | some n => .ok (n, rest)
      | none => .error .malformed
    | _ => .error .malformed

def isLeadingSurrogate (n : Nat) : Bool := 0xD800 ≤ n && n ≤ 0xDBFF

def isTrailingSurrogate (n : Nat) : Bool := 0xDC00 ≤ n && n ≤ 0xDFFF

/-- Read the second half of a character that is escaped in two halves. -/
def readTrailing (leading : Nat) : List Char → Except Failure (Char × List Char)
  | [] | ['\\'] => .error .incomplete
  | '\\' :: 'u' :: cs =>
    match readHex4 cs with
    | .error failure => .error failure
    | .ok (n, rest) =>
      if isTrailingSurrogate n then
        .ok (Char.ofNat ((leading - 0xD800) * 0x400 + (n - 0xDC00) + 0x10000), rest)
      else .error .malformed
  | _ => .error .malformed

def readUnicode (cs : List Char) : Except Failure (Char × List Char) :=
  match readHex4 cs with
  | .error failure => .error failure
  | .ok (n, rest) =>
    if isTrailingSurrogate n then .error .malformed
    else if isLeadingSurrogate n then readTrailing n rest
    else .ok (Char.ofNat n, rest)

def readEscape : List Char → Except Failure (Char × List Char)
  | [] => .error .incomplete
  | '"' :: rest => .ok ('"', rest)
  | '\\' :: rest => .ok ('\\', rest)
  | '/' :: rest => .ok ('/', rest)
  | 'b' :: rest => .ok ('\x08', rest)
  | 'f' :: rest => .ok ('\x0c', rest)
  | 'n' :: rest => .ok ('\n', rest)
  | 'r' :: rest => .ok ('\r', rest)
  | 't' :: rest => .ok ('\t', rest)
  | 'u' :: rest => readUnicode rest
  | _ => .error .malformed

theorem readHex4_length {cs rest : List Char} {n : Nat} (read : readHex4 cs = .ok (n, rest)) :
    rest.length ≤ cs.length := by
  unfold readHex4 at read
  split at read
  · simp at read
  · split at read
    · split at read
      · simp at read
        obtain ⟨-, rfl⟩ := read
        simp only [List.length_cons]
        omega
      · simp at read
    · simp at read

theorem readTrailing_length {leading : Nat} {cs rest : List Char} {c : Char}
    (read : readTrailing leading cs = .ok (c, rest)) : rest.length ≤ cs.length := by
  unfold readTrailing at read
  split at read
  · simp at read
  · simp at read
  · split at read
    · simp at read
    next digits =>
      have := readHex4_length digits
      split at read
      · simp at read
        obtain ⟨-, rfl⟩ := read
        simp only [List.length_cons]
        omega
      · simp at read
  · simp at read

theorem readEscape_length {cs rest : List Char} {c : Char} (read : readEscape cs = .ok (c, rest)) :
    rest.length ≤ cs.length := by
  unfold readEscape at read
  split at read <;> try simp at read
  case h_10 digits =>
    unfold readUnicode at read
    split at read
    · simp at read
    next first =>
      have := readHex4_length first
      split at read
      · simp at read
      · split at read
        · have := readTrailing_length read
          simp only [List.length_cons]
          omega
        · simp at read
          obtain ⟨-, rfl⟩ := read
          simp only [List.length_cons]
          omega
  all_goals
    obtain ⟨-, rfl⟩ := read
    simp

def readStringChars (cs : List Char) : Except Failure (List Char × List Char) :=
  match cs with
  | [] => .error .incomplete
  | '"' :: rest => .ok ([], rest)
  | '\\' :: rest =>
    match _read : readEscape rest with
    | .error failure => .error failure
    | .ok (c, rest) => (readStringChars rest).map fun (chars, rest) => (c :: chars, rest)
  | c :: rest =>
    if c.toNat < 0x20 then .error .malformed
    else (readStringChars rest).map fun (chars, rest) => (c :: chars, rest)
termination_by cs.length
decreasing_by
  · have := readEscape_length _read
    simp only [List.length_cons]
    omega
  · simp

def skipStringChars : List Char → Except Failure (List Char)
  | [] => .error .incomplete
  | '"' :: rest => .ok rest
  | ['\\'] => .error .incomplete
  | '\\' :: 'u' :: rest =>
    match readHex4 rest with
    | .error failure => .error failure
    | .ok _ => skipStringChars rest
  | '\\' :: c :: rest =>
    if ['"', '\\', '/', 'b', 'f', 'n', 'r', 't'].contains c then skipStringChars rest
    else .error .malformed
  | c :: rest => if c.toNat < 0x20 then .error .malformed else skipStringChars rest

/-- A number while it is read: the digits that fit into 64 bits, times a power of ten. -/
structure Magnitude where
  significand : Nat
  exponent : Int
  deriving DecidableEq, Repr

def maxSignificand : Nat := Nat.pow 2 64 - 1

def digitValue (c : Char) : Nat := c.toNat - '0'.toNat

/-- Take the digits before the point. Those that no longer fit only move the point. -/
def Magnitude.takeWhole (magnitude : Magnitude) : List Char → Magnitude
  | [] => magnitude
  | c :: rest =>
    let next := 10 * magnitude.significand + digitValue c
    if magnitude.exponent == 0 && next ≤ maxSignificand then
      Magnitude.takeWhole { magnitude with significand := next } rest
    else Magnitude.takeWhole { magnitude with exponent := magnitude.exponent + 1 } rest

def Magnitude.takeFraction (magnitude : Magnitude) : List Char → Magnitude
  | [] => magnitude
  | c :: rest =>
    let next := 10 * magnitude.significand + digitValue c
    if next ≤ maxSignificand then Magnitude.takeFraction ⟨next, magnitude.exponent - 1⟩ rest
    else magnitude

/-- Multiply or divide by a power of ten, in steps of at most `10 ^ 308` that round each. There is
no result beyond the range of the format. -/
def scaleTen? (number : Binary64) (exponent : Int) : Nat → Option Binary64
  | 0 => some Binary64.zero
  | steps + 1 =>
    if exponent.natAbs ≤ 308 then
      let power := Binary64.ofDecimal 1 exponent.natAbs
      if 0 ≤ exponent then
        let product := number.mul power
        if product.isInfinite then none else some product
      else some (number.div power)
    else if number.isZero then some number
    else if 0 ≤ exponent then none
    else scaleTen? (number.div (Binary64.ofDecimal 1 308)) (exponent + 308) steps

def Magnitude.toFloat? (magnitude : Magnitude) : Option Binary64 :=
  scaleTen? (Binary64.ofNat magnitude.significand) magnitude.exponent 4

def Magnitude.readFloat (magnitude : Magnitude) (negative : Bool) (rest : List Char) :
    Except Failure (Kind × List Char) :=
  match magnitude.toFloat? with
  | some number => .ok (.float (number.withSign negative), rest)
  | none => .error .malformed

def decimalNumber (digits : List Char) : Nat :=
  digits.foldl (fun n c => 10 * n + digitValue c) 0

def readExponentSign : List Char → Bool × List Char
  | '+' :: rest => (false, rest)
  | '-' :: rest => (true, rest)
  | cs => (false, cs)

def readExponent (negative : Bool) (magnitude : Magnitude) (cs : List Char) :
    Except Failure (Kind × List Char) :=
  let (below, cs) := readExponentSign cs
  match cs with
  | [] => .error .incomplete
  | c :: _ =>
    if !c.isDigit then .error .malformed
    else
      let shift : Int := decimalNumber (cs.takeWhile Char.isDigit)
      let exponent := if below then magnitude.exponent - shift else magnitude.exponent + shift
      Magnitude.readFloat { magnitude with exponent } negative (cs.dropWhile Char.isDigit)

def readFraction (negative : Bool) (magnitude : Magnitude) (cs : List Char) :
    Except Failure (Kind × List Char) :=
  match cs with
  | [] => .error .incomplete
  | c :: _ =>
    if !c.isDigit then .error .malformed
    else
      let magnitude := magnitude.takeFraction (cs.takeWhile Char.isDigit)
      match cs.dropWhile Char.isDigit with
      | 'e' :: rest | 'E' :: rest => readExponent negative magnitude rest
      | rest => magnitude.readFloat negative rest

/-- What a number without point and exponent is. Negative numbers below 64 bits, and a negative
zero, are floats. -/
def wholeNumber (negative : Bool) (magnitude : Magnitude) (rest : List Char) :
    Except Failure (Kind × List Char) :=
  if magnitude.exponent != 0 then magnitude.readFloat negative rest
  else if !negative then .ok (.natural magnitude.significand, rest)
  else if magnitude.significand == 0 || Nat.pow 2 63 < magnitude.significand then
    magnitude.readFloat true rest
  else .ok (.negative magnitude.significand, rest)

def readNumber (negative : Bool) (cs : List Char) : Except Failure (Kind × List Char) :=
  match cs with
  | [] => .error .incomplete
  | c :: next =>
    let digits := cs.takeWhile Char.isDigit
    if !c.isDigit then .error .malformed
    else if c == '0' && (next.head?.any Char.isDigit) then .error .malformed
    else
      let magnitude := Magnitude.takeWhole ⟨0, 0⟩ digits
      match cs.dropWhile Char.isDigit with
      | '.' :: rest => readFraction negative magnitude rest
      | 'e' :: rest | 'E' :: rest => readExponent negative magnitude rest
      | rest => wholeNumber negative magnitude rest

def skipDigits : List Char → Except Failure (List Char)
  | [] => .error .malformed
  | c :: rest => if c.isDigit then .ok (rest.dropWhile Char.isDigit) else .error .malformed

def skipExponent (cs : List Char) : Except Failure (List Char) :=
  skipDigits (readExponentSign cs).2

def skipNumber (cs : List Char) : Except Failure (List Char) :=
  match cs with
  | '0' :: c :: _ => if c.isDigit then .error .malformed else skipTail (cs.drop 1)
  | _ =>
    match skipDigits cs with
    | .error failure => .error failure
    | .ok rest => skipTail rest
where
  skipTail : List Char → Except Failure (List Char)
    | '.' :: rest =>
      match skipDigits rest with
      | .ok ('e' :: rest) | .ok ('E' :: rest) => skipExponent rest
      | skipped => skipped
    | 'e' :: rest | 'E' :: rest => skipExponent rest
    | rest => .ok rest

end FacetedSearch.Json
