import FacetedSearch.Text.Digits

/-! Dates and times of TOML.

A moment is a date, a time of day, or both, then perhaps with a distance from universal time. What
is kept of it is its text in the usual form.
-/

set_option autoImplicit false

namespace FacetedSearch.Toml

open Text (numberInBase?)

def readField? (count low high : Nat) (cs : List Char) : Option (Nat × List Char) := do
  let digits := cs.take count
  if digits.length < count || !digits.all Char.isDigit then none
  else
    let n ← numberInBase? 10 digits
    if low ≤ n && n ≤ high then some (n, cs.drop count) else none

def readMark? (mark : Char) : List Char → Option (List Char)
  | c :: rest => if c == mark then some rest else none
  | [] => none

def padded (width n : Nat) : String :=
  let digits := Nat.toDigits 10 n
  String.ofList (List.replicate (width - digits.length) '0' ++ digits)

def isLeapYear (year : Nat) : Bool := (year % 4 == 0 && year % 100 != 0) || year % 400 == 0

def daysInMonth (year month : Nat) : Nat :=
  if month == 2 then if isLeapYear year then 29 else 28
  else if month == 4 || month == 6 || month == 9 || month == 11 then 30 else 31

def readDate? (cs : List Char) : Option (String × List Char) := do
  let (year, cs) ← readField? 4 0 9999 cs
  let (month, cs) ← readField? 2 1 12 (← readMark? '-' cs)
  let (day, cs) ← readField? 2 1 31 (← readMark? '-' cs)
  if day ≤ daysInMonth year month then
    some (padded 4 year ++ "-" ++ padded 2 month ++ "-" ++ padded 2 day, cs)
  else none

/-- The text of a fraction of a second: at most nine digits, and no zeros at the end. -/
def fractionText (digits : List Char) : String :=
  let kept := (((digits.take 9).reverse.dropWhile (· == '0')).reverse)
  if kept.isEmpty then "" else "." ++ String.ofList kept

def readTime? (cs : List Char) : Option (String × List Char) := do
  let (hour, cs) ← readField? 2 0 23 cs
  let (minute, cs) ← readField? 2 0 59 (← readMark? ':' cs)
  let (second, cs) ← readField? 2 0 60 (← readMark? ':' cs)
  let text := padded 2 hour ++ ":" ++ padded 2 minute ++ ":" ++ padded 2 second
  match cs with
  | '.' :: rest =>
    let digits := rest.takeWhile Char.isDigit
    if digits.isEmpty then none
    else some (text ++ fractionText digits, rest.dropWhile Char.isDigit)
  | _ => some (text, cs)

/-- The text of a distance from universal time; no distance is negative zero. -/
def offsetText (negative : Bool) (hours minutes : Nat) : String :=
  (if negative && (hours != 0 || minutes != 0) then "-" else "+") ++ padded 2 hours ++ ":" ++
    padded 2 minutes

def readOffset? : List Char → Option (String × List Char)
  | 'Z' :: rest | 'z' :: rest => some ("Z", rest)
  | sign :: rest =>
    if sign == '+' || sign == '-' then do
      let (hours, rest) ← readField? 2 0 23 rest
      let (minutes, rest) ← readField? 2 0 59 (← readMark? ':' rest)
      some (offsetText (sign == '-') hours minutes, rest)
    else some ("", sign :: rest)
  | [] => some ("", [])

def readDayTime? (cs : List Char) : Option (String × List Char) := do
  let (time, rest) ← readTime? cs
  let (offset, rest) ← readOffset? rest
  return ("T" ++ time ++ offset, rest)

def readMoment? (cs : List Char) : Option (String × List Char) :=
  match readDate? cs with
  | some (date, 'T' :: rest) | some (date, 't' :: rest) =>
    (readDayTime? rest).map fun (time, rest) => (date ++ time, rest)
  | some (date, ' ' :: rest) =>
    match readDayTime? rest with
    | some (time, rest) => some (date ++ time, rest)
    | none => some (date, ' ' :: rest)
  | some (date, rest) => some (date, rest)
  | none => readTime? cs

def markedMoment? (text : String) : Option String :=
  match readMoment? text.toList with
  | some (moment, []) => some moment
  | _ => none

end FacetedSearch.Toml
