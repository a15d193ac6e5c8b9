import FacetedSearch.Query.Field
import FacetedSearch.Query.Pair

/-! Scanning a query into its fields, from left to right.

A scan goes from its cursor to the next pair. Text in front of the pair is free text unless it is
blank; it is yielded first, and the pair is pending until the step after it. Once no pair is left,
all from the cursor on is one more field.
-/

set_option autoImplicit false

namespace FacetedSearch.Query

open Text (isBlank isBlankText)

def bareCategory? (run : List Char) : Option (List Char) :=
  match run with
  | first :: rest =>
    if !isMark first && rest.getLast? == some ':' then some (first :: rest.dropLast) else none
  | [] => none

/-- Read a text that is one term, a colon and blanks only: the term and the blanks. -/
def readDangling? (cs : List Char) : Option (List Char × List Char) :=
  match cs with
  | [] => none
  | c :: rest =>
    if isMark c then
      match Term.readQuoted? c rest with
      | some (category, ':' :: trail) => if isBlankText trail then some (category, trail) else none
      | _ => none
    else
      let trail := cs.dropWhile (!isBlank ·)
      if isBlankText trail then
        (bareCategory? (cs.takeWhile (!isBlank ·))).map fun category => (category, trail)
      else none

/-- A scan on its way. The cursor counts characters. -/
structure Scan where
  query : List Char
  cursor : Nat := 0
  pending : Option Field := none
  deriving DecidableEq, Repr

namespace Scan

variable (scan : Scan)

def rest : List Char := scan.query.drop scan.cursor

def span (start stop : Nat) : Span := ⟨byteAt scan.query start, byteAt scan.query stop⟩

def freeText (start stop : Nat) : Field :=
  ⟨none, String.ofList (Text.trimChars ((scan.query.drop start).take (stop - start))),
    scan.span start stop⟩

def fieldOf (pair : Pair) (start : Nat) : Field :=
  ⟨some (Term.content pair.category), Term.content pair.value,
    scan.span start (start + pair.text.length)⟩

def tail : Field :=
  match readDangling? (scan.rest.dropWhile isBlank) with
  | some (category, _) =>
    ⟨some (Term.content category), "", scan.span scan.cursor scan.query.length⟩
  | none => scan.freeText scan.cursor scan.query.length

/-- The next field and the scan behind it. A pair that ended where the cursor is already would end
the scan. -/
def next? : Option (Field × Scan) :=
  match scan.pending with
  | some field => some (field, { scan with pending := none })
  | none =>
    if scan.query.length ≤ scan.cursor then none
    else match Pair.find? scan.rest with
      | none => some (scan.tail, { scan with cursor := scan.query.length })
      | some (before, pair, _) =>
        let start := scan.cursor + before.length
        let stop := start + pair.text.length
        if stop ≤ scan.cursor then none
        else
          let field := scan.fieldOf pair start
          if isBlankText before then some (field, { scan with cursor := stop })
          else
            some (scan.freeText scan.cursor start, { scan with cursor := stop, pending := some field })

/-- How much is left to do: the characters behind the cursor, twice, and a pair that is pending. -/
def left : Nat := 2 * (scan.query.length - scan.cursor) + if scan.pending.isSome then 1 else 0

variable {scan}

theorem left_next {field : Field} {next : Scan} (step : scan.next? = some (field, next)) :
    next.left < scan.left := by
  unfold next? at step
  split at step
  next found pending =>
    obtain ⟨-, rfl⟩ := Prod.mk.inj (Option.some.inj step)
    simp [left, pending]
  next pending =>
    split at step
    next => contradiction
    next inside =>
      split at step
      next =>
        obtain ⟨-, rfl⟩ := Prod.mk.inj (Option.some.inj step)
        simp only [left, pending]
        omega
      next before pair after found =>
        dsimp only at step
        split at step
        next => contradiction
        next forward =>
          split at step <;> obtain ⟨-, rfl⟩ := Prod.mk.inj (Option.some.inj step) <;>
            simp only [left, pending, Option.isSome] <;> split <;> omega

end Scan

def Scan.run (scan : Scan) : List Field :=
  match _step : scan.next? with
  | some (field, next) => field :: next.run
  | none => []
termination_by scan.left
decreasing_by exact Scan.left_next _step

def fields (query : String) : List Field := Scan.run { query := query.toList }

end FacetedSearch.Query
