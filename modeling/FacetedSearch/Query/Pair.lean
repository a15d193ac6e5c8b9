import FacetedSearch.Query.Term

/-! Pairs `category: value`.

A pair is a term, a colon, any number of blanks and another term. `Pair.DerivesAt` says so at a
position of a text; `Pair.read?` reads the pair that a text starts with, its category as long as
possible, and `Pair.find?` looks for the first place where a pair starts.
-/

set_option autoImplicit false

namespace FacetedSearch.Query

open Text (isBlank)

/-- A pair as it is written: two terms with a colon and the blanks `gap` between them. -/
structure Pair where
  category : List Char
  gap : List Char
  value : List Char
  deriving DecidableEq, Repr

def Pair.text (pair : Pair) : List Char := pair.category ++ ':' :: (pair.gap ++ pair.value)

structure Pair.WellFormed (pair : Pair) : Prop where
  category : IsTerm pair.category
  gap : ∀ c ∈ pair.gap, isBlank c = true
  value : IsTerm pair.value

/-- The grammar derives `pair` where the text `cs` starts. -/
def Pair.DerivesAt (pair : Pair) (cs : List Char) : Prop :=
  pair.WellFormed ∧ ∃ rest, cs = pair.text ++ rest

def Pair.readValue? (cs : List Char) : Option (List Char × List Char × List Char) :=
  (Term.read? (cs.dropWhile isBlank)).map fun (value, rest) => (cs.takeWhile isBlank, value, rest)

/-- Read the rest of a pair after the first character of a bare category. The category extends
to the last colon of its run of non-blank characters that a value follows. -/
def Pair.readBare? : List Char → Option (Pair × List Char)
  | [] => none
  | c :: rest =>
    if isBlank c then none
    else match Pair.readBare? rest with
      | some (pair, after) => some ({ pair with category := c :: pair.category }, after)
      | none =>
        if c == ':' then
          (Pair.readValue? rest).map fun (gap, value, after) => (⟨[], gap, value⟩, after)
        else none

def Pair.read? : List Char → Option (Pair × List Char)
  | [] => none
  | c :: rest =>
    if isMark c then
      match Term.readQuoted? c rest with
      | some (category, ':' :: afterColon) =>
        (Pair.readValue? afterColon).map fun (gap, value, after) => (⟨category, gap, value⟩, after)
      | _ => none
    else if isBlank c then none
    else (Pair.readBare? rest).map fun (pair, after) =>
      ({ pair with category := c :: pair.category }, after)

/-- Find the first place where a pair starts: the text before it, the pair and the text after. -/
def Pair.find? : List Char → Option (List Char × Pair × List Char)
  | [] => none
  | c :: rest =>
    match Pair.read? (c :: rest) with
    | some (pair, after) => some ([], pair, after)
    | none => (Pair.find? rest).map fun (before, pair, after) => (c :: before, pair, after)

theorem Pair.readValue?_length {cs gap value rest : List Char}
    (read : Pair.readValue? cs = some (gap, value, rest)) : rest.length < cs.length := by
  have short := (List.dropWhile_sublist isBlank (l := cs)).length_le
  cases found : Term.read? (cs.dropWhile isBlank) with
  | none => simp [Pair.readValue?, found] at read
  | some result =>
    have := Term.read?_length found
    simp only [Pair.readValue?, found, Option.map_some, Option.some.injEq, Prod.mk.injEq] at read
    obtain ⟨-, -, rfl⟩ := read
    omega

theorem Pair.readBare?_length {cs rest : List Char} {pair : Pair}
    (read : Pair.readBare? cs = some (pair, rest)) : rest.length < cs.length := by
  induction cs generalizing pair with
  | nil => simp [Pair.readBare?] at read
  | cons c cs ih =>
    simp only [Pair.readBare?] at read
    simp only [List.length_cons]
    split at read
    · simp at read
    · cases found : Pair.readBare? cs with
      | some result =>
        simp only [found, Option.some.injEq, Prod.mk.injEq] at read
        obtain ⟨-, rfl⟩ := read
        have := ih found
        omega
      | none =>
        simp only [found] at read
        split at read
        · cases value : Pair.readValue? cs with
          | none => simp [value] at read
          | some result =>
            have := Pair.readValue?_length value
            simp only [value, Option.map_some, Option.some.injEq, Prod.mk.injEq] at read
            obtain ⟨-, rfl⟩ := read
            omega
        · simp at read

theorem Pair.read?_length {cs rest : List Char} {pair : Pair}
    (read : Pair.read? cs = some (pair, rest)) : rest.length < cs.length := by
  cases cs with
  | nil => simp [Pair.read?] at read
  | cons c cs =>
    simp only [Pair.read?] at read
    simp only [List.length_cons]
    split at read
    · split at read
      next category afterColon quoted =>
        have afterTerm := Term.readQuoted?_length quoted
        cases value : Pair.readValue? afterColon with
        | none => simp [value] at read
        | some result =>
          have := Pair.readValue?_length value
          simp only [value, Option.map_some, Option.some.injEq, Prod.mk.injEq] at read
          obtain ⟨-, rfl⟩ := read
          simp only [List.length_cons] at afterTerm
          omega
      next => simp at read
    · split at read
      · simp at read
      · cases found : Pair.readBare? cs with
        | none => simp [found] at read
        | some result =>
          have := Pair.readBare?_length found
          simp only [found, Option.map_some, Option.some.injEq, Prod.mk.injEq] at read
          obtain ⟨-, rfl⟩ := read
          omega

theorem Pair.find?_length {cs before after : List Char} {pair : Pair}
    (found : Pair.find? cs = some (before, pair, after)) : after.length < cs.length := by
  induction cs generalizing before with
  | nil => simp [Pair.find?] at found
  | cons c cs ih =>
    simp only [Pair.find?] at found
    split at found
    next read =>
      simp only [Option.some.injEq, Prod.mk.injEq] at found
      obtain ⟨-, rfl, rfl⟩ := found
      exact Pair.read?_length read
    next =>
      cases later : Pair.find? cs with
      | none => simp [later] at found
      | some result =>
        simp only [later, Option.map_some, Option.some.injEq, Prod.mk.injEq] at found
        obtain ⟨-, rfl, rfl⟩ := found
        have := ih later
        simp only [List.length_cons]
        omega

end FacetedSearch.Query
