import FacetedSearch.Proofs.Query.Terms
import FacetedSearch.Query.Pair

/-! The reader of pairs against their grammar.

`Pair.read?` succeeds exactly where the grammar derives a pair, and reads the one with the longest
category and the longest value. `Pair.find?` stops at the first place where a pair is derived.
-/

set_option autoImplicit false

namespace FacetedSearch.Query

open Text (isBlank Breaks)

theorem Pair.text_ne_nil (pair : Pair) : pair.text ≠ [] := by
  simp [Pair.text]

theorem Pair.readValue?_eq_some_iff {cs gap value rest : List Char} :
    Pair.readValue? cs = some (gap, value, rest) ↔ (∀ c ∈ gap, isBlank c = true) ∧
      cs = gap ++ (value ++ rest) ∧ Term.read? (value ++ rest) = some (value, rest) := by
  constructor
  · intro read
    obtain ⟨⟨term, after⟩, found, same⟩ := Option.map_eq_some_iff.mp read
    simp only [Prod.mk.injEq] at same
    obtain ⟨rfl, rfl, rfl⟩ := same
    obtain ⟨-, split, -⟩ := Term.read?_eq_some_iff.mp found
    refine ⟨fun c member => List.mem_takeWhile_imp member, ?_, split ▸ found⟩
    rw [← split, List.takeWhile_append_dropWhile]
  · rintro ⟨blank, rfl, read⟩
    obtain ⟨grammar, -, -⟩ := Term.read?_eq_some_iff.mp read
    obtain ⟨first, others, rfl, solid⟩ := grammar.exists_first
    have taken : (gap ++ (first :: others ++ rest)).takeWhile isBlank = gap := by
      rw [List.takeWhile_append_of_pos blank]
      simp [solid]
    have dropped : (gap ++ (first :: others ++ rest)).dropWhile isBlank =
        first :: others ++ rest := by
      rw [List.dropWhile_append_of_pos blank]
      simp [solid]
    simp only [Pair.readValue?, taken, dropped, read, Option.map_some]

theorem Pair.exists_readValue? {gap other : List Char} (blank : ∀ c ∈ gap, isBlank c = true)
    (grammar : IsTerm other) (more : List Char) : ∃ value rest,
      Pair.readValue? (gap ++ (other ++ more)) = some (gap, value, rest) ∧
        other.length ≤ value.length := by
  obtain ⟨value, rest, read, longest⟩ := grammar.exists_read? more
  obtain ⟨-, split, -⟩ := Term.read?_eq_some_iff.mp read
  exact ⟨value, rest, Pair.readValue?_eq_some_iff.mpr ⟨blank, by rw [split], split ▸ read⟩, longest⟩

theorem Pair.readBare?_breaks {cs : List Char} (breaks : Breaks cs) : Pair.readBare? cs = none := by
  cases cs with
  | nil => rfl
  | cons c rest => simp [Pair.readBare?, breaks c (by simp)]

theorem Pair.readBare?_run {run cs gap value after : List Char}
    (solid : ∀ c ∈ run, isBlank c = false) (last : Pair.readBare? cs = none)
    (read : Pair.readValue? cs = some (gap, value, after)) :
    Pair.readBare? (run ++ ':' :: cs) = some (⟨run, gap, value⟩, after) := by
  induction run with
  | nil =>
    have colon : isBlank ':' = false := by decide
    simp [Pair.readBare?, colon, last, read]
  | cons c run ih =>
    have here := solid c (by simp)
    have later := ih fun d member => solid d (by simp [member])
    simp [Pair.readBare?, here, later]

/-- A bare category ends at a colon that a value follows, and at no later one. -/
theorem Pair.readBare?_eq_some_iff {cs after : List Char} {pair : Pair} :
    Pair.readBare? cs = some (pair, after) ↔ (∀ c ∈ pair.category, isBlank c = false) ∧
      ∃ afterColon, cs = pair.category ++ ':' :: afterColon ∧
        Pair.readValue? afterColon = some (pair.gap, pair.value, after) ∧
        Pair.readBare? afterColon = none := by
  constructor
  · intro read
    induction cs generalizing pair with
    | nil => simp [Pair.readBare?] at read
    | cons c rest ih =>
      simp only [Pair.readBare?] at read
      split at read
      · simp at read
      next solid =>
        split at read
        -- A colon further on is preferred to one here.
        next found foundAfter later =>
          simp only [Option.some.injEq, Prod.mk.injEq] at read
          obtain ⟨rfl, rfl⟩ := read
          obtain ⟨laterSolid, afterColon, same, value, last⟩ := ih later
          exact ⟨by simpa [solid] using laterSolid, afterColon, by simp [same], value, last⟩
        next last =>
          split at read
          next colon =>
            obtain ⟨⟨gap, value, foundAfter⟩, found, same⟩ := Option.map_eq_some_iff.mp read
            simp only [Prod.mk.injEq] at same
            obtain ⟨rfl, rfl⟩ := same
            have colon : c = ':' := by simpa using colon
            exact ⟨by simp, rest, by simp [colon], found, last⟩
          next => simp at read
  · rintro ⟨solid, afterColon, rfl, read, last⟩
    exact Pair.readBare?_run solid last read

theorem Pair.readBare?_eq_none_iff {cs : List Char} : Pair.readBare? cs = none ↔
    ∀ run afterColon, (∀ c ∈ run, isBlank c = false) → cs = run ++ ':' :: afterColon →
      Pair.readValue? afterColon = none := by
  constructor
  · rintro nothing run afterColon solid rfl
    cases read : Pair.readValue? afterColon with
    | none => rfl
    | some result =>
      obtain ⟨gap, value, after⟩ := result
      cases last : Pair.readBare? afterColon with
      | none => simp [Pair.readBare?_run solid last read] at nothing
      | some later =>
        -- A later colon ends a longer category.
        obtain ⟨laterSolid, more, same, laterRead, laterLast⟩ := Pair.readBare?_eq_some_iff.mp last
        have longer : ∀ c ∈ run ++ ':' :: later.1.category, isBlank c = false := by
          intro c member
          simp only [List.mem_append, List.mem_cons] at member
          rcases member with member | rfl | member
          · exact solid c member
          · decide
          · exact laterSolid c member
        have found := Pair.readBare?_run longer laterLast laterRead
        rw [List.append_assoc, List.cons_append, ← same] at found
        simp [found] at nothing
  · intro none
    cases read : Pair.readBare? cs with
    | none => rfl
    | some result =>
      obtain ⟨solid, afterColon, split, found, -⟩ := Pair.readBare?_eq_some_iff.mp read
      have nothing := none _ afterColon solid split
      simp [found] at nothing

theorem Pair.readBare?_longest {cs after run afterRun : List Char} {pair : Pair}
    (read : Pair.readBare? cs = some (pair, after)) (solid : ∀ c ∈ run, isBlank c = false)
    (split : cs = run ++ ':' :: afterRun) (value : Pair.readValue? afterRun ≠ none) :
    run.length ≤ pair.category.length := by
  obtain ⟨-, afterColon, found, -, last⟩ := Pair.readBare?_eq_some_iff.mp read
  by_contra longer
  rw [split, List.append_eq_append_iff] at found
  rcases found with ⟨more, same, -⟩ | ⟨more, same, behind⟩
  · have lengths := congrArg List.length same
    simp only [List.length_append] at lengths
    omega
  · cases more with
    | nil =>
      simp only [List.append_nil] at same
      simp [same] at longer
    | cons d more =>
      -- The longer run has a colon behind the category that was read.
      rw [List.cons_append, List.cons.injEq] at behind
      refine value (Pair.readBare?_eq_none_iff.mp last more afterRun (fun c member => ?_) behind.2)
      exact solid c (by simp [same, member])

theorem Pair.DerivesAt.append {pair : Pair} {cs : List Char} (derives : pair.DerivesAt cs)
    (more : List Char) : pair.DerivesAt (cs ++ more) := by
  obtain ⟨wellFormed, rest, rfl⟩ := derives
  exact ⟨wellFormed, rest ++ more, by simp⟩

theorem Pair.read?_sound {cs after : List Char} {pair : Pair}
    (read : Pair.read? cs = some (pair, after)) :
    pair.WellFormed ∧ cs = pair.text ++ after ∧
      Term.read? (pair.value ++ after) = some (pair.value, after) := by
  cases cs with
  | nil => simp [Pair.read?] at read
  | cons c rest =>
    simp only [Pair.read?] at read
    split at read
    next mark =>
      split at read
      next category afterColon quoted =>
        obtain ⟨body, nonempty, closed, rfl, rfl⟩ := Term.readQuoted?_eq_some_iff.mp quoted
        obtain ⟨⟨gap, value, rest⟩, found, same⟩ := Option.map_eq_some_iff.mp read
        simp only [Prod.mk.injEq] at same
        obtain ⟨rfl, rfl⟩ := same
        obtain ⟨blank, rfl, readValue⟩ := Pair.readValue?_eq_some_iff.mp found
        obtain ⟨grammar, -, -⟩ := Term.read?_eq_some_iff.mp readValue
        exact ⟨⟨.quoted mark nonempty closed, blank, grammar⟩, by simp [Pair.text], readValue⟩
      next => simp at read
    next notMark =>
      split at read
      · simp at read
      next solid =>
        obtain ⟨⟨found, rest⟩, readBare, same⟩ := Option.map_eq_some_iff.mp read
        simp only [Prod.mk.injEq] at same
        obtain ⟨rfl, rfl⟩ := same
        obtain ⟨run, afterColon, rfl, found, -⟩ := Pair.readBare?_eq_some_iff.mp readBare
        obtain ⟨blank, rfl, readValue⟩ := Pair.readValue?_eq_some_iff.mp found
        obtain ⟨grammar, -, -⟩ := Term.read?_eq_some_iff.mp readValue
        exact ⟨⟨.bare (by simpa using notMark) (by simpa using solid) run, blank, grammar⟩,
          by simp [Pair.text], readValue⟩

/-- What is derived is read, with a category and a value that are at least as long. -/
theorem Pair.DerivesAt.exists_read? {cs : List Char} {other : Pair} (derives : other.DerivesAt cs) :
    ∃ pair after, Pair.read? cs = some (pair, after) ∧
      other.category.length ≤ pair.category.length ∧
      (other.category = pair.category → other.value.length ≤ pair.value.length) := by
  obtain ⟨⟨category, blank, valueTerm⟩, more, rfl⟩ := derives
  obtain ⟨otherCategory, otherGap, otherValue⟩ := other
  obtain ⟨value, rest, read, longest⟩ := Pair.exists_readValue? blank valueTerm more
  simp only [Pair.text, List.append_assoc, List.cons_append]
  cases category with
  | @quoted mark body isMark nonempty closed =>
    have quoted :
        Term.readQuoted? mark (body ++ mark :: ':' :: (otherGap ++ (otherValue ++ more))) =
        some (mark :: (body ++ [mark]), ':' :: (otherGap ++ (otherValue ++ more))) :=
      Term.readQuoted?_eq_some_iff.mpr ⟨body, nonempty, closed, rfl, rfl⟩
    refine ⟨⟨_, otherGap, value⟩, rest, ?_, le_rfl, fun _ => longest⟩
    simp [Pair.read?, isMark, quoted, read]
  | @bare first run notMark solid runSolid =>
    cases found : Pair.readBare? (run ++ ':' :: (otherGap ++ (otherValue ++ more))) with
    | none =>
      have nothing := Pair.readBare?_eq_none_iff.mp found run _ runSolid rfl
      simp [read] at nothing
    | some result =>
      obtain ⟨bare, after⟩ := result
      refine ⟨{ bare with category := first :: bare.category }, after, ?_, ?_, ?_⟩
      · simp [Pair.read?, notMark, solid, found]
      · have atMost := Pair.readBare?_longest found runSolid rfl (by simp [read])
        simpa using atMost
      · -- With the category that was read, the text behind its colon is the same.
        intro same
        obtain ⟨-, afterColon, split, readValue, -⟩ := Pair.readBare?_eq_some_iff.mp found
        rw [List.cons.injEq] at same
        rw [← same.2, List.append_cancel_left_eq, List.cons.injEq] at split
        rw [← split.2, read, Option.some.injEq, Prod.mk.injEq, Prod.mk.injEq] at readValue
        simpa [readValue.2.1] using longest

theorem Pair.read?_eq_none_iff {cs : List Char} :
    Pair.read? cs = none ↔ ∀ pair : Pair, ¬ pair.DerivesAt cs := by
  constructor
  · intro nothing pair derives
    obtain ⟨found, after, read, -⟩ := derives.exists_read?
    simp [nothing] at read
  · intro underivable
    cases read : Pair.read? cs with
    | none => rfl
    | some result =>
      obtain ⟨wellFormed, split, -⟩ := Pair.read?_sound read
      exact absurd ⟨wellFormed, result.2, split⟩ (underivable result.1)

/-- Behind a gap that has a blank in it, nothing can extend the category. -/
theorem Pair.read?_spaced {category gap value after : List Char} (term : IsTerm category)
    (blank : ∀ c ∈ gap, isBlank c = true) (spaced : gap ≠ [])
    (read : Term.read? (value ++ after) = some (value, after)) :
    Pair.read? (category ++ ':' :: (gap ++ (value ++ after))) =
      some (⟨category, gap, value⟩, after) := by
  have readValue : Pair.readValue? (gap ++ (value ++ after)) = some (gap, value, after) :=
    Pair.readValue?_eq_some_iff.mpr ⟨blank, rfl, read⟩
  cases term with
  | @quoted mark body isMark nonempty closed =>
    have quoted : Term.readQuoted? mark (body ++ mark :: ':' :: (gap ++ (value ++ after))) =
        some (mark :: (body ++ [mark]), ':' :: (gap ++ (value ++ after))) :=
      Term.readQuoted?_eq_some_iff.mpr ⟨body, nonempty, closed, rfl, rfl⟩
    simp [Pair.read?, isMark, quoted, readValue]
  | @bare first run notMark solid runSolid =>
    -- The gap ends the run of the category, so no later colon can belong to it.
    have breaks : Breaks (gap ++ (value ++ after)) := by
      obtain ⟨c, others, rfl⟩ := List.exists_cons_of_ne_nil spaced
      simpa [Breaks] using blank c (by simp)
    have found : Pair.readBare? (run ++ ':' :: (gap ++ (value ++ after))) =
        some (⟨run, gap, value⟩, after) :=
      Pair.readBare?_eq_some_iff.mpr ⟨runSolid, _, rfl, readValue, Pair.readBare?_breaks breaks⟩
    simp [Pair.read?, notMark, solid, found]

theorem Pair.find?_of_read? {cs after : List Char} {pair : Pair}
    (read : Pair.read? cs = some (pair, after)) : Pair.find? cs = some ([], pair, after) := by
  cases cs with
  | nil => simp [Pair.read?] at read
  | cons c rest => simp only [Pair.find?, read]

theorem Pair.find?_behind {text cs : List Char}
    (none : ∀ lead c tail, text = lead ++ c :: tail → Pair.read? (c :: tail ++ cs) = none) :
    Pair.find? (text ++ cs) =
      (Pair.find? cs).map fun (before, pair, after) => (text ++ before, pair, after) := by
  induction text with
  | nil => cases found : Pair.find? cs <;> simp [found]
  | cons c text ih =>
    have here : Pair.read? (c :: (text ++ cs)) = Option.none := none [] c text rfl
    have later := ih fun lead d tail split => none (c :: lead) d tail (by rw [split]; rfl)
    cases found : Pair.find? cs <;> simp [Pair.find?, here, later, found]

theorem Pair.find?_eq_some_iff {cs before after : List Char} {pair : Pair} :
    Pair.find? cs = some (before, pair, after) ↔ ∃ rest, cs = before ++ rest ∧
      Pair.read? rest = some (pair, after) ∧
      ∀ lead c tail, before = lead ++ c :: tail → Pair.read? (c :: tail ++ rest) = none := by
  constructor
  · intro found
    induction cs generalizing before with
    | nil => simp [Pair.find?] at found
    | cons c cs ih =>
      cases here : Pair.read? (c :: cs) with
      | some result =>
        rw [Pair.find?_of_read? here, Option.some.injEq, Prod.mk.injEq, Prod.mk.injEq] at found
        obtain ⟨rfl, rfl, rfl⟩ := found
        exact ⟨c :: cs, rfl, here, by simp⟩
      | none =>
        simp only [Pair.find?, here, Option.map_eq_some_iff, Prod.mk.injEq, Prod.exists] at found
        obtain ⟨later, written, behind, search, rfl, rfl, rfl⟩ := found
        obtain ⟨rest, rfl, read, none⟩ := ih search
        refine ⟨rest, rfl, read, fun lead d tail split => ?_⟩
        cases lead with
        | nil =>
          obtain ⟨rfl, rfl⟩ := List.cons.inj split
          exact here
        | cons e lead =>
          obtain ⟨-, rfl⟩ := List.cons.inj split
          exact none lead d tail rfl
  · rintro ⟨rest, rfl, read, none⟩
    rw [Pair.find?_behind none, Pair.find?_of_read? read]
    simp

theorem Pair.find?_eq_none_iff {cs : List Char} :
    Pair.find? cs = none ↔ ∀ lead rest, cs = lead ++ rest → Pair.read? rest = none := by
  constructor
  · rintro nothing lead rest rfl
    induction lead with
    | nil =>
      cases read : Pair.read? rest with
      | none => rfl
      | some result => simp [Pair.find?_of_read? read] at nothing
    | cons c lead ih =>
      apply ih
      simp only [List.cons_append, Pair.find?] at nothing
      split at nothing
      · simp at nothing
      · simpa using nothing
  · intro none
    have whole : Pair.find? (cs ++ []) = _ := Pair.find?_behind fun lead c tail split => by
      rw [List.append_nil]
      exact none lead (c :: tail) split
    rwa [List.append_nil] at whole

end FacetedSearch.Query
