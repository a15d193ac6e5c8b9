import FacetedSearch.Proofs.Query.Unmarked

/-! What a query keeps when it is read and written.

Blanks may be added or left out between words. All other characters of a query without marks are
written again, in their order, but for a category that dangles at its end.
-/

set_option autoImplicit false

namespace FacetedSearch.Query

open Text (isBlank trimChars)

def solidPart (cs : List Char) : List Char := cs.filter (!isBlank ·)

@[simp] theorem solidPart_append (first rest : List Char) :
    solidPart (first ++ rest) = solidPart first ++ solidPart rest :=
  List.filter_append ..

theorem solidPart_blank {cs : List Char} (blank : ∀ c ∈ cs, isBlank c = true) :
    solidPart cs = [] := by
  rw [solidPart, List.filter_eq_nil_iff]
  intro c member
  simp [blank c member]

theorem solidPart_solid {cs : List Char} (solid : ∀ c ∈ cs, isBlank c = false) :
    solidPart cs = cs := by
  rw [solidPart, List.filter_eq_self]
  intro c member
  simp [solid c member]

theorem solidPart_colon (cs : List Char) : solidPart (':' :: cs) = ':' :: solidPart cs :=
  List.filter_cons_of_pos (by decide)

theorem solidPart_space (cs : List Char) : solidPart (' ' :: cs) = solidPart cs :=
  List.filter_cons_of_neg (by decide)

theorem solidPart_trimChars (cs : List Char) : solidPart (trimChars cs) = solidPart cs := by
  obtain ⟨lead, trail, leadBlank, trailBlank, split⟩ := Text.exists_trimChars cs
  have whole := congrArg solidPart split
  simpa [solidPart_blank leadBlank, solidPart_blank trailBlank] using whole.symm

/-! ## What facets are written as -/

theorem solidPart_render (dialect : Dialect) {facets : List Facet}
    (valued : ∀ facet ∈ facets, Valued facet) :
    solidPart (render dialect facets).toList = solidPart (joined dialect facets) := by
  by_cases empty : facets = []
  · subst empty
    rfl
  · rw [joined_eq_render dialect valued empty, solidPart_space]

/-- What is said in a text, as it is written without blanks. -/
def written (dialect : Dialect) (said : List (String × String)) : List Char :=
  solidPart (joined dialect (said.map facetOf))

theorem written_append (dialect : Dialect) (first rest : List (String × String)) :
    written dialect (first ++ rest) = written dialect first ++ written dialect rest := by
  simp [written, joined]

theorem written_singleton (dialect : Dialect) (said : String × String) :
    written dialect [said] = solidPart (facetChars dialect (facetOf said)) := by
  rw [written, List.map_singleton, joined_cons, joined_nil, List.append_nil, solidPart_space]

theorem written_free (dialect : Dialect) (text : List Char) :
    written dialect ((Piece.free text).pair? dialect).toList = solidPart text := by
  rw [Piece.pair?_free]
  split
  next empty => rw [← solidPart_trimChars, empty]; rfl
  next nonempty =>
    have valued : Valued (facetOf (dialect.remainder, String.ofList (trimChars text))) :=
      valued_of_tight (by simpa using nonempty) (by simpa using Text.tight_trimChars text)
    rw [Option.toList_some, written_singleton,
      facetChars_remainder valued (isRemainder_iff.mpr rfl), facetOf, String.toList_ofList,
      solidPart_trimChars]

theorem PlainStep.written_pair {dialect : Dialect} {before after : List Char} {pair : Pair}
    (step : PlainStep before pair after) (wellFormed : pair.WellFormed)
    (kept : Term.content pair.category ≠ dialect.remainder) :
    written dialect ((Piece.pair pair).pair? dialect).toList = solidPart pair.text := by
  rw [step.category_eq, ← isRemainder_eq_false_iff] at kept
  rw [step.pair?, Option.toList_some, written_singleton,
    facetChars_plain step.category step.value kept, Pair.text]
  simp [solidPart_colon, solidPart_space, solidPart_blank wellFormed.gap, Pair.plainly]

/-! ## The end of a query -/

def danglingEnd (cs : List Char) : List Char :=
  match (pieces cs).getLast? with
  | some (.dangling _ category _) => category ++ [':']
  | _ => []

theorem danglingEnd_of_find? {cs before after : List Char} {pair : Pair}
    (found : Pair.find? cs = some (before, pair, after)) : danglingEnd cs = danglingEnd after := by
  rw [danglingEnd, danglingEnd, pieces_of_find? found,
    List.getLast?_append_of_ne_nil _ (List.cons_ne_nil _ _), List.getLast?_cons]
  cases (pieces after).getLast? <;> rfl

theorem written_ofEnd (dialect : Dialect) {cs : List Char} (none : Pair.find? cs = none)
    (unmarked : ∀ c ∈ cs, isMark c = false) :
    written dialect ((Piece.ofEnd cs).pair? dialect).toList ++ danglingEnd cs = solidPart cs := by
  by_cases empty : cs = []
  · subst empty
    rw [Piece.pair?_ofEnd]
    simp [readDangling?, written_free, danglingEnd]
  · rw [danglingEnd, pieces_of_none none empty, List.getLast?_singleton]
    rcases Piece.ofEnd_cases cs with
      last | ⟨lead, category, trail, last, rfl, leadBlank, grammar, trailBlank⟩
    · simp [last, written_free]
    · -- The category is bare, so all of it is left when the blanks go.
      have plain := grammar.plain fun c member => unmarked c (by simp [member])
      rw [last, Piece.pair?_dangling, solidPart_append, solidPart_blank leadBlank,
        solidPart_append, solidPart_solid plain.solid, solidPart_colon, solidPart_blank trailBlank]
      rfl

theorem written_pairsOf (dialect : Dialect) {cs : List Char}
    (unmarked : ∀ c ∈ cs, isMark c = false)
    (kept : EveryPair cs fun pair => Term.content pair.category ≠ dialect.remainder) :
    written dialect (pairsOf dialect cs) ++ danglingEnd cs = solidPart cs := by
  induction cs using scan_induction with
  | rest cs none =>
    rw [pairsOf_of_none dialect none]
    exact written_ofEnd dialect none unmarked
  | pair cs before pair after found ih =>
    obtain ⟨wellFormed, split⟩ := Pair.find?_split found
    have step := Pair.find?_plain unmarked found
    obtain ⟨keptHere, keptAfter⟩ := (everyPair_of_find? found).mp kept
    rw [pairsOf_of_find? dialect found, written_append, written_append, written_free,
      step.written_pair wellFormed keptHere, danglingEnd_of_find? found, split, solidPart_append,
      solidPart_append, List.append_assoc, List.append_assoc, ih step.after keptAfter]

/-- When a query without marks is read and written again, and no pair of it belongs to the
remainder, all of its characters but blanks are there and in their order, up to a category that
dangles at its end. -/
theorem solidPart_render_parse (dialect : Dialect) (query : String)
    (unmarked : ∀ c ∈ query.toList, isMark c = false)
    (kept : EveryPair query.toList fun pair => Term.content pair.category ≠ dialect.remainder) :
    solidPart (render dialect (parse dialect query)).toList ++ danglingEnd query.toList =
      solidPart query.toList := by
  rw [solidPart_render dialect fun _ member => valued_of_mem_parse member, parse_eq]
  exact written_pairsOf dialect unmarked kept

theorem solidPart_render_parse_colons :
    solidPart (render {} (parse {} "see :x a:b:c  d: : e: ")).toList ++ "e:".toList =
      "see:xa:b:cd::e:".toList := by
  have first : Pair.find? "see :x a:b:c  d: : e: ".toList =
      some ("see :x ".toList, ⟨"a:b".toList, [], ['c']⟩, "  d: : e: ".toList) := by decide
  have second : Pair.find? "  d: : e: ".toList =
      some ("  ".toList, ⟨['d'], [' '], [':']⟩, " e: ".toList) := by decide
  have scanned : pieces "see :x a:b:c  d: : e: ".toList = [.free "see :x ".toList,
      .pair ⟨"a:b".toList, [], ['c']⟩, .space "  ".toList, .pair ⟨['d'], [' '], [':']⟩,
      .dangling [' '] ['e'] [' ']] := by
    rw [pieces_of_find? first, pieces_of_find? second, pieces_of_none (by decide) (by decide)]
    decide
  have kept : EveryPair "see :x a:b:c  d: : e: ".toList fun pair =>
      Term.content pair.category ≠ Dialect.remainder {} := by
    rw [everyPair_of_find? first, everyPair_of_find? second]
    exact ⟨by decide, by decide, everyPair_of_none (by decide) _⟩
  have whole := solidPart_render_parse {} "see :x a:b:c  d: : e: " (by simp [isMark]) kept
  rw [danglingEnd, scanned] at whole
  exact whole

end FacetedSearch.Query
