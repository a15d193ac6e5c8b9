import FacetedSearch.Proofs.Query.Scan
import FacetedSearch.Query.Parse

/-! What a query says: the categories and values of its pieces.

`pairsOf` is the reading of a query as categories and values, without places. Reading a query into
facets is this and nothing more, and blanks in front of a text do not change it.
-/

set_option autoImplicit false

namespace FacetedSearch.Query

open Text (isBlank trimChars)

/-! ## What pieces say -/

def Piece.pair? (dialect : Dialect) (piece : Piece) : Option (String × String) :=
  ((piece.field? 0).filter fun field => !field.value.isEmpty).map fun field =>
    (field.categoryIn dialect, field.value)

def pairsOf (dialect : Dialect) (cs : List Char) : List (String × String) :=
  (pieces cs).filterMap (Piece.pair? dialect)

def facetOf (said : String × String) : Facet := ⟨said.1, said.2, none⟩

/-- The category that a pair belongs to, given what its category term spells. -/
def categoryFor (dialect : Dialect) (category : String) : String :=
  if category.isEmpty then dialect.remainder else category

theorem categoryFor_cases (dialect : Dialect) (category : String) :
    categoryFor dialect category = dialect.remainder ∨
      category ≠ "" ∧ categoryFor dialect category = category := by
  unfold categoryFor
  split
  next => exact .inl rfl
  next named => exact .inr ⟨by simpa using named, rfl⟩

theorem isRemainder_iff {dialect : Dialect} {category : String} :
    dialect.isRemainder category = true ↔ category = dialect.remainder := by
  rw [Dialect.isRemainder, beq_iff_eq, eq_comm]

theorem isRemainder_eq_false_iff {dialect : Dialect} {category : String} :
    dialect.isRemainder category = false ↔ category ≠ dialect.remainder := by
  rw [Ne, ← isRemainder_iff, Bool.not_eq_true]

theorem Piece.pair?_free (dialect : Dialect) (text : List Char) :
    (Piece.free text).pair? dialect =
      if trimChars text = [] then none
      else some (dialect.remainder, String.ofList (trimChars text)) := by
  by_cases empty : trimChars text = [] <;>
    simp [Piece.pair?, Piece.field?, Field.categoryIn, empty]

theorem Piece.pair?_pair (dialect : Dialect) (written : Pair) :
    (Piece.pair written).pair? dialect =
      if Term.content written.value = "" then none
      else some (categoryFor dialect (Term.content written.category),
        Term.content written.value) := by
  by_cases empty : Term.content written.value = "" <;>
    simp [Piece.pair?, Piece.field?, Field.categoryIn, categoryFor, empty]

@[simp] theorem Piece.pair?_space (dialect : Dialect) (text : List Char) :
    (Piece.space text).pair? dialect = none := rfl

@[simp] theorem Piece.pair?_dangling (dialect : Dialect) (lead category trail : List Char) :
    (Piece.dangling lead category trail).pair? dialect = none := by
  simp [Piece.pair?, Piece.field?]

/-- Only free text that is not blank, and pairs with a value, say anything. -/
theorem Piece.pair?_cases {dialect : Dialect} {piece : Piece} {said : String × String}
    (reads : piece.pair? dialect = some said) :
    (∃ text, piece = .free text ∧ said = (dialect.remainder, String.ofList (trimChars text))) ∨
    ∃ written, piece = .pair written ∧
      said = (categoryFor dialect (Term.content written.category), Term.content written.value) := by
  cases piece with
  | space text => simp at reads
  | free text =>
    rw [Piece.pair?_free] at reads
    split at reads
    · simp at reads
    · exact .inl ⟨text, rfl, (Option.some.inj reads).symm⟩
  | pair written =>
    rw [Piece.pair?_pair] at reads
    split at reads
    · simp at reads
    · exact .inr ⟨written, rfl, (Option.some.inj reads).symm⟩
  | dangling lead category trail => simp at reads

theorem Piece.filterMap_pair?_ofLead (dialect : Dialect) (cs : List Char) :
    (Piece.ofLead cs).filterMap (Piece.pair? dialect) =
      ((Piece.free cs).pair? dialect).toList := by
  unfold Piece.ofLead
  split
  next empty =>
    have nothing : cs = [] := by simpa using empty
    simp [Piece.pair?_free, nothing, trimChars, Text.trimEnd]
  next =>
    split
    next blank =>
      have nothing := (Text.trimChars_eq_nil_iff cs).mpr ((Text.isBlankText_iff cs).mp blank)
      simp [Piece.pair?_free, nothing]
    next =>
      rw [List.filterMap_cons]
      cases (Piece.free cs).pair? dialect <;> rfl

theorem pairsOf_of_find? (dialect : Dialect) {cs before after : List Char} {pair : Pair}
    (found : Pair.find? cs = some (before, pair, after)) :
    pairsOf dialect cs = ((Piece.free before).pair? dialect).toList ++
      (((Piece.pair pair).pair? dialect).toList ++ pairsOf dialect after) := by
  rw [pairsOf, pieces_of_find? found, List.filterMap_append, Piece.filterMap_pair?_ofLead,
    List.filterMap_cons, ← pairsOf]
  cases (Piece.pair pair).pair? dialect <;> rfl

theorem pairsOf_of_none (dialect : Dialect) {cs : List Char} (none : Pair.find? cs = none) :
    pairsOf dialect cs = ((Piece.ofEnd cs).pair? dialect).toList := by
  cases cs with
  | nil => simp [pairsOf, Piece.ofEnd, readDangling?, Piece.pair?_free, trimChars, Text.trimEnd]
  | cons c cs =>
    rw [pairsOf, pieces_of_none none (List.cons_ne_nil c cs), List.filterMap_cons]
    cases (Piece.ofEnd (c :: cs)).pair? dialect <;> rfl

theorem Piece.pair?_ofEnd (dialect : Dialect) (cs : List Char) :
    (Piece.ofEnd cs).pair? dialect =
      if (readDangling? (cs.dropWhile isBlank)).isSome then none
      else (Piece.free cs).pair? dialect := by
  unfold Piece.ofEnd
  split
  next read => simp [read]
  next none => simp [none]

theorem pairsOf_of_read? (dialect : Dialect) {cs after : List Char} {pair : Pair}
    (read : Pair.read? cs = some (pair, after)) :
    pairsOf dialect cs = ((Piece.pair pair).pair? dialect).toList ++ pairsOf dialect after := by
  rw [pairsOf_of_find? dialect (Pair.find?_of_read? read)]
  simp [Piece.pair?_free, trimChars, Text.trimEnd]

theorem Pair.read?_blank {c : Char} (blank : isBlank c = true) (cs : List Char) :
    Pair.read? (c :: cs) = none := by
  have notMark : isMark c = false := by
    by_contra mark
    simp [isBlank_of_isMark (by simpa using mark)] at blank
  simp [Pair.read?, notMark, blank]

/-- Blanks in front of a text do not change what is read in it. -/
theorem pairsOf_blank_append (dialect : Dialect) {lead : List Char}
    (blank : ∀ c ∈ lead, isBlank c = true) (cs : List Char) :
    pairsOf dialect (lead ++ cs) = pairsOf dialect cs := by
  induction lead with
  | nil => rfl
  | cons c lead ih =>
    have here : isBlank c = true := blank c (by simp)
    have later := ih fun d member => blank d (by simp [member])
    have trimmed (text : List Char) : trimChars (c :: text) = trimChars text :=
      Text.trimChars_blank_append (show ∀ d ∈ [c], isBlank d = true by simpa using here) text
    rw [← later, List.cons_append]
    -- One blank more belongs to what stands in front of the first pair, or to the end.
    cases found : Pair.find? (lead ++ cs) with
    | none =>
      have none : Pair.find? (c :: (lead ++ cs)) = none := by
        simp [Pair.find?, Pair.read?_blank here, found]
      rw [pairsOf_of_none dialect none, pairsOf_of_none dialect found, Piece.pair?_ofEnd,
        Piece.pair?_ofEnd, Piece.pair?_free, Piece.pair?_free, trimmed]
      simp [here]
    | some result =>
      obtain ⟨before, written, after⟩ := result
      have next : Pair.find? (c :: (lead ++ cs)) = some (c :: before, written, after) := by
        simp [Pair.find?, Pair.read?_blank here, found]
      rw [pairsOf_of_find? dialect next, pairsOf_of_find? dialect found, Piece.pair?_free,
        Piece.pair?_free, trimmed]

theorem pairsOf_space (dialect : Dialect) (cs : List Char) :
    pairsOf dialect (' ' :: cs) = pairsOf dialect cs :=
  pairsOf_blank_append dialect Text.space_blank cs

theorem category_of_mem_pairsOf {dialect : Dialect} {cs : List Char} {said : String × String}
    (member : said ∈ pairsOf dialect cs) : said.1 = dialect.remainder ∨
      said.1 ≠ "" ∧ ∃ term, IsTerm term ∧ said.1 = Term.content term := by
  obtain ⟨piece, inPieces, reads⟩ := List.mem_filterMap.mp member
  rcases Piece.pair?_cases reads with ⟨text, -, rfl⟩ | ⟨written, rfl, rfl⟩
  · exact .inl rfl
  · have wellFormed := everyPair_wellFormed cs written inPieces
    rcases categoryFor_cases dialect (Term.content written.category) with blank | ⟨named, same⟩
    · exact .inl blank
    · dsimp only
      rw [same]
      exact .inr ⟨named, written.category, wellFormed.category, rfl⟩

/-- What a scan says first, if it is not free text, it reads at once or behind a pair without a
value. -/
theorem exists_read?_of_pairsOf {dialect : Dialect} {c : Char} {rest : List Char}
    {said : String × String} {others : List (String × String)} (solid : isBlank c = false)
    (same : pairsOf dialect (c :: rest) = said :: others) (named : said.1 ≠ dialect.remainder) :
    ∃ pair after, Pair.read? (c :: rest) = some (pair, after) ∧
      (Term.content pair.value ≠ "" →
        Term.content pair.category = said.1 ∧ Term.content pair.value = said.2) := by
  have notFree {text : List Char} (more : List (String × String)) :
      ((Piece.free (c :: text)).pair? dialect).toList ++ more ≠ said :: others := by
    intro head
    have kept : trimChars (c :: text) ≠ [] := by
      rw [Ne, Text.trimChars_eq_nil_iff]
      intro blank
      simp [blank c (by simp)] at solid
    rw [Piece.pair?_free, if_neg kept, Option.toList_some, List.singleton_append,
      List.cons.injEq] at head
    exact named (by rw [← head.1])
  -- Whatever stands in front of the first pair would be read first, as free text.
  cases found : Pair.find? (c :: rest) with
  | none =>
    rw [pairsOf_of_none dialect found, Piece.pair?_ofEnd] at same
    split at same
    · simp at same
    · exact absurd (by rw [List.append_nil, same]) (notFree [])
  | some result =>
    obtain ⟨before, pair, after⟩ := result
    cases before with
    | cons d before =>
      obtain ⟨-, split⟩ := Pair.find?_split found
      obtain ⟨rfl, -⟩ := List.cons.inj split
      exact absurd (pairsOf_of_find? dialect found ▸ same) (notFree _)
    | nil =>
      obtain ⟨_, rfl, read, -⟩ := Pair.find?_eq_some_iff.mp found
      refine ⟨pair, after, read, fun valued => ?_⟩
      rw [pairsOf_of_read? dialect read, Piece.pair?_pair, if_neg valued, Option.toList_some,
        List.singleton_append, List.cons.injEq] at same
      rw [← same.1] at named ⊢
      have nonempty : ¬ (Term.content pair.category).isEmpty := fun empty =>
        named (by simp only [categoryFor, empty, ↓reduceIte])
      simp only [categoryFor, nonempty, Bool.false_eq_true, ↓reduceIte, and_self]

theorem Piece.field?_start (start : Nat) (piece : Piece) : piece.field? start =
    (piece.field? 0).map fun field =>
      { field with span := ⟨start, start + Text.byteLength piece.text⟩ } := by
  cases piece <;> rfl

theorem Piece.field?_trimmed {piece : Piece} {field : Field} (found : piece.field? 0 = some field) :
    Text.trim field.value = field.value := by
  rw [Text.trim_eq_self_iff]
  cases piece with
  | space text => simp [Piece.field?] at found
  | free text =>
    simp only [Piece.field?, Option.some.injEq] at found
    simpa [← found] using Text.tight_trimChars text
  | pair written =>
    simp only [Piece.field?, Option.some.injEq] at found
    simpa [← found, Term.content] using Text.tight_trimChars (Term.unquote written.value)
  | dangling lead category trail =>
    simp only [Piece.field?, Option.some.injEq] at found
    simpa [← found] using Text.tight_of_solid (show ∀ c ∈ [], isBlank c = false by simp)

theorem Piece.toFacet_field? (dialect : Dialect) (start : Nat) (piece : Piece) :
    ((piece.field? start).filter fun field => !field.value.isEmpty).map (·.toFacet dialect) =
      (piece.pair? dialect).map facetOf := by
  rw [Piece.field?_start, Piece.pair?]
  cases found : piece.field? 0 with
  | none => rfl
  | some field =>
    have trimmed := Piece.field?_trimmed found
    by_cases empty : field.value = "" <;>
      simp [Option.filter_some, empty, Field.toFacet, Facet.make, Field.categoryIn, trimmed,
        facetOf]

theorem parse_eq (dialect : Dialect) (query : String) :
    parse dialect query = (pairsOf dialect query.toList).map facetOf := by
  -- Only spans depend on the place of a piece, and facets do not keep them.
  have places (start : Nat) (pieces : List Piece) :
      ((fieldsFrom start pieces).filter fun field => !field.value.isEmpty).map (·.toFacet dialect) =
        (pieces.filterMap (Piece.pair? dialect)).map facetOf := by
    induction pieces generalizing start with
    | nil => rfl
    | cons piece rest ih =>
      rw [fieldsFrom, List.filter_append, List.map_append, ih, ← Option.toList_filter,
        ← Option.toList_map, Piece.toFacet_field?, List.filterMap_cons]
      cases piece.pair? dialect <;> rfl
  rw [parse, keptFields, fields_eq]
  exact places 0 (pieces query.toList)

theorem map_pair_parse (dialect : Dialect) (query : String) :
    (parse dialect query).map Facet.pair = pairsOf dialect query.toList := by
  rw [parse_eq, List.map_map]
  exact List.map_id _

end FacetedSearch.Query
