import FacetedSearch.Proofs.Query.Letters
import FacetedSearch.Proofs.Query.Unmarked

/-! The round trip of a query without marks: read, written and read again.

Free text is written as it is, so two texts side by side become one, and a value of the remainder
with a colon inside becomes a pair. Nothing else is lost. The converse counts letters: a pair of
the remainder says fewer of them than it has, so the second scan finds none where it reads the same
facets again.
-/

set_option autoImplicit false

namespace FacetedSearch.Query

/-! ## Texts without marks -/

theorem unmarked_facetChars {dialect : Dialect} {cs : List Char} {said : String × String}
    (unmarked : ∀ c ∈ cs, isMark c = false) (member : said ∈ pairsOf dialect cs) :
    ∀ c ∈ facetChars dialect (facetOf said), isMark c = false := by
  have valued := valued_of_mem_pairsOf member
  obtain ⟨valueUnmarked, terms⟩ := plain_of_mem_pairsOf unmarked member
  cases kind : dialect.isRemainder said.1 with
  | true =>
    rw [facetChars_remainder valued kind]
    exact valueUnmarked
  | false =>
    obtain ⟨category, value⟩ := terms.resolve_left (isRemainder_eq_false_iff.mp kind)
    rw [facetChars_plain category value kind]
    intro c inText
    simp only [List.mem_append, List.mem_cons] at inText
    rcases inText with inText | rfl | rfl | inText
    · exact category.unmarked c inText
    · decide
    · decide
    · exact valueUnmarked c inText

theorem unmarked_joined (dialect : Dialect) {cs : List Char}
    (unmarked : ∀ c ∈ cs, isMark c = false) :
    ∀ c ∈ joined dialect ((pairsOf dialect cs).map facetOf), isMark c = false := by
  intro c member
  obtain ⟨facet, inFacets, inText⟩ := List.mem_flatMap.mp member
  obtain ⟨said, inPairs, rfl⟩ := List.mem_map.mp inFacets
  rcases List.mem_cons.mp inText with rfl | inText
  · decide
  · exact unmarked_facetChars unmarked inPairs c inText

theorem Full.apart {dialect : Dialect} {cs : List Char} (full : Full dialect cs) :
    Apart dialect ((pairsOf dialect cs).map facetOf) := by
  induction cs using scan_induction with
  | rest cs noPair =>
    rw [pairsOf_of_none dialect noPair]
    cases (Piece.ofEnd cs).pair? dialect <;> simp [Apart]
  | pair cs before written after found ih =>
    obtain ⟨proper, later⟩ := full.of_find? found
    have kind : dialect.isRemainder (Term.content written.category) = false :=
      isRemainder_eq_false_iff.mpr proper.category
    rw [pairsOf_of_find? dialect found, proper.reads]
    -- The pair itself keeps the free text before it and behind it apart.
    have behind : Apart dialect (facetOf (Term.content written.category,
        Term.content written.value) :: (pairsOf dialect after).map facetOf) :=
      apart_cons_iff.mpr ⟨fun remainder => by simp [facetOf, kind] at remainder, ih later⟩
    cases (Piece.free before).pair? dialect with
    | none => exact behind
    | some lead => exact apart_cons_iff.mpr ⟨fun _ => by simpa [facetOf] using kind, behind⟩

/-! ## The round trip -/

theorem pairsOf_joined_iff {dialect : Dialect} {cs : List Char}
    (unmarked : ∀ c ∈ cs, isMark c = false) :
    pairsOf dialect (joined dialect ((pairsOf dialect cs).map facetOf)) = pairsOf dialect cs ↔
      Apart dialect ((pairsOf dialect cs).map facetOf) ∧ NoInnerColon dialect cs := by
  constructor
  · intro same
    -- The rendered text has as many letters as what is read in it again, so no pair of the
    -- remainder is found there.
    have again := unmarked_joined dialect unmarked
    have valued : ∀ facet ∈ (pairsOf dialect cs).map facetOf, Valued facet :=
      fun _ member => valued_of_mem_map member
    have full : Full dialect (joined dialect ((pairsOf dialect cs).map facetOf)) := by
      rw [Full, same, letters_joined valued, List.map_map, List.map_map]
      rfl
    have apart := full.apart
    have readable := readable_pairsOf again apart fun pair member remainder =>
      absurd remainder (full.everyPair pair member).category
    rw [same] at apart readable
    refine ⟨apart, fun pair member remainder => ?_⟩
    -- The value of a pair of the remainder was written as free text, and is read as such.
    obtain ⟨before, after, step⟩ := everyPair_plain unmarked pair member
    rw [step.category_eq] at remainder
    rw [step.value_eq]
    have reads : pair.plainly ∈ pairsOf dialect cs :=
      List.mem_filterMap.mpr ⟨.pair pair, member, step.pair? dialect⟩
    obtain ⟨noPair, dangling⟩ :=
      readable.settled (List.mem_map_of_mem reads) (isRemainder_iff.mpr remainder)
    exact step.value.no_colon noPair dangling
  · rintro ⟨apart, inner⟩
    rw [(readable_pairsOf unmarked apart inner).pairsOf_joined, List.map_map]
    exact List.map_id _

theorem noInnerColon_iff {dialect : Dialect} {query : String} :
    NoInnerColon dialect query.toList ↔ ∀ field ∈ fields query,
      field.category = some dialect.remainder → ':' ∉ field.value.toList.tail := by
  rw [fields_eq]
  constructor
  · intro inner field member remainder
    obtain ⟨piece, inPieces, place, found⟩ := exists_piece_of_mem member
    cases piece with
    | space text => simp [Piece.field?] at found
    | free text =>
      rw [← Option.some.inj found] at remainder
      contradiction
    | pair written =>
      rw [← Option.some.inj found] at remainder ⊢
      exact inner written inPieces (Option.some.inj remainder)
    | dangling lead category trail =>
      -- A dangling category comes without a value.
      rw [← Option.some.inj found]
      simp
  · intro inner pair member remainder
    obtain ⟨field, inFields, category, value⟩ := exists_field_of_mem 0 member
    rw [← value]
    exact inner field inFields (by rw [category, remainder])

/-- A query without marks is read back from its rendering if and only if no two facets of the
remainder stand side by side and no pair of the remainder has a colon behind the first character of
its value. -/
theorem parse_render_parse_iff (dialect : Dialect) (query : String)
    (single : '\'' ∉ query.toList) (double : '"' ∉ query.toList) :
    parse dialect (render dialect (parse dialect query)) = parse dialect query ↔
      Apart dialect (parse dialect query) ∧
      ∀ field ∈ fields query, field.category = some dialect.remainder →
        ':' ∉ field.value.toList.tail := by
  have unmarked : ∀ c ∈ query.toList, isMark c = false := by
    intro c member
    by_contra mark
    rcases (isMark_iff c).mp (by simpa using mark) with rfl | rfl
    · exact single member
    · exact double member
  have valued : ∀ facet ∈ (pairsOf dialect query.toList).map facetOf, Valued facet := by
    intro facet member
    obtain ⟨said, reads, rfl⟩ := List.mem_map.mp member
    exact valued_of_mem_pairsOf reads
  have injective : Function.Injective facetOf := by
    intro first second same
    exact congrArg Facet.pair same
  rw [← noInnerColon_iff, parse_eq dialect query, ← pairsOf_joined_iff unmarked, parse_eq,
    pairsOf_render dialect valued, injective.list_map.eq_iff]

theorem parse_render_remainder_pair :
    parse {} (render {} (parse {} "k:v text: :top")) = parse {} "k:v text: :top" := by
  have first : Pair.find? "k:v text: :top".toList =
      some ([], ⟨['k'], [], ['v']⟩, " text: :top".toList) := by decide
  have second : Pair.find? " text: :top".toList =
      some ([' '], ⟨"text".toList, [' '], ":top".toList⟩, []) := by decide
  have scanned : pieces "k:v text: :top".toList = [.pair ⟨['k'], [], ['v']⟩, .space [' '],
      .pair ⟨"text".toList, [' '], ":top".toList⟩] := by
    rw [pieces_of_find? first, pieces_of_find? second, pieces_nil]
    decide
  refine (parse_render_parse_iff {} "k:v text: :top" (by decide) (by decide)).mpr ⟨?_, ?_⟩
  · rw [parse_eq, pairsOf, scanned]
    unfold Apart
    decide
  · rw [fields_eq, scanned]
    decide

end FacetedSearch.Query
