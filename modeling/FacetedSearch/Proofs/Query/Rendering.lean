import FacetedSearch.Proofs.Query.Quoting
import FacetedSearch.Proofs.Query.Reading
import FacetedSearch.Proofs.Text.Joining

/-! What facets are written as.

Only facets with a value are written. Each is put in front of the rest with one space, so the text
of a list is taken apart facet by facet.
-/

set_option autoImplicit false

namespace FacetedSearch.Query

open Text (isBlank Tight)

structure Valued (facet : Facet) : Prop where
  nonempty : facet.value ≠ ""
  trimmed : Text.trim facet.value = facet.value

section
variable {dialect : Dialect}

theorem valued_of_mem_pairsOf {cs : List Char} {said : String × String}
    (member : said ∈ pairsOf dialect cs) : Valued (facetOf said) := by
  obtain ⟨piece, -, reads⟩ := List.mem_filterMap.mp member
  obtain ⟨field, kept, rfl⟩ := Option.map_eq_some_iff.mp reads
  obtain ⟨found, nonempty⟩ := Option.filter_eq_some_iff.mp kept
  exact ⟨by simpa [facetOf] using nonempty, Piece.field?_trimmed found⟩

theorem valued_of_mem_map {cs : List Char} {facet : Facet}
    (member : facet ∈ (pairsOf dialect cs).map facetOf) : Valued facet := by
  obtain ⟨said, reads, rfl⟩ := List.mem_map.mp member
  exact valued_of_mem_pairsOf reads

theorem valued_of_mem_parse {query : String} {facet : Facet}
    (member : facet ∈ parse dialect query) : Valued facet := by
  rw [parse_eq] at member
  exact valued_of_mem_map member

end

/-! ## Facets -/

def facetChars (dialect : Dialect) (facet : Facet) : List Char := (renderFacet dialect facet).toList

/-- The text of several facets with a space in front of each. -/
def joined (dialect : Dialect) (facets : List Facet) : List Char :=
  facets.flatMap fun facet => ' ' :: facetChars dialect facet

@[simp] theorem joined_nil (dialect : Dialect) : joined dialect [] = [] := rfl

@[simp] theorem joined_cons (dialect : Dialect) (facet : Facet) (rest : List Facet) :
    joined dialect (facet :: rest) = ' ' :: (facetChars dialect facet ++ joined dialect rest) := rfl

theorem breaks_joined (dialect : Dialect) (facets : List Facet) :
    Text.Breaks (joined dialect facets) := by
  cases facets with
  | nil => exact Text.breaks_nil
  | cons facet rest => exact Text.breaks_space _

section
variable {dialect : Dialect} {facet : Facet}

theorem facetChars_remainder (valued : Valued facet)
    (remainder : dialect.isRemainder facet.category = true) :
    facetChars dialect facet = facet.value.toList := by
  have nonempty := valued.nonempty
  simp [facetChars, renderFacet, valued.trimmed, nonempty, remainder]

theorem facetChars_unquotable (valued : Valued facet)
    (pair : dialect.isRemainder facet.category = false)
    (unquotable : facet.category ∈ dialect.unquotable) :
    facetChars dialect facet =
      quoteChars facet.category.toList ++ ':' :: ' ' :: facet.value.toList := by
  have nonempty := valued.nonempty
  simp [facetChars, renderFacet, valued.trimmed, nonempty, pair, Dialect.isUnquotable, unquotable, quote]

theorem facetChars_ordinary (valued : Valued facet)
    (pair : dialect.isRemainder facet.category = false)
    (ordinary : facet.category ∉ dialect.unquotable) :
    facetChars dialect facet =
      quoteChars facet.category.toList ++ ':' :: ' ' :: quoteChars facet.value.toList := by
  have nonempty := valued.nonempty
  simp [facetChars, renderFacet, valued.trimmed, nonempty, pair, Dialect.isUnquotable, ordinary, quote]

theorem renderFacet_ne_empty (valued : Valued facet) : renderFacet dialect facet ≠ "" := by
  have nonempty := valued.nonempty
  intro empty
  have none : facetChars dialect facet = [] := by rw [facetChars, empty]; rfl
  cases remainder : dialect.isRemainder facet.category with
  | true => simp [facetChars_remainder valued remainder, nonempty] at none
  | false =>
    by_cases unquotable : facet.category ∈ dialect.unquotable
    · simp [facetChars_unquotable valued remainder unquotable] at none
    · simp [facetChars_ordinary valued remainder unquotable] at none

end

/-- No facet with a value is left out, and the texts of two are one space apart. -/
theorem joined_eq_render (dialect : Dialect) {facets : List Facet}
    (valued : ∀ facet ∈ facets, Valued facet) (nonempty : facets ≠ []) :
    joined dialect facets = ' ' :: (render dialect facets).toList := by
  have kept : (facets.map (renderFacet dialect)).filter (!·.isEmpty) =
      facets.map (renderFacet dialect) := by
    rw [List.filter_eq_self]
    intro text member
    obtain ⟨facet, inList, rfl⟩ := List.mem_map.mp member
    simpa using renderFacet_ne_empty (valued facet inList)
  obtain ⟨facet, rest, rfl⟩ := List.exists_cons_of_ne_nil nonempty
  rw [render, kept, List.map_cons, Text.toList_intercalate_cons, List.flatMap_map]
  rfl

theorem render_filter (dialect : Dialect) {keep : Facet → Bool} {facets : List Facet}
    (silent : ∀ facet ∈ facets, keep facet = false → renderFacet dialect facet = "") :
    render dialect (facets.filter keep) = render dialect facets := by
  have same : facets.filter (fun facet => !(renderFacet dialect facet).isEmpty && keep facet) =
      facets.filter fun facet => !(renderFacet dialect facet).isEmpty := by
    refine List.filter_congr fun facet member => ?_
    cases kept : keep facet with
    | true => exact Bool.and_true _
    | false => simp [silent facet member kept]
  simp only [render, List.filter_map, List.filter_filter, Function.comp_def, same]

/-- Reading rendered facets is reading their joined texts. -/
theorem pairsOf_render (dialect : Dialect) {facets : List Facet}
    (valued : ∀ facet ∈ facets, Valued facet) :
    pairsOf dialect (render dialect facets).toList = pairsOf dialect (joined dialect facets) := by
  by_cases empty : facets = []
  · subst empty
    rfl
  · rw [joined_eq_render dialect valued empty]
    exact (pairsOf_space dialect _).symm

end FacetedSearch.Query
