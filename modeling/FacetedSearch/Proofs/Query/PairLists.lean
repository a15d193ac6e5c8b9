import FacetedSearch.Proofs.Query.NormalForm

/-! Which lists of pairs are read back.

A text with both kinds of marks is put between double marks, and its own double mark ends the term
too early. Nothing behind it can repair that, so such a list is not in normal form.
-/

set_option autoImplicit false

namespace FacetedSearch.Query

/-- In a list that is read back, no text has both kinds of marks: the first pair with such a text
would be read as another one. -/
theorem marks_of_pairsOf_joined {dialect : Dialect} {facets : List Facet}
    (valued : ∀ facet ∈ facets, Valued facet)
    (ordinary : ∀ facet ∈ facets, dialect.isRemainder facet.category = false ∧
      facet.category ∉ dialect.unquotable)
    (named : ∀ facet ∈ facets, facet.category ≠ "" ∧ Text.trim facet.category = facet.category)
    (same : pairsOf dialect (joined dialect facets) = facets.map Facet.pair) :
    ∀ facet ∈ facets, ¬ BothMarks facet.category ∧ ¬ BothMarks facet.value := by
  have normal := (pairsOf_joined_eq_iff valued fun facet member _ => named facet member).mp same
  clear valued named same
  induction normal with
  | nil => simp
  | pair _ mixable _ ih =>
    obtain ⟨⟨notRemainder, notUnquotable⟩, ordinary⟩ := List.forall_mem_cons.mp ordinary
    refine List.forall_mem_cons.mpr ⟨?_, ih ordinary⟩
    cases mixable with
    | ordinary _ _ category value => exact ⟨category.marks, value.marks⟩
    | unquotable _ unquotable => exact absurd unquotable notUnquotable
    | remainder remainder => simp [notRemainder] at remainder
  | text remainder =>
    obtain ⟨⟨notRemainder, -⟩, -⟩ := List.forall_mem_cons.mp ordinary
    simp [notRemainder] at remainder

/-- A list of ordinary pairs with values is read back as it was if and only if every category is
trimmed and not empty and no text has both kinds of marks. -/
theorem parse_render_pairs_iff (dialect : Dialect) (facets : List Facet)
    (valued : ∀ facet ∈ facets, facet.value ≠ "" ∧ Text.trim facet.value = facet.value)
    (ordinary : ∀ facet ∈ facets, dialect.isRemainder facet.category = false ∧
      facet.category ∉ dialect.unquotable) :
    (parse dialect (render dialect facets)).map Facet.pair = facets.map Facet.pair ↔
      ∀ facet ∈ facets, (facet.category ≠ "" ∧ Text.trim facet.category = facet.category) ∧
        ¬ BothMarks facet.category ∧ ¬ BothMarks facet.value := by
  have valued : ∀ facet ∈ facets, Valued facet :=
    fun facet member => ⟨(valued facet member).1, (valued facet member).2⟩
  constructor
  · intro same
    rw [map_pair_parse, pairsOf_render dialect valued] at same
    -- A category is read from a term, which says a trimmed text, or else it is the remainder.
    have named (facet : Facet) (member : facet ∈ facets) :
        facet.category ≠ "" ∧ Text.trim facet.category = facet.category := by
      have inPairs : facet.pair ∈ pairsOf dialect (joined dialect facets) := by
        rw [same]
        exact List.mem_map_of_mem member
      rcases category_of_mem_pairsOf inPairs with remainder | ⟨nonempty, term, -, reads⟩
      · exact absurd remainder (isRemainder_eq_false_iff.mp (ordinary facet member).1)
      · change facet.category = Term.content term at reads
        refine ⟨nonempty, (Text.trim_eq_self_iff facet.category).mpr ?_⟩
        rw [reads, Term.content, String.toList_ofList]
        exact Text.tight_trimChars _
    intro facet member
    exact ⟨named facet member, marks_of_pairsOf_joined valued ordinary named same facet member⟩
  · intro kept
    have mixable (facet : Facet) (member : facet ∈ facets) : Mixable dialect facet := by
      obtain ⟨⟨named, trimmed⟩, categoryMarks, valueMarks⟩ := kept facet member
      exact .ordinary (ordinary facet member).1 (ordinary facet member).2
        ⟨named, trimmed, categoryMarks⟩
        ⟨(valued facet member).nonempty, (valued facet member).trimmed, valueMarks⟩
    have apart : Apart dialect facets := by
      refine (List.pairwise_of_forall_mem_list fun first member second _ both => ?_).isChain
      simp [(ordinary first member).1] at both
    exact (readable_of_mixable mixable apart).parse_render

theorem parse_render_marked_pairs :
    (parse {} (render {} [⟨"a b", "it's", none⟩, ⟨"c:", "\"d: e\"", none⟩])).map Facet.pair =
      [("a b", "it's"), ("c:", "\"d: e\"")] ∧
    (parse {} (render {} [⟨"a", "'\"", none⟩])).map Facet.pair ≠ [("a", "'\"")] := by
  constructor
  · refine (parse_render_pairs_iff {} [⟨"a b", "it's", none⟩, ⟨"c:", "\"d: e\"", none⟩]
      (by decide) (by decide)).mpr ?_
    unfold BothMarks
    decide
  · intro same
    have kept := (parse_render_pairs_iff {} [⟨"a", "'\"", none⟩] (by decide) (by decide)).mp same
    exact (kept _ List.mem_cons_self).2.2 ⟨by decide, by decide⟩

end FacetedSearch.Query
