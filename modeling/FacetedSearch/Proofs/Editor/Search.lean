import FacetedSearch.Proofs.Editor.Values
import FacetedSearch.Proofs.Query.NormalForm

/-! Searching again.

A search writes the facets and reads them back, so that a second one reads what the first one
found. It finds the same if and only if that is in normal form. Free text and the values of
unquotable categories are written as they are, and nothing can protect a text with both kinds of
marks; so a search may well find what is not in normal form.
-/

set_option autoImplicit false

namespace FacetedSearch.Editor

open Query (NormalForm Mixable Apart pairsOf joined)

theorem search_toList (editor : Editor) :
    editor.search.editor.facets.toList = Query.parse editor.dialect editor.value :=
  FacetList.map_facet_number _ _

theorem search_pairs (editor : Editor) : editor.search.editor.facets.pairs =
    pairsOf editor.dialect editor.value.toList := by
  rw [FacetList.pairs, search_toList, Query.map_pair_parse]

theorem search_search_pairs (editor : Editor) : editor.search.editor.search.editor.facets.pairs =
    pairsOf editor.dialect (joined editor.dialect editor.search.editor.facets.toList) := by
  have valued : ∀ facet ∈ editor.search.editor.facets.toList, Query.Valued facet :=
    fun facet member => (readFrom_of_mem_setQuery member).valued
  rw [← Query.pairsOf_render editor.dialect valued]
  exact search_pairs editor.search.editor

/-- A second search, with nothing done in between, hands over the same categories and values as the
first one if and only if these are in normal form. They are when quoting can keep every pair and
all free text is without marks and inner colons, and no two free texts stand side by side. -/
theorem search_again_iff (editor : Editor) :
    let first := editor.handle .search
    let second := first.editor.handle .search
    ∃ query again found refound, first.result = .searched query found ∧
      second.result = .searched again refound ∧
      (refound.pairs = found.pairs ↔ NormalForm editor.dialect found.toList) ∧
      ((∀ facet ∈ found.toList, Mixable editor.dialect facet) → Apart editor.dialect found.toList →
        refound.pairs = found.pairs) := by
  intro first second
  have again : first.editor.search.editor.facets.pairs =
      pairsOf editor.dialect (joined editor.dialect editor.search.editor.facets.toList) :=
    editor.search_search_pairs
  refine ⟨_, _, _, _, rfl, rfl, ?_, fun mixable apart => ?_⟩
  · rw [again]
    -- What the first search found was read, so its texts are trimmed.
    refine Query.pairsOf_joined_eq_iff (fun facet member => ?_) (fun facet member pair => ?_)
    · exact (readFrom_of_mem_setQuery member).valued
    · obtain ⟨named, trimmed, -⟩ := (readFrom_of_mem_setQuery member).category.resolve_left
        (Query.isRemainder_eq_false_iff.mp pair)
      exact ⟨named, trimmed⟩
  · rw [again]
    exact (Query.readable_of_mixable mixable apart).pairsOf_joined

/-- Text that reads as a pair of the remainder is found as its value, which reads as another pair. -/
theorem search_again_differs :
    let first := (Editor.run {} [.addText "text: a:b" none]).search.editor
    let second := first.search.editor
    first.facets.pairs = [("text", "a:b")] ∧ second.facets.pairs = [("a", "b")] ∧
      second.facets.pairs ≠ first.facets.pairs := by
  decide +kernel

end FacetedSearch.Editor
