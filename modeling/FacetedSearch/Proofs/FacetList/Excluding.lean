import FacetedSearch.Proofs.FacetList.Categories
import FacetedSearch.Proofs.FacetList.Identity
import FacetedSearch.Proofs.Query.Rereading

/-! Leaving categories out of a query, and leaving their facets out of the list.

To write a list without some categories is to remove the facets of these categories by their
identities, in any order, and to write the list that is left. Where quoting keeps every facet, the
text is read back as what the whole query says, less these categories.
-/

set_option autoImplicit false

namespace FacetedSearch.FacetList

open Query (Quotable parse)

def named (categories : List String) (name : String) : Bool := categories.any (sameCategory name)

def idsIn (list : FacetList) (categories : List String) : List FacetId :=
  (list.entries.filter fun entry => named categories entry.facet.category).map Entry.id

def removals (ids : List FacetId) : List Request := ids.map fun id => .mutation (.remove id)

theorem run_removals (list : FacetList) (dialect : Dialect) (ids : List FacetId) :
    list.run dialect (removals ids) = (list.removeAll ids).list := by
  induction ids generalizing list with
  | nil => rfl
  | cons id rest ih =>
    have first : (list.handle dialect (.mutation (.remove id))).list = (list.remove id).list := rfl
    change list.run dialect (.mutation (.remove id) :: removals rest) = _
    rw [run_cons, first, ih]
    rfl

theorem renderExcluding_eq (list : FacetList) (dialect : Dialect) (categories : List String) :
    list.renderExcluding dialect categories =
      Query.render dialect (list.toList.filter fun facet => !named categories facet.category) := rfl

section
variable {list : FacetList}

theorem Identified.mem_idsIn_iff (identified : Identified list) (categories : List String)
    {entry : Entry} (member : entry ∈ list.entries) :
    entry.id ∈ list.idsIn categories ↔ named categories entry.facet.category = true := by
  rw [idsIn, identified.id_mem_iff List.filter_sublist.subset member, List.mem_filter]
  exact and_iff_right member

theorem Identified.removeAll_idsIn (identified : Identified list) {categories : List String}
    {ids : List FacetId} (same : ∀ id, id ∈ ids ↔ id ∈ list.idsIn categories) :
    (list.removeAll ids).list.toList =
      list.toList.filter fun facet => !named categories facet.category := by
  have left : (list.removeAll ids).list.entries =
      list.entries.filter fun entry => !named categories entry.facet.category := by
    rw [identified.removeAll_entries]
    apply List.filter_congr
    intro entry member
    have gone : entry.id ∈ ids ↔ named categories entry.facet.category = true :=
      (same entry.id).trans (identified.mem_idsIn_iff categories member)
    cases holds : named categories entry.facet.category with
    | true => simpa using gone.mpr holds
    | false => simp [gone, holds]
  rw [toList, toList, left, List.filter_map]
  rfl

end

/-! ## Reading back -/

/-- A pair that quoting keeps, whatever pairs stand beside it. -/
structure PlainPair (dialect : Dialect) (facet : Facet) : Prop where
  category : Quotable facet.category
  value : Quotable facet.value
  pair : dialect.isRemainder facet.category = false
  ordinary : facet.category ∉ dialect.unquotable

theorem parse_render_plain {dialect : Dialect} {facets : List Facet}
    (plain : ∀ facet ∈ facets, PlainPair dialect facet) :
    (parse dialect (Query.render dialect facets)).map Facet.pair = facets.map Facet.pair := by
  apply Query.Readable.parse_render
  apply Query.readable_of_mixable
  · intro facet member
    have kept := plain facet member
    exact .ordinary kept.pair kept.ordinary kept.category kept.value
  · exact Query.apart_of_pairs fun facet member => (plain facet member).pair

theorem parse_render_filter {dialect : Dialect} {facets : List Facet}
    (plain : ∀ facet ∈ facets, PlainPair dialect facet) (keep : String → Bool) :
    (parse dialect (Query.render dialect (facets.filter fun facet => keep facet.category))).map
        Facet.pair =
      ((parse dialect (Query.render dialect facets)).map Facet.pair).filter fun pair =>
        keep pair.1 := by
  have part : ∀ facet ∈ facets.filter fun facet => keep facet.category, PlainPair dialect facet :=
    fun facet member => plain facet (List.mem_of_mem_filter member)
  rw [parse_render_plain part, parse_render_plain plain, List.filter_map]
  rfl

/-- In every list that requests lead to, writing the list without some categories is removing the
facets of these categories by their identities, in any order, and writing the list that is left. The
names count as categories only: their case, their order and how often they are given do not matter.
If quoting keeps all facets as pairs, the text is read back as the pairs of the whole query, in their
order, without those of the categories. -/
theorem excluding_of_run (dialect : Dialect) (requests : List Request) :
    let list := FacetList.run {} dialect requests
    (∀ dialect categories ids, (∀ id, id ∈ ids ↔ id ∈ list.idsIn categories) →
      (list.run dialect (removals ids)).render dialect = list.renderExcluding dialect categories) ∧
    (∀ dialect first second,
      (∀ name ∈ first, ∃ other ∈ second, sameCategory name other = true) →
      (∀ name ∈ second, ∃ other ∈ first, sameCategory name other = true) →
      list.renderExcluding dialect first = list.renderExcluding dialect second) ∧
    ∀ dialect categories, (∀ facet ∈ list.toList, PlainPair dialect facet) →
      (parse dialect (list.renderExcluding dialect categories)).map Facet.pair =
        ((parse dialect (list.render dialect)).map Facet.pair).filter fun pair =>
          !named categories pair.1 := by
  intro list
  have identified : Identified list := run_identified identified_empty dialect requests
  refine ⟨fun dialect categories ids same => ?_, fun dialect first second covered covers => ?_,
    fun dialect categories plain => ?_⟩
  · rw [run_removals, FacetList.render, identified.removeAll_idsIn same, renderExcluding_eq]
  · exact list.renderExcluding_congr dialect covered covers
  · exact parse_render_filter plain fun name => !named categories name

theorem excluding_of_two_removals :
    let list := FacetList.run {} {} [.mutation (.reset
      [⟨"Status", "it's", none⟩, ⟨"due date", "a: b", some "soon"⟩, ⟨"STATUS", "open", none⟩])]
    (list.run {} (removals [2, 0])).render {} = list.renderExcluding {} ["status"] ∧
      list.renderExcluding {} ["status"] = list.renderExcluding {} ["Status", "STATUS"] ∧
      (parse {} (list.renderExcluding {} ["status"])).map Facet.pair =
        ((parse {} (list.render {})).map Facet.pair).filter fun pair => !named ["status"] pair.1 := by
  intro list
  obtain ⟨removed, congr, reread⟩ := excluding_of_run {} [.mutation (.reset
    [⟨"Status", "it's", none⟩, ⟨"due date", "a: b", some "soon"⟩, ⟨"STATUS", "open", none⟩])]
  refine ⟨removed {} ["status"] [2, 0] fun id => ?_, congr {} _ _ (by decide) (by decide),
    reread {} ["status"] ?_⟩
  · -- The identities are given from the last one on; only which they are matters.
    have ids : list.idsIn ["status"] = [0, 2] := by decide
    rw [ids]
    simp [or_comm]
  · have quotable : ∀ facet ∈ list.toList,
        (Quotable facet.category ∧ Quotable facet.value) ∧ facet.category ≠ "text" := by decide
    intro facet member
    obtain ⟨⟨category, value⟩, notText⟩ := quotable facet member
    exact ⟨category, value, Query.isRemainder_eq_false_iff.mpr notText, by simp⟩

end FacetedSearch.FacetList
