import FacetedSearch.Proofs.Json.Facets

/-! Facets and dialects go through JSON unchanged.

What was written is read back exactly, in either layout: values with blanks around them, empty labels
as labels, and the categories of a dialect in their order.
-/

set_option autoImplicit false

namespace FacetedSearch

open Json

namespace Dialect

theorem readsObjects : ReadsObjects Dialect.read Draft.readMember {} Draft.finish := by
  refine ⟨fun before cs blank => ?_⟩
  rw [Dialect.read, skipSpace_append_token blank rfl]
  rfl

section
variable {gap : List Char} (spaces : Spaces gap) (draft : Draft)
include spaces

theorem readMember_remainder (fresh : draft.remainder = none) (text : String) (rest : List Char) :
    Draft.readMember "remainder" draft (':' :: (gap ++ (quoted text ++ rest))) =
      .ok ({ draft with remainder := some text }, rest) := by
  have once := readOnce_spells "remainder" (spells_quoted text) spaces rest
  simp only [Draft.readMember, fresh, once, Except.map]

theorem readMember_unquotable (fresh : draft.unquotable = none) {text : List Char}
    {categories : List String} (spells : Spells (Json.readArray readString) text categories)
    (rest : List Char) :
    Draft.readMember "unquotable" draft (':' :: (gap ++ (text ++ rest))) =
      .ok ({ draft with unquotable := some categories }, rest) := by
  have once := readOnce_spells "unquotable" spells spaces rest
  simp only [Draft.readMember, fresh, once, Except.map]

theorem drafted_members (dialect : Dialect) {text : List Char}
    (spells : Spells (Json.readArray readString) text dialect.unquotable) :
    Drafted Draft.readMember gap {}
      [("remainder", quoted dialect.remainder), ("unquotable", text)]
      ⟨some dialect.remainder, some dialect.unquotable⟩ := by
  apply Drafted.cons fun rest => readMember_remainder spaces _ rfl dialect.remainder rest
  apply Drafted.cons fun rest => readMember_unquotable spaces _ rfl spells rest
  exact .nil

end

theorem spells_compact (dialect : Dialect) :
    Spells Dialect.read dialect.toJson.compactChars dialect := by
  have categories : Spells (Json.readArray readString)
      (Value.array (dialect.unquotable.map .string)).compactChars dialect.unquotable :=
    spells_compact_array fun text _ => spells_quoted text
  exact readsObjects.spells_compact (drafted_members spaces_nil dialect categories) rfl

theorem spells_pretty (dialect : Dialect) :
    Spells Dialect.read (dialect.toJson.prettyChars 0) dialect := by
  have categories : Spells (Json.readArray readString)
      ((Value.array (dialect.unquotable.map .string)).prettyChars 1) dialect.unquotable :=
    spells_pretty_array 1 fun text _ => spells_quoted text
  exact readsObjects.spells_pretty 0 (List.cons_ne_nil _ _)
    (drafted_members spaces_space dialect categories) rfl

end Dialect

def Facet.build (category value : String) (label : Option String) : Facet :=
  label.elim (Facet.make category value) (Facet.make category value).withLabel

theorem Facet.normalized_eq_build (facet : Facet) :
    facet.normalized = Facet.build facet.category facet.value facet.label := by
  cases facet with
  | mk category value label => cases label <;> rfl

/-- Lists of facets and dialects are read back from both layouts of their JSON, whatever characters
their texts have: no value is trimmed, and a label is read if and only if there is one. Trimmed after
the reading, facets are as if they were made of their texts. -/
theorem round_trip_json :
    (∀ facets : List Facet,
      Facet.ofJson (Facet.listToJson facets).compact = .ok facets ∧
      Facet.ofJson (Facet.listToJson facets).pretty = .ok facets) ∧
    (∀ dialect : Dialect,
      Dialect.ofJson dialect.toJson.compact = .ok dialect ∧
      Dialect.ofJson dialect.toJson.pretty = .ok dialect) ∧
    ∀ facets : List Facet,
      let built := facets.map fun facet => Facet.build facet.category facet.value facet.label
      (Facet.ofJson (Facet.listToJson facets).compact).map (List.map Facet.normalized) = .ok built ∧
      (Facet.ofJson (Facet.listToJson facets).pretty).map (List.map Facet.normalized) =
        .ok built := by
  have facets (facets : List Facet) :
      Facet.ofJson (Facet.listToJson facets).compact = .ok facets ∧
        Facet.ofJson (Facet.listToJson facets).pretty = .ok facets :=
    ⟨readWhole_of_spells (Facet.spells_list_compact facets),
      readWhole_of_spells (Facet.spells_list_pretty 0 facets)⟩
  refine ⟨facets, fun dialect => ?_, ?_⟩
  · exact ⟨readWhole_of_spells dialect.spells_compact, readWhole_of_spells dialect.spells_pretty⟩
  · intro list built
    have same : list.map Facet.normalized = built :=
      List.map_congr_left fun facet _ => facet.normalized_eq_build
    obtain ⟨compact, pretty⟩ := facets list
    rw [compact, pretty, ← same]
    exact ⟨rfl, rfl⟩

end FacetedSearch
