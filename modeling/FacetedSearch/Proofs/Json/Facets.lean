import FacetedSearch.Json.Codec
import FacetedSearch.Proofs.Json.Records

/-! Facets that were written as JSON are read back.

Both layouts of a list of facets spell the list, with its labels and with values that are not
trimmed. Line breaks behind the text do not matter.
-/

set_option autoImplicit false

namespace FacetedSearch.Facet

open Json

def members (facet : Facet) : List (String × String) :=
  [("category", facet.category), ("value", facet.value)] ++
    facet.label.toList.map fun label => ("label", label)

theorem toJson_eq (facet : Facet) :
    facet.toJson = .object (facet.members.map fun (name, text) => (name, .string text)) := by
  cases facet with
  | mk category value label => cases label <;> rfl

theorem readsObjects : ReadsObjects Facet.read Draft.readMember {} Draft.finish := by
  refine ⟨fun before cs blank => ?_⟩
  rw [Facet.read, skipSpace_append_token blank rfl]
  rfl

/-! ## Members -/

section
variable {gap : List Char} (spaces : Spaces gap) (draft : Draft) (text : String) (rest : List Char)
include spaces

theorem readMember_category (fresh : draft.category = none) :
    Draft.readMember "category" draft (':' :: (gap ++ (quoted text ++ rest))) =
      .ok ({ draft with category := some text }, rest) := by
  have once := readOnce_spells "category" (spells_quoted text) spaces rest
  simp only [Draft.readMember, fresh, once, Except.map]

theorem readMember_value (fresh : draft.value = none) :
    Draft.readMember "value" draft (':' :: (gap ++ (quoted text ++ rest))) =
      .ok ({ draft with value := some text }, rest) := by
  have once := readOnce_spells "value" (spells_quoted text) spaces rest
  simp only [Draft.readMember, fresh, once, Except.map]

theorem readMember_label (fresh : draft.label = none) :
    Draft.readMember "label" draft (':' :: (gap ++ (quoted text ++ rest))) =
      .ok ({ draft with label := some (some text) }, rest) := by
  have once := readOnce_spells "label" (spells_quoted? text) spaces rest
  simp only [Draft.readMember, fresh, once, Except.map]

end

theorem drafted_members (facet : Facet) {gap : List Char} (spaces : Spaces gap) :
    Drafted Draft.readMember gap {} (facet.members.map fun (name, text) => (name, quoted text))
      ⟨some facet.category, some facet.value, facet.label.map some⟩ := by
  cases facet with
  | mk category value label =>
    apply Drafted.cons fun rest => readMember_category spaces _ category rest rfl
    apply Drafted.cons fun rest => readMember_value spaces _ value rest rfl
    cases label with
    | none => exact .nil
    | some label => exact .cons (fun rest => readMember_label spaces _ label rest rfl) .nil

theorem finish_members (facet : Facet) :
    Draft.finish ⟨some facet.category, some facet.value, facet.label.map some⟩ = .ok facet := by
  cases facet with
  | mk category value label => cases label <;> rfl

/-! ## Facets -/

theorem spells_compact (facet : Facet) : Spells Facet.read facet.toJson.compactChars facet := by
  have drafted := facet.drafted_members spaces_nil
  rw [toJson_eq]
  apply readsObjects.spells_compact _ facet.finish_members
  rw [List.map_map]
  exact drafted

theorem spells_pretty (level : Nat) (facet : Facet) :
    Spells Facet.read (facet.toJson.prettyChars level) facet := by
  have drafted := facet.drafted_members spaces_space
  rw [toJson_eq]
  apply readsObjects.spells_pretty level (by simp [members]) _ facet.finish_members
  rw [List.map_map]
  exact drafted

/-! ## Lists -/

theorem spells_list_compact (facets : List Facet) :
    Spells (Json.readArray Facet.read) (listToJson facets).compactChars facets :=
  spells_compact_array fun facet _ => facet.spells_compact

theorem spells_list_pretty (level : Nat) (facets : List Facet) :
    Spells (Json.readArray Facet.read) ((listToJson facets).prettyChars level) facets :=
  spells_pretty_array level fun facet _ => facet.spells_pretty (level + 1)

/-- Facets are read back from their JSON, in both layouts. -/
theorem ofJson_listToJson (facets : List Facet) (pretty : Bool) {trail : List Char}
    (spaces : Spaces trail) :
    ofJson ((if pretty then (listToJson facets).pretty else (listToJson facets).compact) ++
      String.ofList trail) = .ok facets := by
  cases pretty with
  | true =>
    rw [if_pos rfl, Value.pretty, ← String.ofList_append]
    exact readWhole_append_of_spells (spells_list_pretty 0 facets) spaces
  | false =>
    rw [if_neg Bool.false_ne_true, Value.compact, ← String.ofList_append]
    exact readWhole_append_of_spells (spells_list_compact facets) spaces

end FacetedSearch.Facet
