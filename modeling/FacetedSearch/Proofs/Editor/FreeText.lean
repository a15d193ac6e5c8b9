import FacetedSearch.Proofs.Editor.Values
import FacetedSearch.Proofs.FacetList.Identity

/-! Free text that is added to an editor.

Text is added under the name of the remainder category, trimmed as every category that is added. So it
becomes the facet that reading makes of free text if and only if the dialect has a remainder category
with a name, and without blanks at the ends of the name. Under a name with such blanks it becomes a
facet of another category, and under a blank name nothing is added; reading takes any name as it is.
-/

set_option autoImplicit false

namespace FacetedSearch.Editor

/-! ## Runs -/

theorem run_identified {editor : Editor} (identified : editor.facets.Identified)
    (requests : List Request) : (editor.run requests).facets.Identified := by
  obtain ⟨asked, same⟩ := editor.run_asks requests
  rw [same]
  exact FacetList.run_identified identified editor.dialect asked

/-! ## Adding text -/

/-- The identity returned is that of a remainder facet with the trimmed text as its value. It is the
facet that reading makes of this free text, and it is written as the trimmed text and nothing else. -/
def Outcome.HoldsText (outcome : Outcome (Option FacetId)) (text : String) : Prop :=
  ∃ id facet, outcome.result = some id ∧ outcome.editor.facets.get? id = some facet ∧
    outcome.editor.dialect.isRemainder facet.category = true ∧ facet.value = Text.trim text ∧
    (∀ span, facet = Query.Field.toFacet ⟨none, Text.trim text, span⟩ outcome.editor.dialect) ∧
    Query.renderFacet outcome.editor.dialect facet = Text.trim text

section
variable {editor : Editor} {text : String}

theorem addText_of_blank_name (nameless : Text.trim editor.dialect.remainder = "")
    (position : Option Nat) : editor.addText text position = ⟨editor, none, [], []⟩ := by
  have added : editor.addFacet editor.dialect.remainder text position = ⟨editor, none, [], []⟩ := by
    rw [addFacet_eq, nameless]
    rfl
  rw [addText, added, ite_self]

theorem get?_addText (identified : editor.facets.Identified) (visible : Text.trim text ≠ "")
    (named : Text.trim editor.dialect.remainder ≠ "") (position : Option Nat) :
    let outcome := editor.addText text position
    outcome.result = some editor.facets.nextId ∧ outcome.editor.dialect = editor.dialect ∧
      outcome.editor.facets.get? editor.facets.nextId =
        some ⟨Text.trim editor.dialect.remainder, Text.trim text, none⟩ := by
  have added : editor.addText text position = (editor.ofList (editor.facets.insert
      (position.getD editor.facets.entries.length)
      (Facet.make (Text.trim editor.dialect.remainder) text))).map some := by
    rw [addText, addFacet_eq, if_neg (by simpa using visible), if_neg (by simpa using named)]
  rw [added]
  exact ⟨rfl, rfl, identified.get?_insert _ _⟩

theorem renderFacet_freeText (dialect : Dialect) (visible : Text.trim text ≠ "") :
    Query.renderFacet dialect ⟨dialect.remainder, Text.trim text, none⟩ = Text.trim text := by
  have valued : Query.Valued ⟨dialect.remainder, Text.trim text, none⟩ :=
    ⟨visible, trimmed_make dialect.remainder text⟩
  apply String.toList_inj.mp
  exact Query.facetChars_remainder valued (Query.isRemainder_iff.mpr rfl)

theorem holdsText_addText_iff (identified : editor.facets.Identified)
    (visible : Text.trim text ≠ "") (position : Option Nat) :
    (editor.addText text position).HoldsText text ↔
      editor.dialect.remainder ≠ "" ∧
        Text.trim editor.dialect.remainder = editor.dialect.remainder := by
  by_cases nameless : Text.trim editor.dialect.remainder = ""
  · rw [addText_of_blank_name nameless]
    constructor
    · rintro ⟨id, facet, result, -⟩
      simp at result
    · rintro ⟨named, trimmed⟩
      exact absurd (trimmed.symm.trans nameless) named
  obtain ⟨result, same, found⟩ := get?_addText identified visible nameless position
  constructor
  · rintro ⟨id, facet, inserted, facetFound, remainder, -⟩
    obtain rfl : id = editor.facets.nextId := Option.some.inj (inserted.symm.trans result)
    obtain rfl := Option.some.inj (facetFound.symm.trans found)
    -- The facet has the trimmed name, and the dialect compares names as they are.
    have trimmed : Text.trim editor.dialect.remainder = editor.dialect.remainder := by
      rw [same] at remainder
      exact Query.isRemainder_iff.mp remainder
    exact ⟨trimmed ▸ nameless, trimmed⟩
  · rintro ⟨-, trimmed⟩
    rw [trimmed] at found
    refine ⟨_, _, result, found, ?_, rfl, fun span => ?_, ?_⟩ <;> rw [same]
    · exact Query.isRemainder_iff.mpr rfl
    · simp [Query.Field.toFacet, Query.Field.categoryIn, Facet.make, Text.trim]
    · exact renderFacet_freeText editor.dialect visible

end

/-- Text that is not blank is added as free text, in every state and at every position, if and only
if the remainder category has a name and the name has no blanks at its ends. Under a blank name
nothing is added; under any other the facet has the trimmed name as its category. -/
theorem addText_holds_iff (dialect : Dialect) (requests : List Request) (text : String)
    (position : Option Nat) (visible : ∃ c ∈ text.toList, Text.isBlank c = false) :
    let editor := Editor.run { dialect } requests
    let outcome := editor.addText text position
    (outcome.HoldsText text ↔
      dialect.remainder ≠ "" ∧ Text.trim dialect.remainder = dialect.remainder) ∧
    (Text.trim dialect.remainder = "" → outcome = ⟨editor, none, [], []⟩) ∧
    (Text.trim dialect.remainder ≠ "" → ∃ id, outcome.result = some id ∧
      outcome.editor.facets.get? id =
        some ⟨Text.trim dialect.remainder, Text.trim text, none⟩) := by
  intro editor outcome
  have same : editor.dialect = dialect := run_dialect { dialect } requests
  have identified : editor.facets.Identified :=
    run_identified FacetList.identified_empty requests
  have nonempty : Text.trim text ≠ "" := by
    intro blank
    obtain ⟨c, member, solid⟩ := visible
    have all := (Text.trimChars_eq_nil_iff text.toList).mp (by simpa [Text.trim] using blank)
    simp [all c member] at solid
  refine ⟨?_, fun nameless => addText_of_blank_name (same ▸ nameless) position, fun named => ?_⟩
  · rw [← same]
    exact holdsText_addText_iff identified nonempty position
  · obtain ⟨result, -, found⟩ := get?_addText identified nonempty (same ▸ named) position
    exact ⟨_, result, by rw [found, same]⟩

theorem addText_holds_keyword :
    let editor := Editor.run { dialect := { remainder := "keyword" } }
      [.addFacet "tag" "a" none, .addFacet "tag" "b" none]
    let outcome := editor.addText " rust\tlang " (some 1)
    outcome.HoldsText " rust\tlang " ∧ outcome.result = some 2 ∧
      outcome.editor.value = "tag: a rust\tlang tag: b" := by
  intro editor outcome
  have held := (addText_holds_iff { remainder := "keyword" }
    [.addFacet "tag" "a" none, .addFacet "tag" "b" none] " rust\tlang " (some 1)
    ⟨'r', by decide, by decide⟩).1.mpr ⟨by decide, by decide⟩
  exact ⟨held, by decide, by decide⟩

/-- Under a name with blanks at its ends, text becomes a facet of another category, which is written
as a pair. Under an empty name it is lost. Reading makes free text of it in both dialects. -/
theorem addText_padded_or_empty_name :
    let padded : Editor := { dialect := { remainder := " text " } }
    let nameless : Editor := { dialect := { remainder := "" } }
    (¬ (padded.addText "a b" none).HoldsText "a b" ∧
      (padded.addText "a b" none).editor.value = "text: \"a b\"" ∧
      (padded.setQuery "a b").editor.facets.toList = [⟨" text ", "a b", none⟩]) ∧
    ¬ (nameless.addText "a b" none).HoldsText "a b" ∧
      (nameless.addText "a b" none).result = none ∧
      (nameless.setQuery "a b").editor.facets.toList = [⟨"", "a b", none⟩] := by
  intro padded nameless
  have visible : Text.trim "a b" ≠ "" := by decide
  refine ⟨⟨?_, by decide, by decide +kernel⟩, ?_, by decide, by decide +kernel⟩
  · rw [holdsText_addText_iff FacetList.identified_empty visible]
    decide
  · rw [holdsText_addText_iff FacetList.identified_empty visible]
    decide

end FacetedSearch.Editor
