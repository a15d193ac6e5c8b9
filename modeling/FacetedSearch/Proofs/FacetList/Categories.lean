import FacetedSearch.FacetList.Lookup

/-! Categories without regard to case.

Two names are one category if and only if the lowercase forms of their characters, put together, are
the same. The short way for ASCII names agrees with this: such a character has one lowercase form, of
its own. So names fall into classes, and no question to a list tells the names of one class apart.
-/

set_option autoImplicit false

namespace FacetedSearch

open Text (lowercase lowercaseChars)

/-! ## Names -/

theorem lowercaseChars_of_ascii {cs : List Char} (ascii : ∀ c ∈ cs, c.toNat < 0x80) :
    lowercaseChars cs = cs.map Char.toLower := by
  induction cs with
  | nil => rfl
  | cons c rest ih =>
    obtain ⟨first, others⟩ := List.forall_mem_cons.mp ascii
    have single : lowercase c = [c.toLower] := if_pos first
    have later : rest.flatMap lowercase = rest.map Char.toLower := ih others
    rw [lowercaseChars, List.flatMap_cons, single, later]
    rfl

theorem sameCategory_iff {first second : String} : sameCategory first second = true ↔
    lowercaseChars first.toList = lowercaseChars second.toList := by
  unfold sameCategory
  dsimp only
  split
  · next ascii =>
    simp only [Bool.and_eq_true, List.all_eq_true, decide_eq_true_eq] at ascii
    rw [lowercaseChars_of_ascii ascii.1, lowercaseChars_of_ascii ascii.2, beq_iff_eq]
  · exact beq_iff_eq

theorem sameCategory_equivalence :
    Equivalence fun first second => sameCategory first second = true where
  refl _ := sameCategory_iff.mpr rfl
  symm same := sameCategory_iff.mpr (sameCategory_iff.mp same).symm
  trans same next := sameCategory_iff.mpr
    ((sameCategory_iff.mp same).trans (sameCategory_iff.mp next))

theorem Facet.isCategory_congr (facet : Facet) {first second : String}
    (same : sameCategory first second = true) :
    facet.isCategory first = facet.isCategory second := by
  rw [Bool.eq_iff_iff]
  exact ⟨fun holds => sameCategory_equivalence.trans holds same,
    fun holds => sameCategory_equivalence.trans holds (sameCategory_equivalence.symm same)⟩

/-! ## Lookups -/

namespace FacetList

section
variable (list : FacetList) {first second : String}

theorem find_congr (same : sameCategory first second = true) :
    list.find first = list.find second := by
  simp only [find, Facet.isCategory_congr _ same]

theorem values_congr (same : sameCategory first second = true) :
    list.values first = list.values second := by
  simp only [values, Facet.isCategory_congr _ same]

theorem has_congr (same : sameCategory first second = true) (value : Option String) :
    list.has first value = list.has second value := by
  simp only [has, Facet.isCategory_congr _ same]

theorem count_eq (category : String) : list.count category = (list.values category).length :=
  (List.length_map _).symm

theorem find_eq (category : String) : list.find category = (list.values category).head? := by
  rw [find, values, List.head?_map, List.head?_filter]

theorem has_some_iff {category value : String} :
    list.has category (some value) = true ↔ value ∈ list.values category := by
  simp only [has, values, List.any_eq_true, Bool.and_eq_true, Option.all_some, beq_iff_eq,
    List.mem_map, List.mem_filter, and_assoc]

theorem has_none_iff {category : String} :
    list.has category none = true ↔ list.values category ≠ [] := by
  simp [has, values]

end

theorem renderExcluding_congr (list : FacetList) (dialect : Dialect) {first second : List String}
    (covered : ∀ name ∈ first, ∃ other ∈ second, sameCategory name other = true)
    (covers : ∀ name ∈ second, ∃ other ∈ first, sameCategory name other = true) :
    list.renderExcluding dialect first = list.renderExcluding dialect second := by
  have carry {names others : List String}
      (each : ∀ name ∈ names, ∃ other ∈ others, sameCategory name other = true) {facet : Facet}
      (out : names.any facet.isCategory = true) : others.any facet.isCategory = true := by
    obtain ⟨name, member, holds⟩ := List.any_eq_true.mp out
    obtain ⟨other, inOthers, same⟩ := each name member
    exact List.any_eq_true.mpr ⟨other, inOthers, (facet.isCategory_congr same).symm.trans holds⟩
  have agree : ∀ facet : Facet, first.any facet.isCategory = second.any facet.isCategory :=
    fun facet => Bool.eq_iff_iff.mpr ⟨carry covered, carry covers⟩
  simp only [renderExcluding, agree]

theorem renderExcluding_replace (list : FacetList) (dialect : Dialect) {first second : String}
    (same : sameCategory first second = true) (before behind : List String) :
    list.renderExcluding dialect (before ++ first :: behind) =
      list.renderExcluding dialect (before ++ second :: behind) := by
  have replaced {name other : String} (same : sameCategory name other = true) :
      ∀ each ∈ before ++ name :: behind,
        ∃ counterpart ∈ before ++ other :: behind, sameCategory each counterpart = true := by
    intro each member
    rcases List.mem_append.mp member with inFront | here
    · exact ⟨each, List.mem_append_left _ inFront, sameCategory_equivalence.refl each⟩
    rcases List.mem_cons.mp here with rfl | inBack
    · exact ⟨other, by simp, same⟩
    · exact ⟨each, by simp [inBack], sameCategory_equivalence.refl each⟩
  exact list.renderExcluding_congr dialect (replaced same)
    (replaced (sameCategory_equivalence.symm same))

/-- A facet has a category when the lowercase forms of the characters are the same, and ASCII names
need no more than a look at their letters. Thus names fall into classes. All lookups by category give
one answer for all names of a class, and all can be told from the values of the category. -/
theorem categories_by_case :
    (∀ (facet : Facet) (name : String), facet.isCategory name = true ↔
      lowercaseChars facet.category.toList = lowercaseChars name.toList) ∧
    (∀ first second : String, (∀ c ∈ first.toList, c.toNat < 0x80) →
      (∀ c ∈ second.toList, c.toNat < 0x80) →
        (first.toList.map Char.toLower = second.toList.map Char.toLower ↔
          lowercaseChars first.toList = lowercaseChars second.toList)) ∧
    (Equivalence fun first second => sameCategory first second = true) ∧
    (∀ (list : FacetList) (first second : String), sameCategory first second = true →
      list.find first = list.find second ∧ list.count first = list.count second ∧
      list.values first = list.values second ∧
      (∀ value, list.has first value = list.has second value) ∧
      ∀ dialect before behind, list.renderExcluding dialect (before ++ first :: behind) =
        list.renderExcluding dialect (before ++ second :: behind)) ∧
    ∀ (list : FacetList) (name : String),
      list.count name = (list.values name).length ∧
      list.find name = (list.values name).head? ∧
      (list.has name none = true ↔ list.values name ≠ []) ∧
      ∀ value, list.has name (some value) = true ↔ value ∈ list.values name := by
  refine ⟨fun facet name => sameCategory_iff, fun first second asciiFirst asciiSecond => ?_,
    sameCategory_equivalence, fun list first second same => ?_, fun list name => ?_⟩
  · rw [lowercaseChars_of_ascii asciiFirst, lowercaseChars_of_ascii asciiSecond]
  · refine ⟨list.find_congr same, ?_, list.values_congr same, list.has_congr same,
      fun dialect => list.renderExcluding_replace dialect same⟩
    rw [count_eq, count_eq, list.values_congr same]
  · exact ⟨list.count_eq name, list.find_eq name, list.has_none_iff, fun value => list.has_some_iff⟩

/-- The Kelvin sign is beyond ASCII and has an ASCII letter as its lowercase form. -/
theorem categories_by_case_kelvin :
    let list := (FacetList.ofFacets [⟨"K", "1", none⟩, ⟨"x", "2", none⟩, ⟨"\u212a", "3", none⟩]).list
    sameCategory "K" "\u212a" = true ∧ list.find "K" = list.find "\u212a" ∧
      list.values "\u212a" = ["1", "3"] ∧
      list.renderExcluding {} ["x", "K"] = list.renderExcluding {} ["x", "\u212a"] ∧
      lowercaseChars "K".toList = lowercaseChars "k".toList := by
  intro list
  obtain ⟨-, ascii, -, lookups, -⟩ := categories_by_case
  have same : sameCategory "K" "\u212a" = true := by decide
  obtain ⟨found, -, values, -, written⟩ := lookups list "K" "\u212a" same
  exact ⟨same, found, values.symm.trans (by decide), written {} ["x"] [],
    (ascii "K" "k" (by simp) (by simp)).mp (by decide)⟩

end FacetList

end FacetedSearch
