import FacetedSearch.Proofs.Query.Rereading
import FacetedSearch.Proofs.Text.Joining
import Mathlib.Logic.Relation

/-! The text of a list of facets, put together from the texts of its parts.

Two lists in a row are written as the texts of both, with one space between them if both have a
text. So a fact about a whole text comes from the texts of single facets, by induction on the list:
where it starts and ends, when there is none, and which edits of the facets do not show in it.
-/

set_option autoImplicit false

namespace FacetedSearch.Query

open Text (isBlank Tight beside)

/-! ## One facet -/

theorem tight_quoteChars_colon (cs : List Char) : Tight (quoteChars cs ++ [':']) := by
  have ends : ∀ c ∈ [':'].getLast?, isBlank c = false := by simp [isBlank]
  refine ⟨fun c found => ?_, fun c found => ends c ?_⟩
  · rcases quoteChars_forms cs with ⟨mark, isMark, -, written⟩ | ⟨solid, -, written⟩
    · rw [written, List.cons_append, List.head?_cons, Option.mem_some_iff] at found
      exact found ▸ isBlank_of_isMark isMark
    · rw [written] at found
      exact solid_colon solid c (List.mem_of_mem_head? found)
  · rwa [List.getLast?_append_of_ne_nil _ (List.cons_ne_nil ':' [])] at found

theorem tight_pair (category : List Char) {value : List Char} (tight : Tight value)
    (nonempty : value ≠ []) : Tight (quoteChars category ++ ':' :: ' ' :: value) := by
  have whole := (tight_quoteChars_colon category).append (by simp) [' '] tight nonempty
  simpa using whole

theorem valued_normalized {facet : Facet} (visible : Text.trim facet.value ≠ "") :
    Valued facet.normalized :=
  ⟨visible, Text.trim_trim facet.value⟩

section
variable (dialect : Dialect) (facet : Facet)

@[simp] theorem renderFacet_normalized :
    renderFacet dialect facet.normalized = renderFacet dialect facet := by
  simp only [renderFacet, Facet.normalized, Facet.withValue, Text.trim_trim]

@[simp] theorem renderFacet_label (label : Option String) :
    renderFacet dialect { facet with label } = renderFacet dialect facet := rfl

theorem renderFacet_eq_empty_iff : renderFacet dialect facet = "" ↔ Text.trim facet.value = "" := by
  constructor
  · intro silent
    by_contra visible
    apply renderFacet_ne_empty (valued_normalized visible)
    rw [renderFacet_normalized, silent]
  · intro blank
    rw [renderFacet, blank]
    rfl

theorem tight_renderFacet : Tight (renderFacet dialect facet).toList := by
  by_cases visible : Text.trim facet.value = ""
  · rw [(renderFacet_eq_empty_iff dialect facet).mpr visible]
    exact Text.tight_of_solid (by simp)
  -- The text is that of the trimmed facet, of which all forms are known.
  have valued := valued_normalized visible
  have tight := valued.tight
  have nonempty := valued.toList_ne_nil
  rw [← renderFacet_normalized]
  change Tight (facetChars dialect facet.normalized)
  cases kind : dialect.isRemainder facet.normalized.category with
  | true =>
    rw [facetChars_remainder valued kind]
    exact tight
  | false =>
    by_cases unquotable : facet.normalized.category ∈ dialect.unquotable
    · rw [facetChars_unquotable valued kind unquotable]
      exact tight_pair _ tight nonempty
    · rw [facetChars_ordinary valued kind unquotable]
      exact tight_pair _ (tight_quoteChars tight) (quoteChars_ne_nil nonempty)

end

/-! ## Lists -/

section
variable (dialect : Dialect)

def texts (facets : List Facet) : List String :=
  (facets.map (renderFacet dialect)).filter (!·.isEmpty)

theorem texts_append (front back : List Facet) :
    texts dialect (front ++ back) = texts dialect front ++ texts dialect back := by
  rw [texts, List.map_append, List.filter_append]
  rfl

theorem render_eq_empty_iff_texts {facets : List Facet} :
    render dialect facets = "" ↔ texts dialect facets = [] := by
  change String.intercalate " " (texts dialect facets) = "" ↔ _
  cases split : texts dialect facets with
  | nil => simp
  | cons text rest =>
    have nonempty : text ≠ "" := by
      have kept : text ∈ texts dialect facets := split ▸ List.mem_cons_self
      simpa using (List.mem_filter.mp kept).2
    cases rest with
    | nil => simp [nonempty]
    | cons next rest => simp [nonempty]

theorem render_append (front back : List Facet) :
    render dialect (front ++ back) = beside (render dialect front) (render dialect back) := by
  have whole : render dialect (front ++ back) =
      String.intercalate " " (texts dialect front ++ texts dialect back) :=
    congrArg _ (texts_append dialect front back)
  -- There is a text if and only if some facet has one, and a space only between two texts.
  unfold beside
  split
  next silent =>
    rw [whole, (render_eq_empty_iff_texts dialect).mp silent]
    rfl
  next starts =>
    rw [render_eq_empty_iff_texts] at starts
    split
    next silent =>
      rw [whole, (render_eq_empty_iff_texts dialect).mp silent, List.append_nil]
      rfl
    next ends =>
      rw [render_eq_empty_iff_texts] at ends
      rw [whole, String.intercalate_append_of_ne_nil starts ends]
      rfl

theorem render_singleton (facet : Facet) : render dialect [facet] = renderFacet dialect facet := by
  by_cases silent : renderFacet dialect facet = "" <;> simp [render, silent]

theorem render_cons (facet : Facet) (rest : List Facet) :
    render dialect (facet :: rest) = beside (renderFacet dialect facet) (render dialect rest) := by
  rw [← render_singleton, ← render_append, List.singleton_append]

theorem tight_render (facets : List Facet) : Tight (render dialect facets).toList := by
  induction facets with
  | nil => exact Text.tight_of_solid (by simp [render])
  | cons facet rest ih =>
    rw [render_cons]
    exact Text.tight_beside (tight_renderFacet dialect facet) ih

theorem render_eq_empty_iff (facets : List Facet) :
    render dialect facets = "" ↔ ∀ facet ∈ facets, Text.trim facet.value = "" := by
  induction facets with
  | nil => simp [render]
  | cons facet rest ih =>
    rw [render_cons, Text.beside_eq_empty_iff, renderFacet_eq_empty_iff, ih, List.forall_mem_cons]

end

/-! ## Edits that do not show -/

/-- One edit of a list that a query does not tell: a value is trimmed, a label is set, changed or
taken away, or a facet with a blank value is left out. -/
inductive Retouch : List Facet → List Facet → Prop where
  | normalized {front back : List Facet} (facet : Facet) :
      Retouch (front ++ facet :: back) (front ++ facet.normalized :: back)
  | label {front back : List Facet} (facet : Facet) (label : Option String) :
      Retouch (front ++ facet :: back) (front ++ { facet with label } :: back)
  | dropped {front back : List Facet} {facet : Facet} :
      (∀ c ∈ facet.value.toList, isBlank c = true) →
      Retouch (front ++ facet :: back) (front ++ back)

section
variable {dialect : Dialect} {first second : List Facet}

theorem Retouch.render_eq (retouch : Retouch first second) :
    render dialect first = render dialect second := by
  cases retouch with
  | normalized facet => simp only [render_append, render_cons, renderFacet_normalized]
  | label facet label => simp only [render_append, render_cons, renderFacet_label]
  | dropped blank =>
    have silent := (renderFacet_eq_empty_iff dialect _).mpr ((Text.trim_eq_empty_iff _).mpr blank)
    rw [render_append, render_append, render_cons, silent]
    rfl

theorem render_eq_of_retouches (retouches : Relation.ReflTransGen Retouch first second) :
    render dialect first = render dialect second := by
  induction retouches with
  | refl => rfl
  | tail _ retouch ih => exact ih.trans retouch.render_eq

end

/-- Two lists in a row are written as the texts of both, with one space between them, unless one of
the texts is empty. A text has no blanks at its ends, and it is empty if and only if all values are
blank. Trimmed values, other labels and facets with a blank value left out do not change it, in
whatever number and order. -/
theorem render_homomorphism (dialect : Dialect) :
    (∀ front back : List Facet,
      render dialect (front ++ back) = beside (render dialect front) (render dialect back)) ∧
    (∀ facets : List Facet, Tight (render dialect facets).toList) ∧
    (∀ facets : List Facet, render dialect facets = "" ↔
      ∀ facet ∈ facets, ∀ c ∈ facet.value.toList, isBlank c = true) ∧
    ∀ first second : List Facet, Relation.ReflTransGen Retouch first second →
      render dialect first = render dialect second := by
  refine ⟨render_append dialect, tight_render dialect, fun facets => ?_,
    fun first second retouches => render_eq_of_retouches retouches⟩
  simp only [render_eq_empty_iff, Text.trim_eq_empty_iff]

theorem render_homomorphism_retouched :
    let first : List Facet := [⟨"", " a b\t", none⟩, ⟨"x", " \n", some "y"⟩, ⟨" id ", "1", none⟩]
    let second : List Facet := [⟨"", "a b", none⟩, ⟨" id ", "1", some "one"⟩]
    render {} first = render {} second ∧ render {} second = ": \"a b\" \" id \": 1" := by
  intro first second
  have trimmed : Retouch first [⟨"", "a b", none⟩, ⟨"x", " \n", some "y"⟩, ⟨" id ", "1", none⟩] :=
    @Retouch.normalized [] _ ⟨"", " a b\t", none⟩
  have dropped : Retouch [⟨"", "a b", none⟩, ⟨"x", " \n", some "y"⟩, ⟨" id ", "1", none⟩]
      [⟨"", "a b", none⟩, ⟨" id ", "1", none⟩] :=
    @Retouch.dropped [⟨"", "a b", none⟩] _ _ ((Text.trim_eq_empty_iff " \n").mp (by decide))
  have labelled : Retouch [⟨"", "a b", none⟩, ⟨" id ", "1", none⟩] second :=
    @Retouch.label [⟨"", "a b", none⟩] _ ⟨" id ", "1", none⟩ (some "one")
  obtain ⟨-, -, -, same⟩ := render_homomorphism {}
  exact ⟨same first second (.tail (.tail (.single trimmed) dropped) labelled), by decide⟩

end FacetedSearch.Query
