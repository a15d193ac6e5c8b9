import FacetedSearch.Proofs.Query.Terms
import FacetedSearch.Query.Render

/-! Marks put around a text and taken off again.

A text with at most one kind of marks is written as a term that spells it, unless it is empty. A
text with both kinds has no such term: it is put between double marks all the same. Removing one
layer of marks gives back every text, whether it was written as a term or not.
-/

set_option autoImplicit false

namespace FacetedSearch.Query

open Text (isBlank Tight)

def BothMarks (text : String) : Prop := '\'' ∈ text.toList ∧ '"' ∈ text.toList

instance (text : String) : Decidable (BothMarks text) :=
  inferInstanceAs (Decidable ('\'' ∈ text.toList ∧ '"' ∈ text.toList))

/-- A text is written between marks or, when it has neither marks nor blanks, as it is. The marks
that are chosen do not occur in it, unless both kinds do. -/
theorem quoteChars_forms (cs : List Char) :
    (∃ mark, isMark mark = true ∧ (mark ∈ cs → '\'' ∈ cs ∧ '"' ∈ cs) ∧
      quoteChars cs = mark :: (cs ++ [mark])) ∨
    (∀ c ∈ cs, isBlank c = false) ∧ (∀ c ∈ cs, isMark c = false) ∧ quoteChars cs = cs := by
  by_cases double : '"' ∈ cs <;> by_cases single : '\'' ∈ cs
  · exact .inl ⟨'"', by decide, fun _ => ⟨single, double⟩, by simp [quoteChars, single]⟩
  · exact .inl ⟨'\'', by decide, fun member => absurd member single,
      by simp [quoteChars, single, double]⟩
  · exact .inl ⟨'"', by decide, fun member => absurd member double, by simp [quoteChars, single]⟩
  · by_cases blank : cs.any isBlank
    · exact .inl ⟨'"', by decide, fun member => absurd member double,
        by simp [quoteChars, double, blank]⟩
    · refine .inr ⟨by simpa using blank, fun c member => ?_,
        by simp [quoteChars, single, double, blank]⟩
      by_contra mark
      rcases (isMark_iff c).mp (by simpa using mark) with rfl | rfl
      · exact single member
      · exact double member

theorem quoteChars_solid {cs : List Char} (solid : ∀ c ∈ cs, isBlank c = false)
    (unmarked : ∀ c ∈ cs, isMark c = false) : quoteChars cs = cs := by
  have single : '\'' ∉ cs := fun member => by simpa [isMark] using unmarked _ member
  have double : '"' ∉ cs := fun member => by simpa [isMark] using unmarked _ member
  have blank : cs.any isBlank = false := by simpa using solid
  simp [quoteChars, single, double, blank]

theorem quoteChars_single {cs : List Char} (single : '\'' ∈ cs) :
    quoteChars cs = '"' :: (cs ++ ['"']) := by
  simp [quoteChars, single]

theorem spells_quoteChars {cs : List Char} (nonempty : cs ≠ [])
    (marks : ¬ ('\'' ∈ cs ∧ '"' ∈ cs)) : Term.Spells (quoteChars cs) cs := by
  rcases quoteChars_forms cs with ⟨mark, isMark, both, written⟩ | ⟨solid, unmarked, written⟩
  · rw [written]
    exact .quoted isMark nonempty fun member => marks (both member)
  · rw [written]
    obtain ⟨first, rest, rfl⟩ := List.exists_cons_of_ne_nil nonempty
    exact .bare (unmarked first (by simp)) (solid first (by simp))
      fun c member => solid c (by simp [member])

theorem tight_quoteChars {cs : List Char} (tight : Tight cs) : Tight (quoteChars cs) := by
  rcases quoteChars_forms cs with ⟨mark, isMark, -, written⟩ | ⟨-, -, written⟩
  · have solid : Tight [mark] :=
      Text.tight_of_solid (List.forall_mem_singleton.mpr (isBlank_of_isMark isMark))
    rw [written]
    exact solid.append (List.cons_ne_nil mark []) cs solid (List.cons_ne_nil mark [])
  · rwa [written]

theorem quoteChars_ne_nil {cs : List Char} (nonempty : cs ≠ []) : quoteChars cs ≠ [] := by
  rcases quoteChars_forms cs with ⟨mark, -, -, written⟩ | ⟨-, -, written⟩
  · rw [written]
    exact List.cons_ne_nil _ _
  · rwa [written]

theorem unquote_quoteChars (cs : List Char) : Term.unquote (quoteChars cs) = cs := by
  rcases quoteChars_forms cs with ⟨mark, isMark, -, written⟩ | ⟨-, unmarked, written⟩
  · rw [written, Term.unquote_enclosed isMark]
  · rw [written]
    exact Term.unquote_of_unmarked fun c first => unmarked c (List.mem_of_mem_head? first)

theorem isTerm_enclosed_iff {mark : Char} (isMark : isMark mark = true) (cs : List Char) :
    IsTerm (mark :: (cs ++ [mark])) ↔ cs ≠ [] ∧ mark ∉ cs := by
  rw [isTerm_mark_iff isMark]
  constructor
  · rintro ⟨body, nonempty, closed, same⟩
    rw [List.append_cancel_right same]
    exact ⟨nonempty, closed⟩
  · rintro ⟨nonempty, closed⟩
    exact ⟨cs, nonempty, closed, rfl⟩

theorem isTerm_quoteChars_iff (cs : List Char) :
    IsTerm (quoteChars cs) ↔ cs ≠ [] ∧ ¬ ('\'' ∈ cs ∧ '"' ∈ cs) := by
  constructor
  · intro grammar
    rcases quoteChars_forms cs with ⟨mark, isMark, -, written⟩ | ⟨-, unmarked, written⟩
    · rw [written, isTerm_enclosed_iff isMark] at grammar
      refine ⟨grammar.1, fun both => grammar.2 ?_⟩
      rcases (isMark_iff mark).mp isMark with rfl | rfl
      · exact both.1
      · exact both.2
    · rw [written] at grammar
      refine ⟨grammar.ne_nil, fun both => ?_⟩
      simpa [isMark] using unmarked _ both.1
  · rintro ⟨nonempty, marks⟩
    exact (spells_quoteChars nonempty marks).isTerm

-- With both kinds of marks, the double mark of the text itself closes the term.
example : Term.read? (quoteChars "a\"'".toList) = some ("\"a\"".toList, "'\"".toList) := by decide

/-- Removing a layer of marks gives back every text that was written. What was written is one term
of the grammar, and the reader takes it as one, if and only if the text is not empty and does not
have both kinds of marks. -/
theorem unquote_quote_isTerm_iff (text : String) :
    Term.unquote (quote text).toList = text.toList ∧
    (IsTerm (quote text).toList ↔ text ≠ "" ∧ ¬ BothMarks text) ∧
    (Term.read? (quote text).toList = some ((quote text).toList, []) ↔
      text ≠ "" ∧ ¬ BothMarks text) := by
  have written : (quote text).toList = quoteChars text.toList := String.toList_ofList
  have nonempty : text.toList ≠ [] ↔ text ≠ "" := by simp
  have single : IsTerm (quoteChars text.toList) ↔ text ≠ "" ∧ ¬ BothMarks text := by
    rw [isTerm_quoteChars_iff, nonempty, BothMarks]
  rw [written]
  exact ⟨unquote_quoteChars text.toList, single, (isTerm_iff_read? _).symm.trans single⟩

end FacetedSearch.Query
