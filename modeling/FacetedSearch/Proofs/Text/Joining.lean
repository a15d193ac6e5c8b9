import FacetedSearch.Proofs.Text.Trimming

/-! Texts that are joined.

A separator stands between two texts, so a joined text is the first one and then, for each of the
others, the separator and the text. With `beside` the separator is a space, and an empty text leaves
none.
-/

set_option autoImplicit false

namespace FacetedSearch.Text

theorem toList_intercalate_cons (separator text : String) (rest : List String) :
    (separator.intercalate (text :: rest)).toList =
      text.toList ++ rest.flatMap fun other => separator.toList ++ other.toList := by
  induction rest generalizing text with
  | nil => simp
  | cons next rest ih =>
    rw [String.intercalate_cons_cons, String.toList_append, String.toList_append, ih,
      List.flatMap_cons, List.append_assoc, List.append_assoc]

/-- Two texts with a space between them; next to an empty text there is none. -/
def beside (first second : String) : String :=
  if first = "" then second else if second = "" then first else first ++ " " ++ second

theorem beside_eq_empty_iff {first second : String} :
    beside first second = "" ↔ first = "" ∧ second = "" := by
  unfold beside
  by_cases left : first = ""
  · simp [left]
  · by_cases right : second = "" <;> simp [left, right]

theorem tight_beside {first second : String} (left : Tight first.toList)
    (right : Tight second.toList) : Tight (beside first second).toList := by
  unfold beside
  split
  next => exact right
  next starts =>
    split
    next => exact left
    next ends =>
      rw [String.toList_append, String.toList_append, List.append_assoc]
      exact left.append (by simpa using starts) " ".toList right (by simpa using ends)

end FacetedSearch.Text
