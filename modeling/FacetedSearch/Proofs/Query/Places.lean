import FacetedSearch.Proofs.Query.Pieces
import FacetedSearch.Proofs.Text.Bytes

/-! Places of fields in a query.

A place is counted in characters inside a text and in bytes in the span of a field. `byteAt` goes
from the one to the other and keeps the order of places.
-/

set_option autoImplicit false

namespace FacetedSearch.Query

open Text (isBlankText trimChars byteLength byteLength_append byteLength_pos)

theorem byteAt_length (first rest : List Char) :
    byteAt (first ++ rest) first.length = byteLength first := by
  rw [byteAt, List.take_left]

theorem byteAt_add (cs : List Char) (index count : Nat) :
    byteAt cs (index + count) = byteAt cs index + byteLength ((cs.drop index).take count) := by
  rw [byteAt, List.take_add, byteLength_append, byteAt]

/-- A place strictly inside a text lies before its end, in bytes too. -/
theorem byteAt_lt (cs : List Char) {i j : Nat} (before : i < j) (inside : i < cs.length) :
    byteAt cs i < byteAt cs j := by
  have split : cs.take j = cs.take i ++ (cs.drop i).take (j - i) := by
    rw [← List.take_add]
    congr 1
    omega
  have between : (cs.drop i).take (j - i) ≠ [] := by
    intro empty
    have none := congrArg List.length empty
    simp only [List.length_take, List.length_drop, List.length_nil] at none
    omega
  have positive := byteLength_pos between
  rw [byteAt, byteAt, split, byteLength_append]
  omega

theorem le_of_byteAt_le {cs : List Char} {i j : Nat} (inside : j < cs.length)
    (atMost : byteAt cs i ≤ byteAt cs j) : i ≤ j := by
  by_contra later
  have less := byteAt_lt cs (i := j) (j := i) (by omega) inside
  omega

theorem fieldsFrom_append (start : Nat) (first rest : List Piece) :
    fieldsFrom start (first ++ rest) = fieldsFrom start first ++
      fieldsFrom (start + byteLength (first.flatMap Piece.text)) rest := by
  induction first generalizing start with
  | nil => simp [fieldsFrom, byteLength]
  | cons piece first ih => simp [fieldsFrom, ih, Nat.add_assoc]

theorem fieldsFrom_ofLead (start : Nat) (cs : List Char) :
    fieldsFrom start (Piece.ofLead cs) = if isBlankText cs then []
      else [⟨none, String.ofList (trimChars cs), ⟨start, start + byteLength cs⟩⟩] := by
  unfold Piece.ofLead
  by_cases empty : cs = []
  · simp [empty, isBlankText, fieldsFrom]
  · by_cases blank : isBlankText cs = true <;>
      simp [empty, blank, fieldsFrom, Piece.field?, Piece.text]

theorem exists_piece_of_mem {start : Nat} {pieces : List Piece} {field : Field}
    (member : field ∈ fieldsFrom start pieces) :
    ∃ piece ∈ pieces, ∃ place, piece.field? place = some field := by
  induction pieces generalizing start with
  | nil => simp [fieldsFrom] at member
  | cons piece rest ih =>
    rw [fieldsFrom, List.mem_append, Option.mem_toList] at member
    rcases member with here | later
    · exact ⟨piece, List.mem_cons_self, start, here⟩
    · obtain ⟨other, inRest, found⟩ := ih later
      exact ⟨other, List.mem_cons_of_mem piece inRest, found⟩

theorem exists_field_of_mem {pieces : List Piece} {pair : Pair} (start : Nat)
    (member : .pair pair ∈ pieces) : ∃ field ∈ fieldsFrom start pieces,
      field.category = some (Term.content pair.category) ∧
      field.value = Term.content pair.value := by
  induction pieces generalizing start with
  | nil => simp at member
  | cons piece rest ih =>
    rcases List.mem_cons.mp member with rfl | later
    · exact ⟨_, List.mem_append_left _ List.mem_cons_self, rfl, rfl⟩
    · obtain ⟨field, inRest, reads⟩ := ih (start + byteLength piece.text) later
      exact ⟨field, List.mem_append_right _ inRest, reads⟩

end FacetedSearch.Query
