import FacetedSearch.Text.Bytes

/-! Lengths of texts in bytes, and cuts between characters. -/

set_option autoImplicit false

namespace FacetedSearch.Text

@[simp] theorem byteLength_append (first rest : List Char) :
    byteLength (first ++ rest) = byteLength first + byteLength rest := by
  induction first with
  | nil => simp [byteLength]
  | cons c first ih => simp [byteLength, ih, Nat.add_assoc]

theorem byteLength_pos {cs : List Char} (nonempty : cs ≠ []) : 0 < byteLength cs := by
  obtain ⟨c, rest, rfl⟩ := List.exists_cons_of_ne_nil nonempty
  have positive := c.utf8Size_pos
  rw [byteLength]
  omega

theorem byteLength_toList (s : String) : byteLength s.toList = s.utf8ByteSize := by
  have same (cs : List Char) : byteLength cs = (String.ofList cs).utf8ByteSize := by
    induction cs with
    | nil => rfl
    | cons c cs ih =>
      rw [byteLength, ih, ← List.singleton_append, String.ofList_append, String.utf8ByteSize_append,
        ← String.singleton_eq_ofList, String.utf8ByteSize_singleton]
  rw [same, String.ofList_toList]

theorem splitBytes?_append (first rest : List Char) :
    splitBytes? (byteLength first) (first ++ rest) = some (first, rest) := by
  induction first with
  | nil => simp [byteLength, splitBytes?]
  | cons c first ih =>
    have positive := c.utf8Size_pos
    obtain ⟨count, same⟩ : ∃ count, c.utf8Size + byteLength first = count + 1 :=
      ⟨c.utf8Size + byteLength first - 1, by omega⟩
    have fits : c.utf8Size ≤ count + 1 := by omega
    have left : count + 1 - c.utf8Size = byteLength first := by omega
    rw [byteLength, same, List.cons_append, splitBytes?, if_pos fits, left, ih]
    rfl

theorem cut?_append (before text rest : List Char) :
    cut? (byteLength before) (byteLength (before ++ text)) (before ++ (text ++ rest)) =
      some text := by
  simp [cut?, cutFrom?, splitBytes?_append]

end FacetedSearch.Text
