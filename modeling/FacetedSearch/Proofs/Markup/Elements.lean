import FacetedSearch.Markup
import FacetedSearch.Proofs.Query.Terms
import FacetedSearch.Proofs.Text.Joining

/-! Facets as markup can be told apart.

A text is escaped in passes, one for each entity. No entity has a character in it that a later pass
looks for, so the passes together replace each character on its own, and reading the entities undoes
this. An escaped text has no quotation mark and no angle bracket; so the places where a category and
a value end are determined, and the elements tell all pairs of a list, in their order.
-/

set_option autoImplicit false

namespace FacetedSearch.Markup

/-! ## Passes -/

def substituteAll (table : List (Char × String)) (cs : List Char) : List Char :=
  table.foldl (fun cs (c, entity) => substitute c entity cs) cs

def replacement (table : List (Char × String)) (c : Char) : List Char :=
  match table.lookup c with
  | some entity => entity.toList
  | none => [c]

theorem replacement_of_foreign {table : List (Char × String)} {c : Char}
    (foreign : ∀ row ∈ table, c ≠ row.1) : replacement table c = [c] := by
  have unknown : table.lookup c = none :=
    List.lookup_eq_none_iff.mpr fun row member => by simpa using foreign row member
  rw [replacement, unknown]

theorem replacement_cons (row : Char × String) (rest : List (Char × String)) (c : Char) :
    replacement (row :: rest) c = if c = row.1 then row.2.toList else replacement rest c := by
  obtain ⟨key, entity⟩ := row
  unfold replacement
  rw [List.lookup_cons]
  by_cases here : c = key
  · simp [here]
  · rw [if_neg here, beq_eq_false_iff_ne.mpr here]

theorem flatMap_replacement_of_foreign {table : List (Char × String)} {cs : List Char}
    (foreign : ∀ row ∈ table, row.1 ∉ cs) : cs.flatMap (replacement table) = cs := by
  induction cs with
  | nil => rfl
  | cons c rest ih =>
    have here : replacement table c = [c] := replacement_of_foreign fun row member same =>
      foreign row member (same ▸ List.mem_cons_self)
    rw [List.flatMap_cons, here, List.singleton_append,
      ih fun row member inRest => foreign row member (List.mem_cons_of_mem c inRest)]

/-- Passes replace each character on its own, if no entity has a character of a later pass. -/
theorem substituteAll_eq {table : List (Char × String)}
    (ordered : table.Pairwise fun row later => later.1 ∉ row.2.toList) (cs : List Char) :
    substituteAll table cs = cs.flatMap (replacement table) := by
  induction table generalizing cs with
  | nil => exact (flatMap_replacement_of_foreign (by simp)).symm
  | cons row rest ih =>
    obtain ⟨later, ordered⟩ := List.pairwise_cons.mp ordered
    have settled := flatMap_replacement_of_foreign later
    have first : substituteAll (row :: rest) cs = substituteAll rest (substitute row.1 row.2 cs) := rfl
    rw [first, ih ordered, substitute, List.flatMap_assoc]
    congr 1
    funext c
    rw [replacement_cons]
    by_cases here : c = row.1
    · rw [if_pos here, if_pos here, settled]
    · rw [if_neg here, if_neg here, List.flatMap_singleton]

theorem toList_escape (text : String) :
    (escape text).toList = text.toList.flatMap (replacement entities) := by
  have ordered : entities.Pairwise fun row later => later.1 ∉ row.2.toList := by decide
  rw [← substituteAll_eq ordered, escape, String.toList_ofList]
  rfl

/-- An entity that a text already has is escaped like all else. -/
example : escape "<&lt;>" = "&lt;&amp;lt;&gt;" := by decide

theorem notMem_replacement {c : Char} (special : c ∈ ['<', '>', '"']) (other : Char) :
    c ∉ replacement entities other := by
  simp only [List.mem_cons, List.not_mem_nil, or_false] at special
  unfold replacement
  cases found : entities.lookup other with
  | some entity =>
    have rows : ∀ row ∈ entities, c ∉ row.2.toList := by
      rcases special with rfl | rfl | rfl <;> simp [entities]
    obtain ⟨before, behind, split, -⟩ := List.lookup_eq_some_iff.mp found
    exact rows (other, entity) (by simp [split])
  | none =>
    -- A character that stays is none of those that have an entity.
    have foreign := List.lookup_eq_none_iff.mp found
    intro member
    obtain rfl := List.mem_singleton.mp member
    rcases special with rfl | rfl | rfl <;> simp [entities] at foreign

theorem notMem_escape {c : Char} (special : c ∈ ['<', '>', '"']) (text : String) :
    c ∉ (escape text).toList := by
  rw [toList_escape]
  intro member
  obtain ⟨other, -, inside⟩ := List.mem_flatMap.mp member
  exact notMem_replacement special other inside

/-! ## Reading entities -/

/-- Read the four entities as the characters that they stand for, and all else as it is. -/
def decodeChars : List Char → List Char
  | '&' :: 'a' :: 'm' :: 'p' :: ';' :: rest => '&' :: decodeChars rest
  | '&' :: 'l' :: 't' :: ';' :: rest => '<' :: decodeChars rest
  | '&' :: 'g' :: 't' :: ';' :: rest => '>' :: decodeChars rest
  | '&' :: 'q' :: 'u' :: 'o' :: 't' :: ';' :: rest => '"' :: decodeChars rest
  | c :: rest => c :: decodeChars rest
  | [] => []

def decode (text : String) : String := String.ofList (decodeChars text.toList)

theorem decodeChars_cons {c : Char} (plain : c ≠ '&') (rest : List Char) :
    decodeChars (c :: rest) = c :: decodeChars rest := by
  rw [decodeChars] <;> simp [plain]

theorem decodeChars_replacement (c : Char) (rest : List Char) :
    decodeChars (replacement entities c ++ rest) = c :: decodeChars rest := by
  by_cases special : c ∈ ['&', '<', '>', '"']
  · simp only [List.mem_cons, List.not_mem_nil, or_false] at special
    rcases special with rfl | rfl | rfl | rfl <;> rfl
  · have foreign : ∀ row ∈ entities, c ≠ row.1 := by simpa [entities] using special
    have plain : c ≠ '&' := fun same => special (by simp [same])
    rw [replacement_of_foreign foreign, List.singleton_append, decodeChars_cons plain]

theorem decode_escape (text : String) : decode (escape text) = text := by
  have whole (cs : List Char) : decodeChars (cs.flatMap (replacement entities)) = cs := by
    induction cs with
    | nil => rfl
    | cons c rest ih => rw [List.flatMap_cons, decodeChars_replacement, ih]
  rw [decode, toList_escape, whole, String.ofList_toList]

theorem escape_inj {first second : String} (same : escape first = escape second) :
    first = second := by
  rw [← decode_escape first, same, decode_escape]

/-! ## Elements -/

theorem toList_element (facet : Facet) : (element facet).toList =
    "<facet category=\"".toList ++ ((escape facet.category).toList ++
      '"' :: '>' :: ((escape facet.value).toList ++ '<' :: "/facet>".toList)) := by
  have shape (category value : String) :
      ("<facet category=\"" ++ category ++ "\">" ++ value ++ "</facet>").toList =
        "<facet category=\"".toList ++ (category.toList ++
          '"' :: '>' :: (value.toList ++ '<' :: "/facet>".toList)) := by
    simp only [String.toList_append, List.append_assoc]
    rfl
  exact shape _ _

/-- An element in front of a text is determined, and so is the text behind it. -/
theorem element_append_inj {first second : Facet} {rest more : List Char}
    (same : (element first).toList ++ rest = (element second).toList ++ more) :
    first.pair = second.pair ∧ rest = more := by
  simp only [toList_element, List.append_assoc, List.cons_append, List.append_cancel_left_eq] at same
  -- The category ends at the first quotation mark, and the value at the first bracket behind it.
  have quote {facet : Facet} : '"' ∉ (escape facet.category).toList := notMem_escape (by decide) _
  have bracket {facet : Facet} : '<' ∉ (escape facet.value).toList := notMem_escape (by decide) _
  obtain ⟨category, behind⟩ := Query.closed_unique quote quote same
  obtain ⟨value, behind⟩ := Query.closed_unique bracket bracket (List.cons.inj behind).2
  refine ⟨Prod.ext (escape_inj ?_) (escape_inj ?_), List.append_cancel_left behind⟩
  · exact String.toList_inj.mp category
  · exact String.toList_inj.mp value

def lines (facets : List Facet) : List Char :=
  facets.flatMap fun facet => '\n' :: (element facet).toList

theorem lines_cons (facet : Facet) (rest : List Facet) :
    lines (facet :: rest) = '\n' :: ((element facet).toList ++ lines rest) := rfl

theorem toList_render_cons (facet : Facet) (rest : List Facet) :
    (render (facet :: rest)).toList = (element facet).toList ++ lines rest := by
  rw [render, List.map_cons, Text.toList_intercalate_cons, List.flatMap_map]
  rfl

theorem lines_inj {first second : List Facet} (same : lines first = lines second) :
    first.map Facet.pair = second.map Facet.pair := by
  induction first generalizing second with
  | nil =>
    cases second with
    | nil => rfl
    | cons other more => simp [lines] at same
  | cons facet rest ih =>
    cases second with
    | nil => simp [lines] at same
    | cons other more =>
      rw [lines_cons, lines_cons, List.cons.injEq] at same
      obtain ⟨pair, behind⟩ := element_append_inj same.2
      rw [List.map_cons, List.map_cons, pair, ih behind]

theorem render_cons_ne_empty (facet : Facet) (rest : List Facet) : render (facet :: rest) ≠ "" := by
  intro empty
  have text := toList_render_cons facet rest
  rw [empty, toList_element] at text
  simp at text

theorem render_inj {first second : List Facet} (same : render first = render second) :
    first.map Facet.pair = second.map Facet.pair := by
  cases first with
  | nil =>
    cases second with
    | nil => rfl
    | cons other more => exact absurd same.symm (render_cons_ne_empty other more)
  | cons facet rest =>
    cases second with
    | nil => exact absurd same (render_cons_ne_empty facet rest)
    | cons other more =>
      apply lines_inj
      rw [lines_cons, lines_cons, ← toList_render_cons, ← toList_render_cons, same]

theorem render_eq_of_pairs {first second : List Facet}
    (same : first.map Facet.pair = second.map Facet.pair) : render first = render second := by
  have told (facets : List Facet) : facets.map element =
      (facets.map Facet.pair).map fun pair => element ⟨pair.1, pair.2, none⟩ := by
    rw [List.map_map]
    rfl
  rw [render, render, told, told, same]

/-- Markup tells the pairs of a list, in their order, and nothing else. The passes that escape a text
replace its characters each on its own; no quotation mark and no angle bracket is left, and reading
the entities gives the text back, whatever is in it. -/
theorem render_eq_iff_pairs :
    (∀ first second : List Facet, render first = render second ↔
      first.map Facet.pair = second.map Facet.pair) ∧
    ∀ text : String,
      (escape text).toList = text.toList.flatMap (replacement entities) ∧
      ('<' ∉ (escape text).toList ∧ '>' ∉ (escape text).toList ∧ '"' ∉ (escape text).toList) ∧
      decode (escape text) = text := by
  refine ⟨fun first second => ⟨render_inj, render_eq_of_pairs⟩, fun text => ?_⟩
  refine ⟨toList_escape text, ⟨?_, ?_, ?_⟩, decode_escape text⟩ <;> exact notMem_escape (by decide) text

end FacetedSearch.Markup
