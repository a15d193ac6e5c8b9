import FacetedSearch.Proofs.Query.Rendering
import Mathlib.Algebra.GroupWithZero.Nat

/-! Counting letters.

A letter is a character that is neither blank nor a mark. Writing and reading keep all letters but
those that belong to no facet: in the category of a pair that goes to the remainder, in a pair
without a value and in a category without one. So a text with as many letters as what is read in
it has none of these.
-/

set_option autoImplicit false

namespace FacetedSearch.Query

open Text (isBlank trimChars)

/-- The number of characters that are neither blank nor a mark. -/
def letters (cs : List Char) : Nat := cs.countP fun c => !isBlank c && !isMark c

@[simp] theorem letters_append (first rest : List Char) :
    letters (first ++ rest) = letters first + letters rest := by
  simp [letters]

theorem letters_colon (cs : List Char) : letters (':' :: cs) = letters cs + 1 :=
  List.countP_cons_of_pos (by decide)

theorem letters_space (cs : List Char) : letters (' ' :: cs) = letters cs :=
  List.countP_cons_of_neg (by decide)

theorem letters_blank {cs : List Char} (blank : ∀ c ∈ cs, isBlank c = true) : letters cs = 0 := by
  rw [letters, List.countP_eq_zero]
  intro c member
  simp [blank c member]

theorem letters_trimChars (cs : List Char) : letters (trimChars cs) = letters cs := by
  obtain ⟨lead, trail, leadBlank, trailBlank, split⟩ := Text.exists_trimChars cs
  have whole := congrArg letters split
  simp only [letters_append, letters_blank leadBlank, letters_blank trailBlank] at whole
  omega

theorem letters_between {mark : Char} (isMark : isMark mark = true) (body : List Char) :
    letters (mark :: (body ++ [mark])) = letters body := by
  simp [letters, isMark]

theorem letters_quoteChars (cs : List Char) : letters (quoteChars cs) = letters cs := by
  rcases quoteChars_forms cs with ⟨mark, isMark, -, written⟩ | ⟨-, -, written⟩
  · rw [written, letters_between isMark]
  · rw [written]

theorem letters_content {term : List Char} (grammar : IsTerm term) :
    letters (Term.content term).toList = letters term := by
  obtain ⟨text, spells⟩ := grammar.spells
  rw [spells.content_eq, String.toList_ofList, letters_trimChars]
  cases spells with
  | quoted isMark nonempty closed => rw [letters_between isMark]
  | bare notMark solid restSolid => rfl

def weight (dialect : Dialect) (said : String × String) : Nat :=
  if dialect.isRemainder said.1 then letters said.2.toList
  else letters said.1.toList + 1 + letters said.2.toList

theorem weight_remainder {dialect : Dialect} {said : String × String}
    (remainder : said.1 = dialect.remainder) : weight dialect said = letters said.2.toList :=
  if_pos (isRemainder_iff.mpr remainder)

theorem weight_pair {dialect : Dialect} {said : String × String}
    (pair : said.1 ≠ dialect.remainder) :
    weight dialect said = letters said.1.toList + 1 + letters said.2.toList :=
  if_neg (by rwa [isRemainder_iff])

theorem letters_facetChars {dialect : Dialect} {facet : Facet} (valued : Valued facet) :
    letters (facetChars dialect facet) = weight dialect facet.pair := by
  have colon (text : List Char) (value : List Char) :
      letters (text ++ ':' :: ' ' :: value) = letters text + 1 + letters value := by
    rw [letters_append, letters_colon, letters_space]
    omega
  cases kind : dialect.isRemainder facet.category with
  | true =>
    rw [facetChars_remainder valued kind, weight_remainder (isRemainder_iff.mp kind)]
    rfl
  | false =>
    rw [weight_pair (isRemainder_eq_false_iff.mp kind)]
    by_cases unquotable : facet.category ∈ dialect.unquotable
    · rw [facetChars_unquotable valued kind unquotable, colon, letters_quoteChars]
      rfl
    · rw [facetChars_ordinary valued kind unquotable, colon, letters_quoteChars,
        letters_quoteChars]
      rfl

theorem letters_joined {dialect : Dialect} {facets : List Facet}
    (valued : ∀ facet ∈ facets, Valued facet) :
    letters (joined dialect facets) = ((facets.map Facet.pair).map (weight dialect)).sum := by
  induction facets with
  | nil => rfl
  | cons facet rest ih =>
    obtain ⟨here, later⟩ := List.forall_mem_cons.mp valued
    rw [joined_cons, letters_space, letters_append, letters_facetChars here, ih later,
      List.map_cons, List.map_cons, List.sum_cons]

/-! ## Texts of which everything is said -/

def Full (dialect : Dialect) (cs : List Char) : Prop :=
  ((pairsOf dialect cs).map (weight dialect)).sum = letters cs

/-- A pair that is read as such: it has a value, and a category of its own. -/
structure Pair.Proper (dialect : Dialect) (pair : Pair) : Prop where
  category : Term.content pair.category ≠ dialect.remainder
  value : Term.content pair.value ≠ ""
  reads : (Piece.pair pair).pair? dialect =
    some (Term.content pair.category, Term.content pair.value)

theorem weight_free (dialect : Dialect) (text : List Char) :
    (((Piece.free text).pair? dialect).toList.map (weight dialect)).sum = letters text := by
  rw [Piece.pair?_free]
  split
  next empty => rw [← letters_trimChars, empty]; rfl
  next => simp [weight, isRemainder_iff, letters_trimChars]

theorem Pair.WellFormed.letters_text {pair : Pair} (wellFormed : pair.WellFormed) :
    letters pair.text = letters (Term.content pair.category).toList + 1 +
      letters (Term.content pair.value).toList := by
  rw [letters_content wellFormed.category, letters_content wellFormed.value, Pair.text,
    letters_append, letters_colon, letters_append, letters_blank wellFormed.gap]
  omega

theorem Pair.WellFormed.weight_le {pair : Pair} (dialect : Dialect)
    (wellFormed : pair.WellFormed) :
    (((Piece.pair pair).pair? dialect).toList.map (weight dialect)).sum ≤ letters pair.text ∧
      ((((Piece.pair pair).pair? dialect).toList.map (weight dialect)).sum = letters pair.text →
        pair.Proper dialect) := by
  have text := wellFormed.letters_text
  by_cases valued : Term.content pair.value = ""
  · have none : (Piece.pair pair).pair? dialect = none := by rw [Piece.pair?_pair, if_pos valued]
    rw [none, Option.toList_none, List.map_nil, List.sum_nil]
    exact ⟨Nat.zero_le _, fun same => by omega⟩
  · have reads := Piece.pair?_pair dialect pair
    rw [if_neg valued] at reads
    rw [reads, Option.toList_some, List.map_singleton, List.sum_singleton]
    by_cases remainder : categoryFor dialect (Term.content pair.category) = dialect.remainder
    · -- The category and the colon are not said.
      rw [weight_remainder remainder]
      exact ⟨by dsimp only; omega, fun same => by dsimp only at same; omega⟩
    · have named : categoryFor dialect (Term.content pair.category) =
          Term.content pair.category := by
        refine if_neg fun blank => remainder ?_
        rw [categoryFor, if_pos blank]
      rw [named] at reads remainder ⊢
      rw [weight_pair remainder]
      exact ⟨Nat.le_of_eq text.symm, fun _ => ⟨remainder, valued, reads⟩⟩

theorem weight_pairsOf (dialect : Dialect) (cs : List Char) :
    ((pairsOf dialect cs).map (weight dialect)).sum ≤ letters cs := by
  induction cs using scan_induction with
  | rest cs none =>
    rw [pairsOf_of_none dialect none, Piece.pair?_ofEnd]
    split
    · exact Nat.zero_le _
    · exact Nat.le_of_eq (weight_free dialect cs)
  | pair cs before written after found ih =>
    obtain ⟨wellFormed, split⟩ := Pair.find?_split found
    have lead := weight_free dialect before
    have here := (wellFormed.weight_le dialect).1
    rw [pairsOf_of_find? dialect found, split]
    simp only [List.map_append, List.sum_append, letters_append]
    omega

/-- Where everything is said, the pair that is found is read as such, and everything behind it is
said. -/
theorem Full.of_find? {dialect : Dialect} {cs before after : List Char} {pair : Pair}
    (full : Full dialect cs) (found : Pair.find? cs = some (before, pair, after)) :
    pair.Proper dialect ∧ Full dialect after := by
  obtain ⟨wellFormed, split⟩ := Pair.find?_split found
  have lead := weight_free dialect before
  obtain ⟨here, proper⟩ := wellFormed.weight_le dialect
  have later := weight_pairsOf dialect after
  rw [Full, pairsOf_of_find? dialect found, split] at full
  simp only [List.map_append, List.sum_append, letters_append] at full
  exact ⟨proper (by omega), by rw [Full]; omega⟩

theorem Full.of_none {dialect : Dialect} {cs : List Char} (full : Full dialect cs)
    (none : Pair.find? cs = none) : readDangling? (cs.dropWhile isBlank) = Option.none := by
  cases read : readDangling? (cs.dropWhile isBlank) with
  | none => rfl
  | some result =>
    obtain ⟨-, split, -⟩ := readDangling?_sound read
    have whole := List.takeWhile_append_dropWhile (p := isBlank) (l := cs)
    have colon : 0 < letters cs := by
      rw [← whole, split, letters_append, letters_append, letters_colon]
      omega
    -- Such an end says nothing, and its colon is a letter.
    rw [Full, pairsOf_of_none dialect none, Piece.pair?_ofEnd, read] at full
    simp only [Option.isSome_some, ↓reduceIte, Option.toList_none, List.map_nil,
      List.sum_nil] at full
    omega

theorem Full.everyPair {dialect : Dialect} {cs : List Char} (full : Full dialect cs) :
    EveryPair cs (Pair.Proper dialect) := by
  induction cs using scan_induction with
  | rest cs none => exact everyPair_of_none none _
  | pair cs before written after found ih =>
    obtain ⟨proper, later⟩ := full.of_find? found
    exact (everyPair_of_find? found).mpr ⟨proper, ih later⟩

end FacetedSearch.Query
