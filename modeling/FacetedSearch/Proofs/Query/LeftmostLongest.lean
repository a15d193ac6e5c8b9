import FacetedSearch.Proofs.Query.Scan

/-! The scan finds exactly the pairs of the grammar.

From every cursor that a scan reaches, it yields a pair if the grammar derives one there or later.
Of all of these it takes the leftmost, then the longest category, then the longest value. Nothing
that the scan yields as free text has the start of a pair in it.
-/

set_option autoImplicit false

namespace FacetedSearch.Query

open Text (isBlank trimChars byteLength byteLength_append)

/-- The next pair that a scan yields from a cursor, and the place where it starts. -/
def YieldsPair (cs : List Char) (cursor start : Nat) (pair : Pair) : Prop :=
  ∃ before after, start = cursor + before.length ∧
    cs.drop cursor = before ++ (pair.text ++ after) ∧
    pieces (cs.drop cursor) = Piece.ofLead before ++ .pair pair :: pieces after

/-- Of all pairs that the grammar derives at or behind a cursor: the leftmost, of these one with the
longest category, and of these the one with the longest value. -/
structure LeftmostLongest (cs : List Char) (cursor start : Nat) (pair : Pair) : Prop where
  behind : cursor ≤ start
  derives : pair.DerivesAt (cs.drop start)
  leftmost : ∀ i (other : Pair), cursor ≤ i → other.DerivesAt (cs.drop i) → start ≤ i
  category : ∀ other : Pair, other.DerivesAt (cs.drop start) →
    other.category.length ≤ pair.category.length
  value : ∀ other : Pair, other.DerivesAt (cs.drop start) → other.category = pair.category →
    other.value.length ≤ pair.value.length

def pairField (cs : List Char) (start : Nat) (pair : Pair) (category value : List Char) : Field :=
  ⟨some (String.ofList (trimChars category)), String.ofList (trimChars value),
    ⟨byteAt cs start, byteAt cs (start + pair.text.length)⟩⟩

theorem Pair.DerivesAt.inside {cs : List Char} {i : Nat} {pair : Pair}
    (derives : pair.DerivesAt (cs.drop i)) : i < cs.length := by
  obtain ⟨-, rest, split⟩ := derives
  have lengths := congrArg List.length split
  simp only [List.length_drop, List.length_append, Pair.text, List.length_cons] at lengths
  omega

theorem Pair.find?_leftmost {cs before after : List Char} {pair other : Pair} {i : Nat}
    (found : Pair.find? cs = some (before, pair, after)) (derives : other.DerivesAt (cs.drop i)) :
    before.length ≤ i := by
  obtain ⟨rest, rfl, -, none⟩ := Pair.find?_eq_some_iff.mp found
  by_contra earlier
  -- The place lies in the text before the pair, where none is read.
  have inside : i < before.length := by omega
  have split := (List.take_append_drop i before).symm
  rw [List.drop_eq_getElem_cons inside] at split
  refine Pair.read?_eq_none_iff.mp (none _ _ _ split) other ?_
  rwa [List.drop_append_of_le_length (by omega), List.drop_eq_getElem_cons inside] at derives

theorem Pair.find?_derives {cs before after : List Char} {pair : Pair}
    (found : Pair.find? cs = some (before, pair, after)) :
    pair.DerivesAt (cs.drop before.length) := by
  obtain ⟨wellFormed, split⟩ := Pair.find?_split found
  exact ⟨wellFormed, after, by rw [split, List.drop_left]⟩

theorem Pair.find?_none_derives {cs : List Char} (none : Pair.find? cs = none) (i : Nat)
    (pair : Pair) : ¬ pair.DerivesAt (cs.drop i) := by
  have nothing := Pair.find?_eq_none_iff.mp none _ _ (List.take_append_drop i cs).symm
  exact Pair.read?_eq_none_iff.mp nothing pair

theorem Pair.find?_isSome_of_derives {cs : List Char} {i : Nat} {pair : Pair}
    (derives : pair.DerivesAt (cs.drop i)) : ∃ result, Pair.find? cs = some result := by
  cases found : Pair.find? cs with
  | none => exact absurd derives (Pair.find?_none_derives found i pair)
  | some result => exact ⟨result, rfl⟩

theorem Piece.ofLead_pair_inj {first second : List Char} {pair other : Pair}
    {rest more : List Piece}
    (same : Piece.ofLead first ++ .pair pair :: rest = Piece.ofLead second ++ .pair other :: more) :
    first = second ∧ pair = other := by
  have leads : Piece.ofLead first = Piece.ofLead second ∧ pair = other := by
    rcases Piece.ofLead_eq first with left | left | left <;>
      rcases Piece.ofLead_eq second with right | right | right <;>
      simp [left, right] at same ⊢ <;> simp [same]
  refine ⟨?_, leads.2⟩
  rw [← Piece.flatMap_text_ofLead first, leads.1, Piece.flatMap_text_ofLead]

theorem find?_of_pieces {cs before after : List Char} {pair : Pair}
    (split : cs = before ++ (pair.text ++ after))
    (yields : pieces cs = Piece.ofLead before ++ .pair pair :: pieces after) :
    Pair.find? cs = some (before, pair, after) := by
  cases found : Pair.find? cs with
  | none =>
    have member : .pair pair ∈ pieces cs := by simp [yields]
    exact absurd member (pair_notMem_of_none found pair)
  | some result =>
    obtain ⟨otherBefore, other, otherAfter⟩ := result
    rw [pieces_of_find? found] at yields
    obtain ⟨rfl, rfl⟩ := Piece.ofLead_pair_inj yields
    obtain ⟨-, again⟩ := Pair.find?_split found
    rw [split, List.append_cancel_left_eq, List.append_cancel_left_eq] at again
    rw [again]

theorem yieldsPair_iff {cs : List Char} {cursor start : Nat} {pair : Pair} :
    YieldsPair cs cursor start pair ↔ ∃ before after, start = cursor + before.length ∧
      Pair.find? (cs.drop cursor) = some (before, pair, after) := by
  constructor
  · rintro ⟨before, after, place, split, yields⟩
    exact ⟨before, after, place, find?_of_pieces split yields⟩
  · rintro ⟨before, after, place, found⟩
    exact ⟨before, after, place, (Pair.find?_split found).2, pieces_of_find? found⟩

theorem drop_behind (cs : List Char) {cursor i : Nat} (atLeast : cursor ≤ i) :
    cs.drop i = (cs.drop cursor).drop (i - cursor) := by
  rw [List.drop_drop]
  congr 1
  omega

theorem YieldsPair.leftmostLongest {cs : List Char} {cursor start : Nat} {pair : Pair}
    (yields : YieldsPair cs cursor start pair) : LeftmostLongest cs cursor start pair := by
  obtain ⟨before, after, rfl, found⟩ := yieldsPair_iff.mp yields
  have derives := Pair.find?_derives found
  rw [List.drop_drop] at derives
  obtain ⟨rest, split, read, -⟩ := Pair.find?_eq_some_iff.mp found
  have here : cs.drop (cursor + before.length) = rest := by
    rw [← List.drop_drop, split, List.drop_left]
  -- What is read from the place of the pair is as long as anything derived there.
  have longest (other : Pair) (derives : other.DerivesAt (cs.drop (cursor + before.length))) :
      other.category.length ≤ pair.category.length ∧
        (other.category = pair.category → other.value.length ≤ pair.value.length) := by
    obtain ⟨found, after, again, category, value⟩ := derives.exists_read?
    rw [here, read, Option.some.injEq, Prod.mk.injEq] at again
    exact again.1 ▸ ⟨category, value⟩
  refine ⟨by omega, derives, fun i other atLeast otherDerives => ?_,
    fun other derives => (longest other derives).1, fun other derives => (longest other derives).2⟩
  have atMost := Pair.find?_leftmost found (drop_behind cs atLeast ▸ otherDerives)
  omega

theorem exists_yieldsPair_iff {cs : List Char} {cursor : Nat} :
    (∃ start pair, YieldsPair cs cursor start pair) ↔
      ∃ i, ∃ pair : Pair, cursor ≤ i ∧ pair.DerivesAt (cs.drop i) := by
  constructor
  · rintro ⟨start, pair, yields⟩
    exact ⟨start, pair, yields.leftmostLongest.behind, yields.leftmostLongest.derives⟩
  · rintro ⟨i, pair, atLeast, derives⟩
    obtain ⟨⟨before, found, after⟩, search⟩ :=
      Pair.find?_isSome_of_derives (drop_behind cs atLeast ▸ derives)
    exact ⟨_, found, yieldsPair_iff.mpr ⟨before, after, rfl, search⟩⟩

theorem exists_yieldsPair_of_mem {cs : List Char} {cursor : Nat} {pair : Pair}
    (member : .pair pair ∈ pieces (cs.drop cursor)) :
    ∃ start first, YieldsPair cs cursor start first := by
  cases found : Pair.find? (cs.drop cursor) with
  | none => exact absurd member (pair_notMem_of_none found pair)
  | some result =>
    obtain ⟨before, first, after⟩ := result
    exact ⟨_, first, yieldsPair_iff.mpr ⟨before, after, rfl, found⟩⟩

theorem YieldsPair.fieldsAt_eq {cs : List Char} {cursor start : Nat} {pair : Pair}
    (yields : YieldsPair cs cursor start pair) : ∃ category value,
      Term.Spells pair.category category ∧ Term.Spells pair.value value ∧
      fieldsAt cs cursor =
        fieldsFrom (byteAt cs cursor) (Piece.ofLead ((cs.drop cursor).take (start - cursor))) ++
          pairField cs start pair category value :: fieldsAt cs (start + pair.text.length) := by
  obtain ⟨wellFormed, -⟩ := yields.leftmostLongest.derives
  obtain ⟨before, after, rfl, found⟩ := yieldsPair_iff.mp yields
  obtain ⟨category, categorySpells⟩ := wellFormed.category.spells
  obtain ⟨value, valueSpells⟩ := wellFormed.value.spells
  have lead : (cs.drop cursor).take (cursor + before.length - cursor) = before := by
    rw [Nat.add_sub_cancel_left, take_of_find? found]
  refine ⟨category, value, categorySpells, valueSpells, ?_⟩
  rw [fieldsAt_of_find? found, lead, Scan.fieldOf, categorySpells.content_eq,
    valueSpells.content_eq]
  rfl

/-- A field of free text is a stretch of its text in which no pair starts. -/
theorem exists_free_text (done cs : List Char) {field : Field}
    (member : field ∈ fieldsFrom (byteLength done) (pieces cs)) (free : field.category = none) :
    ∃ lead text rest, cs = lead ++ (text ++ rest) ∧
      field.span = ⟨byteLength (done ++ lead), byteLength (done ++ lead ++ text)⟩ ∧
      ∀ n < text.length, ∀ pair : Pair, ¬ pair.DerivesAt ((text ++ rest).drop n) := by
  -- The induction goes along the scan; `done` is the text that it has passed.
  induction cs using scan_induction generalizing done with
  | rest cs none =>
    have nonempty : cs ≠ [] := by
      rintro rfl
      simp [fieldsFrom] at member
    rw [pieces_of_none none nonempty] at member
    refine ⟨[], cs, [], by simp, ?_, fun n _ pair => ?_⟩
    · rcases Piece.ofEnd_cases cs with last | ⟨lead, category, trail, last, -⟩ <;>
        simp [last, fieldsFrom, Piece.field?] at member <;> subst member
      · simp [Piece.text]
      · simp at free
    · rw [List.append_nil]
      exact Pair.find?_none_derives none n pair
  | pair cs before written after found ih =>
    obtain ⟨-, split⟩ := Pair.find?_split found
    rw [pieces_of_find? found, fieldsFrom_append, List.mem_append,
      Piece.flatMap_text_ofLead] at member
    rcases member with member | member
    · refine ⟨[], before, written.text ++ after, split, ?_, fun n inside pair derives => ?_⟩
      · unfold Piece.ofLead at member
        split at member
        · simp [fieldsFrom] at member
        · split at member <;> simp [fieldsFrom, Piece.field?] at member
          simp [member, Piece.text]
      · rw [← split] at derives
        have leftmost := Pair.find?_leftmost found derives
        omega
    · simp only [fieldsFrom, Piece.field?, Option.toList_some, List.singleton_append,
        List.mem_cons] at member
      rcases member with rfl | member
      · simp at free
      · have place : byteLength done + byteLength before + byteLength (Piece.pair written).text =
            byteLength (done ++ (before ++ written.text)) := by
          simp [Piece.text, Nat.add_assoc]
        rw [place] at member
        obtain ⟨lead, text, rest, same, span, none⟩ := ih (done ++ (before ++ written.text)) member
        exact ⟨before ++ (written.text ++ lead), text, rest, by simp [split, same],
          by simp [span], none⟩

theorem free_text_underivable {query : String} {field : Field} (member : field ∈ fields query)
    (free : field.category = none) {i : Nat} {pair : Pair}
    (derives : pair.DerivesAt (query.toList.drop i)) :
    ¬ (field.span.start ≤ byteAt query.toList i ∧ byteAt query.toList i < field.span.stop) := by
  rintro ⟨atLeast, before⟩
  obtain ⟨lead, text, rest, split, span, none⟩ :=
    exists_free_text [] query.toList (by simpa [fields_eq, byteLength] using member) free
  have inside := derives.inside
  rw [span, List.nil_append, split, ← byteAt_length lead (text ++ rest)] at atLeast
  rw [span, List.nil_append, split, ← byteAt_length (lead ++ text) rest,
    List.append_assoc] at before
  rw [split] at inside derives
  have behindLead := le_of_byteAt_le inside atLeast
  -- Bytes keep the order of places, so the pair would start inside the free text.
  have beforeEnd : i < (lead ++ text).length := by
    by_contra beyond
    rcases Nat.eq_or_lt_of_le (Nat.le_of_not_lt beyond) with same | later
    · exact absurd before (by rw [same]; exact Nat.lt_irrefl _)
    · have less := byteAt_lt (lead ++ (text ++ rest)) later (Nat.lt_trans later inside)
      exact Nat.lt_asymm before less
  have moved : (lead ++ (text ++ rest)).drop i = (text ++ rest).drop (i - lead.length) := by
    rw [List.drop_append, List.drop_eq_nil_of_le behindLead, List.nil_append]
  rw [moved] at derives
  rw [List.length_append] at beforeEnd
  exact none (i - lead.length) (by omega) pair derives

/-- From every cursor that the scan of a query reaches, the rest of the fields is yielded. There is
a pair among them if and only if the grammar derives one at or behind the cursor. The first pair is
the leftmost and longest one; its field has what its terms spell, trimmed, and the scan goes on
behind it. No pair of the query starts inside of free text. -/
theorem scan_leftmost_longest (query : String) {cursor : Nat}
    (reached : Reaches query.toList cursor) :
    (∃ earlier, fields query = earlier ++ fieldsAt query.toList cursor) ∧
    ((∃ start pair, YieldsPair query.toList cursor start pair) ↔
      ∃ i, ∃ pair : Pair, cursor ≤ i ∧ pair.DerivesAt (query.toList.drop i)) ∧
    (∀ pair, .pair pair ∈ pieces (query.toList.drop cursor) →
      ∃ start first, YieldsPair query.toList cursor start first) ∧
    (∀ start pair, YieldsPair query.toList cursor start pair →
      LeftmostLongest query.toList cursor start pair ∧
      ∃ category value, Term.Spells pair.category category ∧ Term.Spells pair.value value ∧
        fieldsAt query.toList cursor =
          fieldsFrom (byteAt query.toList cursor)
            (Piece.ofLead ((query.toList.drop cursor).take (start - cursor))) ++
          pairField query.toList start pair category value ::
            fieldsAt query.toList (start + pair.text.length)) ∧
    ∀ field ∈ fields query, field.category = none →
      ∀ i, ∀ pair : Pair, pair.DerivesAt (query.toList.drop i) →
        ¬ (field.span.start ≤ byteAt query.toList i ∧ byteAt query.toList i < field.span.stop) :=
  ⟨reached.fields_eq, exists_yieldsPair_iff, fun _ => exists_yieldsPair_of_mem,
    fun _ _ yields => ⟨yields.leftmostLongest, yields.fieldsAt_eq⟩,
    fun _ member free _ _ derives => free_text_underivable member free derives⟩

/-- Behind a stray mark and a first pair, a quoted category is found. -/
theorem scan_behind_first_pair : Reaches "\"a:b 'c d': e".toList 4 ∧
    ∃ start pair, YieldsPair "\"a:b 'c d': e".toList 4 start pair ∧
      LeftmostLongest "\"a:b 'c d': e".toList 4 start pair := by
  have found : Pair.find? ("\"a:b 'c d': e".toList.drop 0) =
      some (['"'], ⟨['a'], [], ['b']⟩, " 'c d': e".toList) := by decide
  have reached : Reaches "\"a:b 'c d': e".toList 4 := .behind .start found
  have category : IsTerm ('\'' :: ("c d".toList ++ ['\''])) :=
    .quoted (by decide) (by decide) (by decide)
  have value : IsTerm ['e'] := .bare (by decide) (by decide) (by simp)
  have derives : Pair.DerivesAt ⟨"'c d'".toList, [' '], ['e']⟩ ("\"a:b 'c d': e".toList.drop 5) :=
    ⟨⟨category, Text.space_blank, value⟩, [], by decide⟩
  obtain ⟨-, finds, -, yielded, -⟩ := scan_leftmost_longest "\"a:b 'c d': e" reached
  obtain ⟨start, pair, yields⟩ := finds.mpr ⟨5, _, by decide, derives⟩
  exact ⟨reached, start, pair, yields, (yielded start pair yields).1⟩

end FacetedSearch.Query
