import FacetedSearch.Proofs.Query.Words

/-! A query without marks is read word by word.

The scan looks for a pair at every character and takes the longest category. Without marks, its
fields are what one pass over the words says: a pair starts where a word does, and no pair ends
inside of one.
-/

set_option autoImplicit false

namespace FacetedSearch.Query

open Text (isBlank isBlankText trimChars Breaks)

/-! ## The reader at a word -/

/-- Nothing behind a word can be the value of the category that it may be. -/
def Word.Settled (word : Word) (rest : List Char) : Prop :=
  word.category? = none ∨ ∀ c ∈ rest, isBlank c = true

theorem readValue?_blank {rest : List Char} (blank : ∀ c ∈ rest, isBlank c = true) :
    Pair.readValue? rest = none := by
  cases read : Pair.readValue? rest with
  | none => rfl
  | some result =>
    obtain ⟨gap, value, after⟩ := result
    obtain ⟨-, rfl, found⟩ := Pair.readValue?_eq_some_iff.mp read
    obtain ⟨grammar, -, -⟩ := Term.read?_eq_some_iff.mp found
    obtain ⟨first, others, rfl, solid⟩ := grammar.exists_first
    simp [blank first (by simp)] at solid

theorem Word.Settled.readValue? {word : Word} {rest category : List Char}
    (settled : word.Settled rest) (ends : word.text = category ++ [':'])
    (nonempty : category ≠ []) : Pair.readValue? rest = none := by
  rcases settled with none | blank
  · simp [Word.category?_eq_some_iff.mpr ⟨ends, nonempty⟩] at none
  · exact readValue?_blank blank

theorem Word.Valid.read?_pair {word : Word} {category value rest : List Char} (valid : word.Valid)
    (breaks : Breaks rest) (settled : word.Settled rest)
    (found : word.pair? = some (category, value)) :
    Pair.read? (word.text ++ rest) = some (⟨category, [], value⟩, rest) := by
  obtain ⟨first, run, rfl, text, nonempty, last⟩ := Word.pair?_eq_some found
  have valuePlain := (valid.pair_plain found).2
  have runSolid : ∀ c ∈ run, isBlank c = false := fun c member =>
    valid.text.solid c (by simp [text, member])
  have readValue : Pair.readValue? (value ++ rest) = some ([], value, rest) :=
    Pair.readValue?_eq_some_iff.mpr
      ⟨by simp, rfl, Term.read?_append valuePlain.spells.isTerm breaks⟩
  -- A later colon of the word could only be its last character.
  have noLater : Pair.readBare? (value ++ rest) = none := by
    rw [Pair.readBare?_eq_none_iff]
    intro front afterColon solid split
    have colon : value ++ rest = front ++ [':'] ++ afterColon := by simpa using split
    obtain ⟨more, same, rfl⟩ := breaks.exists_of_solid (solid_colon solid) colon
    rw [List.append_assoc, List.singleton_append] at same
    have atEnd := splitLast?_eq_none last same
    subst atEnd
    rw [List.nil_append]
    have ends : word.text = first :: (run ++ ':' :: front) ++ [':'] := by simp [text, same]
    exact settled.readValue? ends (List.cons_ne_nil _ _)
  have bare := Pair.readBare?_run runSolid noLater readValue
  have notMark := valid.text.unmarked first (by simp [text])
  have notBlank := valid.text.solid first (by simp [text])
  simp [text, Pair.read?, notMark, notBlank, bare]

theorem Word.Valid.read?_category {word next : Word} {category rest : List Char}
    (valid : word.Valid) (found : word.category? = some category) (nextValid : next.Valid)
    (spaced : Breaks (next.whole ++ rest)) (breaks : Breaks rest) :
    Pair.read? (word.text ++ (next.whole ++ rest)) =
      some (⟨category, next.gap, next.text⟩, rest) := by
  have gap : next.gap ≠ [] := by
    intro nothing
    obtain ⟨c, others, text, solid, -⟩ := nextValid.text.exists_first
    have blank := spaced c (by simp [Word.whole, nothing, text])
    rw [solid] at blank
    contradiction
  obtain ⟨text, -⟩ := Word.category?_eq_some_iff.mp found
  have read := Pair.read?_spaced (valid.category_plain found).spells.isTerm nextValid.gap gap
    (Term.read?_append nextValid.text.spells.isTerm breaks)
  rw [text]
  simpa [Word.whole] using read

/-- The search for a pair goes past a text and on behind it. -/
def Passes (text rest : List Char) : Prop :=
  Pair.find? (text ++ rest) =
    (Pair.find? rest).map fun (before, pair, after) => (text ++ before, pair, after)

theorem passes_nil (rest : List Char) : Passes [] rest := by
  cases found : Pair.find? rest <;> simp [Passes, found]

theorem Passes.append {first second rest : List Char} (passes : Passes first (second ++ rest))
    (behind : Passes second rest) : Passes (first ++ second) rest := by
  unfold Passes at passes behind ⊢
  rw [List.append_assoc, passes, behind, Option.map_map]
  congr 1
  funext result
  simp

theorem passes_blank {gap : List Char} (blank : ∀ c ∈ gap, isBlank c = true) (rest : List Char) :
    Passes gap rest :=
  Pair.find?_behind fun lead c tail split => Pair.read?_blank (blank c (by simp [split])) _

theorem Word.Valid.passes {word : Word} {rest : List Char} (valid : word.Valid)
    (breaks : Breaks rest) (settled : word.Settled rest) (none : word.pair? = none) :
    Passes word.whole rest := by
  refine (passes_blank valid.gap _).append ?_
  refine Pair.find?_behind fun lead c tail split =>
    Pair.read?_eq_none_iff.mpr fun pair derives => ?_
  obtain ⟨⟨category, gapBlank, value⟩, more, same⟩ := derives
  obtain ⟨d, others, starts, -⟩ := category.exists_first
  have here : c = d := by
    rw [Pair.text, starts] at same
    exact (List.cons.inj same).1
  have notMark : isMark d = false := valid.text.unmarked d (by simp [split, here])
  have solid := (starts ▸ category).solid_of_notMark notMark
  rw [← starts] at solid
  -- The colon of the pair stands in the word: its last character, or it would divide the word.
  have colon : c :: tail ++ rest =
      pair.category ++ [':'] ++ (pair.gap ++ (pair.value ++ more)) := by
    simpa [Pair.text] using same
  obtain ⟨behind, inWord, onward⟩ := breaks.exists_of_solid (solid_colon solid) colon
  have text : word.text = (lead ++ pair.category) ++ ':' :: behind := by
    rw [split, inWord]
    simp
  have nonempty : lead ++ pair.category ≠ [] := by simp [starts]
  obtain rfl := Word.pair?_eq_none none text nonempty
  obtain ⟨found, after, read, -⟩ := Pair.exists_readValue? gapBlank value more
  rw [onward, List.nil_append, settled.readValue? text nonempty] at read
  simp at read

/-! ## What is said -/

def Field.said (field : Field) : Said := (field.category, field.value)

def Piece.said? (piece : Piece) : Option Said := (piece.field? 0).map Field.said

def saidIn (cs : List Char) : List Said := (pieces cs).filterMap Piece.said?

theorem map_said_fieldsFrom (start : Nat) (pieces : List Piece) :
    (fieldsFrom start pieces).map Field.said = pieces.filterMap Piece.said? := by
  induction pieces generalizing start with
  | nil => rfl
  | cons piece rest ih =>
    rw [fieldsFrom, List.map_append, ih, List.filterMap_cons]
    cases piece <;> rfl

def withoutBlankEnd (said : List Said) : List Said :=
  if said.getLast? = some (none, "") then said.dropLast else said

theorem withoutBlankEnd_pair (first rest : List Said) (category value : String) :
    withoutBlankEnd (first ++ (some category, value) :: rest) =
      first ++ (some category, value) :: withoutBlankEnd rest := by
  cases rest with
  | nil => simp [withoutBlankEnd]
  | cons next rest =>
    unfold withoutBlankEnd
    rw [List.getLast?_append_of_ne_nil _ (by simp), List.getLast?_cons_cons]
    split <;> simp

theorem said_lead {words : List Word} {gap : List Char} (valid : ∀ word ∈ words, word.Valid)
    (blank : ∀ c ∈ gap, isBlank c = true) :
    (Piece.ofLead (textOf words ++ gap)).filterMap Piece.said? = sayText words := by
  cases words with
  | nil =>
    rcases Piece.ofLead_blank blank with lead | lead <;>
      rw [textOf, List.flatMap_nil, List.nil_append, lead] <;> rfl
  | cons first rest =>
    have trimmed := trimChars_textOf valid blank
    have visible : ¬ ∀ c ∈ textOf (first :: rest) ++ gap, isBlank c = true := by
      rw [← Text.trimChars_eq_nil_iff, trimmed]
      simp [(valid first List.mem_cons_self).text.nonempty]
    rw [Piece.ofLead_visible visible, sayText, ← trimmed]
    rfl

theorem saidIn_of_none {cs : List Char} (none : Pair.find? cs = none) (nonempty : cs ≠ []) :
    saidIn cs = ((Piece.ofEnd cs).said?).toList := by
  rw [saidIn, pieces_of_none none nonempty, List.filterMap_cons]
  cases (Piece.ofEnd cs).said? <;> rfl

/-! ## The end of a query -/

theorem Word.Valid.bareCategory?_eq {word : Word} (valid : word.Valid) :
    bareCategory? word.text = word.category? := by
  ext category
  rw [bareCategory?_eq_some_iff, Word.category?_eq_some_iff]
  refine and_congr_right fun text => ⟨?_, fun nonempty => ?_⟩
  · rintro ⟨first, rest, rfl, -⟩
    exact List.cons_ne_nil first rest
  · obtain ⟨first, rest, rfl⟩ := List.exists_cons_of_ne_nil nonempty
    exact ⟨first, rest, rfl, valid.text.unmarked first (by simp [text])⟩

theorem Word.Valid.readDangling?_eq {word : Word} (valid : word.Valid) {rest : List Char}
    (breaks : Breaks rest) : readDangling? (word.text ++ rest) =
      if isBlankText rest then word.category?.map fun category => (category, rest) else none := by
  have solid : ∀ c ∈ word.text, (!isBlank c) = true := by simpa using valid.text.solid
  have run : (word.text ++ rest).takeWhile (!isBlank ·) = word.text := by
    rw [List.takeWhile_append_of_pos solid, breaks.takeWhile_eq, List.append_nil]
  have behind : (word.text ++ rest).dropWhile (!isBlank ·) = rest := by
    rw [List.dropWhile_append_of_pos solid, breaks.dropWhile_eq]
  obtain ⟨first, others, text, -, notMark⟩ := valid.text.exists_first
  rw [← valid.bareCategory?_eq]
  rw [text, List.cons_append] at run behind ⊢
  simp only [readDangling?, notMark, Bool.false_eq_true, ↓reduceIte, run, behind]

theorem said_end {cs : List Char} {words : List Word} (divided : Divided cs words)
    (none : Pair.find? cs = none) : withoutBlankEnd (saidIn cs) = sayEnd words := by
  cases divided with
  | stop blank =>
    by_cases empty : cs = []
    · simp [empty, saidIn, withoutBlankEnd, sayEnd, sayText]
    · have trimmed := (Text.trimChars_eq_nil_iff cs).mpr blank
      rw [saidIn_of_none none empty, Piece.ofEnd_blank blank]
      simp [Piece.said?, Piece.field?, Field.said, trimmed, withoutBlankEnd, sayEnd, sayText]
  | @word rest word words valid breaks behind =>
    have visible : word.text ≠ [] := valid.text.nonempty
    have nonempty : word.whole ++ rest ≠ [] := by simp [Word.whole, visible]
    have dropped : (word.whole ++ rest).dropWhile isBlank = word.text ++ rest := by
      obtain ⟨c, others, text, solid, -⟩ := valid.text.exists_first
      rw [Word.whole, List.append_assoc, List.dropWhile_append_of_pos valid.gap, text]
      simp [solid]
    have free : withoutBlankEnd ((Piece.free (word.whole ++ rest)).said?).toList =
        sayText (word :: words) := by
      have all := Divided.word valid breaks behind
      obtain ⟨trail, blank, split⟩ := all.exists_trail
      have trimmed := trimChars_textOf all.valid blank
      simp [Piece.said?, Piece.field?, Field.said, split, trimmed, withoutBlankEnd, sayText,
        visible]
    rw [saidIn_of_none none nonempty, Piece.ofEnd, dropped, valid.readDangling?_eq breaks]
    -- Alone before blanks the word may dangle; with another word behind it, it does not.
    cases behind with
    | stop blank =>
      rw [if_pos ((Text.isBlankText_iff rest).mpr blank), sayEnd]
      cases found : word.category? with
      | none => exact free
      | some category =>
        have content := (valid.category_plain found).content_eq
        simp [Piece.said?, Piece.field?, Field.said, content, withoutBlankEnd]
    | @word rest next words nextValid =>
      obtain ⟨c, others, text, solid, -⟩ := nextValid.text.exists_first
      have notBlank : isBlankText (next.whole ++ rest) = false := by
        simp [isBlankText, Word.whole, text, solid]
      rw [notBlank]
      exact free

/-! ## The pass -/

/-- The pass stands before `rest` and its words; no pair starts in the words that it keeps. -/
structure Pending (kept words : List Word) (rest : List Char) : Prop where
  divided : Divided rest words
  whole : Divided (textOf kept ++ rest) (kept ++ words)
  passes : Passes (textOf kept) rest

theorem Divided.pending {rest : List Char} {words : List Word} (divided : Divided rest words) :
    Pending [] words rest :=
  ⟨divided, divided, passes_nil rest⟩

theorem Pending.keep {kept words : List Word} {word : Word} {behind : List Char}
    (state : Pending kept (word :: words) (word.whole ++ behind)) (valid : word.Valid)
    (breaks : Breaks behind) (divided : Divided behind words) (settled : word.Settled behind)
    (none : word.pair? = none) : Pending (kept ++ [word]) words behind where
  divided := divided
  whole := by simpa [textOf] using state.whole
  passes := by
    have all := state.passes.append (valid.passes breaks settled none)
    simpa [textOf] using all

theorem Pending.said_pair {kept words : List Word} {word : Word} {behind after : List Char}
    {pair : Pair} (state : Pending kept (word :: words) (word.whole ++ behind))
    (read : Pair.read? (word.text ++ behind) = some (pair, after))
    (category : Plain pair.category) (value : Plain pair.value) :
    withoutBlankEnd (saidIn (textOf kept ++ (word.whole ++ behind))) =
      sayText kept ++ (some (String.ofList pair.category), String.ofList pair.value) ::
        withoutBlankEnd (saidIn after) := by
  have gap := (state.divided.valid word List.mem_cons_self).gap
  have valid : ∀ word ∈ kept, word.Valid := fun word member =>
    state.whole.valid word (List.mem_append_left _ member)
  have found : Pair.find? (textOf kept ++ (word.whole ++ behind)) =
      some (textOf kept ++ word.gap, pair, after) := by
    rw [state.passes, Word.whole, List.append_assoc, passes_blank gap, Pair.find?_of_read? read]
    simp
  have here : (Piece.pair pair).said? =
      some (some (String.ofList pair.category), String.ofList pair.value) := by
    simp [Piece.said?, Piece.field?, Field.said, category.content_eq, value.content_eq]
  rw [saidIn, pieces_of_find? found, List.filterMap_append, said_lead valid gap,
    List.filterMap_cons_some here, ← saidIn, withoutBlankEnd_pair]

def Agrees (words : List Word) : Prop :=
  ∀ kept rest, Pending kept words rest →
    withoutBlankEnd (saidIn (textOf kept ++ rest)) = sayParts kept (parts words)

theorem agrees_nil : Agrees [] := by
  intro kept rest state
  have none : Pair.find? (textOf kept ++ rest) = none := by
    cases state.divided with
    | stop blank =>
      have nothing := passes_blank blank []
      rw [Passes, List.append_nil] at nothing
      rw [state.passes, nothing]
      rfl
  have whole := state.whole
  rw [List.append_nil] at whole
  exact said_end whole none

theorem Word.agrees {word : Word} {words : List Word} (ih : Agrees words)
    (settled : word.category? = none ∨ words = [])
    (alone : parts (word :: words) = word.part :: parts words) : Agrees (word :: words) := by
  intro kept rest state
  cases state.divided with
  | @word behind _ _ valid breaks divided =>
    have settled : word.Settled behind := by
      refine settled.imp_right ?_
      rintro rfl
      cases divided with
      | stop blank => exact blank
    rw [alone, Word.part]
    -- A word that is no pair joins those that are kept; a pair comes behind them.
    cases found : word.pair? with
    | none =>
      have agrees := ih _ _ (state.keep valid breaks divided settled found)
      simpa [textOf, sayParts] using agrees
    | some pair =>
      obtain ⟨category, value⟩ := pair
      have read := valid.read?_pair breaks settled found
      obtain ⟨categoryPlain, valuePlain⟩ := valid.pair_plain found
      rw [state.said_pair read categoryPlain valuePlain, sayParts]
      exact congrArg _ (congrArg _ (ih [] behind divided.pending))

theorem agrees_category {word next : Word} {words : List Word} {category : List Char}
    (ih : Agrees words) (found : word.category? = some category) :
    Agrees (word :: next :: words) := by
  intro kept rest state
  cases state.divided with
  | @word behind _ _ valid breaks divided =>
    cases divided with
    | @word after _ _ nextValid nextBreaks divided =>
      have read := valid.read?_category found nextValid breaks nextBreaks
      rw [state.said_pair read (valid.category_plain found) nextValid.text, parts]
      simp only [found, sayParts]
      exact congrArg _ (congrArg _ (ih [] after divided.pending))

theorem agrees (words : List Word) : Agrees words := by
  -- The cases are those of the pass: no word, the last one, a category and its value, another.
  induction words using parts.induct with
  | case1 => exact agrees_nil
  | case2 word => exact word.agrees agrees_nil (.inr rfl) rfl
  | case3 word next words category found ih => exact agrees_category ih found
  | case4 word next words none ih => exact word.agrees ih (.inl none) (by simp [parts, none])

/-- Without marks, what the fields of a query say is what its words say one by one, leaving out
blanks behind the last pair. -/
theorem fields_wordwise (query : String) (unmarked : ∀ c ∈ query.toList, isMark c = false) :
    withoutBlankEnd ((fields query).map Field.said) = wordwise query := by
  have divided : Divided ([] ++ ([] ++ query.toList)) (wordsFrom [] [] query.toList) :=
    divided_wordsFrom (by simp) (by simp) unmarked
  rw [fields_eq, map_said_fieldsFrom]
  exact agrees _ [] _ divided.pending

theorem fields_wordwise_colons :
    (∀ c ∈ "a: b:c: x  y :: : k:l:m e:".toList, isMark c = false) ∧
    withoutBlankEnd ((fields "a: b:c: x  y :: : k:l:m e:").map Field.said) =
      [(some "a", "b:c:"), (none, "x  y"), (some ":", ":"), (some "k:l", "m"), (some "e", "")] := by
  have unmarked : ∀ c ∈ "a: b:c: x  y :: : k:l:m e:".toList, isMark c = false := by
    simp [isMark]
  refine ⟨unmarked, ?_⟩
  rw [fields_wordwise _ unmarked]
  decide

end FacetedSearch.Query
