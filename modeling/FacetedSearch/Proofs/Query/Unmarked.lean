import FacetedSearch.Proofs.Query.Rereading

/-! What is read in a text without marks.

Every term of such a text is bare, so a pair says exactly what is written. Free text in it has no
colon behind a character that is not blank, or a pair would start there; only the last free text
may end with one.
-/

set_option autoImplicit false

namespace FacetedSearch.Query

open Text (isBlank trimChars Tight)

/-- A text that is a bare term and is written as it is. -/
structure Plain (text : List Char) : Prop where
  nonempty : text ≠ []
  solid : ∀ c ∈ text, isBlank c = false
  unmarked : ∀ c ∈ text, isMark c = false

theorem Plain.spells {text : List Char} (plain : Plain text) : Term.Spells text text := by
  obtain ⟨first, rest, rfl⟩ := List.exists_cons_of_ne_nil plain.nonempty
  exact .bare (plain.unmarked first (by simp)) (plain.solid first (by simp))
    fun c member => plain.solid c (by simp [member])

theorem Plain.tight {text : List Char} (plain : Plain text) : Tight text :=
  Text.tight_of_solid plain.solid

theorem Plain.content_eq {text : List Char} (plain : Plain text) :
    Term.content text = String.ofList text := by
  rw [plain.spells.content_eq, plain.tight.trimChars_eq]

theorem Plain.of_subset {text part : List Char} (plain : Plain text) (nonempty : part ≠ [])
    (inside : part ⊆ text) : Plain part :=
  ⟨nonempty, fun c member => plain.solid c (inside member),
    fun c member => plain.unmarked c (inside member)⟩

/-- A plain text with a colon behind its first character starts a pair or dangles. -/
theorem Plain.no_colon {text : List Char} (plain : Plain text) (none : Pair.find? text = none)
    (settled : readDangling? text = Option.none) : ':' ∉ text.tail := by
  obtain ⟨first, rest, rfl⟩ := List.exists_cons_of_ne_nil plain.nonempty
  intro member
  obtain ⟨run, behind, rfl⟩ := List.append_of_mem member
  have category : Plain (first :: run) :=
    plain.of_subset (List.cons_ne_nil first run) (by intro c; simp; tauto)
  -- Without a value behind it the colon dangles, and with one it makes a pair.
  by_cases empty : behind = []
  · subst empty
    exact readDangling?_eq_none_iff.mp settled _ [] category.spells.isTerm rfl (by simp)
  · have value : Plain behind := plain.of_subset empty (by intro c; simp; tauto)
    refine Pair.read?_eq_none_iff.mp (Pair.find?_eq_none_iff.mp none [] _ rfl)
      ⟨first :: run, [], behind⟩ ⟨⟨category.spells.isTerm, by simp, value.spells.isTerm⟩, [], ?_⟩
    simp [Pair.text]

theorem IsTerm.plain {term : List Char} (grammar : IsTerm term)
    (unmarked : ∀ c ∈ term, isMark c = false) : Plain term := by
  refine ⟨grammar.ne_nil, ?_, unmarked⟩
  obtain ⟨first, rest, rfl, -⟩ := grammar.exists_first
  exact grammar.solid_of_notMark (unmarked first (by simp))

/-! ## Scans -/

def Pair.plainly (pair : Pair) : String × String :=
  (String.ofList pair.category, String.ofList pair.value)

/-- A step of a scan over a text without marks. -/
structure PlainStep (before : List Char) (pair : Pair) (after : List Char) : Prop where
  before : ∀ c ∈ before, isMark c = false
  category : Plain pair.plainly.1.toList
  value : Plain pair.plainly.2.toList
  after : ∀ c ∈ after, isMark c = false

theorem Pair.find?_plain {cs before after : List Char} {pair : Pair}
    (unmarked : ∀ c ∈ cs, isMark c = false)
    (found : Pair.find? cs = some (before, pair, after)) : PlainStep before pair after := by
  obtain ⟨wellFormed, rfl⟩ := Pair.find?_split found
  simp only [Pair.text, List.mem_append, List.mem_cons] at unmarked
  have category := wellFormed.category.plain fun c member => unmarked c (by simp [member])
  have value := wellFormed.value.plain fun c member => unmarked c (by simp [member])
  exact ⟨fun c member => unmarked c (by simp [member]),
    by rwa [Pair.plainly, String.toList_ofList], by rwa [Pair.plainly, String.toList_ofList],
    fun c member => unmarked c (by simp [member])⟩

theorem everyPair_plain {cs : List Char} (unmarked : ∀ c ∈ cs, isMark c = false) :
    EveryPair cs fun pair => ∃ before after, PlainStep before pair after := by
  induction cs using scan_induction with
  | rest cs none => exact everyPair_of_none none _
  | pair cs before written after found ih =>
    have step := Pair.find?_plain unmarked found
    exact (everyPair_of_find? found).mpr ⟨⟨before, after, step⟩, ih step.after⟩

section
variable {before after : List Char} {pair : Pair}

theorem PlainStep.category_eq (step : PlainStep before pair after) :
    Term.content pair.category = pair.plainly.1 := by
  simpa [Pair.plainly] using step.category.content_eq

theorem PlainStep.value_eq (step : PlainStep before pair after) :
    Term.content pair.value = pair.plainly.2 := by
  simpa [Pair.plainly] using step.value.content_eq

theorem PlainStep.pair? (dialect : Dialect) (step : PlainStep before pair after) :
    (Piece.pair pair).pair? dialect = some pair.plainly := by
  have named : pair.plainly.1 ≠ "" := by simpa using step.category.nonempty
  have valued : pair.plainly.2 ≠ "" := by simpa using step.value.nonempty
  rw [Piece.pair?_pair, step.category_eq, step.value_eq, if_neg valued]
  simp only [categoryFor, String.isEmpty_iff, named, ↓reduceIte]

end

theorem plain_of_mem_pairsOf {dialect : Dialect} {cs : List Char} {said : String × String}
    (unmarked : ∀ c ∈ cs, isMark c = false) (member : said ∈ pairsOf dialect cs) :
    (∀ c ∈ said.2.toList, isMark c = false) ∧
      (said.1 = dialect.remainder ∨ Plain said.1.toList ∧ Plain said.2.toList) := by
  obtain ⟨piece, inPieces, reads⟩ := List.mem_filterMap.mp member
  rcases Piece.pair?_cases reads with ⟨text, rfl, rfl⟩ | ⟨written, rfl, rfl⟩
  · refine ⟨fun c inValue => unmarked c ?_, .inl rfl⟩
    rw [String.toList_ofList] at inValue
    exact (text_part_of_mem inPieces).subset (Text.mem_of_mem_trimChars inValue)
  · obtain ⟨before, after, step⟩ := everyPair_plain unmarked written inPieces
    have said := Option.some.inj (reads.symm.trans (step.pair? dialect))
    rw [said]
    exact ⟨step.value.unmarked, .inr ⟨step.category, step.value⟩⟩

/-! ## Free text -/

theorem read?_colon {c : Char} {text : List Char} (solid : isBlank c = false)
    (notMark : isMark c = false) (unmarked : ∀ d ∈ text, isMark d = false)
    (visible : ¬ ∀ d ∈ text, isBlank d = true) : Pair.read? (c :: ':' :: text) ≠ none := by
  have behind : text.dropWhile isBlank ≠ [] := fun nothing =>
    visible (fun d member => List.dropWhile_eq_nil_iff.mp nothing d member)
  obtain ⟨d, rest, split⟩ := List.exists_cons_of_ne_nil behind
  have dSolid : isBlank d = false := Text.head_of_dropWhile (by rw [split]; rfl)
  have inText : d ∈ text := List.dropWhile_subset isBlank (by simp [split])
  intro none
  refine Pair.read?_eq_none_iff.mp none ⟨[c], text.takeWhile isBlank, [d]⟩ ⟨⟨?_, ?_, ?_⟩, rest, ?_⟩
  · exact .bare notMark solid (by simp)
  · exact fun e member => List.mem_takeWhile_imp member
  · exact .bare (unmarked d inText) dSolid (by simp)
  · have whole := List.takeWhile_append_dropWhile (p := isBlank) (l := text)
    rw [split] at whole
    simpa [Pair.text] using whole.symm

/-- Free text in front of a pair is read as such anywhere. -/
theorem Pair.find?_freeText {cs before after : List Char} {pair : Pair}
    (unmarked : ∀ c ∈ cs, isMark c = false)
    (found : Pair.find? cs = some (before, pair, after)) (nonempty : trimChars before ≠ []) :
    FreeText (trimChars before) := by
  have step := Pair.find?_plain unmarked found
  refine ⟨nonempty, Text.tight_trimChars before,
    fun c member => step.before c (Text.mem_of_mem_trimChars member), ?_⟩
  intro lead c rest split
  by_contra solid
  obtain ⟨wellFormed, whole⟩ := Pair.find?_split found
  obtain ⟨front, trail, -, -, parts⟩ := Text.exists_trimChars before
  have place : before = (front ++ lead) ++ c :: (':' :: (rest ++ trail)) := by
    refine parts.trans ?_
    rw [split]
    simp
  obtain ⟨next, same, read, none⟩ := Pair.find?_eq_some_iff.mp found
  -- A pair would start at `c`: its value is in the text or is the pair that was found.
  have nothing := none _ _ _ place
  have behind : next = pair.text ++ after := by rwa [same, List.append_cancel_left_eq] at whole
  have inText (d : Char) (member : d ∈ rest ++ trail ++ next) : isMark d = false := by
    refine unmarked d ?_
    rw [same, place]
    simp only [List.mem_append, List.mem_cons] at member ⊢
    tauto
  refine read?_colon (by simpa using solid) (unmarked c (by simp [same, place])) inText ?_
    (by simpa using nothing)
  intro blank
  obtain ⟨first, tail, category, firstSolid⟩ := wellFormed.category.exists_first
  simp [blank first (by simp [behind, Pair.text, category])] at firstSolid

theorem Plain.freeText {text : List Char} (plain : Plain text) (colon : ':' ∉ text.tail) :
    FreeText text := by
  refine ⟨plain.nonempty, plain.tight, plain.unmarked, quiet_of_words ?_⟩
  rw [List.splitOnP_eq_singleton plain.solid]
  simpa using colon

theorem settled_trimChars {cs : List Char} (none : Pair.find? cs = none)
    (settled : readDangling? (cs.dropWhile isBlank) = Option.none) :
    Pair.find? (trimChars cs) = Option.none ∧ readDangling? (trimChars cs) = Option.none := by
  constructor
  · -- A pair derived in the trimmed text is derived in front of the blanks as well.
    obtain ⟨lead, trail, -, -, whole⟩ := Text.exists_trimChars cs
    rw [Pair.find?_eq_none_iff]
    intro front rest split
    rw [Pair.read?_eq_none_iff]
    intro pair derives
    have place : cs = (lead ++ front) ++ (rest ++ trail) := by
      refine whole.trans ?_
      rw [split]
      simp
    have nothing := Pair.find?_eq_none_iff.mp none _ _ place
    exact Pair.read?_eq_none_iff.mp nothing pair (derives.append trail)
  · obtain ⟨trail, trailBlank, whole⟩ := Text.exists_dropWhile cs
    rw [readDangling?_eq_none_iff]
    intro category behind grammar split blank
    have place : cs.dropWhile isBlank = category ++ ':' :: (behind ++ trail) := by
      rw [whole, split]
      simp
    refine readDangling?_eq_none_iff.mp settled category _ grammar place ?_
    intro c member
    rcases List.mem_append.mp member with member | member
    · exact blank c member
    · exact trailBlank c member

/-! ## Reading back -/

section
variable {dialect : Dialect} {said : String × String}

theorem valued_of_tight (nonempty : said.2 ≠ "") (tight : Tight said.2.toList) :
    Valued (facetOf said) :=
  ⟨nonempty, (Text.trim_eq_self_iff _).mpr tight⟩

theorem facetChars_plain (category : Plain said.1.toList) (value : Plain said.2.toList)
    (pair : dialect.isRemainder said.1 = false) :
    facetChars dialect (facetOf said) = said.1.toList ++ ':' :: ' ' :: said.2.toList := by
  have valued : Valued (facetOf said) :=
    valued_of_tight (by simpa using value.nonempty) value.tight
  have categoryChars := quoteChars_solid category.solid category.unmarked
  by_cases unquotable : said.1 ∈ dialect.unquotable
  · rw [facetChars_unquotable valued pair unquotable, facetOf, categoryChars]
  · rw [facetChars_ordinary valued pair unquotable, facetOf, categoryChars,
      quoteChars_solid value.solid value.unmarked]

theorem writtenPair_plain (category : Plain said.1.toList) (value : Plain said.2.toList)
    (pair : dialect.isRemainder said.1 = false) : WrittenPair dialect (facetOf said) :=
  ⟨pair, category.tight, value.tight, _, _, category.spells, value.spells,
    facetChars_plain category value pair⟩

theorem Readable.plain_cons {rest : List Facet} (readable : Readable dialect rest)
    (category : Plain said.1.toList) (value : Plain said.2.toList)
    (colon : said.1 = dialect.remainder → ':' ∉ said.2.toList.tail)
    (apart : dialect.isRemainder said.1 = true →
      ∀ next ∈ rest.head?, dialect.isRemainder next.category = false) :
    Readable dialect (facetOf said :: rest) := by
  have valued : Valued (facetOf said) :=
    valued_of_tight (by simpa using value.nonempty) value.tight
  cases kind : dialect.isRemainder said.1 with
  | false => exact .pair valued (writtenPair_plain category value kind) readable
  | true =>
    have free := value.freeText (colon (isRemainder_iff.mp kind))
    exact readable.free_cons valued kind free (apart kind)

end

def NoInnerColon (dialect : Dialect) (cs : List Char) : Prop :=
  EveryPair cs fun pair => Term.content pair.category = dialect.remainder →
    ':' ∉ (Term.content pair.value).toList.tail

/-- The facets of a text without marks are read back when no two of the remainder stand side by
side and no pair of the remainder has a colon inside its value. -/
theorem readable_pairsOf {dialect : Dialect} {cs : List Char}
    (unmarked : ∀ c ∈ cs, isMark c = false)
    (apart : Apart dialect ((pairsOf dialect cs).map facetOf)) (inner : NoInnerColon dialect cs) :
    Readable dialect ((pairsOf dialect cs).map facetOf) := by
  have remainder : dialect.isRemainder dialect.remainder = true := isRemainder_iff.mpr rfl
  have free {text : List Char} (nonempty : trimChars text ≠ []) :
      Valued (facetOf (dialect.remainder, String.ofList (trimChars text))) :=
    valued_of_tight (by simpa using nonempty) (by simpa using Text.tight_trimChars text)
  induction cs using scan_induction with
  | rest cs none =>
    rw [pairsOf_of_none dialect none, Piece.pair?_ofEnd, Piece.pair?_free]
    split
    · exact .nil
    next settled =>
      split
      · exact .nil
      next nonempty =>
        obtain ⟨noPair, dangling⟩ := settled_trimChars none (by simpa using settled)
        exact .last (free nonempty) remainder (by simpa [facetOf] using noPair)
          (by simpa [facetOf] using dangling)
  | pair cs before written after found ih =>
    have step := Pair.find?_plain unmarked found
    obtain ⟨colon, innerAfter⟩ := (everyPair_of_find? found).mp inner
    rw [step.category_eq, step.value_eq] at colon
    have behind (apart : Apart dialect
        (facetOf written.plainly :: (pairsOf dialect after).map facetOf)) :
        Readable dialect (facetOf written.plainly :: (pairsOf dialect after).map facetOf) := by
      obtain ⟨next, rest⟩ := apart_cons_iff.mp apart
      exact (ih step.after rest innerAfter).plain_cons step.category step.value colon next
    -- Free text in front of the pair comes last, when what it stands before is known.
    rw [pairsOf_of_find? dialect found, step.pair?, Piece.pair?_free] at apart ⊢
    by_cases nothing : trimChars before = []
    · rw [if_pos nothing] at apart ⊢
      exact behind apart
    · rw [if_neg nothing] at apart ⊢
      obtain ⟨next, rest⟩ := apart_cons_iff.mp apart
      exact (behind rest).free_cons (free nothing) remainder
        (by simpa [facetOf] using Pair.find?_freeText unmarked found nothing) (next remainder)

end FacetedSearch.Query
