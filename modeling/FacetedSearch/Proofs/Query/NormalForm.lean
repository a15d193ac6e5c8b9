import FacetedSearch.Proofs.Query.Letters
import FacetedSearch.Proofs.Query.Rereading

/-! Which lists of facets are read back.

A list is read back exactly if it is in normal form: its pairs can be told from anything around
them, and its free text from what is written behind it. That nothing else is read back comes from
counting letters. What is read has all letters that were written, so that no pair of the remainder
is among it; then free text can only be read where it was written, and so can pairs.
-/

set_option autoImplicit false

namespace FacetedSearch.Query

open Text (isBlank trimChars Tight)

/-- Free text is told from the facets that are written behind it: they do not start with free text
as well, no pair of the grammar starts inside the text, and a text at the end is not just a term
and a colon. -/
structure FreeBefore (dialect : Dialect) (text : List Char) (rest : List Facet) : Prop where
  next : ∀ facet ∈ rest.head?, dialect.isRemainder facet.category = false
  noPair : ∀ front tail, text = front ++ tail → tail ≠ [] →
    ∀ pair : Pair, ¬ pair.DerivesAt (tail ++ joined dialect rest)
  notDangling : rest = [] → ∀ category, IsTerm category → text ≠ category ++ [':']

/-- The lists of facets that a query tells exactly. -/
inductive NormalForm (dialect : Dialect) : List Facet → Prop where
  | nil : NormalForm dialect []
  | pair {facet : Facet} {rest : List Facet} : dialect.isRemainder facet.category = false →
      Mixable dialect facet → NormalForm dialect rest → NormalForm dialect (facet :: rest)
  | text {facet : Facet} {rest : List Facet} : dialect.isRemainder facet.category = true →
      Valued facet → FreeBefore dialect facet.value.toList rest → NormalForm dialect rest →
      NormalForm dialect (facet :: rest)

section
variable {dialect : Dialect} {facet : Facet} {rest : List Facet}

theorem NormalForm.writtenPair (normal : NormalForm dialect (facet :: rest))
    (pair : dialect.isRemainder facet.category = false) : WrittenPair dialect facet := by
  cases normal with
  | pair _ mixable => exact mixable.writtenPair pair
  | text remainder => simp [pair] at remainder

theorem FreeBefore.read?_eq_none {text lead tail : List Char} {c : Char}
    (free : FreeBefore dialect text rest) (split : text = lead ++ c :: tail) :
    Pair.read? (c :: tail ++ joined dialect rest) = none :=
  Pair.read?_eq_none_iff.mpr (free.noPair lead (c :: tail) split (List.cons_ne_nil c tail))

theorem FreeBefore.last {text : List Char} (free : FreeBefore dialect text [])
    (tight : Tight text) : Pair.find? text = none ∧ readDangling? text = none := by
  constructor
  · have whole : Pair.find? (text ++ []) = _ :=
      Pair.find?_behind fun lead c tail split => free.read?_eq_none split
    rwa [List.append_nil] at whole
  · rw [readDangling?_eq_none_iff]
    intro category trail grammar split blank
    -- A tight text cannot end in blanks behind the colon.
    have same : text = category ++ [':'] := by
      have trimmed := Text.trimChars_append_blank (category ++ [':']) blank
      have ends : Tight (category ++ [':']) := by
        obtain ⟨first, others, rfl, solid⟩ := grammar.exists_first
        refine ⟨by simpa using solid, fun c last => ?_⟩
        rw [List.getLast?_concat, Option.mem_some_iff] at last
        rw [← last]
        decide
      rw [List.append_assoc, List.singleton_append, ← split, tight.trimChars_eq,
        ends.trimChars_eq] at trimmed
      exact trimmed
    exact free.notDangling rfl category grammar same

end

theorem NormalForm.pairsOf_joined {dialect : Dialect} {facets : List Facet}
    (normal : NormalForm dialect facets) :
    pairsOf dialect (joined dialect facets) = facets.map Facet.pair := by
  induction normal with
  | nil => simp [pairsOf]
  | pair pair mixable _ ih =>
    rw [(mixable.writtenPair pair).pairsOf_joined, ih]
    rfl
  | @text facet rest remainder valued free normal ih =>
    cases rest with
    | nil =>
      obtain ⟨none, dangling⟩ := free.last valued.tight
      exact (Readable.last valued remainder none dangling).pairsOf_joined
    | cons next rest =>
      have written := normal.writtenPair (free.next next rfl)
      rw [pairsOf_joined_text valued remainder written fun _ _ _ split => free.read?_eq_none split,
        ih]
      rfl

/-! ## Free text that is read back -/

section
variable {dialect : Dialect} {facet : Facet} {rest : List Facet}

theorem freeBefore_nil {text : List Char} (tight : Tight text) (none : Pair.find? text = none)
    (dangling : readDangling? (text.dropWhile isBlank) = Option.none) :
    FreeBefore dialect text [] := by
  rw [tight.dropWhile_eq] at dangling
  refine ⟨by simp, fun front tail split _ => ?_, fun _ category grammar same => ?_⟩
  · rw [joined_nil, List.append_nil]
    exact Pair.read?_eq_none_iff.mp (Pair.find?_eq_none_iff.mp none front tail split)
  · exact readDangling?_eq_none_iff.mp dangling category [] grammar same (by simp)

theorem freeBefore_of_none (valued : Valued facet)
    (full : Full dialect (facet.value.toList ++ joined dialect rest))
    (same : pairsOf dialect (facet.value.toList ++ joined dialect rest) =
      facet.pair :: rest.map Facet.pair)
    (found : Pair.find? (facet.value.toList ++ joined dialect rest) = none) :
    FreeBefore dialect facet.value.toList rest ∧
      pairsOf dialect (joined dialect rest) = rest.map Facet.pair := by
  -- The end of a text says one facet at most.
  have alone : rest = [] := by
    have count := congrArg List.length same
    rw [pairsOf_of_none dialect found, List.length_cons, List.length_map] at count
    have atMost := Option.length_toList_le
      (o := (Piece.ofEnd (facet.value.toList ++ joined dialect rest)).pair? dialect)
    exact List.length_eq_zero_iff.mp (by omega)
  subst alone
  rw [joined_nil, List.append_nil] at found full
  exact ⟨freeBefore_nil valued.tight found (full.of_none found), by simp [pairsOf]⟩

/-- Free text that is read first, from a text of which everything is said, ends where it was
written, and the rest is read behind it. -/
theorem freeBefore_of_full (valued : Valued facet)
    (remainder : dialect.isRemainder facet.category = true)
    (full : Full dialect (facet.value.toList ++ joined dialect rest))
    (same : pairsOf dialect (facet.value.toList ++ joined dialect rest) =
      facet.pair :: rest.map Facet.pair) :
    FreeBefore dialect facet.value.toList rest ∧
      pairsOf dialect (joined dialect rest) = rest.map Facet.pair := by
  cases found : Pair.find? (facet.value.toList ++ joined dialect rest) with
  | none => exact freeBefore_of_none valued full same found
  | some result =>
    obtain ⟨before, pair, after⟩ := result
    obtain ⟨proper, -⟩ := full.of_find? found
    obtain ⟨next, whole, read, none⟩ := Pair.find?_eq_some_iff.mp found
    rw [pairsOf_of_find? dialect found, proper.reads, Piece.pair?_free] at same
    split at same
    · -- A pair that is read as such is not the free text.
      rw [Option.toList_none, List.nil_append, Option.toList_some, List.singleton_append,
        List.cons.injEq] at same
      refine absurd ?_ proper.category
      exact (congrArg Prod.fst same.1).trans (isRemainder_iff.mp remainder)
    · rw [Option.toList_some, Option.toList_some, List.singleton_append, List.singleton_append,
        List.cons.injEq] at same
      obtain ⟨here, later⟩ := same
      have text : trimChars before = facet.value.toList :=
        String.toList_ofList.symm.trans (congrArg (String.toList ∘ Prod.snd) here)
      obtain ⟨trail, blank, parts, behind⟩ :=
        valued.tight.exists_trail valued.toList_ne_nil text whole
      have rereads : pairsOf dialect (joined dialect rest) = rest.map Facet.pair := by
        rw [behind, pairsOf_blank_append dialect blank, pairsOf_of_read? dialect read,
          proper.reads, ← later]
        rfl
      refine ⟨⟨fun facet member => ?_, fun front tail split nonempty => ?_, fun alone => ?_⟩, rereads⟩
      · obtain ⟨others, rfl⟩ := List.head?_eq_some_iff.mp member
        rw [List.map_cons, List.cons.injEq] at later
        rw [isRemainder_eq_false_iff]
        exact fun category => proper.category ((congrArg Prod.fst later.1).trans category)
      · obtain ⟨c, others, rfl⟩ := List.exists_cons_of_ne_nil nonempty
        have nothing := none front c (others ++ trail) (by rw [parts, split]; simp)
        rw [Pair.read?_eq_none_iff] at nothing
        rw [behind]
        simpa using nothing
      · rw [alone] at later
        contradiction

end

/-! ## Pairs that are read back -/

theorem Term.Spells.unique {term text other behind more : List Char}
    (spells : Term.Spells term text) (grammar : IsTerm other)
    (split : other ++ ':' :: behind = term ++ ':' :: more)
    (reads : Term.content other = String.ofList text) : other = term ∧ behind = more := by
  have same : other = term := by
    obtain ⟨first, others, rfl, -⟩ := grammar.exists_first
    cases spells with
    | @quoted mark body isMark nonempty closed =>
      rw [List.cons_append, List.cons_append, List.cons.injEq] at split
      obtain ⟨rfl, inner⟩ := split
      obtain ⟨otherBody, -, otherClosed, rfl⟩ := (isTerm_mark_iff isMark).mp grammar
      simp only [List.append_assoc, List.singleton_append] at inner
      rw [(closed_unique otherClosed closed inner).1]
    | @bare head rest notMark solid restSolid =>
      obtain ⟨rfl, -⟩ := List.cons.inj split
      rw [content_of_notMark grammar notMark] at reads
      exact String.ofList_injective reads
  subst same
  exact ⟨rfl, by simpa using split⟩

theorem not_bothMarks_of_reads {term rest : List Char} {text : String} {more : List Char}
    (grammar : IsTerm term) (reads : Term.content term = text)
    (split : term ++ rest = quoteChars text.toList ++ more) : ¬ BothMarks text := by
  intro marks
  obtain ⟨first, run, rfl, notMark⟩ := grammar.bare_of_content (reads ▸ marks.1) (reads ▸ marks.2)
  rw [quoteChars_single marks.1] at split
  obtain ⟨rfl, -⟩ := List.cons.inj split
  contradiction

theorem bare_of_reads {term rest more : List Char} {text : String} (grammar : IsTerm term)
    (nonempty : text ≠ "") (reads : Term.content term = text)
    (split : term ++ rest = text.toList ++ more) :
    (∀ c ∈ text.toList, isBlank c = false) ∧ ∀ c ∈ text.toList.head?, isMark c = false := by
  obtain ⟨first, others, same⟩ := List.exists_cons_of_ne_nil
    (show text.toList ≠ [] by simpa using nonempty)
  cases grammar with
  | @quoted mark body isMark bodyNonempty closed =>
    -- The mark would be the first character of the text, and is not inside the term.
    have spells : Term.Spells (mark :: (body ++ [mark])) body := .quoted isMark bodyNonempty closed
    rw [same] at split
    obtain ⟨rfl, -⟩ := List.cons.inj split
    have inside : mark ∈ trimChars body := by
      rw [← String.toList_ofList (l := trimChars body), ← spells.content_eq, reads, same]
      exact List.mem_cons_self
    exact absurd (Text.mem_of_mem_trimChars inside) closed
  | @bare head run notMark solid runSolid =>
    have term := content_of_notMark (.bare notMark solid runSolid) notMark
    rw [reads] at term
    rw [term, String.toList_ofList]
    exact ⟨List.forall_mem_cons.mpr ⟨solid, runSolid⟩, by simpa using notMark⟩

section
variable {dialect : Dialect} {facet : Facet}

/-- Where a facet was written and a pair is read that says the same, quoting was enough. -/
theorem mixable_of_reads (valued : Valued facet)
    (notRemainder : dialect.isRemainder facet.category = false) (named : facet.category ≠ "")
    (trimmed : Text.trim facet.category = facet.category) {pair : Pair} {after rest : List Char}
    (wellFormed : pair.WellFormed) (split : pair.text ++ after = facetChars dialect facet ++ rest)
    (categoryReads : Term.content pair.category = facet.category)
    (valueReads : Term.content pair.value = facet.value) : Mixable dialect facet := by
  -- The category is the written one, so the value that is read starts where the other does.
  have behind {value : List Char} (starts : ∀ c ∈ (value ++ rest).head?, isBlank c = false)
      (written : facetChars dialect facet =
        quoteChars facet.category.toList ++ ':' :: ' ' :: value) :
      ¬ BothMarks facet.category ∧ pair.value ++ after = value ++ rest := by
    rw [written] at split
    simp only [Pair.text, List.append_assoc, List.cons_append] at split
    have marks := not_bothMarks_of_reads wellFormed.category categoryReads split
    have spells := spells_quoteChars (by simpa using named) marks
    obtain ⟨-, tail⟩ := spells.unique wellFormed.category split
      (by rw [categoryReads, String.ofList_toList])
    obtain ⟨first, others, same, solid⟩ := wellFormed.value.exists_first
    exact ⟨marks, (Text.blank_append_inj wellFormed.gap Text.space_blank
      (by simpa [same] using solid) starts tail).2⟩
  by_cases unquotable : facet.category ∈ dialect.unquotable
  · obtain ⟨categoryMarks, atValue⟩ := behind (valued.tight.starts valued.toList_ne_nil rest)
      (facetChars_unquotable valued notRemainder unquotable)
    obtain ⟨solid, notMark⟩ := bare_of_reads wellFormed.value valued.nonempty valueReads atValue
    exact .unquotable notRemainder unquotable ⟨named, trimmed, categoryMarks⟩ valued.nonempty solid
      notMark
  · obtain ⟨categoryMarks, atValue⟩ := behind
      ((tight_quoteChars valued.tight).starts (quoteChars_ne_nil valued.toList_ne_nil) rest)
      (facetChars_ordinary valued notRemainder unquotable)
    have valueMarks := not_bothMarks_of_reads wellFormed.value valueReads atValue
    exact .ordinary notRemainder unquotable ⟨named, trimmed, categoryMarks⟩
      ⟨valued.nonempty, valued.trimmed, valueMarks⟩

theorem facetChars_starts (valued : Valued facet)
    (notRemainder : dialect.isRemainder facet.category = false) (named : facet.category ≠ "")
    (trimmed : Text.trim facet.category = facet.category) (rest : List Char) :
    ∃ c more, facetChars dialect facet ++ rest = c :: more ∧ isBlank c = false := by
  have written : ∃ value, facetChars dialect facet =
      quoteChars facet.category.toList ++ ':' :: ' ' :: value := by
    by_cases unquotable : facet.category ∈ dialect.unquotable
    · exact ⟨_, facetChars_unquotable valued notRemainder unquotable⟩
    · exact ⟨_, facetChars_ordinary valued notRemainder unquotable⟩
  obtain ⟨value, written⟩ := written
  have tight := tight_quoteChars ((Text.trim_eq_self_iff facet.category).mp trimmed)
  have starts := tight.starts (quoteChars_ne_nil (by simpa using named))
    (':' :: ' ' :: (value ++ rest))
  rw [written, List.append_assoc]
  cases text : quoteChars facet.category.toList ++ (':' :: ' ' :: value ++ rest) with
  | nil => simp at text
  | cons c more => exact ⟨c, more, rfl, starts c (by simpa using congrArg List.head? text)⟩

theorem mixable_of_full (valued : Valued facet)
    (notRemainder : dialect.isRemainder facet.category = false) (named : facet.category ≠ "")
    (trimmed : Text.trim facet.category = facet.category) {rest : List Char}
    {others : List (String × String)} (full : Full dialect (facetChars dialect facet ++ rest))
    (same : pairsOf dialect (facetChars dialect facet ++ rest) = facet.pair :: others) :
    Mixable dialect facet := by
  obtain ⟨c, more, text, solid⟩ := facetChars_starts valued notRemainder named trimmed rest
  rw [text] at full same
  obtain ⟨pair, after, read, reads⟩ :=
    exists_read?_of_pairsOf solid same (isRemainder_eq_false_iff.mp notRemainder)
  obtain ⟨proper, -⟩ := full.of_find? (Pair.find?_of_read? read)
  obtain ⟨wellFormed, split, -⟩ := Pair.read?_sound read
  obtain ⟨categoryReads, valueReads⟩ := reads proper.value
  exact mixable_of_reads valued notRemainder named trimmed wellFormed
    (split.symm.trans text.symm) categoryReads valueReads

end

/-- A list is read back if and only if it is in normal form. -/
theorem pairsOf_joined_eq_iff {dialect : Dialect} {facets : List Facet}
    (valued : ∀ facet ∈ facets, Valued facet)
    (named : ∀ facet ∈ facets, dialect.isRemainder facet.category = false →
      facet.category ≠ "" ∧ Text.trim facet.category = facet.category) :
    pairsOf dialect (joined dialect facets) = facets.map Facet.pair ↔ NormalForm dialect facets := by
  refine ⟨fun same => ?_, NormalForm.pairsOf_joined⟩
  induction facets with
  | nil => exact .nil
  | cons facet rest ih =>
    obtain ⟨here, later⟩ := List.forall_mem_cons.mp valued
    obtain ⟨hereNamed, laterNamed⟩ := List.forall_mem_cons.mp named
    -- All letters of the text are read again, so nothing of this facet is lost.
    have full : Full dialect (facetChars dialect facet ++ joined dialect rest) := by
      have written : letters (joined dialect (facet :: rest)) = _ := letters_joined valued
      rw [joined_cons, pairsOf_space] at same
      rw [joined_cons, letters_space] at written
      rw [Full, same, written]
    rw [joined_cons, pairsOf_space, List.map_cons] at same
    cases kind : dialect.isRemainder facet.category with
    | true =>
      rw [facetChars_remainder here kind] at full same
      obtain ⟨free, behind⟩ := freeBefore_of_full here kind full same
      exact .text kind here free (ih later laterNamed behind)
    | false =>
      obtain ⟨nonempty, trimmed⟩ := hereNamed kind
      have mixable := mixable_of_full here kind nonempty trimmed full same
      have rereads := (mixable.writtenPair kind).pairsOf_joined rest
      rw [joined_cons, pairsOf_space, same, List.cons.injEq] at rereads
      exact .pair kind mixable (ih later laterNamed rereads.2.symm)

end FacetedSearch.Query
