import FacetedSearch.Proofs.Query.Rendering
import Mathlib.Data.List.Chain

/-! Reading rendered facets again.

A pair that is written with terms is read back whatever follows it. Free text and bare values have
no protection: `Quiet` says when free text is not taken for a pair, and `Readable` which sequences
of facets are read back as they were.
-/

set_option autoImplicit false

namespace FacetedSearch.Query

open Text (isBlank trimChars Breaks Tight)

/-! ## Free text -/

def Quiet (text : List Char) : Prop :=
  ∀ lead c rest, text = lead ++ c :: ':' :: rest → isBlank c = true

/-- Free text that is read as such, whatever comes behind a blank after it. -/
structure FreeText (text : List Char) : Prop where
  nonempty : text ≠ []
  tight : Tight text
  unmarked : ∀ c ∈ text, isMark c = false
  quiet : Quiet text

theorem Quiet.no_term {text rest lead after category : List Char} {c : Char} {tail : List Char}
    (quiet : Quiet text) (notMark : isMark c = false) (breaks : Breaks rest)
    (split : text = lead ++ c :: tail) (grammar : IsTerm category) :
    c :: tail ++ rest ≠ category ++ ':' :: after := by
  intro same
  obtain ⟨first, others, rfl, -⟩ := grammar.exists_first
  obtain ⟨rfl, -⟩ := List.cons.inj same
  have solid := grammar.solid_of_notMark notMark
  -- The term is bare and the text behind it breaks, so its colon lies in the quiet text too.
  have whole : c :: tail ++ rest = (c :: others ++ [':']) ++ after := by simpa using same
  obtain ⟨more, inside, -⟩ := breaks.exists_of_solid (solid_colon solid) whole
  obtain ⟨front, last, ends⟩ :=
    (List.eq_nil_or_concat' (c :: others)).resolve_left (List.cons_ne_nil c others)
  have blank := quiet (lead ++ front) last more (by rw [split, inside, ends]; simp)
  rw [solid last (by rw [ends]; simp)] at blank
  contradiction

theorem FreeText.read?_eq_none {text rest lead tail : List Char} {c : Char} (free : FreeText text)
    (breaks : Breaks rest) (split : text = lead ++ c :: tail) :
    Pair.read? (c :: tail ++ rest) = none := by
  rw [Pair.read?_eq_none_iff]
  rintro pair ⟨wellFormed, after, same⟩
  have notMark := free.unmarked c (by simp [split])
  rw [Pair.text, List.append_assoc, List.cons_append] at same
  exact free.quiet.no_term notMark breaks split wellFormed.category same

theorem FreeText.find?_append {text rest : List Char} (free : FreeText text)
    (breaks : Breaks rest) : Pair.find? (text ++ rest) =
      (Pair.find? rest).map fun (before, pair, after) => (text ++ before, pair, after) :=
  Pair.find?_behind fun _ _ _ split => free.read?_eq_none breaks split

theorem pairsOf_before (dialect : Dialect) {text next after : List Char} {pair : Pair}
    (nonempty : text ≠ []) (tight : Tight text) (read : Pair.read? next = some (pair, after))
    (none : ∀ lead c tail, text = lead ++ c :: tail →
      Pair.read? (c :: tail ++ ' ' :: next) = none) :
    pairsOf dialect (text ++ ' ' :: next) =
      (dialect.remainder, String.ofList text) :: pairsOf dialect next := by
  have here := Pair.find?_of_read? read
  -- The search stops behind the space; trimming takes the space off the text again.
  have found : Pair.find? (text ++ ' ' :: next) = some (text ++ [' '], pair, after) := by
    rw [Pair.find?_behind none]
    simp [Pair.find?, Pair.read?_blank (c := ' ') (by decide), here]
  have trimmed : trimChars (text ++ [' ']) = text := by
    rw [Text.trimChars_append_blank text Text.space_blank, tight.trimChars_eq]
  rw [pairsOf_of_find? dialect found, pairsOf_of_read? dialect read, Piece.pair?_free, trimmed,
    if_neg nonempty]
  rfl

theorem FreeText.find?_eq_none {text : List Char} (free : FreeText text) :
    Pair.find? text = none := by
  have whole := free.find?_append Text.breaks_nil
  rwa [List.append_nil] at whole

theorem FreeText.readDangling?_eq_none {text : List Char} (free : FreeText text) :
    readDangling? text = none := by
  rw [readDangling?_eq_none_iff]
  intro category trail grammar same _
  obtain ⟨first, others, rfl⟩ := List.exists_cons_of_ne_nil free.nonempty
  have notMark := free.unmarked first (by simp)
  have whole : first :: others ++ [] = category ++ ':' :: trail := by rw [List.append_nil, same]
  exact free.quiet.no_term notMark Text.breaks_nil (List.nil_append _).symm grammar whole

/-! ## Pairs -/

/-- A facet that is written as two terms which spell its category and its value. -/
structure WrittenPair (dialect : Dialect) (facet : Facet) : Prop where
  pair : dialect.isRemainder facet.category = false
  category : Tight facet.category.toList
  value : Tight facet.value.toList
  terms : ∃ category value, Term.Spells category facet.category.toList ∧
    Term.Spells value facet.value.toList ∧
    facetChars dialect facet = category ++ ':' :: ' ' :: value

/-- A written pair is read back, and what follows is left as it is. -/
theorem WrittenPair.exists_read? {dialect : Dialect} {facet : Facet}
    (written : WrittenPair dialect facet) {rest : List Char} (breaks : Breaks rest) :
    ∃ pair, Pair.read? (facetChars dialect facet ++ rest) = some (pair, rest) ∧
      (Piece.pair pair).pair? dialect = some facet.pair := by
  obtain ⟨category, value, categorySpells, valueSpells, same⟩ := written.terms
  refine ⟨⟨category, [' '], value⟩, ?_, ?_⟩
  · -- The space behind the colon keeps a bare category from going on.
    have spaced := Pair.read?_spaced categorySpells.isTerm Text.space_blank
      (List.cons_ne_nil _ _) (Term.read?_append valueSpells.isTerm breaks)
    rw [same]
    simpa using spaced
  · have named : facet.category ≠ "" := by
      intro empty
      simpa [empty] using categorySpells.text_ne_nil
    have valued : facet.value ≠ "" := by
      intro empty
      simpa [empty] using valueSpells.text_ne_nil
    rw [Piece.pair?_pair, categorySpells.content_eq, valueSpells.content_eq,
      written.category.trimChars_eq, written.value.trimChars_eq, String.ofList_toList,
      String.ofList_toList, if_neg valued]
    simp [categoryFor, named, Facet.pair]

theorem WrittenPair.pairsOf_joined {dialect : Dialect} {facet : Facet}
    (written : WrittenPair dialect facet) (rest : List Facet) :
    pairsOf dialect (joined dialect (facet :: rest)) =
      facet.pair :: pairsOf dialect (joined dialect rest) := by
  obtain ⟨pair, read, reads⟩ := written.exists_read? (breaks_joined dialect rest)
  rw [joined_cons, pairsOf_space, pairsOf_of_read? dialect read, reads]
  rfl

/-! ## Sequences -/

/-- The sequences of facets that are read back as they were: pairs, and free text between them.
The last free text may have a colon at its end, if it does not dangle. -/
inductive Readable (dialect : Dialect) : List Facet → Prop where
  | nil : Readable dialect []
  | last {facet : Facet} : Valued facet → dialect.isRemainder facet.category = true →
      Pair.find? facet.value.toList = none → readDangling? facet.value.toList = none →
      Readable dialect [facet]
  | pair {facet : Facet} {rest : List Facet} : Valued facet → WrittenPair dialect facet →
      Readable dialect rest → Readable dialect (facet :: rest)
  | text {facet next : Facet} {rest : List Facet} : Valued facet →
      dialect.isRemainder facet.category = true → FreeText facet.value.toList →
      WrittenPair dialect next → Readable dialect (next :: rest) →
      Readable dialect (facet :: next :: rest)

def Apart (dialect : Dialect) (facets : List Facet) : Prop :=
  facets.IsChain fun first second =>
    ¬ (dialect.isRemainder first.category = true ∧ dialect.isRemainder second.category = true)

theorem apart_cons_iff {dialect : Dialect} {facet : Facet} {rest : List Facet} :
    Apart dialect (facet :: rest) ↔
      (dialect.isRemainder facet.category = true →
        ∀ next ∈ rest.head?, dialect.isRemainder next.category = false) ∧ Apart dialect rest := by
  cases rest with
  | nil => simp [Apart]
  | cons next rest => simp [Apart, List.isChain_cons_cons]

theorem apart_of_pairs {dialect : Dialect} {facets : List Facet}
    (pairs : ∀ facet ∈ facets, dialect.isRemainder facet.category = false) :
    Apart dialect facets := by
  induction facets with
  | nil => simp [Apart]
  | cons facet rest ih =>
    obtain ⟨here, later⟩ := List.forall_mem_cons.mp pairs
    refine apart_cons_iff.mpr ⟨fun remainder => ?_, ih later⟩
    rw [here] at remainder
    contradiction

theorem Readable.valued {dialect : Dialect} {facets : List Facet}
    (readable : Readable dialect facets) : ∀ facet ∈ facets, Valued facet := by
  induction readable with
  | nil => simp
  | last valued => simpa using valued
  | pair valued _ _ ih => exact List.forall_mem_cons.mpr ⟨valued, ih⟩
  | text valued _ _ _ _ ih => exact List.forall_mem_cons.mpr ⟨valued, ih⟩

theorem Readable.written {dialect : Dialect} {facet : Facet} {rest : List Facet}
    (readable : Readable dialect (facet :: rest))
    (pair : dialect.isRemainder facet.category = false) : WrittenPair dialect facet := by
  cases readable with
  | last _ remainder => simp [pair] at remainder
  | pair _ written => exact written
  | text _ remainder => simp [pair] at remainder

theorem Readable.settled {dialect : Dialect} {facets : List Facet} {facet : Facet}
    (readable : Readable dialect facets) (member : facet ∈ facets)
    (remainder : dialect.isRemainder facet.category = true) :
    Pair.find? facet.value.toList = none ∧ readDangling? facet.value.toList = none := by
  induction readable with
  | nil => simp at member
  | last _ _ none dangling =>
    rw [List.mem_singleton.mp member]
    exact ⟨none, dangling⟩
  | pair _ written _ ih =>
    rcases List.mem_cons.mp member with rfl | later
    · simp [written.pair] at remainder
    · exact ih later
  | text _ _ free _ _ ih =>
    rcases List.mem_cons.mp member with rfl | later
    · exact ⟨free.find?_eq_none, free.readDangling?_eq_none⟩
    · exact ih later

theorem Readable.free_cons {dialect : Dialect} {facet : Facet} {rest : List Facet}
    (readable : Readable dialect rest) (valued : Valued facet)
    (remainder : dialect.isRemainder facet.category = true) (free : FreeText facet.value.toList)
    (apart : ∀ next ∈ rest.head?, dialect.isRemainder next.category = false) :
    Readable dialect (facet :: rest) := by
  cases rest with
  | nil => exact .last valued remainder free.find?_eq_none free.readDangling?_eq_none
  | cons next rest =>
    exact .text valued remainder free (readable.written (apart next rfl)) readable

theorem Valued.tight {facet : Facet} (valued : Valued facet) : Tight facet.value.toList :=
  (Text.trim_eq_self_iff facet.value).mp valued.trimmed

theorem Valued.toList_ne_nil {facet : Facet} (valued : Valued facet) :
    facet.value.toList ≠ [] := by
  simpa using valued.nonempty

theorem remainder_pair {dialect : Dialect} {facet : Facet}
    (remainder : dialect.isRemainder facet.category = true) :
    (dialect.remainder, String.ofList facet.value.toList) = facet.pair := by
  rw [← isRemainder_iff.mp remainder, String.ofList_toList, Facet.pair]

theorem pairsOf_joined_text {dialect : Dialect} {facet next : Facet} {rest : List Facet}
    (valued : Valued facet) (remainder : dialect.isRemainder facet.category = true)
    (written : WrittenPair dialect next)
    (none : ∀ lead c tail, facet.value.toList = lead ++ c :: tail →
      Pair.read? (c :: tail ++ joined dialect (next :: rest)) = none) :
    pairsOf dialect (joined dialect (facet :: next :: rest)) =
      facet.pair :: pairsOf dialect (joined dialect (next :: rest)) := by
  obtain ⟨pair, read, -⟩ := written.exists_read? (breaks_joined dialect rest)
  have first := pairsOf_before dialect valued.toList_ne_nil valued.tight read none
  rw [joined_cons, pairsOf_space, facetChars_remainder valued remainder, joined_cons, first,
    remainder_pair remainder, ← pairsOf_space, ← joined_cons]

theorem Readable.pairsOf_joined {dialect : Dialect} {facets : List Facet}
    (readable : Readable dialect facets) :
    pairsOf dialect (joined dialect facets) = facets.map Facet.pair := by
  induction readable with
  | nil => simp [pairsOf]
  | @last facet valued remainder none settled =>
    rw [joined_cons, pairsOf_space, facetChars_remainder valued remainder, joined_nil,
      List.append_nil, pairsOf_of_none dialect none, Piece.pair?_ofEnd,
      valued.tight.dropWhile_eq, settled, Piece.pair?_free, valued.tight.trimChars_eq,
      if_neg valued.toList_ne_nil]
    simp [← remainder_pair remainder]
  | @pair facet rest valued written readable ih =>
    rw [written.pairsOf_joined, ih]
    rfl
  | @text facet next rest valued remainder free written readable ih =>
    -- The space in front of the next facet is what ends the free text.
    have none (lead : List Char) (c : Char) (tail : List Char)
        (split : facet.value.toList = lead ++ c :: tail) :
        Pair.read? (c :: tail ++ joined dialect (next :: rest)) = none :=
      free.read?_eq_none (breaks_joined dialect (next :: rest)) split
    rw [pairsOf_joined_text valued remainder written none, ih]
    rfl

/-! ## Mixtures -/

/-- A text that quoting can keep: not empty, without blanks at its ends, and with one kind of marks
at most. -/
structure Quotable (text : String) : Prop where
  nonempty : text ≠ ""
  trimmed : Text.trim text = text
  marks : ¬ BothMarks text

instance (text : String) : Decidable (Quotable text) :=
  decidable_of_iff (text ≠ "" ∧ Text.trim text = text ∧ ¬ BothMarks text)
    ⟨fun ⟨nonempty, trimmed, marks⟩ => ⟨nonempty, trimmed, marks⟩,
      fun ⟨nonempty, trimmed, marks⟩ => ⟨nonempty, trimmed, marks⟩⟩

/-- The facets that can stand beside any pair in a rendered query. Quoting protects all of an
ordinary pair and the category of an unquotable one; free text may have a colon only at the start
of one of its words. -/
inductive Mixable (dialect : Dialect) (facet : Facet) : Prop where
  | ordinary : dialect.isRemainder facet.category = false →
      facet.category ∉ dialect.unquotable →
      Quotable facet.category → Quotable facet.value → Mixable dialect facet
  | unquotable : dialect.isRemainder facet.category = false →
      facet.category ∈ dialect.unquotable →
      Quotable facet.category → facet.value ≠ "" →
      (∀ c ∈ facet.value.toList, isBlank c = false) →
      (∀ c ∈ facet.value.toList.head?, isMark c = false) → Mixable dialect facet
  | remainder : dialect.isRemainder facet.category = true →
      facet.value ≠ "" → Text.trim facet.value = facet.value →
      (∀ c ∈ facet.value.toList, isMark c = false) →
      (∀ word ∈ facet.value.toList.splitOnP isBlank, ':' ∉ word.tail) → Mixable dialect facet

theorem Quotable.spells {text : String} (quotable : Quotable text) :
    Term.Spells (quoteChars text.toList) text.toList :=
  spells_quoteChars (by simpa using quotable.nonempty) quotable.marks

theorem Quotable.tight {text : String} (quotable : Quotable text) : Tight text.toList :=
  (Text.trim_eq_self_iff text).mp quotable.trimmed

theorem exists_word (lead rest : List Char) {c : Char} (solid : isBlank c = false) :
    ∃ word ∈ (lead ++ c :: ':' :: rest).splitOnP isBlank, ':' ∈ word.tail := by
  have colon : isBlank ':' = false := by decide
  -- Splitting at blanks keeps `c` and the colon in one word, whatever stands in front.
  induction lead with
  | nil =>
    obtain ⟨word, others, split⟩ := List.exists_cons_of_ne_nil (List.splitOnP_ne_nil isBlank rest)
    simp [List.splitOnP_cons_eq_if_modifyHead, solid, colon, split]
  | cons d lead ih =>
    obtain ⟨word, member, inside⟩ := ih
    obtain ⟨first, others, split⟩ := List.exists_cons_of_ne_nil
      (List.splitOnP_ne_nil isBlank (lead ++ c :: ':' :: rest))
    rw [split] at member
    rw [List.cons_append, List.splitOnP_cons_eq_if_modifyHead, split]
    by_cases blank : isBlank d
    · exact ⟨word, by simpa [blank] using Or.inr (List.mem_cons.mp member), inside⟩
    · rcases List.mem_cons.mp member with rfl | member
      · exact ⟨d :: word, by simp [blank], List.mem_of_mem_tail inside⟩
      · exact ⟨word, by simp [blank, member], inside⟩

theorem quiet_of_words {text : List Char}
    (words : ∀ word ∈ text.splitOnP isBlank, ':' ∉ word.tail) : Quiet text := by
  rintro lead c rest rfl
  by_contra solid
  obtain ⟨word, member, inside⟩ := exists_word lead rest (by simpa using solid)
  exact words word member inside

section
variable {dialect : Dialect} {facet : Facet}

theorem Mixable.valued (mixable : Mixable dialect facet) : Valued facet := by
  cases mixable with
  | ordinary pair ordinary category value => exact ⟨value.nonempty, value.trimmed⟩
  | unquotable pair unquotable category nonempty solid notMark =>
    exact ⟨nonempty, (Text.trim_eq_self_iff facet.value).mpr (Text.tight_of_solid solid)⟩
  | remainder remainder nonempty trimmed unmarked words => exact ⟨nonempty, trimmed⟩

theorem Mixable.freeText (mixable : Mixable dialect facet)
    (remainder : dialect.isRemainder facet.category = true) : FreeText facet.value.toList := by
  have valued := mixable.valued
  cases mixable with
  | ordinary pair => simp [remainder] at pair
  | unquotable pair => simp [remainder] at pair
  | remainder _ nonempty trimmed unmarked words =>
    exact ⟨by simpa using nonempty, valued.tight, unmarked, quiet_of_words words⟩

theorem Mixable.writtenPair (mixable : Mixable dialect facet)
    (pair : dialect.isRemainder facet.category = false) : WrittenPair dialect facet := by
  have valued := mixable.valued
  cases mixable with
  | ordinary _ ordinary category value =>
    exact ⟨pair, category.tight, value.tight, _, _, category.spells, value.spells,
      facetChars_ordinary valued pair ordinary⟩
  | unquotable _ unquotable category nonempty solid notMark =>
    have bare : Term.Spells facet.value.toList facet.value.toList := by
      obtain ⟨first, rest, same⟩ := List.exists_cons_of_ne_nil
        (show facet.value.toList ≠ [] by simpa using nonempty)
      rw [same] at solid notMark ⊢
      exact .bare (notMark first rfl) (solid first (by simp))
        fun c member => solid c (by simp [member])
    exact ⟨pair, category.tight, valued.tight, _, _, category.spells, bare,
      facetChars_unquotable valued pair unquotable⟩
  | remainder remainder => simp [pair] at remainder

end

theorem readable_of_mixable {dialect : Dialect} {facets : List Facet}
    (mixable : ∀ facet ∈ facets, Mixable dialect facet) (apart : Apart dialect facets) :
    Readable dialect facets := by
  induction facets with
  | nil => exact .nil
  | cons facet rest ih =>
    obtain ⟨here, others⟩ := List.forall_mem_cons.mp mixable
    obtain ⟨next, apart⟩ := apart_cons_iff.mp apart
    have later := ih others apart
    cases kind : dialect.isRemainder facet.category with
    | false => exact .pair here.valued (here.writtenPair kind) later
    | true => exact later.free_cons here.valued kind (here.freeText kind) (next kind)

theorem Readable.parse_render {dialect : Dialect} {facets : List Facet}
    (readable : Readable dialect facets) :
    (parse dialect (render dialect facets)).map Facet.pair = facets.map Facet.pair := by
  rw [map_pair_parse, pairsOf_render dialect readable.valued, readable.pairsOf_joined]

/-- Ordinary pairs, unquotable pairs and free text are read back in every order and number, as long
as no free text stands beside another. -/
theorem parse_render_of_mixable (dialect : Dialect) (facets : List Facet)
    (mixable : ∀ facet ∈ facets, Mixable dialect facet) (apart : Apart dialect facets) :
    (parse dialect (render dialect facets)).map Facet.pair = facets.map Facet.pair :=
  (readable_of_mixable mixable apart).parse_render

/-- A quoted pair, free text with a colon at the start of a word, a bare value with a colon and both
kinds of marks inside, which quoting could not keep, and free text at the end. -/
theorem parse_render_mixture :
    (parse ⟨"text", ["regex"]⟩ (render ⟨"text", ["regex"]⟩
      [⟨"tag name", "it's", none⟩, ⟨"text", "see :also", none⟩, ⟨"regex", "a:'b\"c", none⟩,
        ⟨"text", "end", none⟩])).map Facet.pair =
    [("tag name", "it's"), ("text", "see :also"), ("regex", "a:'b\"c"), ("text", "end")] := by
  refine parse_render_of_mixable _ _ (List.forall_mem_cons.mpr ⟨?_, List.forall_mem_cons.mpr ⟨?_,
    List.forall_mem_cons.mpr ⟨?_, List.forall_mem_cons.mpr ⟨?_, by simp⟩⟩⟩⟩) ?_
  · exact .ordinary (by decide) (by decide) ⟨by decide, by decide, by unfold BothMarks; decide⟩
      ⟨by decide, by decide, by unfold BothMarks; decide⟩
  · exact .remainder (by decide) (by decide) (by decide) (by simp [isMark]) (by decide)
  · exact .unquotable (by decide) (by decide) ⟨by decide, by decide, by unfold BothMarks; decide⟩
      (by decide) (by simp [isBlank]) (by simp [isMark])
  · exact .remainder (by decide) (by decide) (by decide) (by simp [isMark]) (by decide)
  · unfold Apart
    decide

end FacetedSearch.Query
