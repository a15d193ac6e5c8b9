import FacetedSearch.Proofs.Query.Reading
import FacetedSearch.Proofs.Query.Spans
import Mathlib.Data.List.Nodup
import Mathlib.Data.List.ReduceOption

/-! Which fields of a query become facets.

Three kinds of fields say nothing: blanks behind the last pair, a category that dangles there, and
pairs whose value is blank between its marks. `Dropped` says this by the grammar. A scan yields no
other field with an empty value, so all others become facets.
-/

set_option autoImplicit false

namespace FacetedSearch.Query

open Text (isBlank trimChars)

def BlankBetweenMarks (term : List Char) : Prop :=
  ∃ mark body, isMark mark = true ∧ (∀ c ∈ body, isBlank c = true) ∧
    term = mark :: (body ++ [mark])

/-- The scan yields the pair, and the field stands where the pair does. -/
def Field.IsPair (query : String) (field : Field) (pair : Pair) : Prop :=
  ∃ cursor start, Reaches query.toList cursor ∧ YieldsPair query.toList cursor start pair ∧
    field.span = ⟨byteAt query.toList start, byteAt query.toList (start + pair.text.length)⟩

/-- The text behind the last pair: a scan comes to it, and the grammar derives no pair in it. -/
structure LeftOver (cs front text : List Char) : Prop where
  split : cs = front ++ text
  nonempty : text ≠ []
  reached : Reaches cs front.length
  underivable : ∀ i, ∀ pair : Pair, ¬ pair.DerivesAt (text.drop i)

/-- The fields that do not become facets. -/
inductive Dropped (query : String) (field : Field) : Prop where
  | blankEnd {front text : List Char} (left : LeftOver query.toList front text)
      (blank : ∀ c ∈ text, isBlank c = true) (last : (fields query).getLast? = some field)
  | dangling {front lead category trail : List Char}
      (left : LeftOver query.toList front (lead ++ (category ++ ':' :: trail)))
      (leadBlank : ∀ c ∈ lead, isBlank c = true) (grammar : IsTerm category)
      (trailBlank : ∀ c ∈ trail, isBlank c = true) (last : (fields query).getLast? = some field)
  | blankValue {pair : Pair} (isPair : field.IsPair query pair)
      (blank : BlankBetweenMarks pair.value)

/-- The facet that a field becomes. It has the value of the field and no label. -/
inductive Field.Becomes (query : String) (dialect : Dialect) (field : Field) : Facet → Prop where
  | named {category : String} (found : field.category = some category) (nonempty : category ≠ "") :
      Becomes query dialect field ⟨category, field.value, none⟩
  | text (free : field.category = none) :
      Becomes query dialect field ⟨dialect.remainder, field.value, none⟩
  | blankCategory {pair : Pair} (isPair : field.IsPair query pair)
      (blank : BlankBetweenMarks pair.category) :
      Becomes query dialect field ⟨dialect.remainder, field.value, none⟩

inductive Field.Yields (query : String) (dialect : Dialect) (field : Field) :
    Option Facet → Prop where
  | nothing (dropped : Dropped query field) : Yields query dialect field none
  | facet {facet : Facet} (kept : ¬ Dropped query field)
      (becomes : field.Becomes query dialect facet) : Yields query dialect field (some facet)

/-! ## Terms that say nothing -/

theorem ofList_trimChars_eq_empty_iff (text : List Char) :
    String.ofList (trimChars text) = "" ↔ ∀ c ∈ text, isBlank c = true := by
  rw [← Text.trimChars_eq_nil_iff]
  simp

/-- Only blanks between marks say nothing; a bare term says itself. -/
theorem content_eq_empty_iff {term : List Char} (grammar : IsTerm term) :
    Term.content term = "" ↔ BlankBetweenMarks term := by
  cases grammar with
  | @quoted mark body marked nonempty closed =>
    have spells : Term.Spells (mark :: (body ++ [mark])) body := .quoted marked nonempty closed
    rw [spells.content_eq, ofList_trimChars_eq_empty_iff]
    constructor
    · exact fun blank => ⟨mark, body, marked, blank, rfl⟩
    · rintro ⟨other, otherBody, -, blank, same⟩
      obtain ⟨rfl, bodies⟩ := List.cons.inj same
      rwa [List.append_cancel_right bodies]
  | @bare first rest notMark solid restSolid =>
    have spells : Term.Spells (first :: rest) (first :: rest) := .bare notMark solid restSolid
    rw [spells.content_eq, ofList_trimChars_eq_empty_iff]
    constructor
    · intro blank
      simp [blank first List.mem_cons_self] at solid
    · rintro ⟨mark, body, marked, -, same⟩
      obtain ⟨rfl, -⟩ := List.cons.inj same
      simp [marked] at notMark

/-! ## Fields by their places -/

theorem field_eq_of_span {query : String} {first second : Field} (inFields : first ∈ fields query)
    (secondIn : second ∈ fields query) (same : first.span = second.span) : first = second := by
  have distinct : ((fields query).map Field.span).Nodup := by
    refine List.pairwise_map.mpr ((laid_fields query).ordered.imp fun less equal => ?_)
    rw [equal] at less
    omega
  exact List.inj_on_of_nodup_map distinct inFields secondIn same

theorem Field.IsPair.wellFormed {query : String} {field : Field} {pair : Pair}
    (isPair : field.IsPair query pair) : pair.WellFormed := by
  obtain ⟨cursor, start, -, yields, -⟩ := isPair
  exact yields.leftmostLongest.derives.1

theorem Field.IsPair.reads {query : String} {field : Field} {pair : Pair}
    (isPair : field.IsPair query pair) (member : field ∈ fields query) :
    field.category = some (Term.content pair.category) ∧
      field.value = Term.content pair.value := by
  obtain ⟨cursor, start, reached, yields, span⟩ := isPair
  obtain ⟨earlier, whole⟩ := reached.fields_eq
  obtain ⟨category, value, categorySpells, valueSpells, step⟩ := yields.fieldsAt_eq
  have found : pairField query.toList start pair category value ∈ fields query := by
    rw [whole, step]
    simp
  rw [field_eq_of_span member found span, categorySpells.content_eq, valueSpells.content_eq]
  exact ⟨rfl, rfl⟩

theorem trim_value_of_mem {query : String} {field : Field} (member : field ∈ fields query) :
    Text.trim field.value = field.value := by
  rw [fields_eq] at member
  obtain ⟨piece, -, place, found⟩ := exists_piece_of_mem member
  rw [Piece.field?_start] at found
  obtain ⟨said, same, rfl⟩ := Option.map_eq_some_iff.mp found
  exact (Piece.field?_trimmed same :)

/-! ## The end of a query -/

section
variable {query : String} {front text : List Char}

theorem LeftOver.last_eq {field : Field} (left : LeftOver query.toList front text)
    (found : (Piece.ofEnd text).field? (byteAt query.toList front.length) = some field) :
    fieldsAt query.toList front.length = [field] ∧ (fields query).getLast? = some field := by
  have none : Pair.find? text = none := by
    cases found : Pair.find? text with
    | none => rfl
    | some result => exact absurd (Pair.find?_derives found) (left.underivable _ _)
  have behind : query.toList.drop front.length = text := by rw [left.split, List.drop_left]
  have here : fieldsAt query.toList front.length = [field] := by
    rw [fieldsAt_eq, behind, pieces_of_none none left.nonempty, fieldsFrom, fieldsFrom, found,
      Option.toList_some, List.append_nil]
  obtain ⟨earlier, whole⟩ := left.reached.fields_eq
  exact ⟨here, by rw [whole, here, List.getLast?_concat]⟩

theorem Dropped.value_eq_empty {field : Field} (dropped : Dropped query field)
    (member : field ∈ fields query) : field.value = "" := by
  cases dropped with
  | @blankEnd front text left blank last =>
    have same := (left.last_eq (by rw [Piece.ofEnd_blank blank]; rfl)).2
    rw [last, Option.some.injEq] at same
    rw [same]
    exact (ofList_trimChars_eq_empty_iff text).mpr blank
  | dangling left leadBlank grammar trailBlank last =>
    have same := (left.last_eq (by
      rw [Piece.ofEnd_dangling leadBlank grammar trailBlank]; rfl)).2
    rw [last, Option.some.injEq] at same
    rw [same]
  | blankValue isPair blank =>
    rw [(isPair.reads member).2]
    exact (content_eq_empty_iff isPair.wellFormed.value).mpr blank

end

/-! ## Along the scan -/

inductive Field.Stands (query : String) (field : Field) : Prop where
  | text (free : field.category = none) (valued : field.value ≠ "")
  | pair {pair : Pair} (isPair : field.IsPair query pair)
  | dropped (dropped : Dropped query field)

theorem stands_text {query : String} {text : List Char} {span : Span}
    (visible : ¬ ∀ c ∈ text, isBlank c = true) :
    Field.Stands query ⟨none, String.ofList (trimChars text), span⟩ :=
  .text rfl fun empty => visible ((ofList_trimChars_eq_empty_iff text).mp empty)

theorem LeftOver.stands {query : String} {front text : List Char}
    (left : LeftOver query.toList front text) :
    ∀ field ∈ fieldsAt query.toList front.length, field.Stands query := by
  rcases Piece.ofEnd_cases text with
    free | ⟨lead, category, trail, dangling, rfl, leadBlank, grammar, blank⟩
  · obtain ⟨here, last⟩ := left.last_eq (by rw [free]; rfl)
    rw [here, List.forall_mem_singleton]
    by_cases blank : ∀ c ∈ text, isBlank c = true
    · exact .dropped (.blankEnd left blank last)
    · exact stands_text blank
  · obtain ⟨here, last⟩ := left.last_eq (by rw [dangling]; rfl)
    rw [here, List.forall_mem_singleton]
    exact .dropped (.dangling left leadBlank grammar blank last)

theorem stands_lead {query : String} {text : List Char} {start : Nat} {field : Field}
    (member : field ∈ fieldsFrom start (Piece.ofLead text)) : field.Stands query := by
  by_cases blank : ∀ c ∈ text, isBlank c = true
  · rcases Piece.ofLead_blank blank with same | same <;>
      simp [same, fieldsFrom, Piece.field?] at member
  · rw [Piece.ofLead_visible blank, fieldsFrom, fieldsFrom, List.append_nil,
      Option.mem_toList] at member
    rw [← Option.some.inj member]
    exact stands_text blank

theorem LeftOver.of_reaches {query : String} {cursor : Nat} (reached : Reaches query.toList cursor)
    (none : Pair.find? (query.toList.drop cursor) = none) (more : query.toList.drop cursor ≠ []) :
    LeftOver query.toList (query.toList.take cursor) (query.toList.drop cursor) ∧
      (query.toList.take cursor).length = cursor := by
  have inside : cursor ≤ query.toList.length := by
    by_contra beyond
    exact more (List.drop_eq_nil_of_le (by omega))
  have place : (query.toList.take cursor).length = cursor := List.length_take_of_le inside
  exact ⟨⟨(List.take_append_drop cursor _).symm, more, by rwa [place],
    Pair.find?_none_derives none⟩, place⟩

theorem stands_of_reaches {query : String} {cs : List Char} {cursor : Nat}
    (reached : Reaches query.toList cursor) (behind : query.toList.drop cursor = cs) :
    ∀ field ∈ fieldsAt query.toList cursor, field.Stands query := by
  -- Along the scan, which goes on behind every pair that it finds.
  induction cs using scan_induction generalizing cursor with
  | rest cs none =>
    subst behind
    by_cases empty : query.toList.drop cursor = []
    · simp [fieldsAt_eq, empty, fieldsFrom]
    · obtain ⟨left, place⟩ := LeftOver.of_reaches reached none empty
      rw [← place]
      exact left.stands
  | pair cs before written after found ih =>
    rw [← behind] at found
    have yields : YieldsPair query.toList cursor (cursor + before.length) written :=
      yieldsPair_iff.mpr ⟨before, after, rfl, found⟩
    obtain ⟨category, value, -, -, step⟩ := yields.fieldsAt_eq
    intro field member
    rw [step, List.mem_append, List.mem_cons] at member
    rcases member with lead | rfl | later
    · exact stands_lead lead
    · exact .pair ⟨cursor, _, reached, yields, rfl⟩
    · exact ih (reached.behind found) (drop_of_find? found) field later

theorem Field.stands {query : String} {field : Field} (member : field ∈ fields query) :
    field.Stands query :=
  stands_of_reaches .start rfl field member

theorem value_eq_empty_iff {query : String} {field : Field} (member : field ∈ fields query) :
    field.value = "" ↔ Dropped query field := by
  constructor
  · intro empty
    cases field.stands member with
    | text free valued => exact absurd empty valued
    | pair isPair =>
      rw [(isPair.reads member).2, content_eq_empty_iff isPair.wellFormed.value] at empty
      exact .blankValue isPair empty
    | dropped dropped => exact dropped
  · exact fun dropped => dropped.value_eq_empty member

theorem becomes_toFacet {query : String} (dialect : Dialect) {field : Field}
    (member : field ∈ fields query) (kept : ¬ Dropped query field) :
    field.Becomes query dialect (field.toFacet dialect) := by
  have made : field.toFacet dialect = ⟨field.categoryIn dialect, field.value, none⟩ := by
    rw [Field.toFacet, Facet.make, trim_value_of_mem member]
  rw [made, Field.categoryIn]
  cases found : field.category with
  | none => exact .text found
  | some category =>
    -- A pair has an empty category when there are only blanks between its marks.
    by_cases empty : category = ""
    · simp only [String.isEmpty_iff, empty, ↓reduceIte]
      cases field.stands member with
      | text free => simp [found] at free
      | pair isPair =>
        have reads := (isPair.reads member).1
        rw [found, empty, Option.some.injEq, eq_comm,
          content_eq_empty_iff isPair.wellFormed.category] at reads
        exact .blankCategory isPair reads
      | dropped dropped => exact absurd dropped kept
    · simp only [String.isEmpty_iff, empty, ↓reduceIte]
      exact .named found empty

theorem reduceOption_yields {query : String} (dialect : Dialect) (found : List Field)
    (members : ∀ field ∈ found, field ∈ fields query) :
    ∃ results, List.Forall₂ (fun field => Field.Yields query dialect field) found results ∧
      (found.filter fun field => !field.value.isEmpty).map (·.toFacet dialect) =
        results.reduceOption := by
  induction found with
  | nil => exact ⟨[], .nil, rfl⟩
  | cons field rest ih =>
    obtain ⟨member, others⟩ := List.forall_mem_cons.mp members
    obtain ⟨results, yields, same⟩ := ih others
    by_cases empty : field.value = ""
    · refine ⟨none :: results, .cons (.nothing ((value_eq_empty_iff member).mp empty)) yields, ?_⟩
      rw [List.reduceOption_cons_of_none, ← same]
      simp [empty]
    · have kept : ¬ Dropped query field := fun dropped =>
        empty (dropped.value_eq_empty member)
      refine ⟨some (field.toFacet dialect) :: results,
        .cons (.facet kept (becomes_toFacet dialect member kept)) yields, ?_⟩
      rw [List.reduceOption_cons_of_some, ← same]
      simp [empty]

/-- Every field of a query becomes one facet, in the order of the fields, but for those that are
dropped: blanks behind the last pair, a category that dangles there, and pairs whose value is blank
between its marks. So free text that is not blank is kept, and so is every pair with a bare
value. -/
theorem parse_keeps (dialect : Dialect) (query : String) :
    (∃ results, List.Forall₂ (fun field => Field.Yields query dialect field) (fields query) results ∧
      parse dialect query = results.reduceOption) ∧
    (∀ field ∈ fields query, field.category = none → ∀ text,
      Text.cut? field.span.start field.span.stop query.toList = some text →
      (∃ c ∈ text, isBlank c = false) → ¬ Dropped query field) ∧
    ∀ field ∈ fields query, ∀ pair : Pair, field.IsPair query pair →
      (∀ c ∈ pair.value.head?, isMark c = false) → ¬ Dropped query field := by
  refine ⟨reduceOption_yields dialect (fields query) fun _ member => member, ?_, ?_⟩
  · rintro field member free text cuts ⟨c, inText, solid⟩ dropped
    obtain ⟨-, found, same, value⟩ := (laid_fields query).covers.cut field member
    obtain rfl : text = found := Option.some.inj (cuts.symm.trans same)
    have nothing : String.ofList (trimChars text) = "" :=
      (value free).symm.trans (dropped.value_eq_empty member)
    rw [(ofList_trimChars_eq_empty_iff text).mp nothing c inText] at solid
    contradiction
  · intro field member pair isPair bare dropped
    -- Only a quoted term can say nothing; a bare one has a character that is not blank.
    have empty := dropped.value_eq_empty member
    rw [(isPair.reads member).2, content_eq_empty_iff isPair.wellFormed.value] at empty
    obtain ⟨mark, body, marked, -, same⟩ := empty
    rw [bare mark (by rw [same]; rfl)] at marked
    contradiction

-- A blank value, a blank category and a category that dangles.
example : parse {} "a: ' ' see b:c \"\t\": d e:" =
    [⟨"text", "see", none⟩, ⟨"b", "c", none⟩, ⟨"text", "d", none⟩] := by
  decide +kernel

end FacetedSearch.Query
