import FacetedSearch.Proofs.Query.LeftmostLongest
import Mathlib.Data.List.Chain

/-! Nothing of a query is left out and nothing is scanned twice.

The fields of a query are laid out in it one behind the other: each has a text of its own, and in
front of that text there is nothing, or the blanks before a pair. What holds of the spans follows by
induction on the layout.
-/

set_option autoImplicit false

namespace FacetedSearch.Query

open Text (isBlank trimChars byteLength byteLength_append byteLength_pos)

def spanOf (before text : List Char) : Span := ⟨byteLength before, byteLength (before ++ text)⟩

theorem spanOf_start_lt (before : List Char) {text : List Char} (nonempty : text ≠ []) :
    (spanOf before text).start < (spanOf before text).stop := by
  have positive := byteLength_pos nonempty
  simp only [spanOf, byteLength_append]
  omega

/-! ## Layouts -/

inductive Fills : List Char → List Char → Field → Prop where
  | free {text : List Char} {field : Field} (nonempty : text ≠ [])
      (category : field.category = none)
      (value : field.value = String.ofList (trimChars text)) : Fills [] text field
  | pair {gap : List Char} {pair : Pair} {field : Field} (blank : ∀ c ∈ gap, isBlank c = true)
      (wellFormed : pair.WellFormed) (category : field.category = some (Term.content pair.category))
      (value : field.value = Term.content pair.value) : Fills gap pair.text field
  | dangling {text : List Char} {field : Field} (nonempty : text ≠ [])
      (category : field.category ≠ none) : Fills [] text field

theorem Fills.pair_of_gap {gap text : List Char} {field : Field} (fills : Fills gap text field)
    (nonempty : gap ≠ []) : (∀ c ∈ gap, isBlank c = true) ∧ ∃ pair : Pair, text = pair.text ∧
      pair.WellFormed ∧ field.category = some (Term.content pair.category) ∧
      field.value = Term.content pair.value := by
  cases fills with
  | free => contradiction
  | @pair _ pair _ blank wellFormed category value =>
    exact ⟨blank, pair, rfl, wellFormed, category, value⟩
  | dangling => contradiction

/-- The fields of a text that stands behind `done`, one behind the other up to its end. Behind free
text comes no other free text. -/
inductive Laid : List Char → List Char → List Field → Prop where
  | stop {done : List Char} : Laid done [] []
  | field {done gap text rest : List Char} {field : Field} {later : List Field}
      (fills : Fills gap text field) (span : field.span = spanOf (done ++ gap) text)
      (apart : ∀ next ∈ later.head?, ¬ (field.category = none ∧ next.category = none))
      (behind : Laid (done ++ gap ++ text) rest later) :
      Laid done (gap ++ (text ++ rest)) (field :: later)

theorem Fills.nonempty {gap text : List Char} {field : Field} (fills : Fills gap text field) :
    text ≠ [] := by
  cases fills with
  | free nonempty => exact nonempty
  | pair => exact Pair.text_ne_nil _
  | dangling nonempty => exact nonempty

theorem Fills.trim {gap text : List Char} {field : Field} (fills : Fills gap text field)
    (free : field.category = none) : field.value = String.ofList (trimChars text) := by
  cases fills with
  | free _ _ value => exact value
  | pair _ _ category => simp [category] at free
  | dangling _ category => exact absurd free category

theorem laid_ofEnd (done : List Char) {cs : List Char} (nonempty : cs ≠ []) :
    Laid done cs (fieldsFrom (byteLength done) [Piece.ofEnd cs]) := by
  have one {field : Field} (fills : Fills [] cs field) (span : field.span = spanOf done cs) :
      Laid done cs [field] := by
    have laid : Laid done ([] ++ (cs ++ [])) [field] :=
      .field fills (by rwa [List.append_nil]) (by simp) .stop
    rwa [List.nil_append, List.append_nil] at laid
  have text := Piece.text_ofEnd cs
  rcases Piece.ofEnd_cases cs with last | ⟨lead, category, trail, last, -⟩
  · rw [last] at text ⊢
    simp only [fieldsFrom, Piece.field?, text, Option.toList_some, List.append_nil]
    exact one (.free nonempty rfl rfl) (by simp [spanOf])
  · rw [last] at text ⊢
    simp only [fieldsFrom, Piece.field?, text, Option.toList_some, List.append_nil]
    exact one (.dangling nonempty (by simp)) (by simp [spanOf])

theorem laid_pair {done gap after : List Char} {written : Pair}
    (blank : ∀ c ∈ gap, isBlank c = true) (wellFormed : written.WellFormed)
    (behind : Laid (done ++ gap ++ written.text) after
      (fieldsFrom (byteLength (done ++ gap ++ written.text)) (pieces after))) :
    Laid done (gap ++ (written.text ++ after))
      (fieldsFrom (byteLength (done ++ gap)) (.pair written :: pieces after)) := by
  rw [fieldsFrom, Piece.text, ← byteLength_append]
  exact .field (.pair blank wellFormed rfl rfl) (by simp [spanOf, Piece.text, Nat.add_assoc])
    (by simp) behind

theorem laid_free {done text rest : List Char} {later : List Field} (nonempty : text ≠ [])
    (apart : ∀ next ∈ later.head?, next.category ≠ none)
    (behind : Laid (done ++ text) rest later) : Laid done (text ++ rest)
      (⟨none, String.ofList (trimChars text), spanOf done text⟩ :: later) := by
  have fills : Fills [] text ⟨none, String.ofList (trimChars text), spanOf done text⟩ :=
    .free nonempty rfl rfl
  exact .field fills (by rw [List.append_nil]) (fun next found both => apart next found both.2)
    (by rwa [List.append_nil])

theorem laid_pieces (done cs : List Char) :
    Laid done cs (fieldsFrom (byteLength done) (pieces cs)) := by
  -- Along the scan; `done` is the text that it has passed.
  induction cs using scan_induction generalizing done with
  | rest cs none =>
    by_cases empty : cs = []
    · rw [empty, pieces_nil]
      exact .stop
    · rw [pieces_of_none none empty]
      exact laid_ofEnd done empty
  | pair cs before written after found ih =>
    obtain ⟨wellFormed, split⟩ := Pair.find?_split found
    rw [pieces_of_find? found, fieldsFrom_append, Piece.flatMap_text_ofLead, ← byteLength_append,
      split]
    by_cases blank : ∀ c ∈ before, isBlank c = true
    · -- Blanks, or nothing at all, are the gap of the pair.
      have noField : fieldsFrom (byteLength done) (Piece.ofLead before) = [] := by
        rw [fieldsFrom_ofLead, if_pos ((Text.isBlankText_iff before).mpr blank)]
      rw [noField, List.nil_append]
      exact laid_pair blank wellFormed (ih _)
    · have nonempty : before ≠ [] := by
        rintro rfl
        simp at blank
      have lead := Piece.ofLead_visible blank
      have next : Laid (done ++ before) ([] ++ (written.text ++ after))
          (fieldsFrom (byteLength (done ++ before ++ [])) (.pair written :: pieces after)) :=
        laid_pair (by simp) wellFormed (ih _)
      rw [List.append_nil] at next
      have laid := laid_free nonempty (by simp [fieldsFrom, Piece.field?]) next
      simpa [lead, fieldsFrom, Piece.field?, Piece.text, spanOf] using laid

theorem laid_fields (query : String) : Laid [] query.toList (fields query) := by
  rw [fields_eq]
  exact laid_pieces [] query.toList

/-! ## What holds along a layout -/

theorem Laid.exists_fills {done cs : List Char} {fields : List Field} (laid : Laid done cs fields)
    {field : Field} (member : field ∈ fields) : ∃ lead gap text rest,
      cs = lead ++ (gap ++ (text ++ rest)) ∧ Fills gap text field ∧
      field.span = spanOf (done ++ lead ++ gap) text := by
  induction laid with
  | stop => simp at member
  | @field done gap text rest first later fills span apart behind ih =>
    rcases List.mem_cons.mp member with rfl | inLater
    · exact ⟨[], gap, text, rest, by simp, fills, by simp [span]⟩
    · obtain ⟨lead, others, found, more, rfl, foundFills, foundSpan⟩ := ih inLater
      exact ⟨gap ++ text ++ lead, others, found, more, by simp, foundFills, by simp [foundSpan]⟩

theorem Laid.start_le {done cs : List Char} {fields : List Field} (laid : Laid done cs fields)
    {field : Field} (member : field ∈ fields) : byteLength done ≤ field.span.start := by
  obtain ⟨lead, gap, text, rest, -, -, span⟩ := laid.exists_fills member
  rw [span, spanOf]
  simp only [byteLength_append]
  omega

theorem Laid.ordered {done cs : List Char} {fields : List Field} (laid : Laid done cs fields) :
    fields.Pairwise fun earlier later =>
      earlier.span.start < later.span.start ∧ earlier.span.stop ≤ later.span.start := by
  induction laid with
  | stop => exact .nil
  | @field done gap text rest first later fills span apart behind ih =>
    refine .cons (fun other member => ?_) ih
    have atLeast := behind.start_le member
    have positive := spanOf_start_lt (done ++ gap) fills.nonempty
    rw [← span] at positive
    have stop : first.span.stop = byteLength (done ++ gap ++ text) := by rw [span, spanOf]
    omega

theorem Laid.apart {done cs : List Char} {fields : List Field} (laid : Laid done cs fields) :
    fields.IsChain fun first next => ¬ (first.category = none ∧ next.category = none) := by
  induction laid with
  | stop => exact .nil
  | field fills span apart behind ih => exact List.isChain_cons.mpr ⟨apart, ih⟩

theorem Laid.ends {done cs : List Char} {fields : List Field} (laid : Laid done cs fields)
    (nonempty : cs ≠ []) : ∃ field, fields.getLast? = some field ∧
      field.span.stop = byteLength (done ++ cs) := by
  induction laid with
  | stop => contradiction
  | @field done gap text rest first later fills span apart behind ih =>
    -- The last field is this one, unless something is left behind it.
    by_cases empty : rest = []
    · cases behind with
      | stop => exact ⟨first, rfl, by simp [span, spanOf]⟩
      | field fills => simp [fills.nonempty] at empty
    · obtain ⟨last, found, stop⟩ := ih empty
      exact ⟨last, by simp [List.getLast?_cons, found], by simpa using stop⟩

theorem place_cases {first second lead rest : List Char} {c : Char}
    (split : first ++ second = lead ++ c :: rest) :
    (∃ more, first = lead ++ c :: more ∧ rest = more ++ second) ∨
      ∃ between, lead = first ++ between ∧ second = between ++ c :: rest := by
  rcases List.append_eq_append_iff.mp split with ⟨between, same, behind⟩ | ⟨more, same, behind⟩
  · exact .inr ⟨between, same, behind⟩
  · cases more with
    | nil => exact .inr ⟨[], by simpa using same.symm, by simpa using behind.symm⟩
    | cons d more =>
      rw [List.cons_append, List.cons.injEq] at behind
      obtain ⟨rfl, rfl⟩ := behind
      exact .inl ⟨more, same, rfl⟩

/-- The character `c` is one of the blanks before a pair: behind it come blanks up to the pair, and
the text of the pair is that of one of the fields. -/
def BeforePair (fields : List Field) (lead : List Char) (c : Char) (rest : List Char) : Prop :=
  isBlank c = true ∧ ∃ field ∈ fields, ∃ gap pair after, rest = gap ++ (Pair.text pair ++ after) ∧
    (∀ d ∈ gap, isBlank d = true) ∧ pair.WellFormed ∧
    field.category = some (Term.content pair.category) ∧
    field.value = Term.content pair.value ∧ field.span = spanOf (lead ++ c :: gap) pair.text

theorem Laid.between {done cs : List Char} {fields : List Field} (laid : Laid done cs fields)
    {lead rest : List Char} {c : Char} (split : cs = lead ++ c :: rest)
    (outside : ∀ field ∈ fields, ¬ (field.span.start ≤ byteLength (done ++ lead) ∧
      byteLength (done ++ lead) < field.span.stop)) :
    BeforePair fields (done ++ lead) c rest := by
  -- The place is in the gap of the first field, in its text, or among the later ones.
  induction laid generalizing lead with
  | stop => simp at split
  | @field done gap text more first later fills span apart behind ih =>
    rcases place_cases split with ⟨gapRest, rfl, rfl⟩ | ⟨between, rfl, onward⟩
    · obtain ⟨blank, pair, rfl, wellFormed, category, value⟩ := fills.pair_of_gap (by simp)
      exact ⟨blank c (by simp), first, List.mem_cons_self, gapRest, pair, more, rfl,
        fun d member => blank d (by simp [member]), wellFormed, category, value,
        by simpa using span⟩
    · rcases place_cases onward with ⟨textRest, rfl, rfl⟩ | ⟨between, rfl, inMore⟩
      · have inside := outside first List.mem_cons_self
        have positive := c.utf8Size_pos
        simp only [span, spanOf, byteLength_append, byteLength] at inside
        omega
      · have place : done ++ (gap ++ (text ++ between)) = done ++ gap ++ text ++ between := by simp
        rw [place] at outside ⊢
        obtain ⟨blank, field, member, pair⟩ :=
          ih inMore fun field member => outside field (List.mem_cons_of_mem first member)
        exact ⟨blank, field, List.mem_cons_of_mem first member, pair⟩

/-! ## The fields of a query -/

/-- The fields of a query cover all of it but the blanks before pairs, and nothing twice. -/
structure Covers (query : String) (fields : List Field) : Prop where
  cut : ∀ field ∈ fields, field.span.start < field.span.stop ∧
    ∃ text, Text.cut? field.span.start field.span.stop query.toList = some text ∧
      (field.category = none → field.value = String.ofList (trimChars text))
  ordered : fields.Pairwise fun earlier later =>
    earlier.span.start < later.span.start ∧ earlier.span.stop ≤ later.span.start
  ends : query ≠ "" → ∃ field, fields.getLast? = some field ∧
    field.span.stop = query.utf8ByteSize
  /-- What stands outside of all spans stands in the blanks before a pair. -/
  between : ∀ lead c rest, query.toList = lead ++ c :: rest →
    (∀ field ∈ fields, ¬ (field.span.start ≤ byteLength lead ∧ byteLength lead < field.span.stop)) →
    BeforePair fields lead c rest
  apart : fields.IsChain fun first next => ¬ (first.category = none ∧ next.category = none)

theorem Laid.covers {query : String} {fields : List Field} (laid : Laid [] query.toList fields) :
    Covers query fields where
  cut field member := by
    obtain ⟨lead, gap, text, rest, split, fills, span⟩ := laid.exists_fills member
    have cuts := Text.cut?_append (lead ++ gap) text rest
    have whole : lead ++ gap ++ (text ++ rest) = query.toList := by
      rw [split, List.append_assoc]
    rw [List.nil_append] at span
    rw [whole] at cuts
    rw [span]
    exact ⟨spanOf_start_lt _ fills.nonempty, text, cuts, fills.trim⟩
  ordered := laid.ordered
  ends nonempty := by
    rw [← Text.byteLength_toList]
    exact laid.ends (by simpa using nonempty)
  between _ _ _ split outside := laid.between split outside
  apart := laid.apart

theorem YieldsPair.forward {cs : List Char} {cursor start : Nat} {pair : Pair}
    (yields : YieldsPair cs cursor start pair) :
    cursor < start + pair.text.length ∧ start + pair.text.length ≤ cs.length := by
  have least := yields.leftmostLongest
  obtain ⟨-, rest, split⟩ := least.derives
  have nonempty := List.length_pos_iff.mpr pair.text_ne_nil
  have lengths := congrArg List.length split
  have behind := least.behind
  simp only [List.length_drop, List.length_append] at lengths
  omega

theorem Reaches.end {cs : List Char} {cursor : Nat} (reached : Reaches cs cursor) :
    Reaches cs cs.length := by
  -- What is left behind the cursor gets less with every pair.
  induction left : cs.length - cursor using Nat.strong_induction_on generalizing cursor with
  | _ left ih =>
    cases found : Pair.find? (cs.drop cursor) with
    | none => exact reached.stop found
    | some result =>
      obtain ⟨before, pair, after⟩ := result
      have yields : YieldsPair cs cursor (cursor + before.length) pair :=
        yieldsPair_iff.mpr ⟨before, after, rfl, found⟩
      have forward := yields.forward
      exact ih _ (by omega) (reached.behind found) rfl

/-- The spans of the fields of a query are in order, apart and on character boundaries; they end
with the query, and what they leave out are blanks before pairs. No two fields of free text follow
each other, and each is its text, trimmed. Every pair moves the cursor of the scan forward, and so
does every step that hands over no pending pair; the scan comes to the end of the query and ends
nowhere else. -/
theorem fields_cover (query : String) : Covers query (fields query) ∧
    (∀ cursor start pair, YieldsPair query.toList cursor start pair →
      cursor < start + pair.text.length ∧ start + pair.text.length ≤ query.toList.length) ∧
    (∀ scan, Scan.Reached query.toList scan →
      (∀ field next, scan.next? = some (field, next) → scan.pending = none →
        scan.cursor < next.cursor) ∧
      (scan.next? = none → scan.cursor = query.toList.length)) ∧
    Reaches query.toList query.toList.length := by
  refine ⟨(laid_fields query).covers, fun _ _ _ yields => yields.forward,
    fun scan reached => ?_, Reaches.start.end⟩
  exact ⟨fun field next step => (Scan.Step.of_next? step).forward, reached.cursor_eq⟩

end FacetedSearch.Query
