import FacetedSearch.Proofs.Query.Reading
import FacetedSearch.Proofs.Query.Spans

/-! Reading a text that goes on behind its last pair.

Without marks, and with neither a blank nor a colon at its end, a text is closed: whatever comes
behind it and a blank changes nothing of what the readers find in it. So a query that ends with a
pair is read by itself, and what is appended to it is read as a query of its own.
-/

set_option autoImplicit false

namespace FacetedSearch.Query

open Text (isBlank Breaks)

/-- No character is a mark, and the last one is neither blank nor a colon. -/
structure Closed (cs : List Char) : Prop where
  unmarked : ∀ c ∈ cs, isMark c = false
  last : ∀ c ∈ cs.getLast?, isBlank c = false ∧ c ≠ ':'

theorem Closed.of_append {first cs : List Char} (closed : Closed (first ++ cs)) : Closed cs where
  unmarked c member := closed.unmarked c (List.mem_append_right first member)
  last c found := closed.last c (by
    rw [List.getLast?_append, found]
    rfl)

theorem Closed.tail {c : Char} {cs : List Char} (closed : Closed (c :: cs)) : Closed cs :=
  @Closed.of_append [c] cs closed

theorem Closed.exists_first {cs : List Char} (closed : Closed cs) (nonempty : cs ≠ []) :
    ∃ gap first rest, cs = gap ++ first :: rest ∧ (∀ c ∈ gap, isBlank c = true) ∧
      isBlank first = false := by
  have behind : cs.dropWhile isBlank ≠ [] := by
    intro nothing
    have last := List.getLast_mem nonempty
    have blank := List.dropWhile_eq_nil_iff.mp nothing _ last
    rw [(closed.last _ (List.getLast?_eq_some_getLast nonempty)).1] at blank
    contradiction
  obtain ⟨first, rest, split⟩ := List.exists_cons_of_ne_nil behind
  refine ⟨cs.takeWhile isBlank, first, rest, ?_, fun c member => List.mem_takeWhile_imp member, ?_⟩
  · rw [← split, List.takeWhile_append_dropWhile]
  · exact Text.head_of_dropWhile (by rw [split]; rfl)

/-! ## The readers -/

theorem takeWhile_append_breaks (run : List Char) {rest : List Char} (breaks : Breaks rest) :
    (run ++ rest).takeWhile (!isBlank ·) = run.takeWhile (!isBlank ·) := by
  induction run with
  | nil => exact breaks.takeWhile_eq
  | cons c run ih => by_cases blank : isBlank c <;> simp [blank, ih]

theorem dropWhile_append_breaks (run : List Char) {rest : List Char} (breaks : Breaks rest) :
    (run ++ rest).dropWhile (!isBlank ·) = run.dropWhile (!isBlank ·) ++ rest := by
  induction run with
  | nil => exact breaks.dropWhile_eq
  | cons c run ih => by_cases blank : isBlank c <;> simp [blank, ih]

section
variable {cs rest : List Char}

theorem Closed.readTerm?_append (closed : Closed cs) (nonempty : cs ≠ []) (breaks : Breaks rest) :
    Term.read? (cs ++ rest) = (Term.read? cs).map fun (term, after) => (term, after ++ rest) := by
  obtain ⟨first, run, rfl⟩ := List.exists_cons_of_ne_nil nonempty
  have notMark := closed.unmarked first List.mem_cons_self
  by_cases blank : isBlank first
  · simp [Term.read?, notMark, blank]
  · simp [Term.read?, notMark, blank, takeWhile_append_breaks run breaks,
      dropWhile_append_breaks run breaks]

theorem Closed.readValue?_append (closed : Closed cs) (nonempty : cs ≠ [])
    (breaks : Breaks rest) : Pair.readValue? (cs ++ rest) =
      (Pair.readValue? cs).map fun (gap, value, after) => (gap, value, after ++ rest) := by
  obtain ⟨gap, first, run, rfl, blank, solid⟩ := closed.exists_first nonempty
  have term := closed.of_append.readTerm?_append (List.cons_ne_nil first run) breaks
  have gapOf (text : List Char) : (gap ++ first :: text).takeWhile isBlank = gap ∧
      (gap ++ first :: text).dropWhile isBlank = first :: text := by
    rw [List.takeWhile_append_of_pos blank, List.dropWhile_append_of_pos blank]
    simp [solid]
  rw [List.append_assoc, List.cons_append]
  rw [List.cons_append] at term
  simp only [Pair.readValue?, gapOf, term, Option.map_map, Function.comp_def]

theorem Closed.readBare?_append (closed : Closed cs) (breaks : Breaks rest) :
    Pair.readBare? (cs ++ rest) =
      (Pair.readBare? cs).map fun (pair, after) => (pair, after ++ rest) := by
  induction cs with
  | nil => exact Pair.readBare?_breaks breaks
  | cons c run ih =>
    have later := ih closed.tail
    simp only [List.cons_append, Pair.readBare?, later]
    by_cases blank : isBlank c
    · simp [blank]
    · cases found : Pair.readBare? run with
      | some result => simp [blank]
      | none =>
        by_cases colon : c = ':'
        · -- The colon is not the last character, so its value starts in the text.
          have nonempty : run ≠ [] := by
            rintro rfl
            exact (closed.last c rfl).2 colon
          simp [colon, closed.tail.readValue?_append nonempty breaks, Function.comp_def,
            show isBlank ':' = false by decide]
        · simp [blank, colon]

theorem Closed.readPair?_append (closed : Closed cs) (nonempty : cs ≠ []) (breaks : Breaks rest) :
    Pair.read? (cs ++ rest) = (Pair.read? cs).map fun (pair, after) => (pair, after ++ rest) := by
  obtain ⟨first, run, rfl⟩ := List.exists_cons_of_ne_nil nonempty
  have notMark := closed.unmarked first List.mem_cons_self
  by_cases blank : isBlank first
  · simp [Pair.read?, notMark, blank]
  · simp [Pair.read?, notMark, blank, closed.tail.readBare?_append breaks, Function.comp_def]

theorem Closed.find?_append (closed : Closed cs) (breaks : Breaks rest) {before after : List Char}
    {pair : Pair} (found : Pair.find? cs = some (before, pair, after)) :
    Pair.find? (cs ++ rest) = some (before, pair, after ++ rest) := by
  induction cs generalizing before with
  | nil => simp [Pair.find?] at found
  | cons c run ih =>
    have here := closed.readPair?_append (List.cons_ne_nil c run) breaks
    rw [List.cons_append] at here ⊢
    cases read : Pair.read? (c :: run) with
    | some result =>
      rw [Pair.find?_of_read? read, Option.some.injEq, Prod.mk.injEq, Prod.mk.injEq] at found
      obtain ⟨rfl, rfl, rfl⟩ := found
      rw [read] at here
      exact Pair.find?_of_read? here
    | none =>
      simp only [Pair.find?, read, Option.map_eq_some_iff, Prod.mk.injEq, Prod.exists] at found
      obtain ⟨lead, written, behind, search, rfl, rfl, rfl⟩ := found
      rw [read] at here
      simp [Pair.find?, here, ih closed.tail search]

end

/-! ## The end of a query -/

/-- The last piece of a text is a pair. The empty text has no last piece. -/
def EndsWithPair (cs : List Char) : Prop :=
  ∀ piece ∈ (pieces cs).getLast?, ∃ pair, piece = .pair pair

theorem EndsWithPair.eq_nil_of_none {cs : List Char} (ends : EndsWithPair cs)
    (none : Pair.find? cs = none) : cs = [] := by
  by_contra nonempty
  obtain ⟨pair, same⟩ := ends (Piece.ofEnd cs) (by rw [pieces_of_none none nonempty]; rfl)
  exact Piece.ofEnd_ne_pair cs pair same

theorem EndsWithPair.after {cs before after : List Char} {pair : Pair} (ends : EndsWithPair cs)
    (found : Pair.find? cs = some (before, pair, after)) : EndsWithPair after := by
  intro piece last
  refine ends piece ?_
  rw [pieces_of_find? found, List.getLast?_append_of_ne_nil _ (List.cons_ne_nil _ _),
    List.getLast?_cons, last]
  rfl

/-- Behind a closed text that ends with a pair, a scan starts again. -/
theorem pairsOf_append (dialect : Dialect) {cs rest : List Char} (closed : Closed cs)
    (ends : EndsWithPair cs) (breaks : Breaks rest) :
    pairsOf dialect (cs ++ rest) = pairsOf dialect cs ++ pairsOf dialect rest := by
  induction cs using scan_induction with
  | rest cs none =>
    rw [ends.eq_nil_of_none none]
    simp [pairsOf]
  | pair cs before written after found ih =>
    obtain ⟨-, split⟩ := Pair.find?_split found
    have closedAfter : Closed after := by
      rw [split, ← List.append_assoc] at closed
      exact closed.of_append
    rw [pairsOf_of_find? dialect (closed.find?_append breaks found),
      pairsOf_of_find? dialect found, ih closedAfter (ends.after found)]
    simp only [List.append_assoc]

theorem EndsWithPair.last_solid {cs : List Char} (ends : EndsWithPair cs)
    (unmarked : ∀ c ∈ cs, isMark c = false) : ∀ c ∈ cs.getLast?, isBlank c = false := by
  induction cs using scan_induction with
  | rest cs none =>
    rw [ends.eq_nil_of_none none]
    simp
  | pair cs before written after found ih =>
    obtain ⟨wellFormed, split⟩ := Pair.find?_split found
    have inCs {c : Char} (member : c ∈ before ++ (written.text ++ after)) : isMark c = false :=
      unmarked c (split ▸ member)
    by_cases empty : after = []
    · -- The last character is the last one of the value, which is bare.
      obtain ⟨first, run, value, -⟩ := wellFormed.value.exists_first
      have solid := (value ▸ wellFormed.value).solid_of_notMark
        (inCs (by simp [Pair.text, value]))
      intro c last
      rw [split, empty, List.append_nil, Pair.text, value, ← List.cons_append, ← List.append_assoc,
        ← List.append_assoc, List.getLast?_append_of_ne_nil _ (List.cons_ne_nil first run)] at last
      exact solid c (List.mem_of_getLast? last)
    · intro c last
      rw [split, ← List.append_assoc, List.getLast?_append_of_ne_nil _ empty] at last
      exact ih (ends.after found) (fun d member => inCs (by simp [member])) c last

theorem endsWithPair_of_fieldsFrom {cs : List Char} {field : Field} (done : List Char)
    (last : (fieldsFrom (Text.byteLength done) (pieces cs)).getLast? = some field)
    (named : field.category ≠ none) (valued : field.value ≠ "") : EndsWithPair cs := by
  induction cs using scan_induction generalizing done with
  | rest cs none =>
    by_cases empty : cs = []
    · simp [EndsWithPair, empty]
    · -- Free text has no category, and a category that dangles has no value.
      rw [pieces_of_none none empty] at last
      rcases Piece.ofEnd_cases cs with same | ⟨lead, category, trail, same, -⟩ <;>
        simp [same, fieldsFrom, Piece.field?] at last <;> subst last
      · simp at named
      · simp at valued
  | pair cs before written after found ih =>
    have laid := laid_pieces (done ++ before ++ written.text) after
    intro piece ends
    rw [pieces_of_find? found, List.getLast?_append_of_ne_nil _ (List.cons_ne_nil _ _)] at ends
    rw [pieces_of_find? found, fieldsFrom_append, Piece.flatMap_text_ofLead, fieldsFrom, Piece.text,
      ← Text.byteLength_append, ← Text.byteLength_append, Piece.field?, Option.toList_some,
      List.singleton_append, List.getLast?_append_of_ne_nil _ (List.cons_ne_nil _ _)] at last
    cases fields : fieldsFrom (Text.byteLength (done ++ before ++ written.text)) (pieces after) with
    | nil =>
      rw [fields] at laid
      cases laid with
      | stop => exact ⟨written, by simpa using ends.symm⟩
    | cons first rest =>
      have visible : pieces after ≠ [] := by
        intro nothing
        simp [nothing, fieldsFrom] at fields
      rw [fields, List.getLast?_cons_cons, ← fields] at last
      obtain ⟨next, more, same⟩ := List.exists_cons_of_ne_nil visible
      rw [same, List.getLast?_cons_cons, ← same] at ends
      exact ih _ last piece ends

/-- What is read in a query without marks that ends with a pair and not with a colon stays as it is
when blanks and any other query, marks included, are put behind it. A last field is a pair if it has
a category and a value: free text has no category, and a category that dangles has no value. -/
theorem parse_append (dialect : Dialect) (first gap rest : String)
    (unmarked : ∀ c ∈ first.toList, isMark c = false) (colon : first.toList.getLast? ≠ some ':')
    (pair : ∃ field, (fields first).getLast? = some field ∧ field.category ≠ none ∧
      field.value ≠ "")
    (nonempty : gap ≠ "") (blank : ∀ c ∈ gap.toList, isBlank c = true) :
    parse dialect (first ++ gap ++ rest) = parse dialect first ++ parse dialect rest := by
  obtain ⟨field, last, named, valued⟩ := pair
  rw [fields_eq] at last
  have ends : EndsWithPair first.toList := endsWithPair_of_fieldsFrom [] last named valued
  have closed : Closed first.toList := by
    refine ⟨unmarked, fun c found => ⟨ends.last_solid unmarked c found, ?_⟩⟩
    rintro rfl
    exact colon found
  have breaks : Breaks (gap.toList ++ rest.toList) := by
    obtain ⟨c, others, same⟩ := List.exists_cons_of_ne_nil
      (show gap.toList ≠ [] by simpa using nonempty)
    simpa [same, Breaks] using blank c (by simp [same])
  rw [parse_eq, parse_eq, parse_eq, String.toList_append, String.toList_append, List.append_assoc,
    pairsOf_append dialect closed ends breaks, pairsOf_blank_append dialect blank, List.map_append]

theorem parse_append_open_mark :
    parse {} ("see a:b:c" ++ "\t " ++ ":d 'e: f") =
      parse {} "see a:b:c" ++ parse {} ":d 'e: f" := by
  have found : Pair.find? "see a:b:c".toList =
      some ("see ".toList, ⟨"a:b".toList, [], ['c']⟩, []) := by decide
  have scanned : pieces "see a:b:c".toList =
      [.free "see ".toList, .pair ⟨"a:b".toList, [], ['c']⟩] := by
    rw [pieces_of_find? found, pieces_nil]
    decide
  have last : (fields "see a:b:c").getLast? = some ⟨some "a:b", "c", ⟨4, 9⟩⟩ := by
    rw [fields_eq, scanned]
    decide
  exact parse_append {} "see a:b:c" "\t " ":d 'e: f" (by simp [isMark]) (by decide)
    ⟨_, last, by decide, by decide⟩ (by decide) (by simp [isBlank])

end FacetedSearch.Query
