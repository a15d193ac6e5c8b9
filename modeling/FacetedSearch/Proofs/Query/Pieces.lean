import FacetedSearch.Proofs.Query.Pairs
import FacetedSearch.Query.Scan

/-! The lossless division of a query into pieces.

A query is a sequence of pairs with free text before, between and after them. Each pair is the
first one that the grammar derives in what is left of the query, so the texts of the pieces, put
together, are the query again.
-/

set_option autoImplicit false

namespace FacetedSearch.Query

open Text (isBlank isBlankText trimChars Breaks)

/-! ## Dangling categories -/

theorem bareCategory?_eq_some_iff {run category : List Char} :
    bareCategory? run = some category ↔
      run = category ++ [':'] ∧ ∃ first rest, category = first :: rest ∧ isMark first = false := by
  cases run with
  | nil => simp [bareCategory?]
  | cons first rest =>
    constructor
    · intro found
      simp only [bareCategory?] at found
      split at found
      next test =>
        simp only [Bool.and_eq_true, Bool.not_eq_true', beq_iff_eq] at test
        obtain ⟨front, rfl⟩ := List.getLast?_eq_some_iff.mp test.2
        simp only [List.dropLast_concat, Option.some.injEq] at found
        exact ⟨by simp [← found], first, front, found.symm, test.1⟩
      next => simp at found
    · rintro ⟨split, head, others, rfl, notMark⟩
      rw [List.cons_append, List.cons.injEq] at split
      obtain ⟨rfl, rfl⟩ := split
      simp [bareCategory?, notMark]

theorem readDangling?_sound {cs category trail : List Char}
    (read : readDangling? cs = some (category, trail)) :
    IsTerm category ∧ cs = category ++ ':' :: trail ∧ ∀ c ∈ trail, isBlank c = true := by
  cases cs with
  | nil => simp [readDangling?] at read
  | cons c rest =>
    simp only [readDangling?] at read
    split at read
    next mark =>
      split at read
      next found behind quoted =>
        obtain ⟨body, nonempty, closed, rfl, rfl⟩ := Term.readQuoted?_eq_some_iff.mp quoted
        split at read
        next blank =>
          simp only [Option.some.injEq, Prod.mk.injEq] at read
          obtain ⟨rfl, rfl⟩ := read
          exact ⟨.quoted mark nonempty closed, by simp, (Text.isBlankText_iff _).mp blank⟩
        next => simp at read
      next => simp at read
    next =>
      split at read
      next blank =>
        obtain ⟨found, bare, same⟩ := Option.map_eq_some_iff.mp read
        simp only [Prod.mk.injEq] at same
        obtain ⟨rfl, rfl⟩ := same
        obtain ⟨run, first, others, rfl, notMark⟩ := bareCategory?_eq_some_iff.mp bare
        -- The category is a part of the run, so it has no blanks.
        have solid : ∀ d ∈ first :: others, isBlank d = false := by
          intro d member
          have inRun : d ∈ (c :: rest).takeWhile (!isBlank ·) := by
            rw [run]
            exact List.mem_append_left _ member
          simpa using List.mem_takeWhile_imp inRun
        refine ⟨.bare notMark (solid first (by simp)) (fun d member => solid d (by simp [member])),
          ?_, (Text.isBlankText_iff _).mp blank⟩
        have whole := List.takeWhile_append_dropWhile (p := (!isBlank ·)) (l := c :: rest)
        rw [run] at whole
        simpa using whole.symm
      next => simp at read

theorem readDangling?_complete {category trail : List Char} (grammar : IsTerm category)
    (blank : ∀ c ∈ trail, isBlank c = true) :
    readDangling? (category ++ ':' :: trail) = some (category, trail) := by
  have blankText := (Text.isBlankText_iff trail).mpr blank
  cases grammar with
  | @quoted mark body isMark nonempty closed =>
    have quoted : Term.readQuoted? mark (body ++ mark :: ':' :: trail) =
        some (mark :: (body ++ [mark]), ':' :: trail) :=
      Term.readQuoted?_eq_some_iff.mpr ⟨body, nonempty, closed, rfl, rfl⟩
    simp [readDangling?, isMark, quoted, blankText]
  | @bare first rest notMark solid restSolid =>
    have runSolid := solid_colon (List.forall_mem_cons.mpr ⟨solid, restSolid⟩)
    have all : ∀ c ∈ first :: rest ++ [':'], (!isBlank c) = true := by simpa using runSolid
    have breaks : Breaks trail := fun c found => blank c (List.mem_of_mem_head? found)
    have split : first :: rest ++ ':' :: trail = (first :: rest ++ [':']) ++ trail := by simp
    have run : (first :: rest ++ ':' :: trail).takeWhile (!isBlank ·) = first :: rest ++ [':'] := by
      rw [split, List.takeWhile_append_of_pos all, breaks.takeWhile_eq, List.append_nil]
    have behind : (first :: rest ++ ':' :: trail).dropWhile (!isBlank ·) = trail := by
      rw [split, List.dropWhile_append_of_pos all, breaks.dropWhile_eq]
    have bare : bareCategory? (first :: rest ++ [':']) = some (first :: rest) :=
      bareCategory?_eq_some_iff.mpr ⟨rfl, first, rest, rfl, notMark⟩
    rw [List.cons_append] at run behind bare
    simp only [readDangling?, List.cons_append, notMark, Bool.false_eq_true, ↓reduceIte, run,
      behind, bare, blankText, Option.map_some]

theorem readDangling?_eq_none_iff {cs : List Char} : readDangling? cs = none ↔
    ∀ category trail, IsTerm category → cs = category ++ ':' :: trail →
      ¬ ∀ c ∈ trail, isBlank c = true := by
  constructor
  · intro nothing category trail grammar split blank
    rw [split, readDangling?_complete grammar blank] at nothing
    contradiction
  · intro none
    cases read : readDangling? cs with
    | none => rfl
    | some result =>
      obtain ⟨grammar, split, blank⟩ := readDangling?_sound read
      exact absurd blank (none _ _ grammar split)

/-! ## Pieces -/

inductive Piece where
  | space (text : List Char)
  /-- Free text: not blank in front of a pair, anything at the end of a query. -/
  | free (text : List Char)
  | pair (written : Pair)
  /-- The end of a query that is one term and a colon, with blanks around them. -/
  | dangling (lead category trail : List Char)
  deriving DecidableEq, Repr

def Piece.text : Piece → List Char
  | .space text => text
  | .free text => text
  | .pair written => written.text
  | .dangling lead category trail => lead ++ category ++ ':' :: trail

def Piece.ofEnd (cs : List Char) : Piece :=
  match readDangling? (cs.dropWhile isBlank) with
  | some (category, trail) => .dangling (cs.takeWhile isBlank) category trail
  | none => .free cs

def Piece.ofLead (cs : List Char) : List Piece :=
  if cs.isEmpty then [] else if isBlankText cs then [.space cs] else [.free cs]

def pieces (cs : List Char) : List Piece :=
  match _found : Pair.find? cs with
  | some (before, pair, after) => Piece.ofLead before ++ .pair pair :: pieces after
  | none => if cs.isEmpty then [] else [Piece.ofEnd cs]
termination_by cs.length
decreasing_by exact Pair.find?_length _found

/-- The field that a piece says, given where it starts; blanks in front of a pair say none. -/
def Piece.field? (start : Nat) (piece : Piece) : Option Field :=
  let span : Span := ⟨start, start + Text.byteLength piece.text⟩
  match piece with
  | .space _ => none
  | .free text => some ⟨none, String.ofList (Text.trimChars text), span⟩
  | .pair written => some ⟨some (Term.content written.category), Term.content written.value, span⟩
  | .dangling _ category _ => some ⟨some (Term.content category), "", span⟩

def fieldsFrom (start : Nat) : List Piece → List Field
  | [] => []
  | piece :: rest =>
    (piece.field? start).toList ++ fieldsFrom (start + Text.byteLength piece.text) rest

/-! ## The division -/

@[simp] theorem pieces_nil : pieces [] = [] := by
  rw [pieces]
  rfl

theorem Pair.find?_split {cs before after : List Char} {pair : Pair}
    (found : Pair.find? cs = some (before, pair, after)) :
    pair.WellFormed ∧ cs = before ++ (pair.text ++ after) := by
  obtain ⟨rest, rfl, read, -⟩ := Pair.find?_eq_some_iff.mp found
  obtain ⟨wellFormed, rfl, -⟩ := Pair.read?_sound read
  exact ⟨wellFormed, rfl⟩

theorem pieces_of_find? {cs before after : List Char} {pair : Pair}
    (found : Pair.find? cs = some (before, pair, after)) :
    pieces cs = Piece.ofLead before ++ .pair pair :: pieces after := by
  rw [pieces]
  split
  next again =>
    rw [found, Option.some.injEq, Prod.mk.injEq, Prod.mk.injEq] at again
    obtain ⟨rfl, rfl, rfl⟩ := again
    rfl
  next none => simp [found] at none

theorem pieces_of_none {cs : List Char} (none : Pair.find? cs = none) (nonempty : cs ≠ []) :
    pieces cs = [Piece.ofEnd cs] := by
  rw [pieces]
  split
  next found => simp [none] at found
  next => simp [nonempty]

/-- Induction along a scan: behind every pair the scan starts again. -/
theorem scan_induction {motive : List Char → Prop}
    (rest : ∀ cs, Pair.find? cs = none → motive cs)
    (pair : ∀ cs before written after, Pair.find? cs = some (before, written, after) →
      motive after → motive cs) (cs : List Char) : motive cs := by
  induction size : cs.length using Nat.strong_induction_on generalizing cs with
  | _ length ih =>
    cases found : Pair.find? cs with
    | none => exact rest cs found
    | some result =>
      obtain ⟨before, written, after⟩ := result
      have shorter := Pair.find?_length found
      exact pair cs before written after found (ih after.length (by omega) after rfl)

/-- The end of a text is free text, or one term and a colon with blanks around them. -/
theorem Piece.ofEnd_cases (cs : List Char) : Piece.ofEnd cs = .free cs ∨
    ∃ lead category trail, Piece.ofEnd cs = .dangling lead category trail ∧
      cs = lead ++ (category ++ ':' :: trail) ∧ (∀ c ∈ lead, isBlank c = true) ∧
      IsTerm category ∧ ∀ c ∈ trail, isBlank c = true := by
  unfold Piece.ofEnd
  split
  next category trail read =>
    obtain ⟨grammar, split, blank⟩ := readDangling?_sound read
    refine .inr ⟨cs.takeWhile isBlank, category, trail, rfl, ?_,
      fun c member => List.mem_takeWhile_imp member, grammar, blank⟩
    rw [← split, List.takeWhile_append_dropWhile]
  next => exact .inl rfl

theorem Piece.ofEnd_blank {cs : List Char} (blank : ∀ c ∈ cs, isBlank c = true) :
    Piece.ofEnd cs = .free cs := by
  have nothing := List.dropWhile_eq_nil_iff.mpr fun c member => blank c member
  simp [Piece.ofEnd, nothing, readDangling?]

theorem Piece.ofEnd_dangling {lead category trail : List Char}
    (leadBlank : ∀ c ∈ lead, isBlank c = true) (grammar : IsTerm category)
    (trailBlank : ∀ c ∈ trail, isBlank c = true) :
    Piece.ofEnd (lead ++ (category ++ ':' :: trail)) = .dangling lead category trail := by
  have read := readDangling?_complete grammar trailBlank
  obtain ⟨first, rest, rfl, solid⟩ := grammar.exists_first
  rw [List.cons_append] at read
  simp [Piece.ofEnd, List.takeWhile_append_of_pos leadBlank, List.dropWhile_append_of_pos leadBlank,
    solid, read]

@[simp] theorem Piece.text_ofEnd (cs : List Char) : (Piece.ofEnd cs).text = cs := by
  rcases Piece.ofEnd_cases cs with free | ⟨lead, category, trail, dangling, split, -⟩
  · rw [free]
    rfl
  · rw [dangling, Piece.text, List.append_assoc, ← split]

@[simp] theorem Piece.flatMap_text_ofLead (cs : List Char) :
    (Piece.ofLead cs).flatMap Piece.text = cs := by
  unfold Piece.ofLead
  split
  next empty => simpa using empty.symm
  next => split <;> simp [Piece.text]

theorem Piece.field?_ofEnd (start : Nat) (cs : List Char) : (Piece.ofEnd cs).field? start =
    match readDangling? (cs.dropWhile isBlank) with
    | some (category, _) =>
      some ⟨some (Term.content category), "", ⟨start, start + Text.byteLength cs⟩⟩
    | none => some ⟨none, String.ofList (trimChars cs), ⟨start, start + Text.byteLength cs⟩⟩ := by
  have text := Piece.text_ofEnd cs
  cases read : readDangling? (cs.dropWhile isBlank) with
  | none => simp only [Piece.ofEnd, read, Piece.field?, Piece.text]
  | some result =>
    simp only [Piece.ofEnd, read] at text
    simp only [Piece.ofEnd, read, Piece.field?, text]

theorem Piece.ofEnd_ne_pair (cs : List Char) (pair : Pair) : Piece.ofEnd cs ≠ .pair pair := by
  rcases Piece.ofEnd_cases cs with free | ⟨lead, category, trail, dangling, -⟩
  · simp [free]
  · simp [dangling]

theorem Piece.ofLead_eq (cs : List Char) :
    Piece.ofLead cs = [] ∨ Piece.ofLead cs = [.space cs] ∨ Piece.ofLead cs = [.free cs] := by
  unfold Piece.ofLead
  split
  · exact .inl rfl
  · split
    · exact .inr (.inl rfl)
    · exact .inr (.inr rfl)

theorem Piece.ofLead_blank {cs : List Char} (blank : ∀ c ∈ cs, isBlank c = true) :
    Piece.ofLead cs = [] ∨ Piece.ofLead cs = [.space cs] := by
  rw [Piece.ofLead, if_pos ((Text.isBlankText_iff cs).mpr blank)]
  split
  · exact .inl rfl
  · exact .inr rfl

theorem Piece.ofLead_visible {cs : List Char} (visible : ¬ ∀ c ∈ cs, isBlank c = true) :
    Piece.ofLead cs = [.free cs] := by
  have nonempty : cs.isEmpty ≠ true := by
    intro empty
    simp [List.isEmpty_iff.mp empty] at visible
  rw [← Text.isBlankText_iff] at visible
  rw [Piece.ofLead, if_neg nonempty, if_neg visible]

theorem pair_notMem_of_none {cs : List Char} (none : Pair.find? cs = none) (pair : Pair) :
    .pair pair ∉ pieces cs := by
  by_cases nonempty : cs = []
  · simp [nonempty]
  · rw [pieces_of_none none nonempty, List.mem_singleton]
    exact (Piece.ofEnd_ne_pair cs pair).symm

def EveryPair (cs : List Char) (holds : Pair → Prop) : Prop :=
  ∀ pair, .pair pair ∈ pieces cs → holds pair

theorem everyPair_of_none {cs : List Char} (none : Pair.find? cs = none) (holds : Pair → Prop) :
    EveryPair cs holds :=
  fun pair member => absurd member (pair_notMem_of_none none pair)

theorem everyPair_of_find? {cs before after : List Char} {pair : Pair} {holds : Pair → Prop}
    (found : Pair.find? cs = some (before, pair, after)) :
    EveryPair cs holds ↔ holds pair ∧ EveryPair after holds := by
  have notLead (other : Pair) : .pair other ∉ Piece.ofLead before := by
    rcases Piece.ofLead_eq before with lead | lead | lead <;> simp [lead]
  simp only [EveryPair, pieces_of_find? found, List.mem_append, notLead, List.mem_cons, false_or,
    Piece.pair.injEq, forall_eq_or_imp]

theorem everyPair_wellFormed (cs : List Char) : EveryPair cs Pair.WellFormed := by
  induction cs using scan_induction with
  | rest cs none => exact everyPair_of_none none _
  | pair cs before written after found ih =>
    exact (everyPair_of_find? found).mpr ⟨(Pair.find?_split found).1, ih⟩

theorem flatMap_text_pieces (cs : List Char) : (pieces cs).flatMap Piece.text = cs := by
  induction cs using scan_induction with
  | rest cs none =>
    cases cs with
    | nil => simp
    | cons c cs => simp [pieces_of_none none (List.cons_ne_nil c cs)]
  | pair cs before written after found ih =>
    obtain ⟨-, split⟩ := Pair.find?_split found
    rw [pieces_of_find? found, List.flatMap_append, List.flatMap_cons, ih,
      Piece.flatMap_text_ofLead, Piece.text, ← split]

theorem text_part_of_mem {cs : List Char} {piece : Piece} (member : piece ∈ pieces cs) :
    piece.text <:+: cs := by
  obtain ⟨front, back, split⟩ := List.append_of_mem member
  have whole := flatMap_text_pieces cs
  rw [split, List.flatMap_append, List.flatMap_cons] at whole
  exact ⟨front.flatMap Piece.text, back.flatMap Piece.text, by rw [List.append_assoc, whole]⟩

end FacetedSearch.Query
