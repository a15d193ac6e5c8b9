import FacetedSearch.Proofs.Text.Trimming
import FacetedSearch.Query.Field

/-! The reader of terms against their grammar.

`Term.read?` succeeds exactly where a term starts, and reads the longest one. A quoted term is
determined by its opening mark; a bare one goes on up to a blank or the end.
-/

set_option autoImplicit false

namespace FacetedSearch.Query

open Text (isBlank isBlankText trimChars Breaks)

/-- What a term spells: the text between its marks, or all of a bare term. -/
inductive Term.Spells : List Char → List Char → Prop where
  | quoted {mark : Char} {body : List Char} : isMark mark = true → body ≠ [] → mark ∉ body →
      Spells (mark :: (body ++ [mark])) body
  | bare {first : Char} {rest : List Char} : isMark first = false → isBlank first = false →
      (∀ c ∈ rest, isBlank c = false) → Spells (first :: rest) (first :: rest)

theorem isMark_iff (c : Char) : isMark c = true ↔ c = '\'' ∨ c = '"' := by
  simp [isMark]

theorem isBlank_of_isMark {c : Char} (mark : isMark c = true) : isBlank c = false := by
  rcases (isMark_iff c).mp mark with rfl | rfl <;> decide

theorem solid_colon {run : List Char} (solid : ∀ c ∈ run, isBlank c = false) :
    ∀ c ∈ run ++ [':'], isBlank c = false := by
  intro c member
  rcases List.mem_append.mp member with member | member
  · exact solid c member
  · rw [List.mem_singleton.mp member]
    decide

theorem Term.Spells.isTerm {term text : List Char} (spells : Term.Spells term text) :
    IsTerm term := by
  cases spells with
  | quoted mark nonempty closed => exact .quoted mark nonempty closed
  | bare first solid rest => exact .bare first solid rest

theorem IsTerm.spells {term : List Char} (grammar : IsTerm term) :
    ∃ text, Term.Spells term text := by
  cases grammar with
  | quoted mark nonempty closed => exact ⟨_, .quoted mark nonempty closed⟩
  | bare first solid rest => exact ⟨_, .bare first solid rest⟩

theorem Term.between?_eq_some_iff {mark : Char} {cs body : List Char} :
    Term.between? mark cs = some body ↔ cs = mark :: (body ++ [mark]) := by
  constructor
  · intro between
    cases cs with
    | nil => simp [Term.between?] at between
    | cons first rest =>
      rw [Term.between?] at between
      split at between
      next enclosed =>
        obtain ⟨starts, ends⟩ := Bool.and_eq_true_iff.mp enclosed
        obtain ⟨inner, rfl⟩ := List.getLast?_eq_some_iff.mp (beq_iff_eq.mp ends)
        rw [List.dropLast_concat, Option.some.injEq] at between
        rw [beq_iff_eq.mp starts, between]
      next => simp at between
  · rintro rfl
    simp [Term.between?]

theorem Term.between?_of_head_ne {mark : Char} {cs : List Char} (other : cs.head? ≠ some mark) :
    Term.between? mark cs = none := by
  cases between : Term.between? mark cs with
  | none => rfl
  | some body =>
    rw [Term.between?_eq_some_iff.mp between] at other
    exact absurd rfl other

/-- The outer marks are removed and nothing else, whatever stands between them. -/
theorem Term.unquote_enclosed {mark : Char} (isMark : isMark mark = true) (cs : List Char) :
    Term.unquote (mark :: (cs ++ [mark])) = cs := by
  have between : Term.between? mark (mark :: (cs ++ [mark])) = some cs :=
    Term.between?_eq_some_iff.mpr rfl
  rcases (isMark_iff mark).mp isMark with rfl | rfl
  · rw [Term.unquote, Term.between?_of_head_ne (by simp), between]
    rfl
  · rw [Term.unquote, between]
    rfl

theorem Term.unquote_of_unmarked {cs : List Char} (unmarked : ∀ c ∈ cs.head?, isMark c = false) :
    Term.unquote cs = cs := by
  have other (mark : Char) (marks : isMark mark = true) : cs.head? ≠ some mark := by
    intro starts
    simp [unmarked mark starts] at marks
  rw [Term.unquote, Term.between?_of_head_ne (other '"' (by decide)),
    Term.between?_of_head_ne (other '\'' (by decide))]
  rfl

theorem Term.Spells.unquote_eq {term text : List Char} (spells : Term.Spells term text) :
    Term.unquote term = text := by
  cases spells with
  | quoted mark nonempty closed => exact Term.unquote_enclosed mark _
  | bare first solid rest => exact Term.unquote_of_unmarked (by simpa using first)

theorem Term.Spells.content_eq {term text : List Char} (spells : Term.Spells term text) :
    Term.content term = String.ofList (trimChars text) := by
  rw [Term.content, spells.unquote_eq]

theorem Term.Spells.text_ne_nil {term text : List Char} (spells : Term.Spells term text) :
    text ≠ [] := by
  cases spells with
  | quoted mark nonempty closed => exact nonempty
  | bare first solid rest => exact List.cons_ne_nil _ _

theorem IsTerm.exists_first {term : List Char} (grammar : IsTerm term) :
    ∃ first rest, term = first :: rest ∧ isBlank first = false := by
  cases grammar with
  | quoted mark nonempty closed => exact ⟨_, _, rfl, isBlank_of_isMark mark⟩
  | bare first solid rest => exact ⟨_, _, rfl, solid⟩

theorem IsTerm.ne_nil {term : List Char} (grammar : IsTerm term) : term ≠ [] := by
  obtain ⟨first, rest, rfl, -⟩ := grammar.exists_first
  exact List.cons_ne_nil first rest

theorem IsTerm.solid_of_notMark {first : Char} {rest : List Char} (grammar : IsTerm (first :: rest))
    (notMark : isMark first = false) : ∀ c ∈ first :: rest, isBlank c = false := by
  cases grammar with
  | quoted mark nonempty closed => simp [mark] at notMark
  | bare notMark solid restSolid => simpa [solid] using restSolid

theorem isTerm_mark_iff {mark : Char} {rest : List Char} (isMark : isMark mark = true) :
    IsTerm (mark :: rest) ↔ ∃ body, body ≠ [] ∧ mark ∉ body ∧ rest = body ++ [mark] := by
  constructor
  · intro grammar
    cases grammar with
    | quoted _ nonempty closed => exact ⟨_, nonempty, closed, rfl⟩
    | bare notMark solid restSolid => simp [isMark] at notMark
  · rintro ⟨body, nonempty, closed, rfl⟩
    exact .quoted isMark nonempty closed

theorem content_of_notMark {first : Char} {rest : List Char} (grammar : IsTerm (first :: rest))
    (notMark : isMark first = false) :
    Term.content (first :: rest) = String.ofList (first :: rest) := by
  have solid := grammar.solid_of_notMark notMark
  have spells : Term.Spells (first :: rest) (first :: rest) :=
    .bare notMark (solid first (by simp)) (fun c member => solid c (by simp [member]))
  rw [spells.content_eq, (Text.tight_of_solid solid).trimChars_eq]

theorem IsTerm.bare_of_content {term : List Char} (grammar : IsTerm term)
    (single : '\'' ∈ (Term.content term).toList) (double : '"' ∈ (Term.content term).toList) :
    ∃ first rest, term = first :: rest ∧ isMark first = false := by
  cases grammar with
  | @quoted mark body isMark nonempty closed =>
    have spells : Term.Spells (mark :: (body ++ [mark])) body := .quoted isMark nonempty closed
    rw [spells.content_eq, String.toList_ofList] at single double
    rcases (isMark_iff mark).mp isMark with rfl | rfl
    · exact absurd (Text.mem_of_mem_trimChars single) closed
    · exact absurd (Text.mem_of_mem_trimChars double) closed
  | bare notMark solid restSolid => exact ⟨_, _, rfl, notMark⟩

theorem takeWhile_closed {mark : Char} {body : List Char} (closed : mark ∉ body)
    (rest : List Char) : (body ++ mark :: rest).takeWhile (· != mark) = body := by
  have all : ∀ c ∈ body, (c != mark) = true := by
    intro c member
    simpa using fun same : c = mark => closed (same ▸ member)
  rw [List.takeWhile_append_of_pos all]
  simp

theorem dropWhile_closed {mark : Char} {body : List Char} (closed : mark ∉ body)
    (rest : List Char) : (body ++ mark :: rest).dropWhile (· != mark) = mark :: rest := by
  have all : ∀ c ∈ body, (c != mark) = true := by
    intro c member
    simpa using fun same : c = mark => closed (same ▸ member)
  rw [List.dropWhile_append_of_pos all]
  simp

theorem closed_unique {mark : Char} {body other rest more : List Char} (closed : mark ∉ body)
    (otherClosed : mark ∉ other) (same : body ++ mark :: rest = other ++ mark :: more) :
    body = other ∧ rest = more := by
  have bodies := congrArg (List.takeWhile (· != mark)) same
  rw [takeWhile_closed closed, takeWhile_closed otherClosed] at bodies
  subst bodies
  simpa using same

theorem Term.readQuoted?_eq_some_iff {mark : Char} {cs term rest : List Char} :
    Term.readQuoted? mark cs = some (term, rest) ↔
      ∃ body, body ≠ [] ∧ mark ∉ body ∧ term = mark :: (body ++ [mark]) ∧
        cs = body ++ mark :: rest := by
  constructor
  · intro read
    have whole := List.takeWhile_append_dropWhile (p := (· != mark)) (l := cs)
    unfold Term.readQuoted? at read
    split at read <;> simp at read
    next body close after taken dropped =>
      obtain ⟨rfl, rfl⟩ := read
      -- The run of other characters can only stop at the mark.
      have closes : close = mark := by
        have stopped := Text.head_of_dropWhile
          (show (cs.dropWhile (· != mark)).head? = some close by rw [dropped]; rfl)
        simpa using stopped
      refine ⟨cs.takeWhile (· != mark), by simp [taken], ?_, by simp [taken, closes], ?_⟩
      · intro member
        simpa using List.mem_takeWhile_imp member
      · rw [dropped, closes] at whole
        exact whole.symm
  · rintro ⟨body, nonempty, closed, rfl, rfl⟩
    obtain ⟨first, others, rfl⟩ := List.exists_cons_of_ne_nil nonempty
    simp only [Term.readQuoted?, takeWhile_closed closed, dropWhile_closed closed]

/-- The reader takes a term off its text; a bare term only where nothing follows directly. -/
theorem Term.read?_eq_some_iff {cs term rest : List Char} :
    Term.read? cs = some (term, rest) ↔ IsTerm term ∧ cs = term ++ rest ∧
      ((∀ c ∈ term.head?, isMark c = false) → Breaks rest) := by
  constructor
  · intro read
    cases cs with
    | nil => simp [Term.read?] at read
    | cons c others =>
      simp only [Term.read?] at read
      split at read
      next mark =>
        obtain ⟨body, nonempty, closed, rfl, rfl⟩ := Term.readQuoted?_eq_some_iff.mp read
        refine ⟨.quoted mark nonempty closed, by simp, fun notMark => ?_⟩
        simp [mark] at notMark
      next notMark =>
        split at read
        · simp at read
        next solid =>
          simp only [Option.some.injEq, Prod.mk.injEq] at read
          obtain ⟨rfl, rfl⟩ := read
          refine ⟨.bare (by simpa using notMark) (by simpa using solid) ?_, ?_,
            fun _ => Text.breaks_dropWhile others⟩
          · intro d member
            simpa using List.mem_takeWhile_imp member
          · rw [List.cons_append, List.takeWhile_append_dropWhile]
  · rintro ⟨grammar, rfl, breaks⟩
    cases grammar with
    | @quoted mark body isMark nonempty closed =>
      simp only [Term.read?, List.cons_append, isMark, ↓reduceIte]
      exact Term.readQuoted?_eq_some_iff.mpr ⟨body, nonempty, closed, rfl, by simp⟩
    | @bare first others notMark solid othersSolid =>
      have ends := breaks (by simpa using notMark)
      have all : ∀ c ∈ others, (!isBlank c) = true := by simpa using othersSolid
      simp only [Term.read?, List.cons_append, notMark, solid, Bool.false_eq_true, ↓reduceIte,
        List.takeWhile_append_of_pos all, List.dropWhile_append_of_pos all, ends.takeWhile_eq,
        ends.dropWhile_eq, List.append_nil]

theorem Term.read?_append {term rest : List Char} (grammar : IsTerm term) (breaks : Breaks rest) :
    Term.read? (term ++ rest) = some (term, rest) :=
  Term.read?_eq_some_iff.mpr ⟨grammar, rfl, fun _ => breaks⟩

theorem isTerm_iff_read? (cs : List Char) : IsTerm cs ↔ Term.read? cs = some (cs, []) := by
  constructor
  · intro grammar
    have whole := Term.read?_append grammar Text.breaks_nil
    rwa [List.append_nil] at whole
  · intro read
    exact (Term.read?_eq_some_iff.mp read).1

/-- Where the grammar has a term, the reader finds one that is at least as long. -/
theorem IsTerm.exists_read? {other : List Char} (grammar : IsTerm other) (more : List Char) :
    ∃ term rest, Term.read? (other ++ more) = some (term, rest) ∧ other.length ≤ term.length := by
  cases grammar with
  | @quoted mark body isMark nonempty closed =>
    refine ⟨_, more, Term.read?_eq_some_iff.mpr ⟨.quoted isMark nonempty closed, rfl, ?_⟩, le_rfl⟩
    intro notMark
    simp [isMark] at notMark
  | @bare first others notMark solid othersSolid =>
    have all : ∀ c ∈ others, (!isBlank c) = true := by simpa using othersSolid
    refine ⟨first :: (others ++ more).takeWhile (!isBlank ·),
      (others ++ more).dropWhile (!isBlank ·), ?_, ?_⟩
    · simp only [Term.read?, List.cons_append, notMark, solid, Bool.false_eq_true, ↓reduceIte]
    rw [List.takeWhile_append_of_pos all]
    simp

end FacetedSearch.Query
