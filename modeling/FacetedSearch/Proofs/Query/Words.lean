import FacetedSearch.Proofs.Query.Unmarked

/-! The words of a query without marks, and what one pass over them says.

A word that ends with a colon is the category of the next word, any other word is divided at its
last inner colon, and what is left between pairs is free text. `Divided` relates words to the text
that they stand in.
-/

set_option autoImplicit false

namespace FacetedSearch.Query

open Text (isBlank trimChars Breaks Tight)

/-! ## One pass over the words -/

structure Word where
  gap : List Char
  text : List Char
  deriving DecidableEq, Repr

def Word.whole (word : Word) : List Char := word.gap ++ word.text

def textOf (words : List Word) : List Char := words.flatMap Word.whole

def wordsFrom (gap text : List Char) : List Char → List Word
  | [] => if text.isEmpty then [] else [⟨gap, text⟩]
  | c :: rest =>
    if isBlank c then
      if text.isEmpty then wordsFrom (gap ++ [c]) [] rest
      else ⟨gap, text⟩ :: wordsFrom [c] [] rest
    else wordsFrom gap (text ++ [c]) rest

def Word.category? (word : Word) : Option (List Char) :=
  if 2 ≤ word.text.length ∧ word.text.getLast? = some ':' then some word.text.dropLast else none

def splitLast? : List Char → Option (List Char × List Char)
  | [] => none
  | c :: rest =>
    match splitLast? rest with
    | some (category, value) => some (c :: category, value)
    | none => if c = ':' ∧ rest ≠ [] then some ([], rest) else none

/-- Divide a word at its last colon strictly between its first and its last character. -/
def Word.pair? (word : Word) : Option (List Char × List Char) :=
  match word.text with
  | [] => none
  | first :: rest => (splitLast? rest).map fun (category, value) => (first :: category, value)

inductive Part where
  | pair (category value : List Char)
  | text (word : Word)

def Word.part (word : Word) : Part :=
  match word.pair? with
  | some (category, value) => .pair category value
  | none => .text word

/-- Go through words from the left. A word that is a category takes the next one for its value. -/
def parts : List Word → List Part
  | [] => []
  | [word] => [word.part]
  | word :: next :: rest =>
    match word.category? with
    | some category => .pair category next.text :: parts rest
    | none => word.part :: parts (next :: rest)

abbrev Said : Type := Option String × String

def sayText : List Word → List Said
  | [] => []
  | first :: rest => [(none, String.ofList (first.text ++ textOf rest))]

/-- The words behind the last pair; one word alone may be a category without a value. -/
def sayEnd : List Word → List Said
  | [word] =>
    match word.category? with
    | some category => [(some (String.ofList category), "")]
    | none => sayText [word]
  | words => sayText words

def sayParts (pending : List Word) : List Part → List Said
  | [] => sayEnd pending
  | .text word :: rest => sayParts (pending ++ [word]) rest
  | .pair category value :: rest =>
    sayText pending ++ (some (String.ofList category), String.ofList value) :: sayParts [] rest

def wordwise (query : String) : List Said := sayParts [] (parts (wordsFrom [] [] query.toList))

/-! ## Words -/

structure Word.Valid (word : Word) : Prop where
  gap : ∀ c ∈ word.gap, isBlank c = true
  text : Plain word.text

theorem Plain.exists_first {text : List Char} (plain : Plain text) : ∃ first rest,
    text = first :: rest ∧ isBlank first = false ∧ isMark first = false := by
  obtain ⟨first, rest, rfl⟩ := List.exists_cons_of_ne_nil plain.nonempty
  exact ⟨first, rest, rfl, plain.solid first List.mem_cons_self,
    plain.unmarked first List.mem_cons_self⟩

theorem Word.category?_eq_some_iff {word : Word} {category : List Char} :
    word.category? = some category ↔ word.text = category ++ [':'] ∧ category ≠ [] := by
  unfold Word.category?
  constructor
  · intro found
    split at found
    next test =>
      obtain ⟨front, same⟩ := List.getLast?_eq_some_iff.mp test.2
      rw [same] at found test
      simp only [List.dropLast_concat, Option.some.injEq] at found
      subst found
      refine ⟨same, ?_⟩
      rintro rfl
      simp at test
    next => simp at found
  · rintro ⟨same, nonempty⟩
    have positive := List.length_pos_iff.mpr nonempty
    have long : 2 ≤ (category ++ [':']).length := by
      rw [List.length_append, List.length_singleton]
      omega
    rw [same, if_pos ⟨long, List.getLast?_concat⟩, List.dropLast_concat]

theorem Word.Valid.category_plain {word : Word} (valid : word.Valid) {category : List Char}
    (found : word.category? = some category) : Plain category := by
  obtain ⟨text, nonempty⟩ := Word.category?_eq_some_iff.mp found
  exact valid.text.of_subset nonempty (by simp [text])

theorem splitLast?_eq_none {cs category value : List Char} (none : splitLast? cs = none)
    (split : cs = category ++ ':' :: value) : value = [] := by
  induction category generalizing cs with
  | nil =>
    subst split
    simp only [List.nil_append, splitLast?] at none
    split at none <;> simp_all
  | cons c category ih =>
    subst split
    simp only [List.cons_append, splitLast?] at none
    split at none
    · simp at none
    next rest => exact ih rest rfl

theorem splitLast?_eq_some {cs category value : List Char}
    (found : splitLast? cs = some (category, value)) :
    cs = category ++ ':' :: value ∧ value ≠ [] ∧ splitLast? value = none := by
  induction cs generalizing category with
  | nil => simp [splitLast?] at found
  | cons c rest ih =>
    simp only [splitLast?] at found
    split at found
    next front behind later =>
      simp only [Option.some.injEq, Prod.mk.injEq] at found
      obtain ⟨rfl, rfl⟩ := found
      obtain ⟨rfl, nonempty, last⟩ := ih later
      exact ⟨rfl, nonempty, last⟩
    next last =>
      split at found
      next test =>
        simp only [Option.some.injEq, Prod.mk.injEq] at found
        obtain ⟨rfl, rfl⟩ := found
        exact ⟨by simp [test.1], test.2, last⟩
      next => simp at found

theorem Word.pair?_eq_none {word : Word} {category value : List Char} (none : word.pair? = none)
    (split : word.text = category ++ ':' :: value) (nonempty : category ≠ []) : value = [] := by
  obtain ⟨first, run, rfl⟩ := List.exists_cons_of_ne_nil nonempty
  rw [List.cons_append] at split
  simp only [Word.pair?, split, Option.map_eq_none_iff] at none
  exact splitLast?_eq_none none rfl

theorem Word.pair?_eq_some {word : Word} {category value : List Char}
    (found : word.pair? = some (category, value)) : ∃ first run, category = first :: run ∧
      word.text = first :: (run ++ ':' :: value) ∧ value ≠ [] ∧ splitLast? value = none := by
  unfold Word.pair? at found
  split at found
  · simp at found
  next first rest text =>
    obtain ⟨⟨run, behind⟩, divided, same⟩ := Option.map_eq_some_iff.mp found
    simp only [Prod.mk.injEq] at same
    obtain ⟨rfl, rfl⟩ := same
    obtain ⟨rfl, nonempty, last⟩ := splitLast?_eq_some divided
    exact ⟨first, run, rfl, text, nonempty, last⟩

theorem Word.Valid.pair_plain {word : Word} (valid : word.Valid) {category value : List Char}
    (found : word.pair? = some (category, value)) : Plain category ∧ Plain value := by
  obtain ⟨first, run, rfl, text, nonempty, -⟩ := Word.pair?_eq_some found
  constructor
  · refine valid.text.of_subset (List.cons_ne_nil first run) fun c member => ?_
    rw [text]
    simp only [List.mem_cons, List.mem_append] at member ⊢
    tauto
  · exact valid.text.of_subset nonempty fun c member => by simp [text, member]

/-! ## The words of a text -/

/-- The words of a text. Behind a word comes a blank or nothing. -/
inductive Divided : List Char → List Word → Prop where
  | stop {trail : List Char} (blank : ∀ c ∈ trail, isBlank c = true) : Divided trail []
  | word {rest : List Char} {word : Word} {words : List Word} (valid : word.Valid)
      (breaks : Breaks rest) (behind : Divided rest words) :
      Divided (word.whole ++ rest) (word :: words)

theorem Divided.valid {cs : List Char} {words : List Word} (divided : Divided cs words) :
    ∀ word ∈ words, word.Valid := by
  induction divided with
  | stop => simp
  | word valid breaks behind ih => exact List.forall_mem_cons.mpr ⟨valid, ih⟩

theorem Divided.exists_trail {cs : List Char} {words : List Word} (divided : Divided cs words) :
    ∃ trail, (∀ c ∈ trail, isBlank c = true) ∧ cs = textOf words ++ trail := by
  induction divided with
  | stop blank => exact ⟨_, blank, rfl⟩
  | word valid breaks behind ih =>
    obtain ⟨trail, blank, rfl⟩ := ih
    exact ⟨trail, blank, by simp [textOf]⟩

theorem divided_wordsFrom {gap text cs : List Char} (blank : ∀ c ∈ gap, isBlank c = true)
    (solid : ∀ c ∈ text, isBlank c = false) (unmarked : ∀ c ∈ text ++ cs, isMark c = false) :
    Divided (gap ++ (text ++ cs)) (wordsFrom gap text cs) := by
  -- `gap` and `text` are what is read of the next word; a blank behind it ends the word.
  induction cs generalizing gap text with
  | nil =>
    simp only [wordsFrom, List.append_nil] at unmarked ⊢
    split
    next empty => simpa [List.isEmpty_iff.mp empty] using Divided.stop blank
    next nonempty =>
      have valid : Word.Valid ⟨gap, text⟩ := ⟨blank, by simpa using nonempty, solid, unmarked⟩
      have nothing : Divided [] [] := .stop (by simp)
      simpa [Word.whole] using Divided.word valid Text.breaks_nil nothing
  | cons c cs ih =>
    have rest : ∀ d ∈ [] ++ cs, isMark d = false := fun d member => unmarked d (by
      rw [List.nil_append] at member
      simp [member])
    simp only [wordsFrom]
    split
    next cBlank =>
      split
      next empty =>
        have blanks : ∀ d ∈ gap ++ [c], isBlank d = true :=
          List.forall_mem_append.mpr ⟨blank, by simpa using cBlank⟩
        have later : Divided (gap ++ [c] ++ ([] ++ cs)) (wordsFrom (gap ++ [c]) [] cs) :=
          ih blanks (by simp) rest
        simpa [List.isEmpty_iff.mp empty] using later
      next nonempty =>
        have valid : Word.Valid ⟨gap, text⟩ :=
          ⟨blank, by simpa using nonempty, solid, fun d member => unmarked d (by simp [member])⟩
        have later : Divided ([c] ++ ([] ++ cs)) (wordsFrom [c] [] cs) :=
          ih (by simpa using cBlank) (by simp) rest
        simpa [Word.whole] using Divided.word valid (by simpa [Breaks] using cBlank) later
    next cSolid =>
      have solids : ∀ d ∈ text ++ [c], isBlank d = false :=
        List.forall_mem_append.mpr ⟨solid, by simpa using cSolid⟩
      simpa using ih blank solids (by simpa using unmarked)

/-! ## Free text -/

theorem Plain.last_solid {text : List Char} (plain : Plain text) (lead : List Char) :
    ∀ c ∈ (lead ++ text).getLast?, isBlank c = false := by
  intro c found
  rw [List.getLast?_append_of_ne_nil _ plain.nonempty] at found
  exact plain.solid c (List.mem_of_getLast? found)

theorem tight_words {first : Word} {rest : List Word} (valid : ∀ word ∈ first :: rest, word.Valid) :
    Tight (first.text ++ textOf rest) := by
  constructor
  · obtain ⟨c, others, text, solid, -⟩ := (valid first List.mem_cons_self).text.exists_first
    simpa [text] using solid
  · rcases List.eq_nil_or_concat rest with rfl | ⟨front, last, rfl⟩
    · simpa [textOf] using (valid first List.mem_cons_self).text.last_solid []
    · have solid := (valid last (by simp)).text.last_solid (first.text ++ textOf front ++ last.gap)
      simpa [textOf, Word.whole] using solid

theorem trimChars_textOf {first : Word} {rest : List Word} {trail : List Char}
    (valid : ∀ word ∈ first :: rest, word.Valid) (blank : ∀ c ∈ trail, isBlank c = true) :
    trimChars (textOf (first :: rest) ++ trail) = first.text ++ textOf rest := by
  have split : textOf (first :: rest) = first.gap ++ (first.text ++ textOf rest) := by
    simp [textOf, Word.whole]
  rw [Text.trimChars_append_blank _ blank, split,
    Text.trimChars_blank_append (valid first List.mem_cons_self).gap,
    (tight_words valid).trimChars_eq]

end FacetedSearch.Query
