import FacetedSearch.Text.Blank

/-! Terms, the smallest units of the query grammar.

A term is a non-empty text between two equal quotation marks that does not contain the mark,
or a non-empty run of non-blank characters that does not start with a quotation mark.
`IsTerm` is this definition; `Term.read?` reads the longest term that a text starts with.
-/

set_option autoImplicit false

namespace FacetedSearch.Query

open Text (isBlank)

def isMark (c : Char) : Bool := c == '\'' || c == '"'

inductive IsTerm : List Char → Prop where
  | quoted {mark : Char} {body : List Char} : isMark mark = true → body ≠ [] → mark ∉ body →
      IsTerm (mark :: (body ++ [mark]))
  | bare {first : Char} {rest : List Char} : isMark first = false → isBlank first = false →
      (∀ c ∈ rest, isBlank c = false) → IsTerm (first :: rest)

/-- Read up to the closing mark of a term whose opening mark has been read. The result is the
whole term, marks included, and what follows it. -/
def Term.readQuoted? (mark : Char) (cs : List Char) : Option (List Char × List Char) :=
  match cs.takeWhile (· != mark), cs.dropWhile (· != mark) with
  | [], _ => none
  | _ :: _, [] => none
  | body@(_ :: _), close :: rest => some (mark :: (body ++ [close]), rest)

def Term.read? : List Char → Option (List Char × List Char)
  | [] => none
  | c :: rest =>
    if isMark c then Term.readQuoted? c rest
    else if isBlank c then none
    else some (c :: rest.takeWhile (!isBlank ·), rest.dropWhile (!isBlank ·))

/-- The text between two occurrences of `mark`, if the text starts and ends with it. -/
def Term.between? (mark : Char) (cs : List Char) : Option (List Char) :=
  match cs with
  | first :: rest =>
    if first == mark && rest.getLast? == some mark then some rest.dropLast else none
  | [] => none

/-- Remove exactly one layer of enclosing marks, if there is one. -/
def Term.unquote (cs : List Char) : List Char :=
  (Term.between? '"' cs <|> Term.between? '\'' cs).getD cs

theorem Term.readQuoted?_length {mark : Char} {cs term rest : List Char}
    (read : Term.readQuoted? mark cs = some (term, rest)) : rest.length < cs.length := by
  unfold Term.readQuoted? at read
  have whole := congrArg List.length (List.takeWhile_append_dropWhile (p := (· != mark)) (l := cs))
  split at read <;> simp at read
  next body close after taken dropped =>
    obtain ⟨-, rfl⟩ := read
    rw [dropped] at whole
    simp at whole
    omega

theorem Term.read?_length {cs term rest : List Char} (read : Term.read? cs = some (term, rest)) :
    rest.length < cs.length := by
  cases cs with
  | nil => simp [Term.read?] at read
  | cons c cs =>
    simp only [Term.read?] at read
    simp only [List.length_cons]
    split at read
    · have := Term.readQuoted?_length read
      omega
    · split at read
      · simp at read
      · have short := (List.dropWhile_sublist (fun c => !isBlank c) (l := cs)).length_le
        simp at read
        obtain ⟨-, rfl⟩ := read
        omega

end FacetedSearch.Query
