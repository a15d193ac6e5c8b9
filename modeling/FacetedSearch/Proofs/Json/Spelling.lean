import FacetedSearch.Json.Reader
import FacetedSearch.Json.Value

/-! Reading JSON that was written.

A text `Spells` a value for a reader if the reader takes the value from the text and leaves what
follows it, whatever that is. Written strings spell themselves, and arrays are read element by
element, in either layout.
-/

set_option autoImplicit false

namespace FacetedSearch.Json

def Spaces (cs : List Char) : Prop := ∀ c ∈ cs, isSpace c = true

theorem spaces_nil : Spaces [] := by simp [Spaces]

theorem spaces_space : Spaces [' '] := List.forall_mem_singleton.mpr rfl

theorem spaces_newline (level : Nat) : Spaces (newline level) := by
  refine List.forall_mem_cons.mpr ⟨rfl, fun c member => ?_⟩
  rw [List.eq_of_mem_replicate member]
  rfl

theorem skipSpace_append {lead : List Char} (spaces : Spaces lead) (cs : List Char) :
    skipSpace (lead ++ cs) = skipSpace cs :=
  List.dropWhile_append_of_pos spaces

theorem skipSpace_token {c : Char} (token : isSpace c = false) (cs : List Char) :
    skipSpace (c :: cs) = c :: cs := by
  simp [skipSpace, token]

theorem skipSpace_append_token {lead : List Char} (spaces : Spaces lead) {c : Char}
    (token : isSpace c = false) (cs : List Char) : skipSpace (lead ++ c :: cs) = c :: cs := by
  rw [skipSpace_append spaces, skipSpace_token token]

/-- The reader takes `value` from the text, behind any blanks, and leaves what follows. -/
structure Spells {α : Type} (read : Reader α) (text : List Char) (value : α) : Prop where
  reads : ∀ lead rest, Spaces lead → read (lead ++ (text ++ rest)) = .ok (value, rest)
  starts : ∃ c more, text = c :: more ∧ isSpace c = false ∧ c ≠ ']'

/-! ## Strings -/

theorem readStringChars_escape {c : Char} {escape more : List Char}
    (read : readEscape escape = .ok (c, more)) : readStringChars ('\\' :: escape) =
      (readStringChars more).map fun (chars, rest) => (c :: chars, rest) := by
  rw [readStringChars]
  split
  next failed =>
    rw [read] at failed
    contradiction
  next again =>
    rw [read] at again
    obtain ⟨rfl, rfl⟩ := Prod.mk.inj (Except.ok.inj again)
    rfl

theorem readStringChars_plain {c : Char} (notQuote : c ≠ '"') (notEscape : c ≠ '\\')
    (printable : ¬ c.toNat < 0x20) (more : List Char) : readStringChars (c :: more) =
      (readStringChars more).map fun (chars, rest) => (c :: chars, rest) := by
  rw [readStringChars]
  · rw [if_neg printable]
  · exact notQuote
  · exact notEscape

theorem readEscape_control {c : Char} (control : c.toNat < 0x20) (more : List Char) :
    readEscape ('u' :: '0' :: '0' :: hexDigit (c.toNat / 16) :: hexDigit (c.toNat % 16) :: more) =
      .ok (c, more) := by
  have digits : ∀ n < 0x20, Text.byteLength ['0', '0', hexDigit (n / 16), hexDigit (n % 16)] = 4 ∧
      Text.numberInBase? 16 ['0', '0', hexDigit (n / 16), hexDigit (n % 16)] = some n ∧
      isTrailingSurrogate n = false ∧ isLeadingSurrogate n = false := by decide
  obtain ⟨length, number, notTrailing, notLeading⟩ := digits c.toNat control
  have read : readHex4 ('0' :: '0' :: hexDigit (c.toNat / 16) :: hexDigit (c.toNat % 16) :: more) =
      .ok (c.toNat, more) := by
    simp only [readHex4, List.take_succ_cons, List.take_zero, length, number, Nat.lt_irrefl,
      ↓reduceIte]
  simp only [readEscape, readUnicode, read, notTrailing, notLeading, Bool.false_eq_true,
    ↓reduceIte, Char.ofNat_toNat]

theorem readStringChars_escapeChar (c : Char) (more : List Char) :
    readStringChars (escapeChar c ++ more) =
      (readStringChars more).map fun (chars, rest) => (c :: chars, rest) := by
  by_cases named : c ∈ ['"', '\\', '\x08', '\x0c', '\n', '\r', '\t']
  · -- A backslash and the name of the character.
    have read : ∃ name, escapeChar c = ['\\', name] ∧ readEscape (name :: more) = .ok (c, more) := by
      simp only [List.mem_cons, List.not_mem_nil, or_false] at named
      rcases named with rfl | rfl | rfl | rfl | rfl | rfl | rfl <;> exact ⟨_, rfl, rfl⟩
    obtain ⟨name, written, read⟩ := read
    rw [written]
    exact readStringChars_escape read
  · simp only [List.mem_cons, List.not_mem_nil, or_false, not_or] at named
    obtain ⟨notQuote, notEscape, others⟩ := named
    have written : escapeChar c = if c.toNat < 0x20 then
        ['\\', 'u', '0', '0', hexDigit (c.toNat / 16), hexDigit (c.toNat % 16)] else [c] := by
      simp [escapeChar, notQuote, notEscape, others]
    rw [written]
    split
    next control => exact readStringChars_escape (readEscape_control control more)
    next printable => exact readStringChars_plain notQuote notEscape printable more

theorem readStringChars_escaped (cs rest : List Char) :
    readStringChars (cs.flatMap escapeChar ++ '"' :: rest) = .ok (cs, rest) := by
  induction cs with
  | nil => rw [List.flatMap_nil, List.nil_append, readStringChars]
  | cons c cs ih =>
    rw [List.flatMap_cons, List.append_assoc, readStringChars_escapeChar, ih]
    rfl

theorem quoted_append (text : String) (rest : List Char) :
    quoted text ++ rest = '"' :: (text.toList.flatMap escapeChar ++ '"' :: rest) := by
  simp [quoted]

theorem spells_quoted (text : String) : Spells readString (quoted text) text := by
  refine ⟨fun lead rest spaces => ?_, '"', _, rfl, rfl, by decide⟩
  rw [readString, quoted_append, skipSpace_append_token spaces rfl]
  simp only [readStringChars_escaped, Except.map, String.ofList_toList]

theorem spells_quoted? (text : String) : Spells readString? (quoted text) (some text) := by
  refine ⟨fun lead rest spaces => ?_, '"', _, rfl, rfl, by decide⟩
  have read := (spells_quoted text).reads lead rest spaces
  rw [readString?, read, quoted_append, skipSpace_append_token spaces rfl]
  rfl

/-! ## Arrays -/

def separator (first : Bool) : List Char := if first then [] else [',']

/-- Texts with a comma between two of them, and `lead` before each. -/
def separated (lead : List Char) (first : Bool) : List (List Char) → List Char
  | [] => []
  | text :: rest => separator first ++ (lead ++ (text ++ separated lead false rest))

section
variable {α : Type} {read : Reader α} {lead trail : List Char}

theorem readElements_next (bound : Nat) (first : Bool) {text : List Char} {value : α}
    (spells : Spells read text value) (spaces : Spaces lead) (more : List Char) :
    readElements read (bound + 1) first (separator first ++ (lead ++ (text ++ more))) =
      (readElements read bound false more).map fun (values, rest) => (value :: values, rest) := by
  obtain ⟨c, others, rfl, token, notClose⟩ := spells.starts
  have here := skipSpace_append_token spaces token (others ++ more)
  have next : nextElement first (separator first ++ (lead ++ (c :: others ++ more))) =
      .ok (some (c :: others ++ more)) := by
    cases first with
    | true => simp [separator, nextElement, here]
    | false =>
      have comma := skipSpace_token (c := ',') rfl (lead ++ c :: (others ++ more))
      simp [separator, nextElement, comma, here, notClose]
  have value := spells.reads [] more spaces_nil
  rw [List.nil_append] at value
  simp only [readElements, next, value, bind, Except.bind]
  cases readElements read bound false more <;> rfl

theorem readElements_end (bound : Nat) (first : Bool) (spaces : Spaces trail) (rest : List Char) :
    readElements read (bound + 1) first (trail ++ ']' :: rest) = .ok ([], rest) := by
  have here := skipSpace_append_token spaces (c := ']') rfl rest
  simp only [readElements, nextElement, endArray, here, bind, Except.bind, pure, Except.pure]

theorem readElements_separated {write : α → List Char} {values : List α} (bound : Nat)
    (first : Bool) (spells : ∀ value ∈ values, Spells read (write value) value)
    (spaces : Spaces lead) (trailing : Spaces trail) (enough : values.length < bound)
    (rest : List Char) :
    readElements read bound first (separated lead first (values.map write) ++ (trail ++ ']' :: rest)) =
      .ok (values, rest) := by
  -- There is a step for each of the elements, and one for the end.
  obtain ⟨bound, rfl⟩ := Nat.exists_eq_add_one_of_ne_zero (Nat.ne_zero_of_lt enough)
  induction values generalizing bound first with
  | nil => exact readElements_end bound first trailing rest
  | cons value values ih =>
    obtain ⟨here, later⟩ := List.forall_mem_cons.mp spells
    rw [List.length_cons] at enough
    obtain ⟨bound, rfl⟩ := Nat.exists_eq_add_one_of_ne_zero (n := bound) (by omega)
    have tail := ih false later bound (by omega)
    have next := readElements_next (bound + 1) first here spaces
      (separated lead false (values.map write) ++ (trail ++ ']' :: rest))
    rw [List.map_cons, separated]
    simp only [List.append_assoc] at next tail ⊢
    rw [next, tail]
    rfl

theorem length_le_separated (first : Bool) (lead : List Char) {texts : List (List Char)}
    (nonempty : ∀ text ∈ texts, text ≠ []) :
    texts.length ≤ (separated lead first texts).length := by
  induction texts generalizing first with
  | nil => exact Nat.zero_le _
  | cons text texts ih =>
    obtain ⟨here, later⟩ := List.forall_mem_cons.mp nonempty
    have tail := ih false later
    have positive := List.length_pos_iff.mpr here
    simp only [separated, List.length_append, List.length_cons]
    omega

theorem Spells.ne_nil {text : List Char} {value : α} (spells : Spells read text value) :
    text ≠ [] := by
  obtain ⟨c, more, rfl, -⟩ := spells.starts
  exact List.cons_ne_nil c more

theorem spells_array {write : α → List Char} {values : List α}
    (spells : ∀ value ∈ values, Spells read (write value) value) (spaces : Spaces lead)
    (trailing : Spaces trail) :
    Spells (readArray read) ('[' :: (separated lead true (values.map write) ++ (trail ++ [']'])))
      values := by
  refine ⟨fun before rest blank => ?_, '[', _, rfl, rfl, by decide⟩
  have nonempty : ∀ text ∈ values.map write, text ≠ [] := by
    intro text member
    obtain ⟨value, inValues, rfl⟩ := List.mem_map.mp member
    exact (spells value inValues).ne_nil
  have atMost := length_le_separated true lead nonempty
  rw [List.length_map] at atMost
  rw [readArray, List.cons_append, skipSpace_append_token blank rfl]
  simp only [List.append_assoc, List.singleton_append]
  apply readElements_separated _ true spells spaces trailing
  simp only [List.length_append]
  omega

end

/-! ## Layouts -/

theorem separated_of_layout {β : Type} {lead : List Char} {write : β → List Char}
    (layout : List β → List Char) (empty : layout [] = [])
    (single : ∀ last, layout [last] = lead ++ write last)
    (comma : ∀ first next rest,
      layout (first :: next :: rest) = lead ++ (write first ++ ',' :: layout (next :: rest)))
    (parts : List β) : layout parts = separated lead true (parts.map write) := by
  induction parts with
  | nil => exact empty
  | cons first rest ih =>
    cases rest with
    | nil => simp [single, separated, separator]
    | cons next rest => simp [comma, ih, separated, separator]

theorem compactElements_eq (elements : List Value) :
    compactElements elements = separated [] true (elements.map Value.compactChars) :=
  separated_of_layout compactElements rfl (fun _ => rfl) (fun _ _ _ => rfl) elements

theorem prettyElements_eq (level : Nat) (elements : List Value) :
    prettyElements level elements =
      separated (newline level) true (elements.map (Value.prettyChars level)) :=
  separated_of_layout (prettyElements level) rfl (fun _ => rfl)
    (fun _ _ _ => by simp [prettyElements]) elements

section
variable {α : Type} {read : Reader α} {toValue : α → Value} {values : List α}

theorem spells_compact_array
    (spells : ∀ value ∈ values, Spells read (toValue value).compactChars value) :
    Spells (readArray read) (Value.array (values.map toValue)).compactChars values := by
  have whole : Spells (readArray read) _ values := spells_array spells spaces_nil spaces_nil
  rw [Value.compactChars, compactElements_eq, List.map_map]
  exact whole

theorem spells_pretty_array (level : Nat)
    (spells : ∀ value ∈ values, Spells read ((toValue value).prettyChars (level + 1)) value) :
    Spells (readArray read) ((Value.array (values.map toValue)).prettyChars level) values := by
  cases values with
  | nil =>
    -- An empty array has one layout only.
    have compact : Spells (readArray read) (Value.array ([].map toValue)).compactChars [] :=
      spells_compact_array (by simp)
    exact compact
  | cons value rest =>
    have whole : Spells (readArray read) _ (value :: rest) :=
      spells_array spells (spaces_newline (level + 1)) (spaces_newline level)
    rw [List.map_cons, Value.prettyChars, ← List.map_cons, prettyElements_eq, List.map_map,
      List.append_assoc]
    · exact whole
    · simp

end

section
variable {α : Type} {read : Reader α} {text : List Char} {value : α}

theorem readWhole_append_of_spells {trail : List Char} (spells : Spells read text value)
    (spaces : Spaces trail) : readWhole read (String.ofList (text ++ trail)) = .ok value := by
  have whole := spells.reads [] trail spaces_nil
  have ended := skipSpace_append spaces []
  rw [List.nil_append] at whole
  rw [List.append_nil] at ended
  simp only [readWhole, String.toList_ofList, whole, ended, bind, Except.bind]
  rfl

theorem readWhole_of_spells (spells : Spells read text value) :
    readWhole read (String.ofList text) = .ok value := by
  have whole := readWhole_append_of_spells spells spaces_nil
  rwa [List.append_nil] at whole

end

end FacetedSearch.Json
