import FacetedSearch.Text.Blank
import Mathlib.Data.List.DropRight
import Mathlib.Data.List.TakeWhile

/-! Texts without blanks at their ends.

`trimChars` divides a text into blanks, a tight text and blanks again, and there is only one such
division. All facts about trimming come from it.
-/

set_option autoImplicit false

namespace FacetedSearch.Text

/-- Neither the first nor the last character is blank. The empty text is tight. -/
structure Tight (cs : List Char) : Prop where
  first : ∀ c ∈ cs.head?, isBlank c = false
  last : ∀ c ∈ cs.getLast?, isBlank c = false

/-- Nothing follows directly: the text is empty or starts with a blank. -/
def Breaks (cs : List Char) : Prop := ∀ c ∈ cs.head?, isBlank c = true

theorem isBlankText_iff (cs : List Char) : isBlankText cs = true ↔ ∀ c ∈ cs, isBlank c = true :=
  List.all_eq_true

theorem breaks_nil : Breaks [] := by simp [Breaks]

theorem space_blank : ∀ c ∈ [' '], isBlank c = true := List.forall_mem_singleton.mpr (by decide)

theorem breaks_space (cs : List Char) : Breaks (' ' :: cs) := by
  simp only [Breaks, List.head?_cons, Option.mem_some_iff]
  rintro c rfl
  decide

theorem Breaks.dropWhile_eq {cs : List Char} (breaks : Breaks cs) :
    cs.dropWhile (!isBlank ·) = cs := by
  cases cs with
  | nil => rfl
  | cons c rest => simp [breaks c (by simp)]

theorem Breaks.takeWhile_eq {cs : List Char} (breaks : Breaks cs) :
    cs.takeWhile (!isBlank ·) = [] := by
  cases cs with
  | nil => rfl
  | cons c rest => simp [breaks c (by simp)]

theorem head_of_dropWhile {p : Char → Bool} {cs : List Char} {c : Char}
    (found : (cs.dropWhile p).head? = some c) : p c = false := by
  have stopped := List.head?_dropWhile_not p cs
  rw [found] at stopped
  exact stopped

theorem breaks_dropWhile (cs : List Char) : Breaks (cs.dropWhile (!isBlank ·)) := by
  intro c found
  simpa using head_of_dropWhile found

theorem Breaks.exists_of_solid {cs rest run after : List Char} (breaks : Breaks rest)
    (solid : ∀ c ∈ run, isBlank c = false) (same : cs ++ rest = run ++ after) :
    ∃ more, cs = run ++ more ∧ after = more ++ rest := by
  rcases List.append_eq_append_iff.mp same with ⟨beyond, split, behind⟩ | ⟨more, split, behind⟩
  · cases beyond with
    | nil => exact ⟨[], by simpa using split.symm, by simpa using behind.symm⟩
    | cons c beyond =>
      have blank := breaks c (by simp [behind])
      rw [solid c (by simp [split])] at blank
      contradiction
  · exact ⟨more, split, behind⟩

theorem trimEnd_eq_rdropWhile (cs : List Char) : trimEnd cs = cs.rdropWhile isBlank := by
  induction cs with
  | nil => rfl
  | cons c rest ih =>
    simp only [trimEnd, ih, List.rdropWhile, List.reverse_cons, List.dropWhile_append]
    cases kept : rest.reverse.dropWhile isBlank with
    -- All of the rest is dropped, so `c` is the last character that may stay.
    | nil => by_cases blank : isBlank c <;> simp [blank]
    | cons last front => cases reversed : front.reverse <;> simp [reversed]

theorem tight_trimChars (cs : List Char) : Tight (trimChars cs) := by
  rw [trimChars, trimEnd_eq_rdropWhile]
  constructor
  · intro c found
    obtain ⟨rest, same⟩ := List.head?_eq_some_iff.mp found
    obtain ⟨trail, split⟩ := List.rdropWhile_prefix isBlank (l := cs.dropWhile isBlank)
    have starts : (cs.dropWhile isBlank).head? = some c := by
      rw [← split, same]
      rfl
    exact head_of_dropWhile starts
  · intro c found
    have nonempty : (cs.dropWhile isBlank).rdropWhile isBlank ≠ [] := by
      intro empty
      simp [empty] at found
    have stopped := List.rdropWhile_last_not isBlank _ nonempty
    rw [List.getLast?_eq_some_getLast nonempty, Option.mem_some_iff] at found
    simpa [found] using stopped

theorem exists_dropWhile (cs : List Char) : ∃ trail, (∀ c ∈ trail, isBlank c = true) ∧
    cs.dropWhile isBlank = trimChars cs ++ trail := by
  refine ⟨(cs.dropWhile isBlank).rtakeWhile isBlank,
    fun c member => List.mem_rtakeWhile_imp member, ?_⟩
  rw [trimChars, trimEnd_eq_rdropWhile, List.rdropWhile_append_rtakeWhile]

theorem exists_trimChars (cs : List Char) : ∃ lead trail, (∀ c ∈ lead, isBlank c = true) ∧
    (∀ c ∈ trail, isBlank c = true) ∧ cs = lead ++ (trimChars cs ++ trail) := by
  obtain ⟨trail, blank, split⟩ := exists_dropWhile cs
  refine ⟨cs.takeWhile isBlank, trail, fun c member => List.mem_takeWhile_imp member, blank, ?_⟩
  rw [← split, List.takeWhile_append_dropWhile]

theorem Tight.dropWhile_eq {cs : List Char} (tight : Tight cs) : cs.dropWhile isBlank = cs := by
  cases cs with
  | nil => rfl
  | cons c rest => simp [tight.first c (by simp)]

theorem Tight.trimChars_eq {cs : List Char} (tight : Tight cs) : trimChars cs = cs := by
  rw [trimChars, tight.dropWhile_eq, trimEnd_eq_rdropWhile, List.rdropWhile_eq_self_iff]
  intro nonempty blank
  have stopped := tight.last _ (List.getLast?_eq_some_getLast nonempty)
  rw [stopped] at blank
  contradiction

theorem trimChars_eq_self_iff (cs : List Char) : trimChars cs = cs ↔ Tight cs :=
  ⟨fun same => same ▸ tight_trimChars cs, Tight.trimChars_eq⟩

@[simp] theorem trimChars_trimChars (cs : List Char) : trimChars (trimChars cs) = trimChars cs :=
  (tight_trimChars cs).trimChars_eq

theorem trimChars_blank_append {lead : List Char} (blank : ∀ c ∈ lead, isBlank c = true)
    (cs : List Char) : trimChars (lead ++ cs) = trimChars cs := by
  rw [trimChars, List.dropWhile_append_of_pos blank, ← trimChars]

theorem trimChars_eq_nil_iff (cs : List Char) :
    trimChars cs = [] ↔ ∀ c ∈ cs, isBlank c = true := by
  constructor
  · intro empty
    obtain ⟨lead, trail, leadBlank, trailBlank, split⟩ := exists_trimChars cs
    rw [split, empty]
    intro c member
    rcases List.mem_append.mp member with member | member
    · exact leadBlank c member
    · exact trailBlank c (by simpa using member)
  · intro blank
    rw [trimChars, List.dropWhile_eq_nil_iff.mpr (fun c member => blank c member)]
    rfl

theorem trimChars_append_blank {trail : List Char} (cs : List Char)
    (blank : ∀ c ∈ trail, isBlank c = true) : trimChars (cs ++ trail) = trimChars cs := by
  by_cases empty : ∀ c ∈ cs, isBlank c = true
  · rw [(trimChars_eq_nil_iff cs).mpr empty, trimChars_eq_nil_iff]
    intro c member
    rcases List.mem_append.mp member with member | member
    · exact empty c member
    · exact blank c member
  · -- Something is left of `cs`, so from the end of the whole text only `trail` goes first.
    have kept : cs.dropWhile isBlank ≠ [] := fun nothing =>
      empty (fun c member => List.dropWhile_eq_nil_iff.mp nothing c member)
    have notEmpty : (cs.dropWhile isBlank).isEmpty = false := by simpa using kept
    have none : trail.reverse.dropWhile isBlank = [] :=
      List.dropWhile_eq_nil_iff.mpr (fun c member => blank c (List.mem_reverse.mp member))
    rw [trimChars, List.dropWhile_append, notEmpty, trimChars]
    simp only [trimEnd_eq_rdropWhile, List.rdropWhile, List.reverse_append, List.dropWhile_append,
      none, List.isEmpty_nil, Bool.false_eq_true, ↓reduceIte]

/-- Blanks in front of a text that does not start with one are determined. -/
theorem blank_append_inj {lead other cs more : List Char} (leadBlank : ∀ c ∈ lead, isBlank c = true)
    (otherBlank : ∀ c ∈ other, isBlank c = true) (starts : ∀ c ∈ cs.head?, isBlank c = false)
    (moreStarts : ∀ c ∈ more.head?, isBlank c = false) (same : lead ++ cs = other ++ more) :
    lead = other ∧ cs = more := by
  have kept {text : List Char} (starts : ∀ c ∈ text.head?, isBlank c = false) :
      text.dropWhile isBlank = text := by
    cases text with
    | nil => rfl
    | cons c rest => simp [starts c (by simp)]
  have behind := congrArg (List.dropWhile isBlank) same
  rw [List.dropWhile_append_of_pos leadBlank, List.dropWhile_append_of_pos otherBlank,
    kept starts, kept moreStarts] at behind
  rw [behind] at same
  exact ⟨List.append_cancel_right same, behind⟩

theorem tight_of_solid {cs : List Char} (solid : ∀ c ∈ cs, isBlank c = false) : Tight cs :=
  ⟨fun c found => solid c (List.mem_of_mem_head? found),
    fun c found => solid c (List.mem_of_getLast? found)⟩

theorem Tight.starts {cs : List Char} (tight : Tight cs) (nonempty : cs ≠ []) (rest : List Char) :
    ∀ c ∈ (cs ++ rest).head?, isBlank c = false := by
  obtain ⟨first, others, rfl⟩ := List.exists_cons_of_ne_nil nonempty
  exact tight.first

/-- If what stands in front is trimmed to the text that all starts with, it is this text and blanks
behind it. -/
theorem Tight.exists_trail {cs before next more : List Char} (tight : Tight cs) (nonempty : cs ≠ [])
    (trimmed : trimChars before = cs) (same : cs ++ more = before ++ next) :
    ∃ trail, (∀ c ∈ trail, isBlank c = true) ∧ before = cs ++ trail ∧ more = trail ++ next := by
  obtain ⟨lead, trail, leadBlank, trailBlank, parts⟩ := exists_trimChars before
  rw [trimmed] at parts
  have whole : [] ++ (cs ++ more) = lead ++ (cs ++ (trail ++ next)) := by
    rw [List.nil_append, same, parts, List.append_assoc, List.append_assoc]
  obtain ⟨rfl, behind⟩ := blank_append_inj (by simp) leadBlank (tight.starts nonempty more)
    (tight.starts nonempty (trail ++ next)) whole
  exact ⟨trail, trailBlank, parts, List.append_cancel_left behind⟩

/-- Only the parts at the ends matter for the ends of a text. -/
theorem Tight.append {front back : List Char} (first : Tight front) (starts : front ≠ [])
    (mid : List Char) (last : Tight back) (ends : back ≠ []) : Tight (front ++ (mid ++ back)) := by
  refine ⟨first.starts starts _, fun c found => last.last c ?_⟩
  rwa [← List.append_assoc, List.getLast?_append_of_ne_nil _ ends] at found

theorem mem_of_mem_trimChars {cs : List Char} {c : Char} (member : c ∈ trimChars cs) : c ∈ cs := by
  obtain ⟨lead, trail, -, -, split⟩ := exists_trimChars cs
  rw [split]
  simp [member]

@[simp] theorem trim_trim (text : String) : trim (trim text) = trim text := by
  rw [trim, trim, String.toList_ofList, trimChars_trimChars]

theorem trim_eq_empty_iff (text : String) :
    trim text = "" ↔ ∀ c ∈ text.toList, isBlank c = true := by
  rw [← trimChars_eq_nil_iff, trim, ← String.toList_inj, String.toList_ofList]
  rfl

theorem trim_eq_self_iff (text : String) : trim text = text ↔ Tight text.toList := by
  rw [← trimChars_eq_self_iff, trim, ← String.toList_inj, String.toList_ofList]

end FacetedSearch.Text
