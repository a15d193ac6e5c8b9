import FacetedSearch.Proofs.Query.Places

/-! The steps of a scan, and what it yields.

A step hands over the pair that is pending, or finds the next one, or takes all that is left. What a
scan yields from a cursor on is what the pieces of the text behind it say, so to scan a query is to
divide it into pieces. The check that a pair moves the cursor never fails.
-/

set_option autoImplicit false

namespace FacetedSearch.Query

open Text (isBlank isBlankText byteLength)

/-! ## Steps -/

namespace Scan

inductive Step (scan : Scan) : Field → Scan → Prop where
  | pending {field : Field} : scan.pending = some field →
      Step scan field { scan with pending := none }
  | tail : scan.pending = none → scan.cursor < scan.query.length → Pair.find? scan.rest = none →
      Step scan scan.tail { scan with cursor := scan.query.length }
  | pair {before after : List Char} {pair : Pair} : scan.pending = none →
      Pair.find? scan.rest = some (before, pair, after) → isBlankText before = true →
      Step scan (scan.fieldOf pair (scan.cursor + before.length))
        { scan with cursor := scan.cursor + before.length + pair.text.length }
  | freeText {before after : List Char} {pair : Pair} : scan.pending = none →
      Pair.find? scan.rest = some (before, pair, after) → isBlankText before = false →
      Step scan (scan.freeText scan.cursor (scan.cursor + before.length))
        { scan with
          cursor := scan.cursor + before.length + pair.text.length
          pending := scan.fieldOf pair (scan.cursor + before.length) }

variable {scan next : Scan} {field : Field}

theorem inside_of_find? {result : List Char × Pair × List Char}
    (found : Pair.find? scan.rest = some result) : scan.cursor < scan.query.length := by
  by_contra beyond
  have nothing : scan.rest = [] := List.drop_eq_nil_of_le (Nat.not_lt.mp beyond)
  simp [nothing, Pair.find?] at found

theorem Step.of_next? (step : scan.next? = some (field, next)) : Step scan field next := by
  unfold next? at step
  split at step
  next found pending =>
    obtain ⟨rfl, rfl⟩ := Prod.mk.inj (Option.some.inj step)
    exact .pending pending
  next idle =>
    split at step
    next => contradiction
    next inside =>
      split at step
      next none =>
        obtain ⟨rfl, rfl⟩ := Prod.mk.inj (Option.some.inj step)
        exact .tail idle (Nat.not_le.mp inside) none
      next before pair after found =>
        dsimp only at step
        split at step
        next => contradiction
        next =>
          split at step <;> obtain ⟨rfl, rfl⟩ := Prod.mk.inj (Option.some.inj step)
          next blank => exact .pair idle found blank
          next visible => exact .freeText idle found (Bool.not_eq_true _ ▸ visible)

theorem Step.next?_eq (step : Step scan field next) : scan.next? = some (field, next) := by
  -- A pair has a text, so it ends behind the cursor.
  have forward (before : List Char) (pair : Pair) :
      ¬ scan.cursor + before.length + pair.text.length ≤ scan.cursor := by
    have nonempty := List.length_pos_iff.mpr pair.text_ne_nil
    omega
  cases step with
  | pending pending => rw [next?, pending]
  | tail idle inside none => simp only [next?, idle, if_neg (Nat.not_le.mpr inside), none]
  | pair idle found blank =>
    have notEnd := Nat.not_le.mpr (inside_of_find? found)
    simp only [next?, idle, if_neg notEnd, found, if_neg (forward _ _), if_pos blank]
  | freeText idle found visible =>
    have notEnd := Nat.not_le.mpr (inside_of_find? found)
    simp only [next?, idle, if_neg notEnd, found, if_neg (forward _ _), visible,
      Bool.false_eq_true, ↓reduceIte]

theorem Step.forward (step : Step scan field next) (idle : scan.pending = none) :
    scan.cursor < next.cursor := by
  cases step with
  | pending pending => simp [idle] at pending
  | tail _ inside => exact inside
  | @pair _ _ pair | @freeText _ _ pair =>
    have nonempty := List.length_pos_iff.mpr pair.text_ne_nil
    dsimp only
    omega

theorem exists_step_of_find? {before after : List Char} {pair : Pair} (idle : scan.pending = none)
    (found : Pair.find? scan.rest = some (before, pair, after)) : ∃ field next,
      Step scan field next ∧ next.cursor = scan.cursor + before.length + pair.text.length := by
  cases blank : isBlankText before with
  | true => exact ⟨_, _, .pair idle found blank, rfl⟩
  | false => exact ⟨_, _, .freeText idle found blank, rfl⟩

theorem next?_of_end (idle : scan.pending = none) (atEnd : scan.query.length ≤ scan.cursor) :
    scan.next? = none := by
  rw [next?, idle]
  exact if_pos atEnd

theorem run_of_none (ended : scan.next? = none) : scan.run = [] := by
  rw [run]
  split
  next step => simp [ended] at step
  next => rfl

theorem Step.run_eq (step : Step scan field next) : scan.run = field :: next.run := by
  have found := step.next?_eq
  rw [run]
  split
  next again =>
    rw [found, Option.some.injEq, Prod.mk.injEq] at again
    obtain ⟨rfl, rfl⟩ := again
    rfl
  next none => simp [found] at none

end Scan

/-! ## From a cursor on -/

/-- What a scan yields from a cursor on, when no pair is pending. -/
def fieldsAt (cs : List Char) (cursor : Nat) : List Field := Scan.run { query := cs, cursor }

theorem Scan.run_eq (scan : Scan) :
    scan.run = scan.pending.toList ++ fieldsAt scan.query scan.cursor := by
  cases pending : scan.pending with
  | none =>
    obtain ⟨query, cursor, _⟩ := scan
    obtain rfl := pending
    rfl
  | some field => exact (Step.pending pending).run_eq

theorem drop_of_find? {cs before after : List Char} {cursor : Nat} {pair : Pair}
    (found : Pair.find? (cs.drop cursor) = some (before, pair, after)) :
    cs.drop (cursor + before.length + pair.text.length) = after := by
  obtain ⟨-, split⟩ := Pair.find?_split found
  rw [← List.drop_drop, ← List.drop_drop, split, List.drop_left, List.drop_left]

theorem take_of_find? {cs before after : List Char} {cursor : Nat} {pair : Pair}
    (found : Pair.find? (cs.drop cursor) = some (before, pair, after)) :
    (cs.drop cursor).take before.length = before := by
  obtain ⟨-, split⟩ := Pair.find?_split found
  rw [split, List.take_left]

theorem fieldsAt_of_find? {cs before after : List Char} {cursor : Nat} {pair : Pair}
    (found : Pair.find? (cs.drop cursor) = some (before, pair, after)) :
    fieldsAt cs cursor = fieldsFrom (byteAt cs cursor) (Piece.ofLead before) ++
      Scan.fieldOf { query := cs, cursor } pair (cursor + before.length) ::
        fieldsAt cs (cursor + before.length + pair.text.length) := by
  rw [fieldsFrom_ofLead, fieldsAt]
  cases blank : isBlankText before with
  | true =>
    have step : Scan.Step { query := cs, cursor } _ _ := .pair rfl found blank
    exact step.run_eq
  | false =>
    have step : Scan.Step { query := cs, cursor } _ _ := .freeText rfl found blank
    rw [step.run_eq, Scan.run_eq]
    simp only [Scan.freeText, Scan.span, Nat.add_sub_cancel_left, byteAt_add, take_of_find? found]
    rfl

theorem fieldsAt_of_none {cs : List Char} {cursor : Nat} (inside : cursor < cs.length)
    (none : Pair.find? (cs.drop cursor) = none) :
    fieldsAt cs cursor = fieldsFrom (byteAt cs cursor) [Piece.ofEnd (cs.drop cursor)] := by
  have length : cursor + (cs.drop cursor).length = cs.length := by
    rw [List.length_drop]
    omega
  have stop : byteAt cs cs.length = byteAt cs cursor + byteLength (cs.drop cursor) := by
    rw [← length, byteAt_add, List.take_length]
  have text : (cs.drop cursor).take (cs.length - cursor) = cs.drop cursor := by
    rw [← List.length_drop, List.take_length]
  have step : Scan.Step { query := cs, cursor } _ _ := .tail rfl inside none
  have ended : ({ query := cs, cursor := cs.length } : Scan).next? = .none :=
    Scan.next?_of_end rfl (Nat.le_refl _)
  rw [fieldsAt, step.run_eq, Scan.run_of_none ended, fieldsFrom,
    fieldsFrom, List.append_nil, Piece.field?_ofEnd, Scan.tail, Scan.rest]
  cases read : readDangling? ((cs.drop cursor).dropWhile isBlank) with
  | none => simp [Scan.freeText, Scan.span, stop, text]
  | some result => simp [Scan.span, stop]

/-- To scan a text from a cursor on is to divide what is left of it into pieces. -/
theorem fieldsAt_eq (cs : List Char) (cursor : Nat) :
    fieldsAt cs cursor = fieldsFrom (byteAt cs cursor) (pieces (cs.drop cursor)) := by
  generalize left : cs.drop cursor = rest
  induction rest using scan_induction generalizing cursor with
  | rest rest none =>
    subst left
    by_cases beyond : cs.length ≤ cursor
    · have ended : ({ query := cs, cursor } : Scan).next? = .none := Scan.next?_of_end rfl beyond
      rw [List.drop_eq_nil_of_le beyond, pieces_nil]
      exact Scan.run_of_none ended
    · have inside := Nat.not_le.mp beyond
      have nonempty : cs.drop cursor ≠ [] := by simpa using inside
      rw [pieces_of_none none nonempty]
      exact fieldsAt_of_none inside none
  | pair rest before pair after found ih =>
    subst left
    obtain ⟨-, split⟩ := Pair.find?_split found
    -- The spans behind the pair start where its text ends.
    have behind : byteAt cs (cursor + before.length + pair.text.length) =
        byteAt cs (cursor + before.length) + byteLength pair.text := by
      rw [byteAt_add, ← List.drop_drop, split, List.drop_left, List.take_left]
    rw [fieldsAt_of_find? found, ih _ (drop_of_find? found), pieces_of_find? found,
      fieldsFrom_append, Piece.flatMap_text_ofLead, fieldsFrom, Scan.fieldOf, Scan.span, behind,
      byteAt_add, take_of_find? found]
    rfl

theorem fields_eq (query : String) : fields query = fieldsFrom 0 (pieces query.toList) :=
  fieldsAt_eq query.toList 0

/-! ## States -/

inductive Scan.Reached (cs : List Char) : Scan → Prop where
  | start : Reached cs { query := cs }
  | next {scan next : Scan} {field : Field} (reached : Reached cs scan)
      (step : scan.next? = some (field, next)) : Reached cs next

/-- The cursors that a scan of a text reaches. -/
def Reaches (cs : List Char) (cursor : Nat) : Prop :=
  ∃ scan, Scan.Reached cs scan ∧ scan.cursor = cursor

namespace Scan.Reached

variable {cs : List Char} {scan : Scan}

theorem query_eq (reached : Reached cs scan) : scan.query = cs := by
  induction reached with
  | start => rfl
  | next _ step ih =>
    have step := Step.of_next? step
    cases step <;> exact ih

theorem cursor_le (reached : Reached cs scan) : scan.cursor ≤ cs.length := by
  induction reached with
  | start => exact Nat.zero_le _
  | next reached step ih =>
    have query := reached.query_eq
    have step := Step.of_next? step
    cases step with
    | pending => exact ih
    | tail => exact Nat.le_of_eq (congrArg List.length query)
    | pair _ found | freeText _ found =>
      -- The text up to the end of the pair is a part of what was left.
      obtain ⟨-, split⟩ := Pair.find?_split found
      have lengths := congrArg List.length split
      rw [rest, query] at lengths
      simp only [List.length_drop, List.length_append] at lengths
      dsimp only
      omega

theorem idle (reached : Reached cs scan) : Reached cs { query := cs, cursor := scan.cursor } := by
  obtain ⟨query, cursor, pending⟩ := scan
  obtain rfl : query = cs := reached.query_eq
  cases pending with
  | none => exact reached
  | some field => exact reached.next (Step.pending rfl).next?_eq

/-- A scan only ends where its text does. -/
theorem cursor_eq (reached : Reached cs scan) (ended : scan.next? = none) :
    scan.cursor = cs.length := by
  refine Nat.le_antisymm reached.cursor_le (Nat.not_lt.mp fun inside => ?_)
  rw [← reached.query_eq] at inside
  -- Anywhere else there is a step.
  have moves {field : Field} {next : Scan} : ¬ Step scan field next := fun step => by
    simp [step.next?_eq] at ended
  cases pending : scan.pending with
  | some field => exact moves (.pending pending)
  | none =>
    cases found : Pair.find? scan.rest with
    | none => exact moves (.tail pending inside found)
    | some result =>
      obtain ⟨_, _, step, -⟩ := exists_step_of_find? pending found
      exact moves step

theorem fields_eq {query : String} (reached : Reached query.toList scan) :
    ∃ earlier, fields query = earlier ++ scan.run := by
  induction reached with
  | start => exact ⟨[], rfl⟩
  | @next scan next field _ step ih =>
    obtain ⟨earlier, same⟩ := ih
    refine ⟨earlier ++ [field], ?_⟩
    rw [same, (Step.of_next? step).run_eq, List.append_assoc, List.singleton_append]

end Scan.Reached

namespace Reaches

variable {cs : List Char} {cursor : Nat}

theorem start : Reaches cs 0 := ⟨_, .start, rfl⟩

theorem behind {before after : List Char} {pair : Pair} (reached : Reaches cs cursor)
    (found : Pair.find? (cs.drop cursor) = some (before, pair, after)) :
    Reaches cs (cursor + before.length + pair.text.length) := by
  obtain ⟨scan, reached, rfl⟩ := reached
  let idle : Scan := { query := cs, cursor := scan.cursor }
  obtain ⟨field, next, step, cursor⟩ := idle.exists_step_of_find? rfl found
  exact ⟨next, reached.idle.next step.next?_eq, cursor⟩

theorem stop (reached : Reaches cs cursor) (none : Pair.find? (cs.drop cursor) = none) :
    Reaches cs cs.length := by
  obtain ⟨scan, reached, rfl⟩ := reached
  rcases Nat.lt_or_eq_of_le reached.cursor_le with inside | atEnd
  · have step : Scan.Step { query := cs, cursor := scan.cursor } _ _ := .tail rfl inside none
    exact ⟨_, reached.idle.next step.next?_eq, rfl⟩
  · exact ⟨scan, reached, atEnd⟩

theorem fields_eq {query : String} (reached : Reaches query.toList cursor) :
    ∃ earlier, fields query = earlier ++ fieldsAt query.toList cursor := by
  obtain ⟨scan, reached, rfl⟩ := reached
  exact reached.idle.fields_eq

end Reaches

end FacetedSearch.Query
