import FacetedSearch.Proofs.Json.Spelling

/-! Records that were written as JSON objects are read back.

A record is read into a draft, one member after the other. `Drafted` says what the members of an
object make of a draft; an object then spells the record that the last draft is finished to, in
either layout.
-/

set_option autoImplicit false

namespace FacetedSearch.Json

def memberChars (gap : List Char) (member : String × List Char) : List Char :=
  quoted member.1 ++ ':' :: (gap ++ member.2)

/-- The members of an object, read one after the other, turn a draft into another one. -/
inductive Drafted {δ : Type} (step : String → δ → Reader δ) (gap : List Char) :
    δ → List (String × List Char) → δ → Prop where
  | nil {draft : δ} : Drafted step gap draft [] draft
  | cons {draft next last : δ} {name : String} {text : List Char}
      {members : List (String × List Char)} :
      (∀ rest, step name draft (':' :: (gap ++ (text ++ rest))) = .ok (next, rest)) →
      Drafted step gap next members last → Drafted step gap draft ((name, text) :: members) last

section
variable {δ : Type} {step : String → δ → Reader δ} {lead gap trail : List Char}

/-! ## Members -/

theorem readMembers_next (bound : Nat) (first : Bool) (draft : δ) (name : String)
    (spaces : Spaces lead) (more : List Char) :
    readMembers step (bound + 1) first draft (separator first ++ (lead ++ (quoted name ++ more))) =
      (step name draft more).bind fun (draft, rest) => readMembers step bound false draft rest := by
  have here := skipSpace_append_token spaces (c := '"') rfl
    (name.toList.flatMap escapeChar ++ '"' :: more)
  have next : nextMember first (separator first ++ (lead ++ (quoted name ++ more))) =
      .ok (some (name.toList.flatMap escapeChar ++ '"' :: more)) := by
    rw [quoted_append]
    cases first with
    | true => simp [separator, nextMember, here]
    | false =>
      have comma := skipSpace_token (c := ',') rfl
        (lead ++ '"' :: (name.toList.flatMap escapeChar ++ '"' :: more))
      simp [separator, nextMember, comma, here]
  simp only [readMembers, next, readStringChars_escaped, String.ofList_toList, bind, Except.bind]

theorem readMembers_end (bound : Nat) (first : Bool) (draft : δ) (spaces : Spaces trail)
    (rest : List Char) :
    readMembers step (bound + 1) first draft (trail ++ '\x7d' :: rest) = .ok (draft, rest) := by
  have here := skipSpace_append_token spaces (c := '\x7d') rfl rest
  simp only [readMembers, nextMember, here, bind, Except.bind, pure, Except.pure, List.drop_one,
    List.tail_cons]

theorem readMembers_separated {draft last : δ} {members : List (String × List Char)}
    (drafted : Drafted step gap draft members last) (bound : Nat) (first : Bool)
    (spaces : Spaces lead) (trailing : Spaces trail) (enough : members.length < bound)
    (rest : List Char) :
    readMembers step bound first draft
      (separated lead first (members.map (memberChars gap)) ++ (trail ++ '\x7d' :: rest)) =
      .ok (last, rest) := by
  -- There is a step for each of the members, and one for the end.
  induction drafted generalizing bound first with
  | nil =>
    obtain ⟨bound, rfl⟩ := Nat.exists_eq_add_one_of_ne_zero (Nat.ne_zero_of_lt enough)
    exact readMembers_end bound first _ trailing rest
  | @cons draft next last name text members reads _ ih =>
    obtain ⟨bound, rfl⟩ := Nat.exists_eq_add_one_of_ne_zero (Nat.ne_zero_of_lt enough)
    have later := ih bound false (Nat.lt_of_succ_lt_succ enough)
    have here : readMembers step (bound + 1) first draft _ = _ := readMembers_next bound first draft
      name spaces (':' :: (gap ++ (text ++
        (separated lead false (members.map (memberChars gap)) ++ (trail ++ '\x7d' :: rest)))))
    rw [reads] at here
    simp only [List.map_cons, separated, memberChars, List.append_assoc, List.cons_append] at here ⊢
    rw [here]
    exact later

theorem readOnce_spells {α : Type} (name : String) {readValue : Reader α} {text : List Char}
    {value : α} (spells : Spells readValue text value) (spaces : Spaces gap) (rest : List Char) :
    readOnce name none readValue (':' :: (gap ++ (text ++ rest))) = .ok (some value, rest) := by
  have colon : readColon (':' :: (gap ++ (text ++ rest))) = .ok (gap ++ (text ++ rest)) := by
    rw [readColon, skipSpace_token rfl]
    rfl
  have value := spells.reads gap rest spaces
  simp only [readOnce, colon, value, bind, Except.bind, pure, Except.pure]

/-! ## Objects -/

/-- A reader that takes a record from an object: it reads the members into a draft, from the empty
draft on, and finishes the draft. -/
structure ReadsObjects {α : Type} (read : Reader α) (step : String → δ → Reader δ) (empty : δ)
    (finish : δ → Except Failure α) : Prop where
  reads : ∀ before cs, Spaces before → read (before ++ '\x7b' :: cs) = do
    let (draft, rest) ← readMembers step (cs.length + 1) true empty cs
    return (← finish draft, rest)

variable {α : Type} {read : Reader α} {empty last : δ} {finish : δ → Except Failure α} {value : α}

theorem ReadsObjects.spells (objects : ReadsObjects read step empty finish)
    {members : List (String × List Char)} (drafted : Drafted step gap empty members last)
    (finished : finish last = .ok value) (spaces : Spaces lead) (trailing : Spaces trail) :
    Spells read ('\x7b' :: (separated lead true (members.map (memberChars gap)) ++
      (trail ++ ['\x7d']))) value := by
  refine ⟨fun before rest blank => ?_, '\x7b', _, rfl, rfl, by decide⟩
  have nonempty : ∀ text ∈ members.map (memberChars gap), text ≠ [] := by
    intro text member
    obtain ⟨⟨name, text⟩, -, rfl⟩ := List.mem_map.mp member
    exact List.append_ne_nil_of_right_ne_nil _ (List.cons_ne_nil _ _)
  have atMost := length_le_separated true lead nonempty
  rw [List.length_map] at atMost
  rw [List.cons_append, objects.reads before _ blank]
  simp only [List.append_assoc, List.singleton_append]
  rw [readMembers_separated drafted _ true spaces trailing]
  · simp only [bind, Except.bind, finished, pure, Except.pure]
  · simp only [List.length_append]
    omega

/-! ## Layouts -/

theorem compactMembers_eq (members : List (String × Value)) :
    compactMembers members = separated [] true
      ((members.map fun (name, value) => (name, value.compactChars)).map (memberChars [])) := by
  rw [List.map_map]
  exact separated_of_layout compactMembers rfl (fun _ => rfl)
    (fun _ _ _ => by simp [compactMembers, memberChars]) members

theorem prettyMembers_eq (level : Nat) (members : List (String × Value)) :
    prettyMembers level members = separated (newline level) true
      ((members.map fun (name, value) => (name, value.prettyChars level)).map
        (memberChars [' '])) := by
  rw [List.map_map]
  exact separated_of_layout (prettyMembers level) rfl
    (fun _ => by simp [prettyMembers, memberChars])
    (fun _ _ _ => by simp [prettyMembers, memberChars]) members

theorem ReadsObjects.spells_compact (objects : ReadsObjects read step empty finish)
    {members : List (String × Value)}
    (drafted : Drafted step [] empty
      (members.map fun (name, value) => (name, value.compactChars)) last)
    (finished : finish last = .ok value) :
    Spells read (Value.object members).compactChars value := by
  have spells := objects.spells drafted finished spaces_nil spaces_nil
  rw [Value.compactChars, compactMembers_eq]
  exact spells

theorem ReadsObjects.spells_pretty (objects : ReadsObjects read step empty finish)
    (level : Nat) {members : List (String × Value)} (nonempty : members ≠ [])
    (drafted : Drafted step [' '] empty
      (members.map fun (name, value) => (name, value.prettyChars (level + 1))) last)
    (finished : finish last = .ok value) :
    Spells read ((Value.object members).prettyChars level) value := by
  have spells := objects.spells drafted finished (spaces_newline (level + 1)) (spaces_newline level)
  rw [Value.prettyChars, prettyMembers_eq, List.append_assoc]
  · exact spells
  · exact nonempty

end

end FacetedSearch.Json
