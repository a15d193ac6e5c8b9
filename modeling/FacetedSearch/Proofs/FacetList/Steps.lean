import FacetedSearch.FacetList.Request

/-! What can happen to a facet list.

A `Step` is one change of the entries of a list with what is reported of it. Every mutation is a
sequence of steps, so that what each step keeps, every run of requests keeps.
-/

set_option autoImplicit false

namespace FacetedSearch.FacetList

def ids (list : FacetList) : List FacetId := list.entries.map Entry.id

inductive FacetEdit : Facet → Facet → Prop where
  | value {facet : Facet} (value : String) : FacetEdit facet (facet.withValue value)
  | label {facet : Facet} (label : Option String) : FacetEdit facet { facet with label }

/-- One change of a list. An identity names the first entry that has it. -/
inductive Step (list : FacetList) : Change → FacetList → Prop where
  | reset (facets : List Facet) : Step list ⟨.reset, facets⟩ { list with
      entries := number list.nextId facets, nextId := list.nextId + facets.length }
  | added {front back : List Entry} (facet : Facet) : list.entries = front ++ back →
      Step list
        ⟨.added list.nextId front.length,
          (front ++ ⟨list.nextId, facet⟩ :: back).map Entry.facet⟩
        { list with
          entries := front ++ ⟨list.nextId, facet⟩ :: back, nextId := list.nextId + 1 }
  | removed {front back : List Entry} {id : FacetId} {facet : Facet} :
      list.entries = front ++ ⟨id, facet⟩ :: back → (∀ entry ∈ front, entry.id ≠ id) →
      Step list ⟨.removed id front.length facet, (front ++ back).map Entry.facet⟩
        { list with entries := front ++ back }
  | changed {front back : List Entry} {id : FacetId} {facet edited : Facet} :
      list.entries = front ++ ⟨id, facet⟩ :: back → (∀ entry ∈ front, entry.id ≠ id) →
      FacetEdit facet edited →
      Step list ⟨.changed id front.length, (front ++ ⟨id, edited⟩ :: back).map Entry.facet⟩
        { list with entries := front ++ ⟨id, edited⟩ :: back }

inductive Steps : FacetList → List Change → FacetList → Prop where
  | done {list : FacetList} : Steps list [] list
  | next {list middle last : FacetList} {change : Change} {rest : List Change} :
      Step list change middle → Steps middle rest last → Steps list (change :: rest) last

theorem Step.single {list next : FacetList} {change : Change} (step : Step list change next) :
    Steps list [change] next :=
  .next step .done

theorem Steps.append {list middle last : FacetList} {first rest : List Change}
    (steps : Steps list first middle) (more : Steps middle rest last) :
    Steps list (first ++ rest) last := by
  induction steps with
  | done => exact more
  | next step _ ih => exact .next step (ih more)

theorem FacetEdit.category_eq {facet edited : Facet} (edit : FacetEdit facet edited) :
    edited.category = facet.category := by
  cases edit <;> rfl

/-! ## Places of identities -/

theorem position_eq_some_iff {list : FacetList} {id : FacetId} {index : Nat} :
    list.position id = some index ↔ ∃ front back facet,
      list.entries = front ++ ⟨id, facet⟩ :: back ∧ front.length = index ∧
        ∀ entry ∈ front, entry.id ≠ id := by
  constructor
  · intro found
    obtain ⟨inside, here, before⟩ := List.findIdx?_eq_some_iff_getElem.mp found
    refine ⟨list.entries.take index, list.entries.drop (index + 1), list.entries[index].facet,
      ?_, by simp; omega, ?_⟩
    · have same : list.entries[index].id = id := by simpa using here
      rw [← same, List.getElem_cons_drop, List.take_append_drop]
    · intro entry member
      obtain ⟨place, bound, rfl⟩ := List.mem_take_iff_getElem.mp member
      simpa using before place (by omega)
  · rintro ⟨front, back, facet, split, rfl, before⟩
    have none : front.findIdx? (·.id == id) = none :=
      List.findIdx?_eq_none_iff.mpr (by simpa using before)
    rw [position, split, List.findIdx?_append, none]
    simp [List.findIdx?_cons]

theorem position_eq_none_iff {list : FacetList} {id : FacetId} :
    list.position id = none ↔ id ∉ list.ids := by
  simp [position, ids, List.findIdx?_eq_none_iff]

theorem exists_split {list : FacetList} {id : FacetId} (member : id ∈ list.ids) :
    ∃ front back facet, list.entries = front ++ ⟨id, facet⟩ :: back ∧
      ∀ entry ∈ front, entry.id ≠ id := by
  cases found : list.position id with
  | none => exact absurd member (position_eq_none_iff.mp found)
  | some index =>
    obtain ⟨front, back, facet, split, -, before⟩ := position_eq_some_iff.mp found
    exact ⟨front, back, facet, split, before⟩

section
variable {list : FacetList} {id : FacetId}

theorem remove_of_notMem (unknown : id ∉ list.ids) : list.remove id = ⟨list, none, []⟩ := by
  simp only [remove, position_eq_none_iff.mpr unknown]

theorem change_of_notMem (unknown : id ∉ list.ids) (edit : Facet → Facet) :
    list.change id edit = ⟨list, false, []⟩ := by
  simp only [change, position_eq_none_iff.mpr unknown]

variable {front back : List Entry} {facet : Facet}

theorem remove_of_split (split : list.entries = front ++ ⟨id, facet⟩ :: back)
    (before : ∀ entry ∈ front, entry.id ≠ id) :
    list.remove id = ⟨{ list with entries := front ++ back }, some facet,
      [⟨.removed id front.length facet, (front ++ back).map Entry.facet⟩]⟩ := by
  have found := position_eq_some_iff.mpr ⟨front, back, facet, split, rfl, before⟩
  have here : list.entries[front.length]? = some ⟨id, facet⟩ := by simp [split]
  have rest : list.entries.eraseIdx front.length = front ++ back := by
    rw [split, List.eraseIdx_append_of_length_le (Nat.le_refl _)]
    simp
  simp only [remove, found, here, rest, changeTo, toList]

theorem change_of_split (split : list.entries = front ++ ⟨id, facet⟩ :: back)
    (before : ∀ entry ∈ front, entry.id ≠ id) (edit : Facet → Facet) :
    list.change id edit = ⟨{ list with entries := front ++ ⟨id, edit facet⟩ :: back }, true,
      [⟨.changed id front.length, (front ++ ⟨id, edit facet⟩ :: back).map Entry.facet⟩]⟩ := by
  have found := position_eq_some_iff.mpr ⟨front, back, facet, split, rfl, before⟩
  have rest : (list.entries.modify front.length fun entry =>
      { entry with facet := edit entry.facet }) = front ++ ⟨id, edit facet⟩ :: back := by
    rw [split, List.modify_eq_take_drop, List.take_left, List.drop_left]
    rfl
  simp only [change, found, rest, changeTo, toList]

end

theorem insertIdx_split (front back : List Entry) (entry : Entry) :
    (front ++ back).insertIdx front.length entry = front ++ entry :: back := by
  induction front with
  | nil => simp
  | cons first front ih => simp [ih]

theorem insert_of_split (list : FacetList) (position : Nat) (facet : Facet) :
    ∃ front back, list.entries = front ++ back ∧ list.insert position facet =
      ⟨{ list with entries := front ++ ⟨list.nextId, facet⟩ :: back, nextId := list.nextId + 1 },
        list.nextId, [⟨.added list.nextId front.length,
          (front ++ ⟨list.nextId, facet⟩ :: back).map Entry.facet⟩]⟩ := by
  let index := min position list.entries.length
  have place : (list.entries.take index).length = index := by simp [index]
  have whole := List.take_append_drop index list.entries
  have inserted := insertIdx_split (list.entries.take index) (list.entries.drop index)
    ⟨list.nextId, facet⟩
  rw [whole, place] at inserted
  refine ⟨list.entries.take index, list.entries.drop index, whole.symm, ?_⟩
  rw [place, ← inserted]
  rfl

@[simp] theorem map_facet_number (next : FacetId) (facets : List Facet) :
    (number next facets).map Entry.facet = facets := by
  induction facets generalizing next with
  | nil => rfl
  | cons facet rest ih => simp [number, ih]

/-! ## Mutations -/

theorem reset_step (list : FacetList) (facets : List Facet) :
    Steps list (list.reset facets).changes (list.reset facets).list := by
  have step := (.reset facets : Step list _ _).single
  simpa [FacetList.reset, changeTo, toList] using step

theorem insert_step (list : FacetList) (position : Nat) (facet : Facet) :
    Steps list (list.insert position facet).changes (list.insert position facet).list := by
  obtain ⟨front, back, split, same⟩ := list.insert_of_split position facet
  rw [same]
  exact (Step.added facet split).single

theorem remove_steps (list : FacetList) (id : FacetId) :
    Steps list (list.remove id).changes (list.remove id).list := by
  by_cases known : id ∈ list.ids
  · obtain ⟨front, back, facet, split, before⟩ := exists_split known
    rw [remove_of_split split before]
    exact (Step.removed split before).single
  · rw [remove_of_notMem known]
    exact .done

theorem change_steps (list : FacetList) (id : FacetId) {edit : Facet → Facet}
    (edits : ∀ facet, FacetEdit facet (edit facet)) :
    Steps list (list.change id edit).changes (list.change id edit).list := by
  by_cases known : id ∈ list.ids
  · obtain ⟨front, back, facet, split, before⟩ := exists_split known
    rw [change_of_split split before]
    exact (Step.changed split before (edits facet)).single
  · rw [change_of_notMem known]
    exact .done

theorem removeAll_steps (list : FacetList) (ids : List FacetId) :
    Steps list (list.removeAll ids).changes (list.removeAll ids).list := by
  induction ids generalizing list with
  | nil => exact .done
  | cons id rest ih => exact (list.remove_steps id).append (ih _)

/-- Every mutation is a sequence of steps that makes the changes it reports. -/
theorem perform_steps (list : FacetList) (mutation : Mutation) :
    Steps list (list.perform mutation).changes (list.perform mutation).list := by
  cases mutation with
  | reset facets => exact list.reset_step facets
  | add facet => exact list.insert_step _ facet
  | insert position facet => exact list.insert_step position facet
  | remove id => exact list.remove_steps id
  | updateValue id value => exact list.change_steps id fun _ => .value value
  | setLabel id label => exact list.change_steps id fun _ => .label label
  | pruneEmpty => exact list.removeAll_steps list.emptyIds

/-! ## Runs -/

def run (list : FacetList) (dialect : Dialect) (requests : List Request) : FacetList :=
  ((list.session dialect requests).getLast?.map Outcome.list).getD list

@[simp] theorem run_nil (list : FacetList) (dialect : Dialect) : list.run dialect [] = list := rfl

@[simp] theorem run_cons (list : FacetList) (dialect : Dialect) (request : Request)
    (rest : List Request) :
    list.run dialect (request :: rest) = (list.handle dialect request).list.run dialect rest := by
  simp only [run, session, List.getLast?_cons]
  cases ((list.handle dialect request).list.session dialect rest).getLast? <;> rfl

theorem run_append (list : FacetList) (dialect : Dialect) (first rest : List Request) :
    list.run dialect (first ++ rest) = (list.run dialect first).run dialect rest := by
  induction first generalizing list with
  | nil => rfl
  | cons request first ih => simp [ih]

theorem run_keeps {motive : FacetList → Prop} {dialect : Dialect}
    (step : ∀ (list : FacetList) (request : Request), motive list →
      motive (list.handle dialect request).list)
    {list : FacetList} (start : motive list) (requests : List Request) :
    motive (list.run dialect requests) := by
  induction requests generalizing list with
  | nil => exact start
  | cons request rest ih =>
    rw [run_cons]
    exact ih (step list request start)

end FacetedSearch.FacetList
