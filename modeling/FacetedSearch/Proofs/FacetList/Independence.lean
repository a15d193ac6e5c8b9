import FacetedSearch.Proofs.FacetList.EditScript
import FacetedSearch.Proofs.FacetList.Identity

/-! Operations on different identities.

An operation that names an identity makes something of the one entry that has it and leaves every
other entry where it is. So operations that name different identities can be done in either order,
and a facet that is inserted and removed again leaves no trace in what is done between.
-/

set_option autoImplicit false

namespace FacetedSearch.FacetList

/-! ## One operation -/

section
variable {list : FacetList} {mutation : Mutation} {named : FacetId}

theorem remove_result (list : FacetList) (id : FacetId) :
    (list.remove id).result = list.get? id := by
  by_cases known : id ∈ list.ids
  · obtain ⟨front, back, facet, split, before⟩ := exists_split known
    rw [remove_of_split split before, get?_of_split split before]
  · rw [remove_of_notMem known, get?_eq_none_iff.mpr known]

theorem change_result (list : FacetList) (id : FacetId) (edit : Facet → Facet) :
    (list.change id edit).result = (list.get? id).isSome := by
  by_cases known : id ∈ list.ids
  · obtain ⟨front, back, facet, split, before⟩ := exists_split known
    rw [change_of_split split before, get?_of_split split before]
    rfl
  · rw [change_of_notMem known, get?_eq_none_iff.mpr known]
    rfl

theorem perform_result_congr {other : FacetList} (names : mutation.named? = some named)
    (same : list.get? named = other.get? named) :
    (list.perform mutation).result = (other.perform mutation).result := by
  obtain rfl | ⟨value, rfl⟩ | ⟨label, rfl⟩ := Mutation.of_named names
  · simp only [perform, Outcome.map, remove_result, same]
  · simp only [perform, Outcome.map, updateValue, change_result, same]
  · simp only [perform, Outcome.map, setLabel, change_result, same]

theorem perform_nextId (names : mutation.named? = some named) :
    (list.perform mutation).list.nextId = list.nextId := by
  have changed (edit : Facet → Facet) : (list.change named edit).list.nextId = list.nextId := by
    unfold change
    split <;> rfl
  obtain rfl | ⟨value, rfl⟩ | ⟨label, rfl⟩ := Mutation.of_named names
  · simp only [perform, Outcome.map, remove]
    split
    · rfl
    · split <;> rfl
  · exact changed _
  · exact changed _

theorem Mutation.fate_other (names : mutation.named? = some named) {entry : Entry}
    (other : entry.id ≠ named) : mutation.fate entry = some entry := by
  obtain rfl | ⟨value, rfl⟩ | ⟨label, rfl⟩ := Mutation.of_named names
  · exact if_neg other
  · simp [fate, edited, other]
  · simp [fate, edited, other]

theorem Mutation.fate_bind_other (first : Mutation) (names : mutation.named? = some named)
    {entry : Entry} (other : entry.id ≠ named) :
    (first.fate entry).bind mutation.fate = first.fate entry := by
  cases survives : first.fate entry with
  | none => rfl
  | some kept =>
    have keeps : kept.id ≠ named := by rwa [Mutation.fate_id survives]
    exact Mutation.fate_other names keeps

theorem Mutation.fate_comm {first second : Mutation} {i j : FacetId}
    (namesFirst : first.named? = some i) (namesSecond : second.named? = some j) (apart : i ≠ j)
    (entry : Entry) :
    (first.fate entry).bind second.fate = (second.fate entry).bind first.fate := by
  by_cases here : entry.id = i
  · have other : entry.id ≠ j := here ▸ apart
    rw [Mutation.fate_bind_other first namesSecond other, Mutation.fate_other namesSecond other]
    rfl
  · rw [Mutation.fate_bind_other second namesFirst here, Mutation.fate_other namesFirst here]
    rfl

theorem Identified.perform_entries (identified : Identified list)
    (names : mutation.named? = some named) :
    (list.perform mutation).list.entries = list.entries.filterMap mutation.fate := by
  have later := (list.perform_steps mutation).identified identified
  have next : (list.perform mutation).list.nextId = list.nextId := perform_nextId names
  rw [← identified.perform_old mutation, ← next]
  exact later.old_entries.symm

theorem Identified.get?_eq_some_iff (identified : Identified list) {id : FacetId} {facet : Facet} :
    list.get? id = some facet ↔ ⟨id, facet⟩ ∈ list.entries := by
  constructor
  · intro found
    obtain ⟨⟨other, inside⟩, here, rfl⟩ := Option.map_eq_some_iff.mp found
    obtain rfl : other = id := by simpa using List.find?_some here
    exact List.mem_of_find?_eq_some here
  · intro member
    obtain ⟨front, back, split⟩ := List.append_of_mem member
    exact get?_of_split split fun entry inFront =>
      identified.apart split entry (List.mem_append_left back inFront)

theorem Identified.get?_perform (identified : Identified list)
    (names : mutation.named? = some named) {id : FacetId} (other : id ≠ named) :
    (list.perform mutation).list.get? id = list.get? id := by
  have later := (list.perform_steps mutation).identified identified
  refine Option.ext fun facet => ?_
  rw [later.get?_eq_some_iff, identified.get?_eq_some_iff, identified.perform_entries names,
    List.mem_filterMap]
  constructor
  · rintro ⟨entry, member, survives⟩
    have keeps : entry.id ≠ named := by rwa [← Mutation.fate_id survives]
    rw [Mutation.fate_other names keeps] at survives
    rwa [← Option.some.inj survives]
  · intro member
    exact ⟨⟨id, facet⟩, member, Mutation.fate_other names other⟩

/-- Two operations that name different identities can be done in either order: the list is the same
afterwards, and so are the replies. -/
theorem Identified.perform_comm (identified : Identified list) {first second : Mutation}
    {i j : FacetId} (namesFirst : first.named? = some i) (namesSecond : second.named? = some j)
    (apart : i ≠ j) :
    ((list.perform first).list.perform second).list =
        ((list.perform second).list.perform first).list ∧
      ((list.perform first).list.perform second).result = (list.perform second).result ∧
      ((list.perform second).list.perform first).result = (list.perform first).result := by
  have afterFirst := (list.perform_steps first).identified identified
  have afterSecond := (list.perform_steps second).identified identified
  -- Each of them leaves what becomes of each entry, and leaves the entry of the other alone.
  have entries : ((list.perform first).list.perform second).list.entries =
      ((list.perform second).list.perform first).list.entries := by
    rw [afterFirst.perform_entries namesSecond, afterSecond.perform_entries namesFirst,
      identified.perform_entries namesFirst, identified.perform_entries namesSecond,
      List.filterMap_filterMap, List.filterMap_filterMap]
    exact List.filterMap_congr fun entry _ => Mutation.fate_comm namesFirst namesSecond apart entry
  have next : ((list.perform first).list.perform second).list.nextId =
      ((list.perform second).list.perform first).list.nextId := by
    rw [perform_nextId namesSecond, perform_nextId namesFirst, perform_nextId namesFirst,
      perform_nextId namesSecond]
  have observers : ((list.perform first).list.perform second).list.observers =
      ((list.perform second).list.perform first).list.observers := by
    simp only [perform_observers]
  refine ⟨FacetList.mk.injEq .. |>.mpr ⟨entries, next, observers⟩, ?_, ?_⟩
  · exact perform_result_congr namesSecond (identified.get?_perform namesFirst apart.symm)
  · exact perform_result_congr namesFirst (identified.get?_perform namesSecond apart)

end

/-! ## A facet that does not stay -/

/-- A list has one entry more than another one, and no entry that differs. -/
structure OneMore (list other : FacetList) (entry : Entry) : Prop where
  identified : Identified list
  identifiedOther : Identified other
  present : entry ∈ list.entries
  rest : other.entries = list.entries.filter (·.id != entry.id)

section
variable {list other : FacetList} {entry : Entry}

theorem OneMore.get?_eq (more : OneMore list other entry) {id : FacetId} (apart : id ≠ entry.id) :
    list.get? id = other.get? id := by
  refine Option.ext fun facet => ?_
  rw [more.identified.get?_eq_some_iff, more.identifiedOther.get?_eq_some_iff, more.rest,
    List.mem_filter]
  simp [apart]

theorem OneMore.perform (more : OneMore list other entry) {mutation : Mutation} {named : FacetId}
    (names : mutation.named? = some named) (apart : named ≠ entry.id) :
    OneMore (list.perform mutation).list (other.perform mutation).list entry := by
  refine ⟨(list.perform_steps mutation).identified more.identified,
    (other.perform_steps mutation).identified more.identifiedOther, ?_, ?_⟩
  · rw [more.identified.perform_entries names, List.mem_filterMap]
    exact ⟨entry, more.present, Mutation.fate_other names apart.symm⟩
  · rw [more.identified.perform_entries names, more.identifiedOther.perform_entries names, more.rest,
      List.filterMap_filter, List.filter_filterMap]
    refine List.filterMap_congr fun other _ => ?_
    cases survives : mutation.fate other with
    | none => simp
    | some kept => simp [Option.filter, Mutation.fate_id survives]

theorem OneMore.session (more : OneMore list other entry) (dialect : Dialect)
    {calls : List Mutation}
    (others : ∀ call ∈ calls, ∃ id, call.named? = some id ∧ id ≠ entry.id) :
    OneMore (list.run dialect (calls.map .mutation)) (other.run dialect (calls.map .mutation))
        entry ∧
      (list.session dialect (calls.map .mutation)).map Outcome.result =
        (other.session dialect (calls.map .mutation)).map Outcome.result := by
  induction calls generalizing list other with
  | nil => exact ⟨more, rfl⟩
  | cons call rest ih =>
    obtain ⟨⟨id, names, apart⟩, later⟩ := List.forall_mem_cons.mp others
    obtain ⟨last, replies⟩ := ih (more.perform names apart) later
    have reply := perform_result_congr names (more.get?_eq apart)
    simp only [List.map_cons, run_cons, FacetList.session, handle]
    exact ⟨last, List.cons_eq_cons.mpr ⟨reply, replies⟩⟩

theorem OneMore.remove (more : OneMore list other entry) :
    (list.remove entry.id).list.entries = other.entries ∧
      (list.remove entry.id).result = some entry.facet := by
  rw [more.identified.remove_entries, more.rest, remove_result, more.identified.get?_eq_some_iff]
  exact ⟨rfl, more.present⟩

theorem Identified.oneMore_insert (identified : Identified list) (position : Nat) (facet : Facet) :
    OneMore (list.insert position facet).list list ⟨list.nextId, facet⟩ := by
  have later := (list.insert_step position facet).identified identified
  obtain ⟨front, back, split, inserted⟩ := list.insert_of_split position facet
  rw [inserted] at later ⊢
  refine ⟨later, identified, by simp, ?_⟩
  have apart := later.apart rfl
  rw [← later.remove_entries, remove_of_split rfl fun entry inFront =>
    apart entry (List.mem_append_left back inFront)]
  exact split

end

/-- In every list that requests lead to, two operations that name different identities can be done in
either order, with the same list and the same replies. A facet that is inserted, and removed again
after operations that name other identities, leaves the entries and the replies that these operations
have without it, and is returned as it was. -/
theorem independence_of_run (dialect : Dialect) (requests : List Request) :
    let list := FacetList.run {} dialect requests
    (∀ first second i j, Mutation.named? first = some i → Mutation.named? second = some j → i ≠ j →
      ((list.perform first).list.perform second).list =
          ((list.perform second).list.perform first).list ∧
        ((list.perform first).list.perform second).result = (list.perform second).result ∧
        ((list.perform second).list.perform first).result = (list.perform first).result) ∧
    ∀ position facet (calls : List Mutation),
      let inserted := list.insert position facet
      let between := calls.map Request.mutation
      (∀ call ∈ calls, ∃ id, call.named? = some id ∧ id ≠ inserted.result) →
        let last := (inserted.list.run dialect between).remove inserted.result
        last.list.entries = (list.run dialect between).entries ∧
        last.result = some facet ∧
        (inserted.list.session dialect between).map Outcome.result =
          (list.session dialect between).map Outcome.result := by
  intro list
  have identified : Identified list := run_identified identified_empty dialect requests
  refine ⟨fun first second i j => identified.perform_comm, ?_⟩
  intro position facet calls inserted between others
  have more : OneMore inserted.list list ⟨inserted.result, facet⟩ :=
    identified.oneMore_insert position facet
  obtain ⟨still, replies⟩ := more.session dialect others
  exact ⟨still.remove.1, still.remove.2, replies⟩

theorem independence_of_equal_facets :
    let list := FacetList.run {} {} [.mutation (.reset [⟨"tag", "a", none⟩, ⟨"tag", "a", none⟩])]
    let passing : Facet := ⟨"x", " y", some "z"⟩
    let calls : List Mutation := [.updateValue 7 "c", .remove 0, .setLabel 1 (some "b")]
    let inserted := list.insert 1 passing
    let last := (inserted.list.run {} (calls.map .mutation)).remove inserted.result
    ((list.perform (.remove 0)).list.perform (.updateValue 1 " b ")).list =
        ((list.perform (.updateValue 1 " b ")).list.perform (.remove 0)).list ∧
      ((list.perform (.remove 0)).list.perform (.updateValue 1 " b ")).list.toList =
        [⟨"tag", "b", none⟩] ∧
      last.list.entries = (list.run {} (calls.map .mutation)).entries ∧
      last.list.toList = [⟨"tag", "a", some "b"⟩] ∧ last.result = some passing := by
  intro list passing calls inserted last
  obtain ⟨swap, transient⟩ := independence_of_run {}
    [.mutation (.reset [⟨"tag", "a", none⟩, ⟨"tag", "a", none⟩])]
  have others : ∀ call ∈ calls, ∃ id, call.named? = some id ∧ id ≠ inserted.result := by
    simp only [calls, List.forall_mem_cons]
    exact ⟨⟨7, rfl, by decide⟩, ⟨0, rfl, by decide⟩, ⟨1, rfl, by decide⟩, by simp⟩
  obtain ⟨entries, returned, -⟩ := transient 1 passing calls others
  exact ⟨(swap (.remove 0) (.updateValue 1 " b ") 0 1 rfl rfl (by decide)).1, by decide, entries,
    by decide, returned⟩

end FacetedSearch.FacetList
