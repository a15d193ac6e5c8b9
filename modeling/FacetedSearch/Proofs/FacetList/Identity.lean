import FacetedSearch.Proofs.FacetList.Steps
import Mathlib.Data.List.Nodup

/-! Identities in a facet list.

In every list that requests lead to, no two entries have one identity, and the next identity to be
given is above all that were ever given. So an identity finds one entry, and it is the same entry as
long as the entry is in the list.
-/

set_option autoImplicit false

namespace FacetedSearch.FacetList

/-- No identity is carried twice, and all are below the next one to be given. -/
structure Identified (list : FacetList) : Prop where
  distinct : list.ids.Nodup
  below : ∀ id ∈ list.ids, id < list.nextId

theorem map_id_number (next : FacetId) (facets : List Facet) :
    (number next facets).map Entry.id = List.range' next facets.length := by
  induction facets generalizing next with
  | nil => rfl
  | cons facet rest ih => simp [number, ih, List.range'_succ]

/-! ## Steps -/

section
variable {list next : FacetList} {change : Change}

theorem Step.nextId_le (step : Step list change next) : list.nextId ≤ next.nextId := by
  cases step with
  | reset facets => exact Nat.le_add_right _ _
  | added facet split => exact Nat.le_succ _
  | removed split before => exact Nat.le_refl _
  | changed split before edit => exact Nat.le_refl _

theorem Step.identified (step : Step list change next) (identified : Identified list) :
    Identified next := by
  obtain ⟨distinct, below⟩ := identified
  cases step with
  | reset facets =>
    constructor
    · rw [ids, map_id_number]
      exact List.nodup_range'
    · intro id member
      rw [ids, map_id_number, List.mem_range'_1] at member
      exact member.2
  | @added front back facet split =>
    have whole : list.ids = front.map Entry.id ++ back.map Entry.id := by simp [ids, split]
    rw [whole] at distinct below
    constructor
    · -- The next identity is above all others, so the new entry has none of theirs.
      rw [ids, List.map_append, List.map_cons, List.nodup_middle, List.nodup_cons]
      exact ⟨fun member => Nat.lt_irrefl _ (below _ member), distinct⟩
    · intro id member
      rw [ids, List.map_append, List.map_cons, List.mem_append, List.mem_cons] at member
      rcases member with inFront | rfl | inBack
      · exact Nat.lt_succ_of_lt (below id (List.mem_append_left _ inFront))
      · exact Nat.lt_succ_self _
      · exact Nat.lt_succ_of_lt (below id (List.mem_append_right _ inBack))
  | @removed front back id facet split before =>
    have kept : (front ++ back).Sublist list.entries := by simp [split]
    exact ⟨distinct.sublist (kept.map Entry.id), fun other member =>
      below other ((kept.map Entry.id).subset member)⟩
  | @changed front back id facet edited split before edit =>
    have same : list.ids = (front ++ ⟨id, edited⟩ :: back).map Entry.id := by simp [ids, split]
    rw [same] at distinct below
    exact ⟨distinct, below⟩

end

section
variable {list last : FacetList} {changes : List Change}

theorem Steps.identified (steps : Steps list changes last) (identified : Identified list) :
    Identified last := by
  induction steps with
  | done => exact identified
  | next step _ ih => exact ih (step.identified identified)

theorem Steps.nextId_le (steps : Steps list changes last) : list.nextId ≤ last.nextId := by
  induction steps with
  | done => exact Nat.le_refl _
  | next step _ ih => exact Nat.le_trans step.nextId_le ih

end

/-! ## Runs -/

theorem handle_identified {list : FacetList} (identified : Identified list) (dialect : Dialect)
    (request : Request) : Identified (list.handle dialect request).list := by
  cases request with
  | mutation mutation => exact (list.perform_steps mutation).identified identified
  | subscribe => exact ⟨identified.distinct, identified.below⟩
  | unsubscribe id => exact ⟨identified.distinct, identified.below⟩
  | lookup lookup => exact identified

theorem nextId_le_handle (list : FacetList) (dialect : Dialect) (request : Request) :
    list.nextId ≤ (list.handle dialect request).list.nextId := by
  cases request with
  | mutation mutation => exact (list.perform_steps mutation).nextId_le
  | subscribe => exact Nat.le_refl _
  | unsubscribe id => exact Nat.le_refl _
  | lookup lookup => exact Nat.le_refl _

theorem run_identified {list : FacetList} (identified : Identified list) (dialect : Dialect)
    (requests : List Request) : Identified (list.run dialect requests) :=
  run_keeps (motive := Identified) (fun _ request kept => handle_identified kept dialect request)
    identified requests

theorem nextId_le_run (list : FacetList) (dialect : Dialect) (requests : List Request) :
    list.nextId ≤ (list.run dialect requests).nextId :=
  run_keeps (motive := fun later => list.nextId ≤ later.nextId)
    (fun later request grown => Nat.le_trans grown (later.nextId_le_handle dialect request))
    (Nat.le_refl _) requests

theorem identified_empty : Identified {} := ⟨List.nodup_nil, by simp [ids]⟩

/-! ## What becomes of an entry -/

def edited (id : FacetId) (edit : Facet → Facet) (entry : Entry) : Entry :=
  if entry.id = id then { entry with facet := edit entry.facet } else entry

/-- What a mutation makes of an entry of the list; of one that it removes, nothing. -/
def Mutation.fate : Mutation → Entry → Option Entry
  | .reset _, _ => none
  | .add _, entry => some entry
  | .insert _ _, entry => some entry
  | .remove id, entry => if entry.id = id then none else some entry
  | .updateValue id value, entry => some (edited id (·.withValue value) entry)
  | .setLabel id label, entry => some (edited id (fun facet => { facet with label }) entry)
  | .pruneEmpty, entry => if entry.facet.isEmpty then none else some entry

def Request.fate : Request → Entry → Option Entry
  | .mutation operation, entry => operation.fate entry
  | .subscribe, entry => some entry
  | .unsubscribe _, entry => some entry
  | .lookup _, entry => some entry

theorem edited_id (id : FacetId) (edit : Facet → Facet) (entry : Entry) :
    (edited id edit entry).id = entry.id := by
  unfold edited
  split <;> rfl

theorem Mutation.fate_id {mutation : Mutation} {entry kept : Entry}
    (survives : mutation.fate entry = some kept) : kept.id = entry.id := by
  have same {result : Entry} (survives : some result = some kept) : kept = result :=
    (Option.some.inj survives).symm
  cases mutation with
  | reset facets => simp [Mutation.fate] at survives
  | add facet => rw [same survives]
  | insert position facet => rw [same survives]
  | updateValue id value => rw [same survives, edited_id]
  | setLabel id label => rw [same survives, edited_id]
  | remove id =>
    simp only [Mutation.fate, Option.ite_none_left_eq_some] at survives
    rw [same survives.2]
  | pruneEmpty =>
    simp only [Mutation.fate, Option.ite_none_left_eq_some] at survives
    rw [same survives.2]

section
variable {list : FacetList}

theorem Identified.apart (identified : Identified list) {front back : List Entry} {id : FacetId}
    {facet : Facet} (split : list.entries = front ++ ⟨id, facet⟩ :: back) :
    ∀ entry ∈ front ++ back, entry.id ≠ id := by
  have distinct := identified.distinct
  rw [ids, split, List.map_append, List.map_cons, List.nodup_middle, ← List.map_append,
    List.nodup_cons] at distinct
  intro entry member same
  exact distinct.1 (List.mem_map.mpr ⟨entry, member, same⟩)

theorem Identified.remove_entries (identified : Identified list) (id : FacetId) :
    (list.remove id).list.entries = list.entries.filter (·.id != id) := by
  by_cases known : id ∈ list.ids
  · obtain ⟨front, back, facet, split, before⟩ := exists_split known
    have apart := identified.apart split
    have all : ∀ entry ∈ front ++ back, (entry.id != id) = true := by simpa using apart
    have whole := List.filter_eq_self.mpr all
    rw [List.filter_append] at whole
    simp [remove_of_split split before, split, whole]
  · rw [remove_of_notMem known, eq_comm, List.filter_eq_self]
    intro entry member
    have other : entry.id ≠ id := fun same => known (List.mem_map.mpr ⟨entry, member, same⟩)
    simpa using other

theorem Identified.change_entries (identified : Identified list) (id : FacetId)
    (edit : Facet → Facet) :
    (list.change id edit).list.entries = list.entries.map (edited id edit) := by
  have kept {entries : List Entry} (apart : ∀ entry ∈ entries, entry.id ≠ id) :
      entries.map (edited id edit) = entries := by
    have same : ∀ entry ∈ entries, edited id edit entry = entry :=
      fun entry member => if_neg (apart entry member)
    rw [List.map_congr_left same, List.map_id']
  by_cases known : id ∈ list.ids
  · obtain ⟨front, back, facet, split, before⟩ := exists_split known
    have behind := kept fun entry member =>
      identified.apart split entry (List.mem_append_right front member)
    simp only [change_of_split split before, split, List.map_append, List.map_cons, kept before,
      behind]
    simp [edited]
  · rw [change_of_notMem known, kept]
    intro entry member same
    exact known (List.mem_map.mpr ⟨entry, member, same⟩)

theorem Identified.removeAll_entries (identified : Identified list) (gone : List FacetId) :
    (list.removeAll gone).list.entries = list.entries.filter (·.id ∉ gone) := by
  induction gone generalizing list with
  | nil => simp [removeAll]
  | cons id rest ih =>
    have later := (list.remove_steps id).identified identified
    rw [removeAll, ih later, identified.remove_entries, List.filter_filter]
    refine List.filter_congr fun entry _ => ?_
    by_cases same : entry.id = id <;> simp [same]

theorem Identified.id_mem_iff (identified : Identified list) {part : List Entry}
    (inside : part ⊆ list.entries) {entry : Entry} (member : entry ∈ list.entries) :
    entry.id ∈ part.map Entry.id ↔ entry ∈ part := by
  constructor
  · intro known
    obtain ⟨other, among, same⟩ := List.mem_map.mp known
    rwa [← List.inj_on_of_nodup_map identified.distinct (inside among) member same]
  · exact List.mem_map_of_mem

theorem Identified.pruneEmpty_entries (identified : Identified list) :
    list.pruneEmpty.list.entries = list.entries.filter (!·.facet.isEmpty) := by
  rw [pruneEmpty, Outcome.map, identified.removeAll_entries]
  refine List.filter_congr fun entry member => ?_
  have found : entry.id ∈ list.emptyIds ↔ entry.facet.isEmpty = true := by
    rw [emptyIds, identified.id_mem_iff List.filter_sublist.subset member, List.mem_filter]
    exact and_iff_right member
  simp [found]

theorem Identified.old_entries (identified : Identified list) :
    list.entries.filter (·.id < list.nextId) = list.entries := by
  rw [List.filter_eq_self]
  intro entry member
  exact decide_eq_true (identified.below _ (List.mem_map.mpr ⟨entry, member, rfl⟩))

theorem Identified.old_of_eq (identified : Identified list) {mutation : Mutation}
    {entries : List Entry} (same : entries = list.entries.filterMap mutation.fate) :
    entries.filter (·.id < list.nextId) = list.entries.filterMap mutation.fate := by
  rw [same, List.filter_eq_self]
  intro kept member
  obtain ⟨entry, inList, survives⟩ := List.mem_filterMap.mp member
  rw [Mutation.fate_id survives]
  exact decide_eq_true (identified.below _ (List.mem_map.mpr ⟨entry, inList, rfl⟩))

theorem Identified.insert_old (identified : Identified list) (position : Nat) (facet : Facet) :
    (list.insert position facet).list.entries.filter (·.id < list.nextId) = list.entries := by
  obtain ⟨front, back, split, inserted⟩ := list.insert_of_split position facet
  have whole := identified.old_entries
  simp only [split, List.filter_append] at whole
  simp only [inserted, split, List.filter_append, List.filter_cons, Nat.lt_irrefl, decide_false,
    Bool.false_eq_true, ↓reduceIte, whole]

/-- The entries with an identity that was given before are what becomes of the entries there were,
in the same order. -/
theorem Identified.perform_old (identified : Identified list) (mutation : Mutation) :
    (list.perform mutation).list.entries.filter (·.id < list.nextId) =
      list.entries.filterMap mutation.fate := by
  cases mutation with
  | reset facets =>
    -- All identities that a reset gives are new.
    have none : list.entries.filterMap (Mutation.reset facets).fate = [] :=
      List.filterMap_eq_nil_iff.mpr fun _ _ => rfl
    rw [none, List.filter_eq_nil_iff]
    intro entry member
    have new : entry.id ∈ (number list.nextId facets).map Entry.id :=
      List.mem_map.mpr ⟨entry, member, rfl⟩
    rw [map_id_number, List.mem_range'_1] at new
    simpa using new.1
  | add facet => exact (identified.insert_old _ facet).trans List.filterMap_some.symm
  | insert position facet => exact (identified.insert_old _ facet).trans List.filterMap_some.symm
  | remove id =>
    -- From here on no identity is given.
    refine identified.old_of_eq ((identified.remove_entries id).trans ?_)
    rw [← List.filterMap_eq_filter]
    refine List.filterMap_congr fun entry _ => ?_
    by_cases same : entry.id = id <;> simp [Option.guard, Mutation.fate, same]
  | updateValue id value =>
    refine identified.old_of_eq ((identified.change_entries id _).trans ?_)
    exact congrFun List.filterMap_eq_map.symm list.entries
  | setLabel id label =>
    refine identified.old_of_eq ((identified.change_entries id _).trans ?_)
    exact congrFun List.filterMap_eq_map.symm list.entries
  | pruneEmpty =>
    refine identified.old_of_eq (identified.pruneEmpty_entries.trans ?_)
    rw [← List.filterMap_eq_filter]
    refine List.filterMap_congr fun entry _ => ?_
    by_cases empty : entry.facet.isEmpty <;> simp [Option.guard, Mutation.fate, empty]

end

theorem Identified.handle_old {list : FacetList} (identified : Identified list) (dialect : Dialect)
    (request : Request) :
    (list.handle dialect request).list.entries.filter (·.id < list.nextId) =
      list.entries.filterMap request.fate := by
  have untouched := identified.old_entries
  cases request with
  | mutation mutation => exact identified.perform_old mutation
  | subscribe => exact untouched.trans List.filterMap_some.symm
  | unsubscribe id => exact untouched.trans List.filterMap_some.symm
  | lookup lookup => exact untouched.trans List.filterMap_some.symm

theorem Request.fate_id {request : Request} {entry kept : Entry}
    (survives : request.fate entry = some kept) : kept.id = entry.id := by
  cases request with
  | mutation mutation => exact Mutation.fate_id survives
  | subscribe => rw [Option.some.inj survives]
  | unsubscribe id => rw [Option.some.inj survives]
  | lookup lookup => rw [Option.some.inj survives]

/-! ## Lookups -/

section
variable {list : FacetList} {id : FacetId}

theorem get?_of_split {front back : List Entry} {facet : Facet}
    (split : list.entries = front ++ ⟨id, facet⟩ :: back)
    (before : ∀ entry ∈ front, entry.id ≠ id) : list.get? id = some facet := by
  have none : front.find? (·.id == id) = none := List.find?_eq_none.mpr (by simpa using before)
  rw [get?, split, List.find?_append, none]
  simp

theorem Identified.get?_insert (identified : Identified list) (position : Nat) (facet : Facet) :
    (list.insert position facet).list.get? (list.insert position facet).result = some facet := by
  obtain ⟨front, back, split, inserted⟩ := list.insert_of_split position facet
  rw [inserted]
  refine get?_of_split rfl fun entry member => Nat.ne_of_lt (identified.below _ ?_)
  exact List.mem_map.mpr ⟨entry, by simp [split, member], rfl⟩

theorem Identified.position_eq_some_iff_idAt (identified : Identified list) {index : Nat} :
    list.position id = some index ↔ list.idAt index = some id := by
  rw [position_eq_some_iff]
  constructor
  · rintro ⟨front, back, facet, split, rfl, -⟩
    simp [idAt, split]
  · intro found
    obtain ⟨⟨other, facet⟩, here, same⟩ := Option.map_eq_some_iff.mp found
    obtain rfl : other = id := same
    obtain ⟨inside, entry⟩ := List.getElem?_eq_some_iff.mp here
    have split : list.entries = list.entries.take index ++ ⟨other, facet⟩ ::
        list.entries.drop (index + 1) := by
      rw [← entry, List.getElem_cons_drop, List.take_append_drop]
    exact ⟨_, _, facet, split, by simp; omega, fun entry member =>
      identified.apart split entry (List.mem_append_left _ member)⟩

theorem get?_eq (list : FacetList) (id : FacetId) :
    list.get? id = (list.position id).bind (list.toList[·]?) := by
  by_cases known : id ∈ list.ids
  · obtain ⟨front, back, facet, split, before⟩ := exists_split known
    have found := position_eq_some_iff.mpr ⟨front, back, facet, split, rfl, before⟩
    rw [found, get?_of_split split before]
    simp [toList, split]
  · rw [position_eq_none_iff.mpr known, get?]
    simpa [ids] using known

theorem get?_eq_none_iff : list.get? id = none ↔ id ∉ list.ids := by
  simp [get?, ids]

end

/-- In every list that requests lead to, identities are distinct and below the next one. What is
inserted gets an identity that no entry of the list has or had at any time before, and so does what
a reset puts in. Of the entries there were, a request leaves what it makes of each, in the same
order and with the same identity. Identities and indices find each other, and an identity finds the
facet at its index. -/
theorem identities_of_run (dialect : Dialect) (requests : List Request) :
    let list := FacetList.run {} dialect requests
    list.ids.Nodup ∧ (∀ id ∈ list.ids, id < list.nextId) ∧
    (∀ first rest, requests = first ++ rest → ∀ id ∈ (FacetList.run {} dialect first).ids,
      (∀ facet, (list.add facet).result ≠ id) ∧
      (∀ position facet, (list.insert position facet).result ≠ id) ∧
      ∀ facets, id ∉ (list.reset facets).list.ids) ∧
    (∀ facet, (list.add facet).list.get? (list.add facet).result = some facet) ∧
    (∀ position facet,
      (list.insert position facet).list.get? (list.insert position facet).result = some facet) ∧
    (∀ request, (list.handle dialect request).list.entries.filter (·.id < list.nextId) =
        list.entries.filterMap request.fate ∧
      ∀ entry kept, request.fate entry = some kept → kept.id = entry.id) ∧
    (∀ id index, list.position id = some index ↔ list.idAt index = some id) ∧
    ∀ id, list.get? id = (list.position id).bind (list.toList[·]?) ∧
      (list.get? id = none ↔ id ∉ list.ids) := by
  intro list
  have identified : Identified list := run_identified identified_empty dialect requests
  refine ⟨identified.distinct, identified.below, ?_, fun facet => identified.get?_insert _ facet,
    identified.get?_insert, fun request => ⟨identified.handle_old dialect request,
      fun _ _ => Request.fate_id⟩, fun id index => identified.position_eq_some_iff_idAt,
    fun id => ⟨list.get?_eq id, get?_eq_none_iff⟩⟩
  rintro first rest rfl id member
  -- Every identity that was ever carried is below what was then the next one, and so below it now.
  have earlier : id < (FacetList.run {} dialect first).nextId :=
    (run_identified identified_empty dialect first).below id member
  have later : (FacetList.run {} dialect first).nextId ≤ list.nextId := by
    have grows := nextId_le_run (FacetList.run {} dialect first) dialect rest
    rwa [← run_append] at grows
  have past : id < list.nextId := Nat.lt_of_lt_of_le earlier later
  refine ⟨fun facet => Nat.ne_of_gt past, fun position facet => Nat.ne_of_gt past,
    fun facets inList => ?_⟩
  have new : id ∈ (number list.nextId facets).map Entry.id := inList
  rw [map_id_number, List.mem_range'_1] at new
  exact Nat.not_le_of_lt past new.1

end FacetedSearch.FacetList
