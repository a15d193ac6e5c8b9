import FacetedSearch.Proofs.FacetList.Delivery
import FacetedSearch.Proofs.FacetList.Identity
import FacetedSearch.Proofs.Query.Rendering

/-! Pruning a facet list.

The facets with an empty value are removed one after the other, each by its identity. All in all
that filters the list, and the query that the list is written as stays the same. There is one change
for each empty entry, in their order. When it is the turn of an entry, the empty ones in front of it
are gone, so that its index is as many places lower.
-/

set_option autoImplicit false

namespace FacetedSearch.FacetList

def empties (list : FacetList) : List Entry := list.entries.filter (·.facet.isEmpty)

theorem removeAll_append (list : FacetList) (first rest : List FacetId) :
    list.removeAll (first ++ rest) = ⟨((list.removeAll first).list.removeAll rest).list, (),
      (list.removeAll first).changes ++ ((list.removeAll first).list.removeAll rest).changes⟩ := by
  induction first generalizing list with
  | nil => rfl
  | cons id first ih => simp [removeAll, ih]

/-! ## Entries that a filter keeps -/

section
variable {keep : Entry → Bool} {front back : List Entry}

theorem exists_split_of_filter {entries : List Entry} {k : Nat} {entry : Entry}
    (found : (entries.filter keep)[k]? = some entry) : ∃ front back,
      entries = front ++ entry :: back ∧ keep entry = true ∧ (front.filter keep).length = k := by
  obtain ⟨inside, here⟩ := List.getElem?_eq_some_iff.mp found
  have whole : entries.filter keep = (entries.filter keep).take k ++
      entry :: (entries.filter keep).drop (k + 1) := by
    rw [← here, List.getElem_cons_drop, List.take_append_drop]
  obtain ⟨front, rest, split, before, behind⟩ := List.filter_eq_append_iff.mp whole
  obtain ⟨gap, back, rfl, dropped, kept, -⟩ := List.filter_eq_cons_iff.mp behind
  refine ⟨front ++ gap, back, by rw [split, List.append_assoc], kept, ?_⟩
  have none : gap.filter keep = [] := List.filter_eq_nil_iff.mpr dropped
  rw [List.filter_append, before, none, List.append_nil, List.length_take]
  exact Nat.min_eq_left (Nat.le_of_lt inside)

theorem filter_notMem_filter (distinct : (front ++ back).Nodup) :
    (front ++ back).filter (· ∉ front.filter keep) = front.filter (!keep ·) ++ back := by
  rw [List.filter_append]
  congr 1
  · refine List.filter_congr fun entry member => ?_
    simp [member]
  · refine List.filter_eq_self.mpr fun entry member => ?_
    have notInFront : entry ∉ front := fun inFront =>
      List.disjoint_of_nodup_append distinct inFront member
    simp [notInFront]

end

/-! ## Removals one after the other -/

section
variable {list : FacetList}

theorem Identified.nodup_entries (identified : Identified list) : list.entries.Nodup :=
  identified.distinct.of_map

theorem Identified.removeAll_map_id (identified : Identified list) {gone : List Entry}
    (inside : gone ⊆ list.entries) :
    (list.removeAll (gone.map Entry.id)).list.entries = list.entries.filter (· ∉ gone) := by
  rw [identified.removeAll_entries]
  refine List.filter_congr fun entry member => decide_eq_decide.mpr (not_congr ?_)
  exact identified.id_mem_iff inside member

theorem Identified.removeAll_changes_length (identified : Identified list) {gone : List Entry}
    (part : gone.Sublist list.entries) :
    (list.removeAll (gone.map Entry.id)).changes.length = gone.length := by
  induction gone generalizing list with
  | nil => rfl
  | cons entry rest ih =>
    have later := (list.remove_steps entry.id).identified identified
    have inList : entry ∈ list.entries := part.subset List.mem_cons_self
    obtain ⟨front, back, facet, split, before⟩ := exists_split (List.mem_map_of_mem inList)
    have one : (list.remove entry.id).changes.length = 1 := by rw [remove_of_split split before]; rfl
    have fresh : ∀ other ∈ rest, (other.id != entry.id) = true := by
      have distinct := identified.distinct.sublist (part.map Entry.id)
      rw [List.map_cons, List.nodup_cons] at distinct
      intro other member
      simpa using fun same : other.id = entry.id =>
        distinct.1 (same ▸ List.mem_map_of_mem member)
    -- The entries that are still to be removed are all in the list that is left.
    have still : rest.Sublist (list.remove entry.id).list.entries := by
      rw [identified.remove_entries, ← List.filter_eq_self.mpr fresh]
      exact ((List.sublist_cons_self entry rest).trans part).filter _
    rw [List.map_cons, removeAll, List.length_append, one, ih later still, List.length_cons,
      Nat.add_comm]

variable {front back : List Entry} {entry : Entry}

/-- When it is the turn of an empty entry, those in front of it are gone and none behind it. -/
theorem Identified.pruneEmpty_turn (identified : Identified list)
    (split : list.entries = front ++ entry :: back) (empty : entry.facet.isEmpty = true) :
    list.pruneEmpty.changes[(front.filter (·.facet.isEmpty)).length]? =
      some ⟨.removed entry.id (front.filter (!·.facet.isEmpty)).length entry.facet,
        (front.filter (!·.facet.isEmpty) ++ back).map Entry.facet⟩ := by
  let gone := front.filter (·.facet.isEmpty)
  have part : gone.Sublist list.entries := by
    rw [split]
    exact List.filter_sublist.trans (List.sublist_append_left _ _)
  -- The empty entries in front go first, and their identities name no other entry.
  have now : (list.removeAll (gone.map Entry.id)).list.entries =
      front.filter (!·.facet.isEmpty) ++ entry :: back := by
    have distinct := identified.nodup_entries
    rw [split] at distinct
    rw [identified.removeAll_map_id part.subset, split]
    exact filter_notMem_filter distinct
  have identifiedNow := (list.removeAll_steps (gone.map Entry.id)).identified identified
  have removed := remove_of_split now fun other inFront =>
    identifiedNow.apart now other (List.mem_append_left back inFront)
  have order : list.emptyIds =
      gone.map Entry.id ++ entry.id :: (back.filter (·.facet.isEmpty)).map Entry.id := by
    simp [emptyIds, split, empty, gone]
  have count := identified.removeAll_changes_length part
  rw [pruneEmpty, Outcome.map, order, removeAll_append, removeAll, removed, ← count]
  simp

theorem Identified.pruneEmpty_changes_length (identified : Identified list) :
    list.pruneEmpty.changes.length = list.empties.length :=
  identified.removeAll_changes_length List.filter_sublist

theorem Identified.pruneEmpty_change (identified : Identified list) {k : Nat}
    (found : list.empties[k]? = some entry) : ∃ index, list.position entry.id = some index ∧
      k ≤ index ∧ list.pruneEmpty.changes[k]? = some ⟨.removed entry.id (index - k) entry.facet,
        (list.entries.filter (· ∉ list.empties.take (k + 1))).map Entry.facet⟩ := by
  obtain ⟨front, back, split, empty, rfl⟩ := exists_split_of_filter found
  have before : ∀ other ∈ front, other.id ≠ entry.id := fun other inFront =>
    identified.apart split other (List.mem_append_left back inFront)
  -- The entry has moved down by as many places as there were empty entries in front of it.
  have counted := List.length_eq_length_filter_add (l := front) fun entry => entry.facet.isEmpty
  refine ⟨front.length, position_eq_some_iff.mpr ⟨front, back, entry.facet, split, rfl, before⟩,
    List.length_filter_le _ _, ?_⟩
  have place : front.length - (front.filter (·.facet.isEmpty)).length =
      (front.filter (!·.facet.isEmpty)).length := by omega
  have first : list.empties.take ((front.filter (·.facet.isEmpty)).length + 1) =
      (front ++ [entry]).filter (·.facet.isEmpty) := by
    simp [empties, split, empty, List.take_append, List.take_of_length_le]
  have left : list.entries.filter (· ∉ (front ++ [entry]).filter (·.facet.isEmpty)) =
      front.filter (!·.facet.isEmpty) ++ back := by
    have whole : list.entries = (front ++ [entry]) ++ back := by simp [split]
    have distinct := identified.nodup_entries
    rw [whole] at distinct ⊢
    rw [filter_notMem_filter distinct]
    simp [empty]
  rw [identified.pruneEmpty_turn split empty, place, first, left]

/-! ## What stays -/

theorem Identified.pruneEmpty_toList (identified : Identified list) :
    list.pruneEmpty.list.toList = list.toList.filter (!·.isEmpty) := by
  rw [toList, toList, identified.pruneEmpty_entries, List.filter_map]
  rfl

theorem Identified.pruneEmpty_again (identified : Identified list) :
    list.pruneEmpty.list.pruneEmpty = ⟨list.pruneEmpty.list, 0, []⟩ := by
  have none : list.pruneEmpty.list.emptyIds = [] := by
    rw [emptyIds, identified.pruneEmpty_entries, List.filter_filter]
    simp
  rw [pruneEmpty, none]
  rfl

end

theorem renderFacet_of_isEmpty (dialect : Dialect) {facet : Facet} (empty : facet.isEmpty = true) :
    Query.renderFacet dialect facet = "" := by
  have nothing : facet.value = "" := by simpa [Facet.isEmpty] using empty
  rw [Query.renderFacet, nothing]
  rfl

theorem render_nonempty (dialect : Dialect) (facets : List Facet) :
    Query.render dialect (facets.filter (!·.isEmpty)) = Query.render dialect facets :=
  Query.render_filter dialect fun _ _ empty => renderFacet_of_isEmpty dialect (by simpa using empty)

theorem Identified.pruneEmpty_render {list : FacetList} (identified : Identified list)
    (dialect : Dialect) (categories : List String) :
    list.pruneEmpty.list.render dialect = list.render dialect ∧
      list.pruneEmpty.list.renderExcluding dialect categories =
        list.renderExcluding dialect categories := by
  simp only [FacetList.render, renderExcluding, identified.pruneEmpty_toList]
  refine ⟨render_nonempty dialect _, ?_⟩
  rw [List.filter_filter, List.filter_congr fun _ _ => Bool.and_comm _ _, ← List.filter_filter]
  exact render_nonempty dialect _

/-- In every list that requests lead to, pruning leaves the entries with a value, in their order and
with their identities, and tells how many others there were. The list is written as the same query as
before, also without some categories, and there is nothing to prune again. Every live subscription
receives one removal for each empty entry, in their order: the k-th names that entry, at its index
less the k that are gone, and shows the list without the first empty entries up to that one. -/
theorem pruning_of_run (dialect : Dialect) (requests : List Request) :
    let list := FacetList.run {} dialect requests
    let pruned := list.pruneEmpty
    pruned.list.entries = list.entries.filter (!·.facet.isEmpty) ∧
    pruned.result = list.empties.length ∧
    (∀ dialect categories, pruned.list.render dialect = list.render dialect ∧
      pruned.list.renderExcluding dialect categories = list.renderExcluding dialect categories) ∧
    pruned.list.pruneEmpty = ⟨pruned.list, 0, []⟩ ∧
    ∀ subscriber ∈ list.observers.live,
      let changes := received subscriber [list.handle dialect (.mutation .pruneEmpty)]
      changes.length = list.empties.length ∧
      ∀ k entry, list.empties[k]? = some entry →
        ∃ index, list.position entry.id = some index ∧ k ≤ index ∧
          changes[k]? = some ⟨.removed entry.id (index - k) entry.facet,
            (list.entries.filter (· ∉ list.empties.take (k + 1))).map Entry.facet⟩ := by
  intro list pruned
  have identified : Identified list := run_identified identified_empty dialect requests
  refine ⟨identified.pruneEmpty_entries, List.length_map _, identified.pruneEmpty_render,
    identified.pruneEmpty_again, fun subscriber live => ?_⟩
  have numbered := run_numbered numbered_empty dialect requests
  have still : subscriber ∈ (list.perform .pruneEmpty).list.observers.live :=
    (list.perform_observers .pruneEmpty).symm ▸ live
  have all : received subscriber [list.handle dialect (.mutation .pruneEmpty)] = pruned.changes :=
    received_of_mem (handle_numbered numbered dialect (.mutation .pruneEmpty)) still
  intro changes
  rw [show changes = pruned.changes from all]
  exact ⟨identified.pruneEmpty_changes_length, fun k entry => identified.pruneEmpty_change⟩

/-- Of two empty facets the second is told of with its index one lower. A blank value is not empty. -/
theorem pruning_of_two_empty :
    let requests : List Request := [.subscribe, .mutation (.reset
      [⟨"a", "", none⟩, ⟨"b", "x", none⟩, ⟨"c", "", some "y"⟩, ⟨"d", " ", none⟩])]
    let list := FacetList.run {} {} requests
    let changes := received 0 [list.handle {} (.mutation .pruneEmpty)]
    list.pruneEmpty.list.entries = [⟨1, ⟨"b", "x", none⟩⟩, ⟨3, ⟨"d", " ", none⟩⟩] ∧
    list.pruneEmpty.list.render {} = list.render {} ∧
    changes.length = 2 ∧
    changes[1]? = some ⟨.removed 2 1 ⟨"c", "", some "y"⟩, [⟨"b", "x", none⟩, ⟨"d", " ", none⟩]⟩ := by
  intro requests list changes
  obtain ⟨entries, -, written, -, received⟩ := pruning_of_run {} requests
  obtain ⟨count, told⟩ := received 0 (by decide)
  obtain ⟨index, place, -, change⟩ := told 1 ⟨2, ⟨"c", "", some "y"⟩⟩ (by decide)
  have second : list.position 2 = some 2 := by decide
  obtain rfl : index = 2 := Option.some.inj (place.symm.trans second)
  exact ⟨entries.trans (by decide), (written {} []).1, count.trans (by decide), change⟩

end FacetedSearch.FacetList
