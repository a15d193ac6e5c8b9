import FacetedSearch.Editor
import FacetedSearch.Proofs.FacetList.Steps
import FacetedSearch.Proofs.Query.Rendering

/-! Values and categories in an editor.

Whatever is done with an editor, no value in it has blanks at its ends, as long as the facets that
are given to it as such have none. Facets that were read from a query are stricter still: their
values are not empty, and their categories occur in the query.
-/

set_option autoImplicit false

namespace FacetedSearch

def Facet.Trimmed (facet : Facet) : Prop := Text.trim facet.value = facet.value

instance (facet : Facet) : Decidable facet.Trimmed :=
  inferInstanceAs (Decidable (Text.trim facet.value = facet.value))

theorem trimmed_make (category value : String) : (Facet.make category value).Trimmed := by
  simp [Facet.Trimmed, Facet.make, Text.trim]

theorem trimmed_withValue (facet : Facet) (value : String) : (facet.withValue value).Trimmed := by
  simp [Facet.Trimmed, Facet.withValue, Text.trim]

/-! ## Lists -/

def FacetList.Trimmed (list : FacetList) : Prop := ∀ facet ∈ list.toList, facet.Trimmed

structure Outcome.Trimmed {α : Type} (outcome : Outcome α) : Prop where
  list : outcome.list.Trimmed
  changes : ∀ change ∈ outcome.changes, ∀ facet ∈ change.snapshot, facet.Trimmed

def FacetList.Mutation.given : FacetList.Mutation → List Facet
  | .reset facets => facets
  | .add facet => [facet]
  | .insert _ facet => [facet]
  | .remove _ => []
  | .updateValue _ _ => []
  | .setLabel _ _ => []
  | .pruneEmpty => []

namespace FacetList

theorem trimmed_unchanged {α : Type} {list : FacetList} (trimmed : list.Trimmed) (result : α) :
    Outcome.Trimmed ⟨list, result, []⟩ :=
  ⟨trimmed, by simp⟩

theorem trimmed_changed {α : Type} {list : FacetList} (trimmed : list.Trimmed) (result : α)
    (kind : ChangeKind) : Outcome.Trimmed ⟨list, result, [list.changeTo kind]⟩ := by
  refine ⟨trimmed, fun change member => ?_⟩
  rw [List.mem_singleton.mp member]
  exact trimmed

theorem trimmed_split {front back : List Entry} {entry : Entry} :
    (∀ facet ∈ (front ++ entry :: back).map Entry.facet, facet.Trimmed) ↔
      entry.facet.Trimmed ∧ ∀ facet ∈ (front ++ back).map Entry.facet, facet.Trimmed := by
  simp only [List.map_append, List.map_cons, List.forall_mem_append, List.forall_mem_cons]
  exact and_left_comm

section
variable {list : FacetList}

theorem reset_trimmed (list : FacetList) {facets : List Facet}
    (given : ∀ facet ∈ facets, facet.Trimmed) : (list.reset facets).Trimmed := by
  refine trimmed_changed (fun facet member => given facet ?_) _ _
  rwa [toList, map_facet_number] at member

theorem insert_trimmed (trimmed : list.Trimmed) (position : Nat) {facet : Facet}
    (given : facet.Trimmed) : (list.insert position facet).Trimmed := by
  obtain ⟨front, back, split, same⟩ := list.insert_of_split position facet
  rw [FacetList.Trimmed, toList, split] at trimmed
  rw [same]
  refine trimmed_changed ?_ _ _
  exact trimmed_split.mpr ⟨given, trimmed⟩

theorem remove_trimmed (trimmed : list.Trimmed) (id : FacetId) : (list.remove id).Trimmed := by
  by_cases known : id ∈ list.ids
  · obtain ⟨front, back, facet, split, before⟩ := exists_split known
    rw [FacetList.Trimmed, toList, split, trimmed_split] at trimmed
    rw [remove_of_split split before]
    refine trimmed_changed ?_ _ _
    exact trimmed.2
  · rw [remove_of_notMem known]
    exact trimmed_unchanged trimmed _

theorem change_trimmed (trimmed : list.Trimmed) (id : FacetId) {edit : Facet → Facet}
    (edits : ∀ facet : Facet, facet.Trimmed → (edit facet).Trimmed) :
    (list.change id edit).Trimmed := by
  by_cases known : id ∈ list.ids
  · obtain ⟨front, back, facet, split, before⟩ := exists_split known
    rw [FacetList.Trimmed, toList, split, trimmed_split] at trimmed
    rw [change_of_split split before]
    refine trimmed_changed ?_ _ _
    exact trimmed_split.mpr ⟨edits facet trimmed.1, trimmed.2⟩
  · rw [change_of_notMem known]
    exact trimmed_unchanged trimmed _

theorem removeAll_trimmed (trimmed : list.Trimmed) (ids : List FacetId) :
    (list.removeAll ids).Trimmed := by
  induction ids generalizing list with
  | nil => exact trimmed_unchanged trimmed ()
  | cons id rest ih =>
    have first := remove_trimmed trimmed id
    have later := ih first.list
    exact ⟨later.list, List.forall_mem_append.mpr ⟨first.changes, later.changes⟩⟩

theorem perform_trimmed (trimmed : list.Trimmed) {mutation : Mutation}
    (given : ∀ facet ∈ mutation.given, facet.Trimmed) : (list.perform mutation).Trimmed := by
  have map {α β : Type} (f : α → β) {outcome : Outcome α} (kept : outcome.Trimmed) :
      (outcome.map f).Trimmed := ⟨kept.list, kept.changes⟩
  cases mutation with
  | reset facets => exact map (fun _ => Reply.nothing) (list.reset_trimmed given)
  | add facet => exact map _ (insert_trimmed trimmed _ (given facet (List.mem_singleton_self _)))
  | insert position facet =>
    exact map _ (insert_trimmed trimmed position (given facet (List.mem_singleton_self _)))
  | remove id => exact map _ (remove_trimmed trimmed id)
  | updateValue id value =>
    exact map _ (change_trimmed trimmed id fun facet _ => trimmed_withValue facet value)
  | setLabel id label => exact map _ (change_trimmed trimmed id fun _ kept => kept)
  | pruneEmpty => exact map _ (map _ (removeAll_trimmed trimmed list.emptyIds))

end

end FacetList

/-! ## Facets read from a query -/

/-- What a facet is like that was read from a query. -/
structure Facet.ReadFrom (dialect : Dialect) (query : String) (facet : Facet) : Prop where
  valued : Query.Valued facet
  unlabelled : facet.label = none
  category : facet.category = dialect.remainder ∨ facet.category ≠ "" ∧
    Text.trim facet.category = facet.category ∧ facet.category.toList <:+: query.toList

namespace Query

open Text (trimChars)

theorem Term.between?_part {mark : Char} {cs body : List Char}
    (between : Term.between? mark cs = some body) : body <:+: cs :=
  ⟨[mark], [mark], (Term.between?_eq_some_iff.mp between).symm⟩

theorem Term.unquote_part (cs : List Char) : Term.unquote cs <:+: cs := by
  unfold Term.unquote
  cases double : Term.between? '"' cs with
  | some body => exact Term.between?_part double
  | none =>
    cases single : Term.between? '\'' cs with
    | some body => exact Term.between?_part single
    | none => exact List.infix_rfl

theorem trimChars_part (cs : List Char) : trimChars cs <:+: cs := by
  obtain ⟨lead, trail, -, -, split⟩ := Text.exists_trimChars cs
  exact ⟨lead, trail, by rw [List.append_assoc, ← split]⟩

theorem Term.content_spec (term : List Char) :
    (Term.content term).toList <:+: term ∧ Text.trim (Term.content term) = Term.content term := by
  rw [Term.content, Text.trim_eq_self_iff, String.toList_ofList]
  exact ⟨(trimChars_part _).trans (Term.unquote_part term), Text.tight_trimChars _⟩

theorem Piece.category_of_pair? {dialect : Dialect} {piece : Piece} {said : String × String}
    (reads : piece.pair? dialect = some said) : said.1 = dialect.remainder ∨ said.1 ≠ "" ∧
      Text.trim said.1 = said.1 ∧ said.1.toList <:+: piece.text := by
  rcases Piece.pair?_cases reads with ⟨text, -, rfl⟩ | ⟨written, rfl, rfl⟩
  · exact .inl rfl
  · obtain ⟨inside, trimmed⟩ := Term.content_spec written.category
    rcases categoryFor_cases dialect (Term.content written.category) with blank | ⟨named, same⟩
    · exact .inl blank
    · dsimp only
      rw [same]
      exact .inr ⟨named, trimmed, inside.trans (List.prefix_append written.category _).isInfix⟩

theorem readFrom_of_mem_parse {dialect : Dialect} {query : String} {facet : Facet}
    (member : facet ∈ parse dialect query) : facet.ReadFrom dialect query := by
  rw [parse_eq] at member
  obtain ⟨said, reads, rfl⟩ := List.mem_map.mp member
  obtain ⟨piece, inPieces, found⟩ := List.mem_filterMap.mp reads
  refine ⟨valued_of_mem_pairsOf reads, rfl, ?_⟩
  exact (Piece.category_of_pair? found).imp_right fun ⟨named, trimmed, inside⟩ =>
    ⟨named, trimmed, inside.trans (text_part_of_mem inPieces)⟩

end Query

/-! ## Editors -/

namespace Editor

def run (editor : Editor) (requests : List Request) : Editor :=
  ((editor.session requests).getLast?.map Outcome.editor).getD editor

@[simp] theorem run_nil (editor : Editor) : editor.run [] = editor := rfl

@[simp] theorem run_cons (editor : Editor) (request : Request) (rest : List Request) :
    editor.run (request :: rest) = (editor.handle request).editor.run rest := by
  simp only [run, session, List.getLast?_cons]
  cases ((editor.handle request).editor.session rest).getLast? <;> rfl

theorem addFacet_eq (editor : Editor) (category value : String) (position : Option Nat) :
    editor.addFacet category value position =
      if (Text.trim category).isEmpty then ⟨editor, none, [], []⟩
      else (editor.ofList (editor.facets.insert (position.getD editor.facets.entries.length)
        (Facet.make (Text.trim category) value))).map some := by
  cases position <;> rfl

/-- Whatever an editor is asked, its list is asked for something, and the dialect stays. -/
theorem handle_asks (editor : Editor) (request : Request) : ∃ asked,
    (editor.handle request).editor =
      { editor with facets := (editor.facets.handle editor.dialect asked).list } := by
  -- A request that leaves the list alone asks it for its size.
  have added (category value : String) (position : Option Nat) : ∃ asked,
      (editor.addFacet category value position).editor =
        { editor with facets := (editor.facets.handle editor.dialect asked).list } := by
    rw [addFacet_eq]
    split
    · exact ⟨.lookup .size, rfl⟩
    · exact ⟨.mutation (.insert _ _), rfl⟩
  cases request with
  | setQuery query => exact ⟨.mutation (.reset (Query.parse editor.dialect query)), rfl⟩
  | value => exact ⟨.lookup .size, rfl⟩
  | dialect => exact ⟨.lookup .size, rfl⟩
  | addFacet category value position =>
    simp only [handle, Outcome.map]
    exact added category value position
  | addText text position =>
    simp only [handle, Outcome.map, addText]
    split
    · exact ⟨.lookup .size, rfl⟩
    · exact added editor.dialect.remainder text position
  | search => exact ⟨.mutation (.reset (Query.parse editor.dialect editor.value)), rfl⟩
  | list request => exact ⟨request, rfl⟩

theorem run_asks (editor : Editor) (requests : List Request) : ∃ asked,
    editor.run requests = { editor with facets := editor.facets.run editor.dialect asked } := by
  induction requests generalizing editor with
  | nil => exact ⟨[], rfl⟩
  | cons request rest ih =>
    obtain ⟨first, here⟩ := editor.handle_asks request
    obtain ⟨asked, later⟩ := ih (editor.handle request).editor
    refine ⟨first :: asked, ?_⟩
    rw [run_cons, later, here, FacetList.run_cons]

theorem run_dialect (editor : Editor) (requests : List Request) :
    (editor.run requests).dialect = editor.dialect := by
  obtain ⟨asked, same⟩ := editor.run_asks requests
  rw [same]

def Request.given : Request → List Facet
  | .setQuery _ => []
  | .value => []
  | .dialect => []
  | .addFacet _ _ _ => []
  | .addText _ _ => []
  | .search => []
  | .list (.mutation mutation) => mutation.given
  | .list .subscribe => []
  | .list (.unsubscribe _) => []
  | .list (.lookup _) => []

/-- No value has blanks at its ends, neither in the editor nor in what its changes show. -/
structure Outcome.Trimmed {α : Type} (outcome : Outcome α) : Prop where
  facets : outcome.editor.facets.Trimmed
  changes : ∀ change ∈ outcome.changes, ∀ facet ∈ change.snapshot, facet.Trimmed

section
variable {editor : Editor}

theorem trimmed_unchanged {α : Type} (trimmed : editor.facets.Trimmed) (result : α) :
    Outcome.Trimmed ⟨editor, result, [], []⟩ :=
  ⟨trimmed, by simp⟩

theorem trimmed_ofList {α : Type} {outcome : FacetedSearch.Outcome α} (trimmed : outcome.Trimmed) :
    (editor.ofList outcome).Trimmed :=
  ⟨trimmed.list, trimmed.changes⟩

theorem setQuery_trimmed (editor : Editor) (query : String) : (editor.setQuery query).Trimmed := by
  have read : ∀ facet ∈ Query.parse editor.dialect query, facet.Trimmed := fun facet member =>
    (Query.valued_of_mem_parse member).trimmed
  have kept := editor.facets.reset_trimmed read
  exact ⟨kept.list, kept.changes⟩

theorem addFacet_trimmed (trimmed : editor.facets.Trimmed) (category value : String)
    (position : Option Nat) : (editor.addFacet category value position).Trimmed := by
  rw [addFacet_eq]
  split
  · exact trimmed_unchanged trimmed none
  · have inserted := FacetList.insert_trimmed trimmed
      (position.getD editor.facets.entries.length) (trimmed_make (Text.trim category) value)
    exact ⟨inserted.list, inserted.changes⟩

theorem addText_trimmed (trimmed : editor.facets.Trimmed) (text : String)
    (position : Option Nat) : (editor.addText text position).Trimmed := by
  unfold addText
  split
  · exact trimmed_unchanged trimmed _
  · exact addFacet_trimmed trimmed _ text position

theorem handle_trimmed (trimmed : editor.facets.Trimmed) {request : Request}
    (given : ∀ facet ∈ request.given, facet.Trimmed) : (editor.handle request).Trimmed := by
  have map {α β : Type} (f : α → β) {outcome : Outcome α} (kept : outcome.Trimmed) :
      (outcome.map f).Trimmed := ⟨kept.facets, kept.changes⟩
  cases request with
  | setQuery query => exact map (fun _ => Reply.nothing) (editor.setQuery_trimmed query)
  | value => exact trimmed_unchanged trimmed _
  | dialect => exact trimmed_unchanged trimmed _
  | addFacet category value position => exact map _ (addFacet_trimmed trimmed category value position)
  | addText text position => exact map _ (addText_trimmed trimmed text position)
  | search =>
    -- A search sets the query that the facets are written as.
    have kept := editor.setQuery_trimmed editor.value
    exact ⟨kept.facets, kept.changes⟩
  | list request =>
    cases request with
    | mutation mutation => exact map _ (trimmed_ofList (FacetList.perform_trimmed trimmed given))
    | subscribe => exact ⟨trimmed, by rintro change ⟨⟩⟩
    | unsubscribe id => exact ⟨trimmed, by rintro change ⟨⟩⟩
    | lookup lookup => exact trimmed_unchanged trimmed _

theorem session_trimmed (trimmed : editor.facets.Trimmed) {requests : List Request}
    (given : ∀ request ∈ requests, ∀ facet ∈ request.given, facet.Trimmed) :
    ∀ outcome ∈ editor.session requests, outcome.Trimmed := by
  induction requests generalizing editor with
  | nil => simp [session]
  | cons request rest ih =>
    obtain ⟨here, later⟩ := List.forall_mem_cons.mp given
    have kept := handle_trimmed trimmed here
    exact List.forall_mem_cons.mpr ⟨kept, ih kept.facets later⟩

end

theorem readFrom_of_mem_setQuery {editor : Editor} {query : String} {facet : Facet}
    (member : facet ∈ (editor.setQuery query).editor.facets.toList) :
    facet.ReadFrom editor.dialect query := by
  apply Query.readFrom_of_mem_parse
  have same : (editor.setQuery query).editor.facets.toList = Query.parse editor.dialect query :=
    FacetList.map_facet_number _ _
  rwa [same] at member

/-- In every run in which the facets that are given as such have trimmed values, all values in the
editor and in what its changes show are trimmed. Right after a query was set or searched, every
facet was read from that query. -/
theorem values_of_session (dialect : Dialect) (requests : List Request)
    (given : ∀ request ∈ requests, ∀ facet ∈ request.given, facet.Trimmed) :
    let editor := Editor.run { dialect } requests
    (∀ outcome ∈ Editor.session { dialect } requests, outcome.Trimmed) ∧
    (∀ query, ∀ facet ∈ (editor.handle (.setQuery query)).editor.facets.toList,
      facet.ReadFrom dialect query) ∧
    ∀ facet ∈ (editor.handle .search).editor.facets.toList,
      facet.ReadFrom dialect editor.value := by
  intro editor
  have same : editor.dialect = dialect := run_dialect { dialect } requests
  have empty : Editor.facets { dialect } |>.Trimmed := by simp [FacetList.Trimmed, FacetList.toList]
  refine ⟨session_trimmed empty given, fun query facet member => ?_, fun facet member => ?_⟩
  · rw [← same]
    exact readFrom_of_mem_setQuery member
  · rw [← same]
    exact readFrom_of_mem_setQuery member

theorem values_of_insertion_and_search :
    let requests : List Request := [.list (.mutation (.insert 0 ⟨"id", "7", none⟩)),
      .addText " a:b " none, .search]
    (∀ outcome ∈ Editor.session {} requests, outcome.Trimmed) ∧
    ∀ facet ∈ (Editor.run {} requests).handle .search |>.editor.facets.toList,
      facet.ReadFrom {} (Editor.run {} requests).value := by
  intro requests
  have given : ∀ request ∈ requests, ∀ facet ∈ request.given, facet.Trimmed := by
    simp only [requests, List.forall_mem_cons, Request.given, FacetList.Mutation.given]
    refine ⟨⟨by decide, by simp⟩, by simp, by simp, by simp⟩
  obtain ⟨trimmed, -, searched⟩ := values_of_session {} requests given
  exact ⟨trimmed, searched⟩

end Editor

end FacetedSearch
