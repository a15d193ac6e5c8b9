import FacetedSearch.Proofs.FacetList.Steps

/-! The changes of a list as an edit script.

Whoever subscribes to a list can keep a copy of it: each change that arrives turns the copy into
the next one exactly as its kind says, and after every request the copy is the list.
-/

set_option autoImplicit false

namespace FacetedSearch

/-- What a change makes of the entries before it. A reset may leave any entries. -/
def Change.Turns (change : Change) (before after : List Entry) : Prop :=
  change.snapshot = after.map Entry.facet ∧
  match change.kind with
  | .reset => True
  | .added id index =>
    index ≤ before.length ∧ ∃ facet, after = before.insertIdx index ⟨id, facet⟩
  | .removed id index facet =>
    index < before.length ∧ before[index]? = some ⟨id, facet⟩ ∧ after = before.eraseIdx index
  | .changed id index =>
    after.length = before.length ∧ (∀ other, other ≠ index → after[other]? = before[other]?) ∧
    ∃ facet edited, before[index]? = some ⟨id, facet⟩ ∧ after[index]? = some ⟨id, edited⟩ ∧
      edited.category = facet.category

inductive EditScript : List Entry → List Change → List Entry → Prop where
  | done {entries : List Entry} : EditScript entries [] entries
  | next {before middle after : List Entry} {change : Change} {rest : List Change} :
      change.Turns before middle → EditScript middle rest after →
      EditScript before (change :: rest) after

def lastShown (before : List Facet) (changes : List Change) : List Facet :=
  (changes.getLast?.map Change.snapshot).getD before

theorem EditScript.append {before middle after : List Entry} {first rest : List Change}
    (script : EditScript before first middle) (more : EditScript middle rest after) :
    EditScript before (first ++ rest) after := by
  induction script with
  | done => exact more
  | next turns _ ih => exact .next turns (ih more)

theorem EditScript.lastShown_eq {before after : List Entry} {changes : List Change}
    (script : EditScript before changes after) :
    lastShown (before.map Entry.facet) changes = after.map Entry.facet := by
  induction script with
  | done => rfl
  | @next before middle after change rest turns _ ih =>
    rw [← ih, ← turns.1, lastShown, lastShown, List.getLast?_cons]
    cases rest.getLast? <;> rfl

namespace FacetList

theorem Step.turns {list next : FacetList} {change : Change} (step : Step list change next) :
    change.Turns list.entries next.entries := by
  cases step with
  | reset facets => exact ⟨(map_facet_number list.nextId facets).symm, trivial⟩
  | @added front back facet split =>
    refine ⟨rfl, ?_, facet, ?_⟩
    · simp [split]
    · rw [split, insertIdx_split]
  | @removed front back id facet split before =>
    refine ⟨rfl, ?_, ?_, ?_⟩
    · simp [split]
    · simp [split]
    · rw [split, List.eraseIdx_append_of_length_le (Nat.le_refl _)]
      simp
  | @changed front back id facet edited split before edit =>
    refine ⟨rfl, ?_, ?_, facet, edited, ?_, ?_, edit.category_eq⟩
    · simp [split]
    · intro other apart
      rw [split]
      -- Only the place behind the front differs.
      rcases Nat.lt_or_gt_of_ne apart with inFront | behind
      · rw [List.getElem?_append_left inFront, List.getElem?_append_left inFront]
      · obtain ⟨place, rfl⟩ := Nat.exists_eq_add_of_lt behind
        simp [List.getElem?_append_right, Nat.add_assoc]
    · simp [split]
    · simp

theorem Steps.editScript {list last : FacetList} {changes : List Change}
    (steps : Steps list changes last) : EditScript list.entries changes last.entries := by
  induction steps with
  | done => exact .done
  | next step _ ih => exact .next step.turns ih

theorem Steps.observers_eq {list last : FacetList} {changes : List Change}
    (steps : Steps list changes last) : last.observers = list.observers := by
  induction steps with
  | done => rfl
  | next step _ ih => cases step <;> exact ih

/-! ## Deliveries -/

/-- The changes that a subscription receives while requests are answered. -/
def received (subscriber : SubscriptionId) (outcomes : List (Outcome Reply)) : List Change :=
  ((outcomes.flatMap Outcome.deliveries).filter (·.subscriber == subscriber)).map Delivery.change

/-- No subscription is live twice, and the next number is free. -/
structure Numbered (observers : Observers) : Prop where
  distinct : observers.live.Nodup
  below : ∀ id ∈ observers.live, id < observers.next

section
variable {subscriber : SubscriptionId}

theorem received_cons (outcome : Outcome Reply) (rest : List (Outcome Reply)) :
    received subscriber (outcome :: rest) =
      received subscriber [outcome] ++ received subscriber rest := by
  simp [received]

theorem deliver_filter (observers : Observers) (change : Change) :
    ((observers.deliver change).filter (·.subscriber == subscriber)).map Delivery.change =
      List.replicate (observers.live.count subscriber) change := by
  rw [Observers.deliver, List.filter_map, List.map_map]
  have same : (fun delivery : Delivery => delivery.subscriber == subscriber) ∘
      (fun live => (⟨live, change⟩ : Delivery)) = (· == subscriber) := rfl
  rw [same, List.filter_beq, List.map_replicate]
  rfl

theorem received_single (outcome : Outcome Reply) :
    received subscriber [outcome] = outcome.changes.flatMap
      (List.replicate (outcome.list.observers.live.count subscriber)) := by
  simp only [received, Outcome.deliveries, List.flatMap_cons, List.flatMap_nil, List.append_nil,
    List.filter_flatMap, List.map_flatMap, deliver_filter]

theorem received_of_notMem {outcome : Outcome Reply}
    (silent : subscriber ∉ outcome.list.observers.live) : received subscriber [outcome] = [] := by
  rw [received_single, List.count_eq_zero_of_not_mem silent]
  simp

theorem received_of_mem {outcome : Outcome Reply} (numbered : Numbered outcome.list.observers)
    (live : subscriber ∈ outcome.list.observers.live) :
    received subscriber [outcome] = outcome.changes := by
  rw [received_single, numbered.distinct.count, if_pos live]
  exact List.flatMap_singleton' outcome.changes

end

theorem perform_observers (list : FacetList) (mutation : Mutation) :
    (list.perform mutation).list.observers = list.observers :=
  (list.perform_steps mutation).observers_eq

theorem Numbered.subscribe {observers : Observers} (numbered : Numbered observers) :
    Numbered observers.subscribe := by
  constructor
  · refine List.nodup_append.mpr ⟨numbered.distinct, by simp, ?_⟩
    intro id member other new
    rw [List.mem_singleton.mp new]
    exact Nat.ne_of_lt (numbered.below id member)
  · intro id member
    rcases List.mem_append.mp member with live | new
    · exact Nat.lt_succ_of_lt (numbered.below id live)
    · rw [List.mem_singleton.mp new]
      exact Nat.lt_succ_self _

theorem Numbered.unsubscribe {observers : Observers} (numbered : Numbered observers)
    (id : SubscriptionId) : Numbered (observers.unsubscribe id) :=
  ⟨numbered.distinct.filter _, fun other member =>
    numbered.below other (List.mem_filter.mp member).1⟩

theorem handle_numbered {list : FacetList} (numbered : Numbered list.observers) (dialect : Dialect)
    (request : Request) : Numbered (list.handle dialect request).list.observers := by
  cases request with
  | mutation mutation => exact (list.perform_observers mutation).symm ▸ numbered
  | subscribe => exact numbered.subscribe
  | unsubscribe id => exact numbered.unsubscribe id
  | lookup lookup => exact numbered

theorem run_numbered {list : FacetList} (numbered : Numbered list.observers) (dialect : Dialect)
    (requests : List Request) : Numbered (list.run dialect requests).observers :=
  run_keeps (motive := fun list => Numbered list.observers)
    (fun _ request kept => handle_numbered kept dialect request) numbered requests

/-! ## What a subscription receives -/

section
variable {subscriber : SubscriptionId}

theorem received_of_ended {list : FacetList} (dialect : Dialect) (requests : List Request)
    (given : subscriber < list.observers.next) (ended : subscriber ∉ list.observers.live) :
    received subscriber (list.session dialect requests) = [] := by
  induction requests generalizing list with
  | nil => rfl
  | cons request rest ih =>
    have kept : subscriber < (list.handle dialect request).list.observers.next ∧
        subscriber ∉ (list.handle dialect request).list.observers.live := by
      cases request with
      | mutation mutation => exact (list.perform_observers mutation).symm ▸ ⟨given, ended⟩
      | subscribe =>
        refine ⟨Nat.lt_succ_of_lt given, fun member => ?_⟩
        rcases List.mem_append.mp member with live | new
        · exact ended live
        · exact Nat.ne_of_lt given (List.mem_singleton.mp new)
      | unsubscribe id => exact ⟨given, fun member => ended (List.mem_filter.mp member).1⟩
      | lookup lookup => exact ⟨given, ended⟩
    rw [session, received_cons, received_of_notMem kept.2, ih kept.1 kept.2]
    rfl

theorem live_handle {list : FacetList} (live : subscriber ∈ list.observers.live) (dialect : Dialect)
    {request : Request} (goesOn : request ≠ .unsubscribe subscriber) :
    subscriber ∈ (list.handle dialect request).list.observers.live := by
  cases request with
  | mutation mutation => exact (list.perform_observers mutation).symm ▸ live
  | subscribe => exact List.mem_append_left _ live
  | lookup lookup => exact live
  | unsubscribe id =>
    refine List.mem_filter.mpr ⟨live, ?_⟩
    simpa using fun same : subscriber = id => goesOn (by rw [same])

theorem received_of_own_end {list : FacetList} (dialect : Dialect) (rest : List Request)
    (numbered : Numbered list.observers) (live : subscriber ∈ list.observers.live) :
    received subscriber (list.session dialect (.unsubscribe subscriber :: rest)) = [] := by
  have ended : subscriber ∉ (list.observers.unsubscribe subscriber).live := by
    simp [Observers.unsubscribe]
  have silent : received subscriber
      ((list.handle dialect (.unsubscribe subscriber)).list.session dialect rest) = [] :=
    received_of_ended dialect rest (numbered.below subscriber live) ended
  rw [session, received_cons, received_of_notMem ended, silent]
  rfl

theorem handle_editScript (list : FacetList) (dialect : Dialect) (request : Request) :
    EditScript list.entries (list.handle dialect request).changes
      (list.handle dialect request).list.entries := by
  cases request with
  | mutation mutation => exact (list.perform_steps mutation).editScript
  | subscribe => exact .done
  | unsubscribe id => exact .done
  | lookup lookup => exact .done

/-- A live subscription receives an edit script, up to the present if it is not ended. -/
theorem received_of_live {list : FacetList} (dialect : Dialect) (requests : List Request)
    (numbered : Numbered list.observers) (live : subscriber ∈ list.observers.live) :
    ∃ shown, EditScript list.entries (received subscriber (list.session dialect requests)) shown ∧
      (.unsubscribe subscriber ∉ requests → shown = (list.run dialect requests).entries) := by
  induction requests generalizing list with
  | nil => exact ⟨list.entries, .done, fun _ => rfl⟩
  | cons request rest ih =>
    by_cases own : request = .unsubscribe subscriber
    · subst own
      rw [received_of_own_end dialect rest numbered live]
      exact ⟨list.entries, .done, fun never => absurd List.mem_cons_self never⟩
    · have later := handle_numbered numbered dialect request
      have still := live_handle live dialect own
      obtain ⟨shown, more, present⟩ := ih later still
      rw [session, received_cons, received_of_mem later still, run_cons]
      exact ⟨shown, (list.handle_editScript dialect request).append more, fun never =>
        present fun member => never (List.mem_cons_of_mem request member)⟩

end

def Mutation.named? : Mutation → Option FacetId
  | .remove id => some id
  | .updateValue id _ => some id
  | .setLabel id _ => some id
  | .reset _ => none
  | .add _ => none
  | .insert _ _ => none
  | .pruneEmpty => none

theorem Mutation.of_named {mutation : Mutation} {id : FacetId}
    (named : mutation.named? = some id) :
    mutation = .remove id ∨ (∃ value, mutation = .updateValue id value) ∨
      ∃ label, mutation = .setLabel id label := by
  cases mutation <;> simp_all [named?]

theorem perform_of_unknown {list : FacetList} {mutation : Mutation} {id : FacetId}
    (named : mutation.named? = some id) (unknown : id ∉ list.ids) :
    (list.perform mutation).list = list ∧ (list.perform mutation).changes = [] := by
  obtain rfl | ⟨value, rfl⟩ | ⟨label, rfl⟩ := Mutation.of_named named
  · exact ⟨congrArg Outcome.list (remove_of_notMem unknown),
      congrArg Outcome.changes (remove_of_notMem unknown)⟩
  · exact ⟨congrArg Outcome.list (change_of_notMem unknown _),
      congrArg Outcome.changes (change_of_notMem unknown _)⟩
  · exact ⟨congrArg Outcome.list (change_of_notMem unknown _),
      congrArg Outcome.changes (change_of_notMem unknown _)⟩

/-- In every run, what a subscription receives from the list at which it was made is an edit script.
As long as the subscription lasts, the last change shows the list as it is. A mutation that names an
identity which is not in the list changes nothing and says nothing. -/
theorem received_editScript (dialect : Dialect) (earlier later : List Request) :
    let list := FacetList.run {} dialect earlier
    let subscribed := list.subscribe
    let last := subscribed.list.run dialect later
    let changes := received subscribed.result (subscribed.list.session dialect later)
    (∃ shown, EditScript list.entries changes shown ∧
      (.unsubscribe subscribed.result ∉ later →
        shown = last.entries ∧ lastShown list.toList changes = last.toList)) ∧
    ∀ mutation id, Mutation.named? mutation = some id → id ∉ last.ids →
      (last.perform mutation).list = last ∧ (last.perform mutation).deliveries = [] := by
  intro list subscribed last changes
  have empty : Numbered ({} : FacetList).observers := ⟨List.nodup_nil, by simp⟩
  have numbered := run_numbered empty dialect earlier
  have live : subscribed.result ∈ subscribed.list.observers.live :=
    List.mem_append_right _ (List.mem_singleton_self _)
  obtain ⟨shown, script, present⟩ := received_of_live dialect later numbered.subscribe live
  refine ⟨⟨shown, script, fun never => ?_⟩, fun mutation id named unknown => ?_⟩
  · have same : shown = last.entries := present never
    exact ⟨same, script.lastShown_eq.trans (congrArg (List.map Entry.facet) same)⟩
  · obtain ⟨unchanged, silent⟩ := perform_of_unknown named unknown
    exact ⟨unchanged, by simp [Outcome.deliveries, silent]⟩

end FacetList

end FacetedSearch
