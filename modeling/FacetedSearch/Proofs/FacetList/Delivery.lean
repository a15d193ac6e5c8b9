import FacetedSearch.Proofs.FacetList.EditScript
import Mathlib.Data.List.Induction

/-! Who hears of which changes.

Observers read a list and never take part in it: without all subscriptions a run makes the same
changes and gives the same answers. A subscription receives the changes that are made while it
lasts, and no others.
-/

set_option autoImplicit false

namespace FacetedSearch.FacetList

def observedBy (list : FacetList) (observers : Observers) : FacetList := { list with observers }

def Request.isSubscription : Request → Bool
  | .mutation _ => false
  | .subscribe => true
  | .unsubscribe _ => true
  | .lookup _ => false

/-- The requests without those that make and end subscriptions. -/
def unobserved (requests : List Request) : List Request := requests.filter (!·.isSubscription)

/-- Some requests made the subscription with this number, and no later one of them ended it. -/
def Lasting (requests : List Request) (id : SubscriptionId) : Prop :=
  ∃ earlier later, requests = earlier ++ .subscribe :: later ∧ earlier.count .subscribe = id ∧
    .unsubscribe id ∉ later

/-! ## Runs without observers -/

section
variable (list : FacetList) (observers : Observers)

theorem remove_observedBy (id : FacetId) :
    (list.observedBy observers).remove id = ⟨(list.remove id).list.observedBy observers,
      (list.remove id).result, (list.remove id).changes⟩ := by
  have place : (list.observedBy observers).position id = list.position id := rfl
  unfold remove
  rw [place]
  cases list.position id with
  | none => rfl
  | some index =>
    have here : (list.observedBy observers).entries[index]? = list.entries[index]? := rfl
    dsimp only
    rw [here]
    cases list.entries[index]? <;> rfl

theorem change_observedBy (id : FacetId) (edit : Facet → Facet) :
    (list.observedBy observers).change id edit = ⟨(list.change id edit).list.observedBy observers,
      (list.change id edit).result, (list.change id edit).changes⟩ := by
  have place : (list.observedBy observers).position id = list.position id := rfl
  unfold change
  rw [place]
  cases list.position id <;> rfl

theorem removeAll_observedBy (ids : List FacetId) :
    (list.observedBy observers).removeAll ids = ⟨(list.removeAll ids).list.observedBy observers,
      (list.removeAll ids).result, (list.removeAll ids).changes⟩ := by
  induction ids generalizing list with
  | nil => rfl
  | cons id rest ih => simp only [removeAll, remove_observedBy, ih]

theorem perform_observedBy (mutation : Mutation) :
    (list.observedBy observers).perform mutation =
      ⟨(list.perform mutation).list.observedBy observers, (list.perform mutation).result,
        (list.perform mutation).changes⟩ := by
  cases mutation with
  | reset facets => rfl
  | add facet => rfl
  | insert position facet => rfl
  | remove id => simp only [perform, remove_observedBy, Outcome.map]
  | updateValue id value => simp only [perform, updateValue, change_observedBy, Outcome.map]
  | setLabel id label => simp only [perform, setLabel, change_observedBy, Outcome.map]
  | pruneEmpty =>
    have same : (list.observedBy observers).emptyIds = list.emptyIds := rfl
    simp only [perform, pruneEmpty, same, removeAll_observedBy, Outcome.map]

theorem answer_observedBy (dialect : Dialect) {lookup : Lookup} (plain : lookup ≠ .description) :
    (list.observedBy observers).answer dialect lookup = list.answer dialect lookup := by
  cases lookup with
  | description => exact absurd rfl plain
  | _ => rfl

end

theorem exists_describe_eq (entries : List Entry) : ∃ shown, ∀ list : FacetList,
    list.entries = entries →
      list.describe = shown ++ toString list.observers.live.length ++ " \x7d" := by
  refine ⟨"FacetList \x7b facets: [" ++ String.intercalate ", " (entries.map Entry.describe) ++
    "], observers: ", ?_⟩
  rintro list rfl
  unfold describe
  exact rfl

theorem unobserved_append (first rest : List Request) :
    unobserved (first ++ rest) = unobserved first ++ unobserved rest :=
  List.filter_append first rest

theorem handle_observedBy (list : FacetList) (observers : Observers) (dialect : Dialect)
    (request : Request) :
    ((list.observedBy observers).handle dialect request).list =
      (list.run dialect (unobserved [request])).observedBy
        ((list.observedBy observers).handle dialect request).list.observers ∧
    ((list.observedBy observers).handle dialect request).changes =
      (list.session dialect (unobserved [request])).flatMap Outcome.changes := by
  cases request with
  | mutation mutation =>
    have kept : unobserved [.mutation mutation] = [.mutation mutation] := rfl
    rw [kept, run_cons, run_nil, session, session]
    simp only [handle, perform_observedBy, List.flatMap_cons, List.flatMap_nil, List.append_nil]
    exact ⟨rfl, trivial⟩
  | subscribe => exact ⟨rfl, rfl⟩
  | unsubscribe id => exact ⟨rfl, rfl⟩
  | lookup lookup => exact ⟨rfl, rfl⟩

theorem session_append (list : FacetList) (dialect : Dialect) (first rest : List Request) :
    list.session dialect (first ++ rest) =
      list.session dialect first ++ (list.run dialect first).session dialect rest := by
  induction first generalizing list with
  | nil => rfl
  | cons request first ih => rw [List.cons_append, session, session, run_cons, ih, List.cons_append]

/-- A run differs from the one without subscriptions in its observers and nothing else. -/
theorem run_unobserved (list : FacetList) (observers : Observers) (dialect : Dialect)
    (requests : List Request) :
    (list.observedBy observers).run dialect requests =
      (list.run dialect (unobserved requests)).observedBy
        ((list.observedBy observers).run dialect requests).observers ∧
    ((list.observedBy observers).session dialect requests).flatMap Outcome.changes =
      (list.session dialect (unobserved requests)).flatMap Outcome.changes := by
  -- The observers are what the two runs need not share, so they vary in the induction.
  induction requests generalizing list observers with
  | nil => exact ⟨rfl, rfl⟩
  | cons request rest ih =>
    obtain ⟨next, changes⟩ := list.handle_observedBy observers dialect request
    have split : unobserved (request :: rest) = unobserved [request] ++ unobserved rest :=
      unobserved_append [request] rest
    rw [run_cons, session, List.flatMap_cons, changes, next, split, run_append, session_append,
      List.flatMap_append]
    obtain ⟨last, more⟩ := ih (list.run dialect (unobserved [request]))
      ((list.observedBy observers).handle dialect request).list.observers
    exact ⟨last, by rw [more]⟩

/-! ## Live subscriptions -/

theorem lasting_concat {earlier : List Request} {request : Request} {id : SubscriptionId} :
    Lasting (earlier ++ [request]) id ↔
      Lasting earlier id ∧ request ≠ .unsubscribe id ∨
        request = .subscribe ∧ earlier.count .subscribe = id := by
  constructor
  · rintro ⟨first, later, split, count, never⟩
    -- The last request made the subscription, or it is one of those behind that.
    rcases List.eq_nil_or_concat later with rfl | ⟨front, last, rfl⟩
    · obtain ⟨rfl, same⟩ := List.append_inj' split rfl
      exact .inr ⟨List.singleton_inj.mp same, count⟩
    · rw [List.concat_eq_append] at split never
      rw [← List.cons_append, ← List.append_assoc] at split
      obtain ⟨rfl, same⟩ := List.append_inj' split rfl
      rw [List.singleton_inj.mp same]
      refine .inl ⟨⟨first, front, rfl, count, fun member => never ?_⟩, fun ends => never ?_⟩
      · exact List.mem_append_left _ member
      · exact List.mem_append_right _ (List.mem_singleton.mpr ends.symm)
  · rintro (⟨⟨first, later, rfl, count, never⟩, goesOn⟩ | ⟨rfl, count⟩)
    · refine ⟨first, later ++ [request], by simp, count, fun member => ?_⟩
      rcases List.mem_append.mp member with inLater | last
      · exact never inLater
      · exact goesOn (List.mem_singleton.mp last).symm
    · exact ⟨earlier, [], rfl, count, List.not_mem_nil⟩

/-- The observers after some requests: subscriptions are numbered in their order, and those that
last are live, in that order. -/
structure Kept (requests : List Request) (observers : Observers) : Prop where
  next : observers.next = requests.count .subscribe
  ordered : observers.live.Pairwise (· < ·)
  lasting : ∀ id, id ∈ observers.live ↔ Lasting requests id

theorem Lasting.lt {requests : List Request} {id : SubscriptionId} (lasts : Lasting requests id) :
    id < requests.count .subscribe := by
  obtain ⟨earlier, later, rfl, rfl, -⟩ := lasts
  rw [List.count_append, List.count_cons_self]
  exact Nat.lt_add_of_pos_right (Nat.succ_pos _)

theorem Kept.concat_of_same {requests : List Request} {observers : Observers} {request : Request}
    (kept : Kept requests observers) (other : request ≠ .subscribe)
    (goesOn : ∀ id, request ≠ .unsubscribe id) : Kept (requests ++ [request]) observers := by
  refine ⟨?_, kept.ordered, fun id => ?_⟩
  · rw [kept.next, List.count_append, List.count_singleton, if_neg (by simpa using other)]
    rfl
  · simp [lasting_concat, kept.lasting, goesOn id, other]

theorem Kept.handle {requests : List Request} {list : FacetList} (kept : Kept requests list.observers)
    (dialect : Dialect) (request : Request) :
    Kept (requests ++ [request]) (list.handle dialect request).list.observers := by
  cases request with
  | mutation mutation =>
    have same : (list.handle dialect (.mutation mutation)).list.observers = list.observers :=
      list.perform_observers mutation
    rw [same]
    exact kept.concat_of_same (by simp) (by simp)
  | lookup lookup => exact kept.concat_of_same (by simp) (by simp)
  | subscribe =>
    have new := kept.next
    refine ⟨?_, ?_, fun id => ?_⟩
    · change list.observers.next + 1 = _
      simp [new]
    · refine List.pairwise_append.mpr ⟨kept.ordered, List.pairwise_singleton _ _, ?_⟩
      -- A new number is above all live ones, so it comes behind them.
      intro id live number member
      have given := ((kept.lasting id).mp live).lt
      rw [List.mem_singleton.mp member, new]
      exact given
    · change id ∈ list.observers.live ++ [list.observers.next] ↔ _
      rw [lasting_concat, List.mem_append, List.mem_singleton, kept.lasting, new]
      simp [Eq.comm (a := id)]
  | unsubscribe ended =>
    refine ⟨?_, ?_, fun id => ?_⟩
    · change list.observers.next = _
      simp [kept.next]
    · exact kept.ordered.sublist List.filter_sublist
    · change id ∈ list.observers.live.filter (· != ended) ↔ _
      simp [lasting_concat, kept.lasting, Eq.comm (a := id)]

theorem kept_run (dialect : Dialect) (requests : List Request) :
    Kept requests (FacetList.run {} dialect requests).observers := by
  -- What is kept speaks of the requests so far, so the run grows at its end.
  induction requests using List.reverseRecOn with
  | nil => exact ⟨rfl, List.Pairwise.nil, fun id => by simp [Lasting]⟩
  | append_singleton earlier request ih =>
    rw [run_append, run_cons, run_nil]
    exact ih.handle dialect request

theorem live_unobserved (dialect : Dialect) (requests : List Request) :
    (FacetList.run {} dialect (unobserved requests)).observers.live = [] := by
  apply List.eq_nil_iff_forall_not_mem.mpr
  intro id live
  obtain ⟨earlier, later, split, -⟩ := ((kept_run dialect _).lasting id).mp live
  have made : .subscribe ∈ unobserved requests := by
    rw [split]
    exact List.mem_append_right _ List.mem_cons_self
  exact Bool.noConfusion (List.mem_filter.mp made).2

/-! ## What a subscription receives -/

theorem next_le_handle (list : FacetList) (dialect : Dialect) (request : Request) :
    list.observers.next ≤ (list.handle dialect request).list.observers.next := by
  cases request with
  | mutation mutation =>
    have same := congrArg Observers.next (list.perform_observers mutation)
    exact Nat.le_of_eq same.symm
  | subscribe => exact Nat.le_succ _
  | unsubscribe id => exact Nat.le_refl _
  | lookup lookup => exact Nat.le_refl _

theorem next_le_run (list : FacetList) (dialect : Dialect) (requests : List Request) :
    list.observers.next ≤ (list.run dialect requests).observers.next :=
  run_keeps (motive := fun later => list.observers.next ≤ later.observers.next)
    (fun later request grown => Nat.le_trans grown (later.next_le_handle dialect request))
    (Nat.le_refl _) requests

section
variable {subscriber : SubscriptionId} {list : FacetList}

theorem received_of_future (dialect : Dialect) (requests : List Request)
    (numbered : Numbered list.observers)
    (future : (list.run dialect requests).observers.next ≤ subscriber) :
    received subscriber (list.session dialect requests) = [] := by
  induction requests generalizing list with
  | nil => rfl
  | cons request rest ih =>
    rw [run_cons] at future
    have later := handle_numbered numbered dialect request
    -- A live number is below the next one, and the next one is still to be given.
    have silent : subscriber ∉ (list.handle dialect request).list.observers.live := by
      intro live
      have given := later.below subscriber live
      have atMost := next_le_run (list.handle dialect request).list dialect rest
      exact Nat.lt_irrefl _ (Nat.lt_of_lt_of_le given (Nat.le_trans atMost future))
    rw [session, received_cons, received_of_notMem silent, ih later future, List.append_nil]

/-- A live subscription receives the changes that are made until it is ended. -/
theorem received_until_ended (dialect : Dialect) (requests : List Request)
    (numbered : Numbered list.observers) (live : subscriber ∈ list.observers.live) :
    received subscriber (list.session dialect requests) =
      (list.session dialect (requests.takeWhile (· != .unsubscribe subscriber))).flatMap
        Outcome.changes := by
  induction requests generalizing list with
  | nil => rfl
  | cons request rest ih =>
    by_cases own : request = .unsubscribe subscriber
    · subst own
      rw [received_of_own_end dialect rest numbered live]
      simp [session]
    · have later := handle_numbered numbered dialect request
      have still := live_handle live dialect own
      have goesOn : (request != .unsubscribe subscriber) = true := by simpa using own
      rw [session, received_cons, received_of_mem later still, ih later still, List.takeWhile_cons,
        if_pos goesOn, session, List.flatMap_cons]

end

theorem numbered_empty : Numbered ({} : FacetList).observers := ⟨List.nodup_nil, by simp⟩

theorem received_subscribe (dialect : Dialect) (requests later : List Request) :
    let list := FacetList.run {} dialect requests
    received list.subscribe.result
        (FacetList.session {} dialect (requests ++ .subscribe :: later)) =
      ((FacetList.run {} dialect (unobserved requests)).session dialect
        (unobserved (later.takeWhile (· != .unsubscribe list.subscribe.result)))).flatMap
          Outcome.changes := by
  intro list
  have numbered : Numbered list.observers := run_numbered numbered_empty dialect requests
  have live : list.subscribe.result ∈ list.subscribe.list.observers.live :=
    List.mem_append_right _ (List.mem_singleton_self _)
  -- Nothing is received before the request that subscribes, nor with it.
  have before : received list.subscribe.result (FacetList.session {} dialect requests) = [] :=
    received_of_future dialect requests numbered_empty (Nat.le_refl _)
  have here : received list.subscribe.result [list.handle dialect .subscribe] = [] := by
    rw [received_of_mem (handle_numbered numbered dialect .subscribe) live]
    rfl
  have behind := received_until_ended dialect later numbered.subscribe live
  have alone := (run_unobserved {} {} dialect requests).1
  have whole : received list.subscribe.result
      (FacetList.session {} dialect (requests ++ .subscribe :: later)) =
      received list.subscribe.result (FacetList.session {} dialect requests) ++
        (received list.subscribe.result [list.handle dialect .subscribe] ++
          received list.subscribe.result (list.subscribe.list.session dialect later)) := by
    rw [session_append, session, ← received_cons]
    simp only [received, List.flatMap_append, List.filter_append, List.map_append]
    rfl
  have observed : list.subscribe.list =
      (FacetList.run {} dialect (unobserved requests)).observedBy list.observers.subscribe :=
    congrArg (·.observedBy list.observers.subscribe) alone
  rw [whole, before, here, behind, observed, (run_unobserved _ _ dialect _).2]
  rfl

/-- What observers see of a run, and that the run does not see them. At every moment the live
subscriptions are those that last, in the order in which they were made, and each change is
delivered to each of them in that order. A subscription receives what is changed until it is ended,
under a number that is never given again. All else is as in the run without subscriptions. -/
theorem delivery_of_run (dialect : Dialect) (requests : List Request) :
    let list := FacetList.run {} dialect requests
    let alone := FacetList.run {} dialect (unobserved requests)
    (list.observers.live.Pairwise (· < ·) ∧
      ∀ id, id ∈ list.observers.live ↔ Lasting requests id) ∧
    (∀ id, (list.unsubscribe id).result = true ↔ Lasting requests id) ∧
    (∀ later, (FacetList.run {} dialect (requests ++ .subscribe :: later)).subscribe.result ≠
      list.subscribe.result) ∧
    (∀ later, received list.subscribe.result
        (FacetList.session {} dialect (requests ++ .subscribe :: later)) =
      (alone.session dialect (unobserved
        (later.takeWhile (· != .unsubscribe list.subscribe.result)))).flatMap Outcome.changes) ∧
    (∀ mutation, (list.perform mutation).deliveries =
      (alone.perform mutation).changes.flatMap fun change =>
        list.observers.live.map fun subscriber => ⟨subscriber, change⟩) ∧
    (list.entries = alone.entries ∧ list.nextId = alone.nextId) ∧
    (∀ mutation, (list.perform mutation).result = (alone.perform mutation).result ∧
      (list.perform mutation).list.entries = (alone.perform mutation).list.entries) ∧
    (∀ dialect lookup, lookup ≠ .description →
      list.answer dialect lookup = alone.answer dialect lookup) ∧
    ∃ shown, list.describe = shown ++ toString list.observers.live.length ++ " \x7d" ∧
      alone.describe = shown ++ "0" ++ " \x7d" := by
  intro list alone
  have kept : Kept requests list.observers := kept_run dialect requests
  -- All else about the list follows from this, as nothing else depends on observers.
  have same : list = alone.observedBy list.observers := (run_unobserved {} {} dialect requests).1
  have performed (mutation : Mutation) :
      list.perform mutation = ⟨(alone.perform mutation).list.observedBy list.observers,
        (alone.perform mutation).result, (alone.perform mutation).changes⟩ :=
    (congrArg (FacetList.perform · mutation) same).trans
      (alone.perform_observedBy list.observers mutation)
  refine ⟨⟨kept.ordered, kept.lasting⟩, fun id => ?_, fun later => ?_, received_subscribe dialect
    requests, fun mutation => ?_, ?_, fun mutation => ?_, fun dialect lookup plain => ?_, ?_⟩
  · exact List.contains_iff_mem.trans (kept.lasting id)
  · have atMost := next_le_run list.subscribe.list dialect later
    rw [run_append, run_cons]
    exact (Nat.ne_of_lt atMost).symm
  · rw [performed mutation]
    rfl
  · rw [same]
    exact ⟨rfl, rfl⟩
  · rw [performed mutation]
    exact ⟨rfl, rfl⟩
  · rw [same]
    exact alone.answer_observedBy list.observers dialect plain
  · obtain ⟨shown, described⟩ := exists_describe_eq alone.entries
    have silent : alone.observers.live = [] := live_unobserved dialect requests
    refine ⟨shown, described list ?_, ?_⟩
    · rw [same]
      rfl
    · rw [described alone rfl, silent]
      rfl

end FacetedSearch.FacetList
