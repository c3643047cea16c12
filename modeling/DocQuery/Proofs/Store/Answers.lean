/-
This file proves what reading a refined collection answers.

Filters, sort keys and limits may be asked for in any interleaving. Each call that is accepted only
adds to what the reference carries, so the filters and the keys are those of the calls in order,
and the limit is the last one. In every store that its operations lead to, no two documents are at
one location, which makes the ids of a collection distinct. The main theorem says from the calls
alone what is answered.
-/

import DocQuery.Proofs.Store.Query

namespace DocQuery

/-! ### Stores -/

namespace Store

variable {κ : Type}

/-- The stores that seeding and further operations lead to. -/
inductive Reached : Store κ → Prop
  | seeded {documents : List (Text × Value)} {store : Store κ}
      (seeded : ofSeed documents = .ok store) : Reached store
  | write {store : Store κ} (reached : Reached store) {path data : Value} {segments : Segments}
      {entries : Entries} (accepted : acceptWrite path data = .ok (segments, entries)) :
      Reached (store.write segments entries)
  | remove {store : Store κ} (reached : Reached store) (segments : Segments) :
      Reached (store.remove segments)
  | register {store : Store κ} (reached : Reached store) (listener : Listener κ) :
      Reached (store.register listener)
  | unregister {store : Store κ} (reached : Reached store) (id : Nat) :
      Reached (store.unregister id)
  | close {store : Store κ} (reached : Reached store) : Reached store.close

end Store

namespace Query

/-- No two documents are at one location. -/
def Located (documents : List StoredDocument) : Prop :=
  documents.Pairwise fun left right => left.segments ≠ right.segments

theorem mem_put {segments : Segments} {data : Entries} {documents : List StoredDocument}
    {document : StoredDocument} (member : document ∈ put segments data documents) :
    document.segments = segments ∨ document ∈ documents := by
  induction documents with
  | nil => exact .inl (by rw [List.mem_singleton.mp member])
  | cons first rest inductionHypothesis =>
    rw [put] at member
    split at member
    · rcases List.mem_cons.mp member with rfl | later
      · exact .inl rfl
      · exact .inr (List.mem_cons_of_mem first later)
    · rcases List.mem_cons.mp member with rfl | later
      · exact .inr List.mem_cons_self
      · exact (inductionHypothesis later).imp_right (List.mem_cons_of_mem first)

theorem Located.put {documents : List StoredDocument} (located : Located documents)
    (segments : Segments) (data : Entries) : Located (put segments data documents) := by
  induction documents with
  | nil => exact List.pairwise_singleton _ _
  | cons first rest inductionHypothesis =>
    obtain ⟨apart, restLocated⟩ := List.pairwise_cons.mp located
    rw [Query.put]
    split
    · next same =>
      rw [same] at apart
      exact List.pairwise_cons.mpr ⟨apart, restLocated⟩
    · next different =>
      refine List.pairwise_cons.mpr ⟨fun other member => ?_, inductionHypothesis restLocated⟩
      rcases mem_put member with same | later
      · rw [same]
        exact different
      · exact apart other later

theorem Located.takeOut {documents : List StoredDocument} (located : Located documents)
    (segments : Segments) : Located (takeOut segments documents) :=
  List.Pairwise.filter _ located

end Query

namespace Store

variable {κ : Type}

theorem located_seed {listed : List (Text × Value)} {documents seeded : List StoredDocument}
    (located : Query.Located documents) (found : seed listed documents = .ok seeded) :
    Query.Located seeded := by
  induction listed generalizing documents with
  | nil =>
    rw [seed, Except.ok.injEq] at found
    rwa [← found]
  | cons entry rest inductionHypothesis =>
    rw [seed] at found
    split at found
    · cases found
    · cases found
    · exact inductionHypothesis (located.put _ _) found

/-- Whatever was done to a store, its locations are distinct. -/
theorem Reached.located {store : Store κ} (reached : store.Reached) :
    Query.Located store.documents := by
  induction reached with
  | seeded seeded =>
    rw [ofSeed] at seeded
    generalize found : seed _ [] = outcome at seeded
    cases outcome with
    | error failure => cases seeded
    | ok documents =>
      cases seeded
      exact located_seed List.Pairwise.nil found
  | write _ _ inductionHypothesis => exact inductionHypothesis.put _ _
  | remove _ segments inductionHypothesis => exact inductionHypothesis.takeOut segments
  | register _ _ inductionHypothesis => exact inductionHypothesis
  | unregister _ _ inductionHypothesis => exact inductionHypothesis
  | close _ inductionHypothesis => exact inductionHypothesis

end Store

/-! ### Chains of calls -/

namespace NavigationCall

/-- The filter that a call asks for. -/
def filter? : NavigationCall → Option Filter
  | .filter field (.text symbol) value =>
    (Operator.ofSymbol? symbol).map fun operator => ⟨field, operator, value⟩
  | _ => none

/-- The sort key that a call asks for. -/
def sortKey? : NavigationCall → Option SortKey
  | .orderBy field direction =>
    match Reference.directionNamed direction with
    | .ok sense => some ⟨field, sense⟩
    | .error _ => none
  | _ => none

/-- The limit that a call asks for. -/
def limit? : NavigationCall → Option Nat
  | .limit (.int number) => some number.toNat
  | _ => none

/-- A call that refines a collection, by a field that is a name if it has one. -/
def IsRefinement : NavigationCall → Prop
  | .filter field _ _ => field.IsName
  | .orderBy field _ => field.IsName
  | .limit _ => True
  | .collection _ => False
  | .document _ => False

theorem isName_of_filter? {call : NavigationCall} (refinement : call.IsRefinement)
    {filter : Filter} (asked : call.filter? = some filter) : filter.field.IsName := by
  unfold filter? at asked
  split at asked
  · obtain ⟨operator, _, rfl⟩ := Option.map_eq_some_iff.mp asked
    exact refinement
  · cases asked

theorem isName_of_sortKey? {call : NavigationCall} (refinement : call.IsRefinement)
    {key : SortKey} (asked : call.sortKey? = some key) : key.field.IsName := by
  unfold sortKey? at asked
  split at asked
  · split at asked
    · cases asked
      exact refinement
    · cases asked
  · cases asked

end NavigationCall

namespace Reference

/-- A reference with the refinements that calls ask for. -/
def refinedBy (calls : List NavigationCall) (reference : Reference) : Reference :=
  ⟨reference.segments, reference.filters ++ calls.filterMap NavigationCall.filter?,
    reference.orders ++ calls.filterMap NavigationCall.sortKey?,
    (calls.filterMap NavigationCall.limit?).getLast?.or reference.limit⟩

theorem exists_symbol {operator : Value} {path : Text} {found : Operator}
    (named : operatorNamed operator path = .ok found) :
    ∃ symbol, operator = .text symbol ∧ Operator.ofSymbol? symbol = some found := by
  cases operator with
  | text symbol =>
    rw [operatorNamed] at named
    cases known : Operator.ofSymbol? symbol with
    | none =>
      rw [known] at named
      cases named
    | some operator =>
      rw [known] at named
      cases named
      exact ⟨symbol, rfl, known⟩
  | _ => cases named

theorem exists_number {count : Value} {path : Text} {limit : Nat}
    (counted : limitCount count path = .ok limit) :
    ∃ number : Int, count = .int number ∧ limit = number.toNat := by
  cases count with
  | int number =>
    rw [limitCount] at counted
    split at counted
    · cases counted
      exact ⟨number, rfl, rfl⟩
    · cases counted
  | _ => cases counted

/-- An accepted refinement adds what it asks for. -/
theorem call_refinement {call : NavigationCall} {reference next : Reference}
    (refinement : call.IsRefinement) (accepted : reference.call call = .ok next) :
    next = reference.refinedBy [call] := by
  cases call with
  | collection name => exact refinement.elim
  | document name => exact refinement.elim
  | filter field operator value =>
    rw [call, filter] at accepted
    split at accepted
    · cases accepted
    · cases accepted
    · next found named =>
      split at accepted
      · cases accepted
      · obtain ⟨symbol, rfl, known⟩ := exists_symbol named
        cases accepted
        simp [refinedBy, NavigationCall.filter?, NavigationCall.sortKey?, NavigationCall.limit?,
          known]
  | orderBy field direction =>
    rw [call, orderByNamed] at accepted
    split at accepted
    · cases accepted
    · cases accepted
    · next sense collection named =>
      rw [orderBy, collection] at accepted
      cases accepted
      simp [refinedBy, NavigationCall.filter?, NavigationCall.sortKey?, NavigationCall.limit?,
        named]
  | limit count =>
    rw [call, limitTo] at accepted
    split at accepted
    · cases accepted
    · cases accepted
    · next number _ counted =>
      obtain ⟨asked, rfl, rfl⟩ := exists_number counted
      cases accepted
      simp [refinedBy, NavigationCall.filter?, NavigationCall.sortKey?, NavigationCall.limit?]

/-- Accepted refinements add what they ask for, in any interleaving; the last limit counts. -/
theorem callAll_refinements {calls : List NavigationCall} {reference refined : Reference}
    (refinements : ∀ call ∈ calls, call.IsRefinement)
    (accepted : reference.callAll calls = .ok refined) : refined = reference.refinedBy calls := by
  induction calls generalizing reference with
  | nil =>
    cases accepted
    simp [refinedBy]
  | cons call rest inductionHypothesis =>
    rw [callAll] at accepted
    split at accepted
    · cases accepted
    · next next step =>
      obtain rfl := call_refinement (refinements call List.mem_cons_self) step
      rw [inductionHypothesis (fun other member => refinements other
        (List.mem_cons_of_mem call member)) accepted]
      have single {β : Type} (pick : NavigationCall → Option β) :
          (call :: rest).filterMap pick = [call].filterMap pick ++ rest.filterMap pick := by
        rw [← List.filterMap_append, List.singleton_append]
      simp only [refinedBy, single, List.append_assoc, List.getLast?_append, Option.or_assoc]

/-- Without refinements there is nothing to be kept from before. -/
theorem refinedBy_of_unrefined {reference : Reference} (unrefined : reference.isRefined = false)
    (calls : List NavigationCall) :
    reference.refinedBy calls = ⟨reference.segments, calls.filterMap NavigationCall.filter?,
      calls.filterMap NavigationCall.sortKey?,
      (calls.filterMap NavigationCall.limit?).getLast?⟩ := by
  obtain ⟨segments, filters, orders, limit⟩ := reference
  simp only [isRefined, Bool.or_eq_false_iff, Bool.not_eq_false', List.isEmpty_iff,
    Option.isSome_eq_false_iff, Option.isNone_iff_eq_none] at unrefined
  obtain ⟨⟨rfl, rfl⟩, rfl⟩ := unrefined
  simp [refinedBy]

end Reference

/-! ### Values with an order -/

namespace Value

/-- The integer that a value counts as. -/
def asInt? : Value → Option Int
  | .int number => some number
  | .bool flag => some flag.toInt
  | _ => none

theorem less?_of_asInt? {left right : Value} {one other : Int} (leftInt : left.asInt? = some one)
    (rightInt : right.asInt? = some other) : left.less? right = some (decide (one < other)) := by
  have compared : left.order right = .ofQuantities (.ofInt one) (.ofInt other) := by
    cases left <;> cases leftInt <;> cases right <;> cases rightInt <;> rfl
  have integers : (Quantity.ofInt one).order (.ofInt other) = some (compare one other) := by
    simp [Quantity.order, Quantity.ofInt, Quantity.compareDyadic]
  rw [less?, relates?, compared, Comparison.ofQuantities, integers, Int.compare_eq_ite_lt]
  by_cases below : one < other
  · rw [if_pos below, decide_eq_true below]
    rfl
  · rw [if_neg below, decide_eq_false below]
    by_cases above : other < one
    · rw [if_pos above]
      rfl
    · rw [if_neg above]
      rfl

theorem less?_of_asText? {left right : Value} {one other : Text}
    (leftText : left.asText? = some one) (rightText : right.asText? = some other) :
    left.less? right = some (decide (one < other)) := by
  have compared : left.order right = .ofTexts one other := by
    cases left <;> cases leftText <;> simp [order, orderText, rightText]
  rw [less?, relates?, compared, Comparison.ofTexts]
  by_cases below : one < other
  · rw [if_pos below, decide_eq_true below]
    rfl
  · rw [if_neg below, decide_eq_false below]
    split <;> rfl

/-- Integers can be sorted by. -/
theorem orders_integers : Sorting.Orders less? fun value => value.asInt?.isSome := by
  refine .of_contents (· < ·) (fun below => ?_) (fun notBelow further => ?_) less?_of_asInt?
  · omega
  · omega

/-- Texts can be sorted by. -/
theorem orders_texts : Sorting.Orders less? fun value => value.asText?.isSome :=
  .of_contents (· < ·) (fun below back => Text.lt_irrefl _ (Text.lt_trans below back)) Text.not_lt_trans
    less?_of_asText?

end Value

/-! ### Answers -/

namespace Store

open Query

variable {κ : Type}

/-- What refinements of a collection answer: the documents directly in it that pass every filter
and have every sort field, each once, sorted by the keys in their order and in their directions,
and then by id, cut to the last limit. -/
theorem read_refinements {store : Store κ} (reached : store.Reached)
    {collection reference : Reference} (isCollection : collection.isCollection = true)
    (unrefined : collection.isRefined = false) {calls : List NavigationCall}
    (refinements : ∀ call ∈ calls, call.IsRefinement)
    (accepted : collection.callAll calls = .ok reference)
    (orders : ∀ key ∈ calls.filterMap NavigationCall.sortKey?, Sorting.Orders Value.less?
      (IsHeld (IsCandidate store.documents collection.segments
        (calls.filterMap NavigationCall.filter?)) key.field)) :
    ∃ sorted : List StoredDocument,
      store.read reference = .ok (.query
        ((cutTo (calls.filterMap NavigationCall.limit?).getLast? sorted).map
          StoredDocument.snapshot)) ∧
      sorted.Nodup ∧
      (∀ document, document ∈ sorted ↔
        document ∈ store.documents ∧ document.IsIn collection.segments ∧
          Passes (calls.filterMap NavigationCall.filter?) document ∧
          ∀ key ∈ calls.filterMap NavigationCall.sortKey?,
            (document.valueAt key.field).isSome) ∧
      sorted.Pairwise (Precedes (calls.filterMap NavigationCall.sortKey?)) := by
  obtain rfl := Reference.callAll_refinements refinements accepted
  have isDocument : (collection.refinedBy calls).isDocument = false :=
    Segments.not_isDocument_of_isCollection isCollection
  have stillCollection : (collection.refinedBy calls).isCollection = true := isCollection
  have filtersNamed : ∀ filter ∈ calls.filterMap NavigationCall.filter?,
      filter.field.IsName := by
    intro filter member
    obtain ⟨call, inCalls, asked⟩ := List.mem_filterMap.mp member
    exact NavigationCall.isName_of_filter? (refinements call inCalls) asked
  have keysNamed : ∀ key ∈ calls.filterMap NavigationCall.sortKey?, key.field.IsName := by
    intro key member
    obtain ⟨call, inCalls, asked⟩ := List.mem_filterMap.mp member
    exact NavigationCall.isName_of_sortKey? (refinements call inCalls) asked
  rw [Reference.refinedBy_of_unrefined unrefined] at isDocument stillCollection ⊢
  obtain ⟨sorted, found, distinct, members, inOrder⟩ := exists_run reached.located
    ⟨collection.segments, calls.filterMap NavigationCall.filter?,
      calls.filterMap NavigationCall.sortKey?, (calls.filterMap NavigationCall.limit?).getLast?⟩
    filtersNamed keysNamed orders
  refine ⟨sorted, ?_, distinct, fun document => ?_, inOrder⟩
  · rw [read, Query.read, isDocument, stillCollection, found]
    rfl
  · rw [members, IsCandidate, and_assoc, and_assoc]

/-- A store of three people, one of them with a letter. -/
def people : Store Unit :=
  ofDocuments [⟨["people", "bob"], [(("age" : Text), .int 36)]⟩,
    ⟨["people", "bob", "letters", "first"], [(("age" : Text), .int 99)]⟩,
    ⟨["people", "eve"], [(("age" : Text), .int 41)]⟩,
    ⟨["people", "ada"], [(("age" : Text), .int 36)]⟩]

/-- The oldest two people above twenty. -/
def oldest : List NavigationCall :=
  [.orderBy ("age" : Text) ("desc" : Text), .limit (.int 5),
    .filter ("age" : Text) (">" : Text) (.int 20), .limit (.int 2)]

theorem reached_people : people.Reached := by
  have seeded : ofSeed [("people/bob", .map [(("age" : Text), .int 36)]),
      ("people/bob/letters/first", .map [(("age" : Text), .int 99)]),
      ("people/eve", .map [(("age" : Text), .int 41)]),
      ("people/ada", .map [(("age" : Text), .int 36)])] = .ok people := by rfl
  exact .seeded seeded

theorem read_refinements_people :
    ∃ reference sorted, (Reference.plain ["people"]).callAll oldest = .ok reference ∧
      people.read reference =
        .ok (.query ((cutTo (some 2) sorted).map StoredDocument.snapshot)) ∧
      sorted.Pairwise (Precedes [⟨("age" : Text), .descending⟩]) := by
  have accepted : (Reference.plain ["people"]).callAll oldest =
      .ok ((Reference.plain ["people"]).refinedBy oldest) := by rfl
  have refinements : ∀ call ∈ oldest, call.IsRefinement := by
    intro call member
    simp only [oldest, List.mem_cons, List.not_mem_nil, or_false] at member
    rcases member with rfl | rfl | rfl | rfl
    · exact ⟨_, rfl⟩
    · trivial
    · exact ⟨_, rfl⟩
    · trivial
  have integers : ∀ document ∈ people.documents,
      ((document.valueAt ("age" : Text)).bind Value.asInt?).isSome := by decide
  obtain ⟨sorted, found, _, _, inOrder⟩ := read_refinements reached_people (by rfl) (by rfl)
    refinements accepted (by
      intro key member
      have same : key = ⟨("age" : Text), .descending⟩ := List.mem_singleton.mp member
      rw [same]
      refine Value.orders_integers.comap ?_
      rintro value ⟨document, candidate, there⟩
      have counted := integers document candidate.1
      rwa [there, Option.bind_some] at counted)
  exact ⟨_, sorted, accepted, found, inOrder⟩

end Store

end DocQuery
