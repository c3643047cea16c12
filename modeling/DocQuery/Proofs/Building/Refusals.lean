/-
This file says what building a query, and asking what was built once, can fail with.

Both mean to fail in the library's own families: building by a refusal of the store or of a
misplaced expression, asking by a missing document or a refusal of the store. Some values slip
through, since they are used before anybody looks at their kind. A list or a map in the place of an
operator cannot even be looked up among the operators; an operator or a limit that is refused is
quoted, and some are not written; and a filter or a sort key on a field that is no name cannot be
followed into a document. So a failure is of another family exactly if such an operator or limit is met
by the walk, or such a field by a read that has a document for it.
-/

import DocQuery.Live.Perform
import DocQuery.Proofs.Building.Classifying
import DocQuery.Proofs.Value.Limits

namespace DocQuery

open Component

/-! ### Places in a list -/

/-- A place in a longer list is its start or a place behind it. -/
theorem exists_place_cons_iff {α : Type} {first : α} {rest : List α} {holds : List α → α → Prop} :
    (∃ earlier item later, first :: rest = earlier ++ item :: later ∧ holds earlier item) ↔
      holds [] first ∨
        ∃ earlier item later, rest = earlier ++ item :: later ∧ holds (first :: earlier) item := by
  constructor
  · rintro ⟨_ | ⟨other, others⟩, item, later, split, there⟩
    · obtain ⟨rfl, rfl⟩ := List.cons.inj split
      exact .inl there
    · obtain ⟨rfl, rfl⟩ := List.cons.inj split
      exact .inr ⟨others, item, later, rfl, there⟩
  · rintro (there | ⟨earlier, item, later, rfl, there⟩)
    · exact ⟨[], first, rest, rfl, there⟩
    · exact ⟨first :: earlier, item, later, rfl, there⟩

/-! ### Walks that fail -/

namespace Navigation

variable {σ ρ : Type}

theorem moved_eq_error_iff {cursor : Cursor ρ} {expecting : Bool} {reached : Except Failure ρ × σ}
    {failure : Failure} :
    (moved cursor expecting reached).outcome = .error failure ↔ reached.1 = .error failure := by
  obtain ⟨_ | _, after⟩ := reached <;> simp [moved]

/-- A walk over more components goes on where the one over the first of them ended. -/
theorem outcome_walk_append (navigation : Navigation σ ρ) (mode : BuildMode)
    (before after : List Component) (cursor : Cursor ρ) (state : σ) :
    (navigation.walk mode (before ++ after) cursor state).outcome =
      (navigation.walk mode before cursor state).outcome.bind fun next =>
        (navigation.walk mode after next
          (navigation.walk mode before cursor state).state).outcome := by
  induction before generalizing cursor state with
  | nil => rfl
  | cons component rest inductionHypothesis =>
    rw [List.cons_append, walk, walk]
    obtain ⟨outcome, notices, state⟩ := navigation.step mode component cursor state
    cases outcome with
    | error failure => rfl
    | ok next => exact inductionHypothesis next state

/-- A walk fails where one of its steps does, behind a walk that does not. -/
theorem walk_eq_error_iff (navigation : Navigation σ ρ) {mode : BuildMode}
    {components : List Component} {cursor : Cursor ρ} {state : σ} {failure : Failure} :
    (navigation.walk mode components cursor state).outcome = .error failure ↔
      ∃ before component after next, components = before ++ component :: after ∧
        (navigation.walk mode before cursor state).outcome = .ok next ∧
        (navigation.step mode component next
          (navigation.walk mode before cursor state).state).outcome = .error failure := by
  have first (component : Component) (rest : List Component) (next : Cursor ρ) (state : σ) :
      (navigation.walk mode (component :: rest) next state).outcome =
        (navigation.step mode component next state).outcome.bind fun reached =>
          (navigation.walk mode rest reached
            (navigation.step mode component next state).state).outcome := by
    rw [walk]
    obtain ⟨_ | _, notices, after⟩ := navigation.step mode component next state <;> rfl
  constructor
  · intro failed
    induction components using List.reverseRecOn generalizing failure with
    | nil => cases failed
    | append_singleton components component inductionHypothesis =>
      rw [outcome_walk_append] at failed
      cases walked : (navigation.walk mode components cursor state).outcome with
      | error refusal =>
        rw [walked] at failed
        cases failed
        obtain ⟨before, other, after, next, rfl, rest⟩ := inductionHypothesis walked
        exact ⟨before, other, after ++ [component], next,
          by rw [List.append_assoc, List.cons_append], rest⟩
      | ok next =>
        rw [walked, Except.bind, first] at failed
        refine ⟨components, component, [], next, rfl, walked, ?_⟩
        cases stepped : (navigation.step mode component next
            (navigation.walk mode components cursor state).state).outcome with
        | error refusal =>
          rw [stepped] at failed
          exact failed
        | ok reached =>
          rw [stepped] at failed
          cases failed
  · rintro ⟨before, component, after, next, rfl, walked, refused⟩
    rw [outcome_walk_append, walked, Except.bind, first, refused]
    rfl

end Navigation

/-! ### Refinements that are refused in another way -/

/-- A value that no table can be searched for. -/
def Value.IsContainer : Value → Prop
  | .list _ | .map _ => True
  | _ => False

/-- A refusal that quotes a value is one of a store, unless the value is not written. -/
theorem Failure.family_quoting_store (value : Value) (cause : StoreCause) (path : Option Value) :
    (quoting Json.nestingLimit value (.store cause path)).family = .store ∨
      ∃ fault, value.textFault? Json.nestingLimit = some fault ∧
        quoting Json.nestingLimit value (.store cause path) = fault.failure := by
  rw [quoting]
  cases value.textFault? Json.nestingLimit with
  | none => exact .inl rfl
  | some fault => exact .inr ⟨fault, rfl, rfl⟩

theorem Failure.quoting_of_textFault? {value : Value} {fault : TextFault}
    (unwritten : value.textFault? Json.nestingLimit = some fault) (failure : Failure) :
    quoting Json.nestingLimit value failure = fault.failure := by
  rw [quoting, unwritten]

/-- What a value that names no operator does to building, if it is not refused as a store does. -/
inductive Value.Unnames : Value → Failure → Prop
  /-- It cannot be looked up. -/
  | container {operator : Value} (container : operator.IsContainer) :
      Unnames operator (.unsuitable operator)
  /-- It has too many digits to be quoted. -/
  | long {number : Int} (long : ¬ IsShort number) :
      Unnames (.int number) TextFault.tooManyDigits.failure

/-- A refinement that a collection refuses by a failure that is none of a store: of an operator that
cannot be looked up, or of the quoting of an operator or a limit. -/
inductive Refinement.Confounds : Refinement → Failure → Prop
  | filter {field operator value : Value} {failure : Failure}
      (unnames : operator.Unnames failure) : Confounds (.filter field operator value) failure
  | limit {count : Value} {fault : TextFault}
      (uncounted : ∀ number : Int, 1 ≤ number → count ≠ .int number)
      (unwritten : count.textFault? Json.nestingLimit = some fault) :
      Confounds (.limit count) fault.failure

namespace Reference

theorem operatorNamed_eq_error {operator : Value} {path : Text} {failure : Failure}
    (unnamed : operatorNamed operator path = .error failure) :
    failure.family = .store ∨ operator.Unnames failure := by
  cases operator with
  | list items =>
    cases unnamed
    exact .inr (.container trivial)
  | map entries =>
    cases unnamed
    exact .inr (.container trivial)
  | text symbol =>
    rw [operatorNamed] at unnamed
    split at unnamed
    · cases unnamed
    · cases unnamed
      rw [unknownOperator, Failure.quoting_text]
      exact .inl rfl
  | int number =>
    cases unnamed
    refine (Failure.family_quoting_store _ _ _).imp_right ?_
    rintro ⟨fault, unwritten, same⟩
    rw [Value.textFault?, TextFault.ofInt?, Option.ite_none_right_eq_some] at unwritten
    obtain ⟨long, found⟩ := unwritten
    cases found
    rw [unknownOperator, same]
    exact .long (Nat.not_le_of_lt long)
  | _ =>
    cases unnamed
    exact .inl rfl

theorem operatorNamed_of_unnames {operator : Value} {failure : Failure}
    (unnames : operator.Unnames failure) (path : Text) :
    operatorNamed operator path = .error failure := by
  cases unnames with
  | container container =>
    cases operator with
    | list items => rfl
    | map entries => rfl
    | _ => exact container.elim
  | long long =>
    have unwritten : Value.textFault? Json.nestingLimit (.int _) = some .tooManyDigits :=
      if_pos (Nat.lt_of_not_le long)
    exact congrArg Except.error (Failure.quoting_of_textFault? unwritten _)

theorem limitCount_of_uncounted {count : Value}
    (uncounted : ∀ number : Int, 1 ≤ number → count ≠ .int number) (path : Text) :
    limitCount count path = .error (badLimit count path) := by
  cases count with
  | int number => exact if_neg fun positive => uncounted number positive rfl
  | _ => rfl

theorem limitCount_eq_error {count : Value} {path : Text} {failure : Failure}
    (refused : limitCount count path = .error failure) :
    failure.family = .store ∨ (Refinement.limit count).Confounds failure := by
  have uncounted (number : Int) (positive : 1 ≤ number) : count ≠ .int number := by
    rintro rfl
    rw [limitCount, if_pos positive] at refused
    cases refused
  rw [limitCount_of_uncounted uncounted] at refused
  cases refused
  refine (Failure.family_quoting_store _ _ _).imp_right ?_
  rintro ⟨fault, unwritten, same⟩
  rw [badLimit, same]
  exact .limit uncounted unwritten

/-- A collection refuses a refinement as a store does, unless the refinement confounds it. -/
theorem refine_eq_error {reference : Reference} (collection : reference.isCollection = true)
    {refinement : Refinement} {failure : Failure}
    (refused : reference.refine refinement = .error failure) :
    failure.family = .store ∨ refinement.Confounds failure := by
  have required (operation : String) : requireCollection operation reference = .ok () := by
    rw [requireCollection, if_pos collection]
  cases refinement with
  | filter field operator value =>
    rw [refine, filter, required] at refused
    cases named : operatorNamed operator reference.path with
    | error unnamed =>
      rw [named] at refused
      cases refused
      exact (operatorNamed_eq_error named).imp_right .filter
    | ok found =>
      rw [named] at refused
      dsimp only at refused
      split at refused
      · cases refused
        exact .inl rfl
      · cases refused
  | limit count =>
    rw [refine, limitTo, required] at refused
    cases counted : limitCount count reference.path with
    | error uncounted =>
      rw [counted] at refused
      cases refused
      exact limitCount_eq_error counted
    | ok number =>
      rw [counted] at refused
      cases refused
  | order field direction =>
    rw [refine, orderBy, required] at refused
    cases refused

theorem refine_of_confounds {reference : Reference} (collection : reference.isCollection = true)
    {refinement : Refinement} {failure : Failure} (confounds : refinement.Confounds failure) :
    reference.refine refinement = .error failure := by
  cases confounds with
  | filter unnames =>
    rw [refine, filter, requireCollection, if_pos collection, operatorNamed_of_unnames unnames]
  | limit uncounted unwritten =>
    rw [refine, limitTo, requireCollection, if_pos collection, limitCount_of_uncounted uncounted,
      badLimit, Failure.quoting_of_textFault? unwritten]

/-- Refinements of a collection fail where the first that is not acceptable does. -/
theorem refineAll_eq_error_iff {reference : Reference} (collection : reference.isCollection = true)
    {refinements : List Refinement} {failure : Failure} :
    (navigation.refineAll refinements reference ()).1 = .error failure ↔
      ∃ earlier refinement later, refinements = earlier ++ refinement :: later ∧
        (∀ other ∈ earlier, other.IsAcceptable) ∧
        (reference.refinedBy (earlier.map Refinement.call)).refine refinement = .error failure := by
  induction refinements generalizing reference with
  | nil => simp [Navigation.refineAll]
  | cons first rest inductionHypothesis =>
    rw [Navigation.refineAll, exists_place_cons_iff, List.map_nil, refinedBy_nil]
    cases once : reference.refine first with
    | error refusal =>
      have unacceptable : ¬ first.IsAcceptable := by
        intro acceptable
        rw [(refine_eq_ok_iff collection first).mpr ⟨acceptable, rfl⟩] at once
        cases once
      simp [navigation, once, unacceptable]
    | ok next =>
      obtain ⟨acceptable, rfl⟩ := (refine_eq_ok_iff collection first).mp once
      have still : (reference.refinedBy [first.call]).isCollection = true := collection
      have further := inductionHypothesis still
      simp only [navigation, once, refinedBy_append] at further ⊢
      simp only [further, List.forall_mem_cons, acceptable, true_and, List.map_cons,
        List.singleton_append, List.not_mem_nil, false_implies, implies_true, reduceCtorEq,
        false_or]

end Reference

/-! ### Failures of building -/

namespace Reference

theorem family_of_segmentName {name : Text} {failure : Failure}
    (refused : segmentName (.text name) = .error failure) : failure.family = .store := by
  rw [segmentName, badSegment, Failure.quoting_text] at refused
  dsimp only [Value.asText?] at refused
  split at refused
  · cases refused
    rfl
  · cases refused

theorem family_of_collection {name : Text} {reference : Reference} {failure : Failure}
    (refused : reference.collection (.text name) = .error failure) : failure.family = .store := by
  rw [collection] at refused
  split at refused
  · next unnamed =>
    cases refused
    exact family_of_segmentName unnamed
  · split at refused
    · cases refused
      rfl
    · cases refused

theorem family_of_document {name : Text} {reference : Reference} {failure : Failure}
    (refused : reference.document (.text name) = .error failure) : failure.family = .store := by
  rw [document] at refused
  split at refused
  · next unnamed =>
    cases refused
    exact family_of_segmentName unnamed
  · split at refused
    · cases refused
      rfl
    · cases refused

end Reference

/-- A failure that building is meant to have: a refusal of the store, or of a collection expression
that is misplaced. -/
def Failure.IsOfBuilding (failure : Failure) : Prop :=
  failure.family = .store ∨ failure.family = .refinement

/-- What confounds a refinement is no failure that building is meant to have. -/
theorem Refinement.Confounds.not_isOfBuilding {refinement : Refinement} {failure : Failure}
    (confounds : refinement.Confounds failure) : ¬ failure.IsOfBuilding := by
  have unmeant (fault : TextFault) : ¬ fault.failure.IsOfBuilding := by
    rintro (same | same) <;> cases fault <;> cases same
  cases confounds with
  | filter unnames =>
    cases unnames with
    | container container => rintro (same | same) <;> cases same
    | long long => exact unmeant _
  | limit uncounted unwritten => exact unmeant _

/-- Building a query comes to a refinement that confounds it: what stands before it in the query is
built, it refines a collection, and the refinements before it are acceptable. -/
def Component.MeetsConfounding (mode : BuildMode) (components : List Component)
    (failure : Failure) : Prop :=
  ∃ before earlier refinement later after,
    components = before ++ .collectionExpression (earlier ++ refinement :: later) :: after ∧
      (∃ built, (Reference.build mode before).outcome = .ok built) ∧
      literalCount before % 2 = 1 ∧ (∀ other ∈ earlier, other.IsAcceptable) ∧
      refinement.Confounds failure

namespace Navigation

/-- A step fails as building is meant to, unless a refinement confounds it. -/
theorem step_eq_error {mode : BuildMode} {component : Component} {cursor : Cursor Reference}
    {failure : Failure}
    (failed : (Reference.navigation.step mode component cursor ()).outcome = .error failure) :
    failure.IsOfBuilding ∨ cursor.reference.isCollection = true ∧
      ∃ earlier refinement later,
        component = .collectionExpression (earlier ++ refinement :: later) ∧
          (∀ other ∈ earlier, other.IsAcceptable) ∧ refinement.Confounds failure := by
  cases component with
  | literal name =>
    have refused := moved_eq_error_iff.mp failed
    rw [enter] at refused
    split at refused
    · exact .inl (.inl (Reference.family_of_collection refused))
    · exact .inl (.inl (Reference.family_of_document refused))
  | all => cases failed
  | documentExpression fields => cases failed
  | collectionExpression refinements =>
    rw [step] at failed
    split at failed
    · next collection =>
      obtain ⟨earlier, refinement, later, rfl, acceptable, refused⟩ :=
        (Reference.refineAll_eq_error_iff collection).mp (moved_eq_error_iff.mp failed)
      rcases Reference.refine_eq_error (by exact collection) refused with store | confounds
      · exact .inl (.inl store)
      · exact .inr ⟨collection, earlier, refinement, later, rfl, acceptable, confounds⟩
    · cases mode with
      | permissive => cases failed
      | strict =>
        cases failed
        exact .inl (.inr rfl)

end Navigation

namespace Reference

theorem build_eq_ok_of_walk {mode : BuildMode} {components : List Component}
    {last : Cursor Reference}
    (walked : (navigation.walk mode components (.start .root) ()).outcome = .ok last) :
    (build mode components).outcome = .ok ⟨last.reference, last.projection⟩ := by
  rw [build_outcome, walked]
  rfl

theorem build_eq_error_iff {mode : BuildMode} {components : List Component} {failure : Failure} :
    (build mode components).outcome = .error failure ↔
      (navigation.walk mode components (.start .root) ()).outcome = .error failure := by
  rw [build_outcome]
  cases (navigation.walk mode components (.start .root) ()).outcome <;> simp [Except.map]

/-- A walk has come to a collection exactly behind an odd number of literals. -/
theorem isCollection_of_walk {mode : BuildMode} {components : List Component}
    {last : Cursor Reference}
    (walked : (navigation.walk mode components (.start .root) ()).outcome = .ok last) :
    last.reference.isCollection = (literalCount components % 2 == 1) := by
  have stands : last.reference.StandsAt (literals components) :=
    Navigation.stands_of_walk stands_root walked
  rw [isCollection, stands.segments, Segments.isCollection, length_literals]

/-- Building fails as it is meant to, or at a refinement that confounds it. -/
theorem build_eq_error {mode : BuildMode} {components : List Component} {failure : Failure}
    (failed : (build mode components).outcome = .error failure) :
    failure.IsOfBuilding ∨ MeetsConfounding mode components failure := by
  obtain ⟨before, component, after, next, rfl, walked, refused⟩ :=
    (Navigation.walk_eq_error_iff _).mp (build_eq_error_iff.mp failed)
  rcases Navigation.step_eq_error refused with
    meant | ⟨collection, earlier, refinement, later, rfl, acceptable, confounds⟩
  · exact .inl meant
  · refine .inr ⟨before, earlier, refinement, later, after, rfl,
      ⟨_, build_eq_ok_of_walk walked⟩, ?_, acceptable, confounds⟩
    rw [isCollection_of_walk walked] at collection
    exact beq_iff_eq.mp collection

/-- A refinement that confounds building ends it where it is met. -/
theorem build_of_meetsConfounding {mode : BuildMode} {components : List Component}
    {failure : Failure} (meets : MeetsConfounding mode components failure) :
    (build mode components).outcome = .error failure := by
  obtain ⟨before, earlier, refinement, later, after, rfl, ⟨built, accepted⟩, odd, acceptable,
    confounds⟩ := meets
  rw [build_eq_error_iff, Navigation.walk_eq_error_iff]
  cases walked : (navigation.walk mode before (.start .root) ()).outcome with
  | error failure =>
    rw [build_eq_error_iff.mpr walked] at accepted
    cases accepted
  | ok next =>
    refine ⟨before, _, after, next, rfl, walked, ?_⟩
    have collection : next.reference.isCollection = true := by
      rw [isCollection_of_walk walked, odd]
      rfl
    rw [Navigation.step, show navigation.isCollection next.reference = true from collection,
      if_pos rfl, Navigation.moved_eq_error_iff]
    have refined : (next.reference.refinedBy (earlier.map Refinement.call)).isCollection = true :=
      collection
    exact (refineAll_eq_error_iff collection).mpr ⟨earlier, refinement, later, rfl, acceptable,
      refine_of_confounds refined confounds⟩

end Reference

/-! ### Fields that cannot be followed -/

/-- A value is no name by a failure that is none of the library's own. -/
theorem Value.isOwn_of_toName {field : Value} {failure : Failure}
    (nameless : field.toName = .error failure) : failure.isOwn = false := by
  cases field <;> cases nameless <;> rfl

/-- A read of a collection follows a field into a document. -/
inductive Query.Follows (documents : List StoredDocument) (reference : Reference) (field : Value) :
    Prop
  /-- By a filter: the document passes the filters before it. -/
  | filter (earlier : List Filter) (filter : Filter) (later : List Filter)
      (document : StoredDocument) (asked : reference.filters = earlier ++ filter :: later)
      (same : filter.field = field) (member : document ∈ documents)
      (inside : document.IsIn reference.segments) (passes : Passes earlier document)
  /-- By a sort key: the filters and the keys behind it answer with documents. -/
  | order (earlier : List SortKey) (key : SortKey) (later : List SortKey)
      (sorted : List StoredDocument) (asked : reference.orders = earlier ++ key :: later)
      (same : key.field = field)
      (answered : run documents { reference with orders := later, limit := none } = .ok sorted)
      (some : sorted ≠ [])

namespace Query

theorem admits_eq_error_iff {filter : Filter} (data : Entries) {failure : Failure} :
    filter.admits data = .error failure ↔ filter.field.toName = .error failure := by
  rw [Filter.admits, Value.resolveField]
  cases filter.field.toName with
  | error refusal => simp [Except.map]
  | ok name =>
    rw [Except.map]
    cases Value.resolve name (.map data) <;> simp

/-- Asking a document fails at the first filter on no name, if it passes those before it. -/
theorem passesAll_eq_error_iff {document : StoredDocument} {filters : List Filter}
    {failure : Failure} :
    passesAll document filters = .error failure ↔
      ∃ earlier filter later, filters = earlier ++ filter :: later ∧ Passes earlier document ∧
        filter.field.toName = .error failure := by
  induction filters with
  | nil => simp [passesAll]
  | cons first rest inductionHypothesis =>
    have passes (earlier : List Filter) : Passes (first :: earlier) document ↔
        first.admits document.data = .ok true ∧ Passes earlier document := List.forall_mem_cons
    have none : Passes [] document := fun _ member => absurd member List.not_mem_nil
    rw [passesAll, exists_place_cons_iff, ← admits_eq_error_iff document.data]
    simp only [none, true_and, passes]
    cases first.admits document.data with
    | error refusal => simp
    | ok admitted =>
      cases admitted with
      | false => simp
      | true => simp [inductionHypothesis]

/-- Keeping the documents that pass fails where asking one of them does. -/
theorem exists_of_keepPassing_eq_error {filters : List Filter} {documents : List StoredDocument}
    {failure : Failure} (failed : keepPassing filters documents = .error failure) :
    ∃ document ∈ documents, passesAll document filters = .error failure := by
  induction documents with
  | nil => cases failed
  | cons first rest inductionHypothesis =>
    rw [keepPassing] at failed
    split at failed
    · next asked =>
      cases failed
      exact ⟨first, List.mem_cons_self, asked⟩
    · split at failed
      · next further =>
        cases failed
        obtain ⟨document, member, asked⟩ := inductionHypothesis further
        exact ⟨document, List.mem_cons_of_mem first member, asked⟩
      · cases failed

theorem exists_keepPassing_eq_error {filters : List Filter} {documents : List StoredDocument}
    {document : StoredDocument} (member : document ∈ documents) {failure : Failure}
    (failed : passesAll document filters = .error failure) :
    ∃ first, keepPassing filters documents = .error first := by
  induction documents with
  | nil => cases member
  | cons other rest inductionHypothesis =>
    rw [keepPassing]
    rcases List.mem_cons.mp member with rfl | later
    · rw [failed]
      exact ⟨failure, rfl⟩
    · obtain ⟨first, further⟩ := inductionHypothesis later
      rw [further]
      cases passesAll other filters <;> exact ⟨_, rfl⟩

/-- Looking up a field fails exactly if it is no name and there is a document. -/
theorem withField_eq_error_iff {field : Value} {documents : List StoredDocument}
    {failure : Failure} :
    withField field documents = .error failure ↔
      documents ≠ [] ∧ field.toName = .error failure := by
  cases documents with
  | nil => simp [withField]
  | cons document rest =>
    cases named : field.toName with
    | error refusal => simp [withField, Value.resolveField, named, Except.map]
    | ok name =>
      obtain ⟨keyed, found, -⟩ := exists_withField ⟨name, named⟩ (document :: rest)
      simp [found]

/-- Sorting by a key fails on values without an order, or by looking up a field that is no name. -/
theorem sortByKey_eq_error {path : Text} {key : SortKey} {documents : List StoredDocument}
    {failure : Failure} (failed : sortByKey path key documents = .error failure) :
    failure = unorderable key.field path ∨ documents ≠ [] ∧ key.field.toName = .error failure := by
  rw [sortByKey] at failed
  split at failed
  · next looked =>
    cases failed
    exact .inr (withField_eq_error_iff.mp looked)
  · split at failed
    · cases failed
      exact .inl rfl
    · cases failed

theorem sortByKey_of_nameless {path : Text} {key : SortKey} {documents : List StoredDocument}
    (some : documents ≠ []) {failure : Failure} (nameless : key.field.toName = .error failure) :
    sortByKey path key documents = .error failure := by
  rw [sortByKey, withField_eq_error_iff.mpr ⟨some, nameless⟩]

/-- Sorting by keys fails on values without an order, or at a key on no name that finds documents. -/
theorem sortByKeys_eq_error {path : Text} {keys : List SortKey} {documents : List StoredDocument}
    {failure : Failure} (failed : sortByKeys path keys documents = .error failure) :
    (∃ field, failure = unorderable field path) ∨
      ∃ earlier key later, keys = earlier ++ key :: later ∧
        ∃ sorted, sortByKeys path later documents = .ok sorted ∧ sorted ≠ [] ∧
          key.field.toName = .error failure := by
  induction keys with
  | nil => cases failed
  | cons first rest inductionHypothesis =>
    rw [sortByKeys] at failed
    split at failed
    · next behind =>
      cases failed
      refine (inductionHypothesis behind).imp_right ?_
      rintro ⟨earlier, key, later, rfl, found⟩
      exact ⟨first :: earlier, key, later, rfl, found⟩
    · next sorted behind =>
      exact (sortByKey_eq_error failed).imp (fun same => ⟨first.field, same⟩) fun nameless =>
        ⟨[], first, rest, rfl, sorted, behind, nameless⟩

theorem sortByKeys_of_nameless {path : Text} {earlier later : List SortKey} {key : SortKey}
    {documents sorted : List StoredDocument}
    (behind : sortByKeys path later documents = .ok sorted) (some : sorted ≠ []) {failure : Failure}
    (nameless : key.field.toName = .error failure) :
    sortByKeys path (earlier ++ key :: later) documents = .error failure := by
  induction earlier with
  | nil =>
    rw [List.nil_append, sortByKeys, behind]
    exact sortByKey_of_nameless some nameless
  | cons first rest inductionHypothesis => rw [List.cons_append, sortByKeys, inductionHypothesis]

/-- A collection is answered without a limit if the filters and the sorting are. -/
theorem run_unlimited_eq_ok_iff {documents sorted : List StoredDocument} {reference : Reference}
    {orders : List SortKey} :
    run documents { reference with orders := orders, limit := none } = .ok sorted ↔
      ∃ kept, keepPassing reference.filters
          (sortById (documents.filter (StoredDocument.liesIn reference.segments))) = .ok kept ∧
        sortByKeys reference.path orders kept = .ok sorted := by
  have path : ({ reference with orders := orders, limit := none } : Reference).path =
    reference.path := rfl
  rw [run, path]
  cases keepPassing reference.filters
      (sortById (documents.filter (StoredDocument.liesIn reference.segments))) with
  | error failure => simp
  | ok kept =>
    cases sorting : sortByKeys reference.path orders kept <;> simp [sorting, cutTo]

theorem mem_children_iff {documents : List StoredDocument} {collection : Segments}
    {document : StoredDocument} :
    document ∈ sortById (documents.filter (StoredDocument.liesIn collection)) ↔
      document ∈ documents ∧ document.IsIn collection := by
  rw [(perm_sortById _).mem_iff, List.mem_filter, StoredDocument.liesIn_iff]

/-- Answering a collection fails on values without an order, or by following a field that is no
name. -/
theorem run_eq_error {documents : List StoredDocument} {reference : Reference} {failure : Failure}
    (failed : run documents reference = .error failure) :
    (∃ field, failure = unorderable field reference.path) ∨
      ∃ field, Follows documents reference field ∧ field.toName = .error failure := by
  rw [run] at failed
  split at failed
  · next asked =>
    cases failed
    obtain ⟨document, member, unanswered⟩ := exists_of_keepPassing_eq_error asked
    obtain ⟨earlier, filter, later, split, passes, nameless⟩ :=
      passesAll_eq_error_iff.mp unanswered
    obtain ⟨there, inside⟩ := mem_children_iff.mp member
    exact .inr ⟨filter.field,
      .filter earlier filter later document split rfl there inside passes, nameless⟩
  · next kept asked =>
    split at failed
    · next unsorted =>
      cases failed
      refine (sortByKeys_eq_error unsorted).imp_right ?_
      rintro ⟨earlier, key, later, split, sorted, behind, some, nameless⟩
      exact ⟨key.field, .order earlier key later sorted split rfl
        (run_unlimited_eq_ok_iff.mpr ⟨kept, asked, behind⟩) some, nameless⟩
    · cases failed

/-- Answering a collection fails by another kind of failure where it follows a field that is no
name. -/
theorem run_of_follows {documents : List StoredDocument} {reference : Reference} {field : Value}
    (follows : Follows documents reference field) (nameless : ¬ field.IsName) :
    ∃ failure, run documents reference = .error failure ∧ failure.isOwn = false := by
  obtain ⟨refusal, unnamed⟩ : ∃ refusal, field.toName = .error refusal := by
    cases named : field.toName with
    | error refusal => exact ⟨refusal, rfl⟩
    | ok name => exact absurd ⟨name, named⟩ nameless
  cases follows with
  | filter earlier filter later document asked same member inside passes =>
    have unanswered : passesAll document reference.filters = .error refusal :=
      passesAll_eq_error_iff.mpr ⟨earlier, filter, later, asked, passes, same ▸ unnamed⟩
    obtain ⟨first, failed⟩ :=
      exists_keepPassing_eq_error (mem_children_iff.mpr ⟨member, inside⟩) unanswered
    obtain ⟨other, _, asking⟩ := exists_of_keepPassing_eq_error failed
    obtain ⟨_, _, _, _, _, cause⟩ := passesAll_eq_error_iff.mp asking
    refine ⟨first, ?_, Value.isOwn_of_toName cause⟩
    rw [run, failed]
  | order earlier key later sorted asked same answered some =>
    obtain ⟨kept, keeping, behind⟩ := run_unlimited_eq_ok_iff.mp answered
    refine ⟨refusal, ?_, Value.isOwn_of_toName unnamed⟩
    rw [run, keeping]
    dsimp only
    rw [asked, sortByKeys_of_nameless behind some (same ▸ unnamed)]

end Query

/-! ### Asking once -/

namespace World

variable {world : World} {name : Text} {store : Store Callback}

theorem askOnce_ofBuilt (there : world.store? name = some store) (components : List Component)
    (built : Built Reference) :
    world.askOnce (.ofBuilt name components built) =
      QueryResult.ofRead (classify components) built.reference.path built.projection
        (Query.read store.documents built.reference) := by
  simp only [askOnce, fetch, Aim.ofBuilt, World.store, there]
  rfl

end World

/-- Only a collection that is built has fields to be followed. -/
theorem Reference.StandsAt.isCollection_of_follows {reference : Reference} {names : Segments}
    (stands : reference.StandsAt names) {documents : List StoredDocument} {field : Value}
    (follows : Query.Follows documents reference field) : reference.isCollection = true := by
  by_contra other
  rw [stands.plain (Bool.not_eq_true _ ▸ other)] at follows
  cases follows with
  | filter earlier filter later _ asked => simp [Reference.plain] at asked
  | order earlier key later _ asked => simp [Reference.plain] at asked

namespace Query

/-- A read fails at the root, on values without an order, or by following a field that is no name. -/
theorem read_eq_error {documents : List StoredDocument} {reference : Reference} {failure : Failure}
    (failed : read documents reference = .error failure) :
    failure = .store .rootNotReadable (some reference.path) ∨
      (∃ field, failure = unorderable field reference.path) ∨
      ∃ field, Follows documents reference field ∧ field.toName = .error failure := by
  rw [read] at failed
  split at failed
  · split at failed <;> cases failed
  · split at failed
    · split at failed
      · next unanswered =>
        cases failed
        exact .inr (run_eq_error unanswered)
      · cases failed
    · cases failed
      exact .inl rfl

/-- A read of a reference does not fail by a wrong kind of snapshot. -/
theorem not_isMismatch_of_read {documents : List StoredDocument} {reference : Reference}
    {failure : Failure} (failed : read documents reference = .error failure) :
    ¬ failure.IsMismatch := by
  rcases read_eq_error failed with rfl | ⟨field, rfl⟩ | ⟨field, -, nameless⟩
  · exact nofun
  · exact nofun
  · rintro (path | path) <;> cases field <;> cases nameless

theorem read_of_run_eq_error {documents : List StoredDocument} {reference : Reference}
    (collection : reference.isCollection = true) {failure : Failure}
    (failed : run documents reference = .error failure) :
    read documents reference = .error failure := by
  have other : reference.isDocument = false := Segments.not_isDocument_of_isCollection collection
  rw [read, if_neg (by rw [other]; exact Bool.false_ne_true), if_pos collection, failed]

end Query

/-- What a query can fail with when it is built and then asked once of a store in memory. -/
structure Component.KnownFailures (mode : BuildMode) (components : List Component) : Prop where
  /-- Building fails as it is meant to, or at a refinement that confounds it. -/
  refused : ∀ failure, (Reference.build mode components).outcome = .error failure →
    failure.IsOfBuilding ∨ MeetsConfounding mode components failure
  /-- Such a refinement ends building with a failure of another kind. -/
  confounded : ∀ failure, MeetsConfounding mode components failure →
    (Reference.build mode components).outcome = .error failure ∧ ¬ failure.IsOfBuilding
  /-- Asking fails by a missing document or a refusal of the store, or by following a field that is
  no name. -/
  unanswered : ∀ built, (Reference.build mode components).outcome = .ok built →
    ∀ (world : World) (name : Text) (store : Store Callback), world.store? name = some store →
      ∀ failure, world.askOnce (.ofBuilt name components built) = .error failure →
        failure.isDeliverable = true ∨
          ∃ field, Query.Follows store.documents built.reference field ∧
            field.toName = .error failure
  /-- Such a field ends asking with a failure of another kind. -/
  strayed : ∀ built, (Reference.build mode components).outcome = .ok built →
    ∀ (world : World) (name : Text) (store : Store Callback), world.store? name = some store →
      ∀ field, Query.Follows store.documents built.reference field → ¬ field.IsName →
        ∃ failure, world.askOnce (.ofBuilt name components built) = .error failure ∧
          failure.isOwn = false

/-- Whatever the query and the store, a failure of another kind than is meant comes from an operator
that cannot be looked up, from the quoting of an operator or a limit that is not written, or from a
field that is no name, and each of these that is met gives one. -/
theorem Component.knownFailures (mode : BuildMode) (components : List Component) :
    KnownFailures mode components where
  refused _ failed := Reference.build_eq_error failed
  confounded _ meets := by
    have ⟨_, _, _, _, _, _, _, _, _, confounds⟩ := meets
    exact ⟨Reference.build_of_meetsConfounding meets, confounds.not_isOfBuilding⟩
  unanswered built _ world name store there failure failed := by
    rw [World.askOnce_ofBuilt there] at failed
    cases answered : Query.read store.documents built.reference with
    | ok snapshot =>
      rw [answered] at failed
      exact .inl (QueryResult.isDeliverable_of_ofSnapshot answered failed)
    | error refusal =>
      rw [answered] at failed
      cases failed
      rcases Query.read_eq_error answered with rfl | ⟨field, rfl⟩ | follows
      · exact .inl rfl
      · exact .inl rfl
      · exact .inr follows
  strayed built outcome world name store there field follows nameless := by
    have collection := (Reference.stands_of_build outcome).isCollection_of_follows follows
    obtain ⟨failure, failed, foreign⟩ := Query.run_of_follows follows nameless
    refine ⟨failure, ?_, foreign⟩
    rw [World.askOnce_ofBuilt there, Query.read_of_run_eq_error collection failed]
    rfl

/-- People, refined by a filter with a list for an operator. -/
def peopleByList : Value :=
  .list [.map [("type", .text "literal"), ("value", .text "people")],
    .map [("type", .text "collectionExpression"), ("components", .list
      [.map [("type", .text "where"), ("field", .text "age"), ("operator", .list []),
        ("value", .int 1)]])]]

/-- People, refined by a filter on a number. -/
def peopleByNumber : Value :=
  .list [.map [("type", .text "literal"), ("value", .text "people")],
    .map [("type", .text "collectionExpression"), ("components", .list
      [.map [("type", .text "where"), ("field", .int 5), ("operator", .text "=="),
        ("value", .int 1)]])]]

/-- A query that can be read can fail as building is not meant to, and another that is built can fail
as asking is not meant to. -/
theorem fails_otherwise :
    (∃ components, decodeQuery Json.nestingLimit peopleByList = .ok components ∧
      (Reference.build .permissive components).outcome = .error (.unsuitable (.list [])) ∧
      ¬ (Failure.unsuitable (.list [])).IsOfBuilding) ∧
    ∃ components built, decodeQuery Json.nestingLimit peopleByNumber = .ok components ∧
      (Reference.build .permissive components).outcome = .ok built ∧
      (World.ofStores .permissive
        [("store", .ofDocuments [⟨["people", "ada"], [("age", .int 36)]⟩])]).askOnce
          (.ofBuilt "store" components built) = .error (.unsupported (.int 5)) ∧
      (Failure.unsupported (.int 5)).isDeliverable = false := by
  refine ⟨⟨[.literal "people", .collectionExpression [.filter "age" (.list []) (.int 1)]], rfl, rfl,
    ?_⟩, [.literal "people", .collectionExpression [.filter (.int 5) "==" (.int 1)]],
    ⟨⟨["people"], [⟨.int 5, .equal, .int 1⟩], [], none⟩, .everything⟩, rfl, rfl, rfl, rfl⟩
  rintro (same | same) <;> cases same

end DocQuery
