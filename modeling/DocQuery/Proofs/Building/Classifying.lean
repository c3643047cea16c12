/-
This file proves that the kind of a query, what is built of it, and what a read of that gives agree.

The kind is read off the number of literals alone. Building stands a flag, which an `all` sets
again, and the store goes by the number of segments. What ties them together is one invariant of
walks, in either mode: the segments of the cursor are the literals so far, whatever the flag says.
So the three can only part where building fails. A cursor that is at no collection carries no
refinements, so the only reference without segments that is built is the root.

A read gives a document for a document and a list for a collection. So the result that is made of it,
for the kind of the query, cannot have met the wrong kind of snapshot.
-/

import DocQuery.Proofs.Building.Acceptance
import DocQuery.Proofs.Store.Reads

namespace DocQuery

open Component

/-! ### Segments of a walk -/

/-- What a walk over some components from the root stands at, in either mode. -/
structure Reference.StandsAt (reference : Reference) (names : Segments) : Prop where
  segments : reference.segments = names
  plain : reference.isCollection = false → reference = .plain names

namespace Reference

theorem stands_root : root.StandsAt [] := ⟨rfl, fun _ => rfl⟩

theorem stands_plain (segments : Segments) : (plain segments).StandsAt segments :=
  ⟨rfl, fun _ => rfl⟩

/-- What a literal opens stands one segment further on, whatever the cursor expects. -/
theorem StandsAt.enter {cursor : Cursor Reference} {names : Segments}
    (stands : cursor.reference.StandsAt names) {name : Text} {reached : Reference}
    (entered : (navigation.enter name cursor ()).1 = .ok reached) :
    reached.StandsAt (names ++ [name]) := by
  rw [← stands.segments]
  rw [Navigation.enter] at entered
  split at entered
  · obtain ⟨_, _, rfl⟩ := collection_eq_ok_iff.mp entered
    exact stands_plain _
  · obtain ⟨_, _, _, rfl⟩ := document_eq_ok_iff.mp entered
    exact stands_plain _

/-- Refinements are of collections only, and leave their segments. -/
theorem StandsAt.refined {reference refined : Reference} {names : Segments}
    (stands : reference.StandsAt names) (collection : reference.isCollection = true)
    {refinements : List Refinement}
    (accepted : (navigation.refineAll refinements reference ()).1 = .ok refined) :
    refined.StandsAt names := by
  obtain ⟨_, rfl⟩ := (refineAll_eq_ok_iff reference collection refinements).mp accepted
  refine ⟨stands.segments, fun other => ?_⟩
  rw [show (reference.refinedBy (refinements.map Refinement.call)).isCollection =
    reference.isCollection from rfl, collection] at other
  cases other

end Reference

namespace Navigation

variable {σ ρ : Type}

theorem exists_reached_of_moved {cursor next : Cursor ρ} {expecting : Bool}
    {reached : Except Failure ρ × σ}
    (moved : (moved cursor expecting reached).outcome = .ok next) :
    reached.1 = .ok next.reference := by
  obtain ⟨failure | reference, after⟩ := reached
  · cases moved
  · cases moved
    rfl

/-- A step adds the name of a literal, and no other component adds anything. -/
theorem stands_of_step {mode : BuildMode} {component : Component}
    {cursor next : Cursor Reference} {names : Segments} (stands : cursor.reference.StandsAt names)
    (stepped : (Reference.navigation.step mode component cursor ()).outcome = .ok next) :
    next.reference.StandsAt (names ++ literals [component]) := by
  cases component with
  | literal name => exact stands.enter (exists_reached_of_moved stepped)
  | all =>
    cases stepped
    exact (List.append_nil names).symm ▸ stands
  | documentExpression fields =>
    cases stepped
    exact (List.append_nil names).symm ▸ stands
  | collectionExpression refinements =>
    rw [show literals [.collectionExpression refinements] = [] from rfl, List.append_nil]
    rw [step] at stepped
    split at stepped
    · next collection => exact stands.refined collection (exists_reached_of_moved stepped)
    · cases mode <;> cases stepped
      exact stands

theorem stands_of_walk {mode : BuildMode} {components : List Component}
    {cursor last : Cursor Reference} {names : Segments} (stands : cursor.reference.StandsAt names)
    (walked : (Reference.navigation.walk mode components cursor ()).outcome = .ok last) :
    last.reference.StandsAt (names ++ literals components) := by
  induction components generalizing cursor names with
  | nil =>
    cases walked
    exact (List.append_nil names).symm ▸ stands
  | cons component rest inductionHypothesis =>
    rw [walk] at walked
    split at walked
    · cases walked
    · next next notices after stepped =>
      have further := inductionHypothesis (stands_of_step stands (congrArg Walked.outcome stepped))
        walked
      rw [List.append_assoc, literals, literals, ← List.filterMap_append] at further
      exact further

end Navigation

/-- What is built stands where the literals say, in either mode. -/
theorem Reference.stands_of_build {mode : BuildMode} {components : List Component}
    {built : Built Reference} (outcome : (build mode components).outcome = .ok built) :
    built.reference.StandsAt (literals components) := by
  rw [build_outcome] at outcome
  cases walked : (navigation.walk mode components (.start .root) ()).outcome with
  | error failure =>
    rw [walked] at outcome
    cases outcome
  | ok last =>
    rw [walked] at outcome
    cases outcome
    exact Navigation.stands_of_walk stands_root walked

/-! ### Kinds -/

/-- A query is of a type that suits a reference: one for collections on a collection, one for
documents on a document or on the root. -/
structure QueryType.Suits (type : QueryType) (reference : Reference) : Prop where
  collection : type = .collection ↔ reference.isCollection = true
  document : type = .document ↔ reference.isDocument = true ∨ reference = .root

/-- A location that is no collection is a document or the root. -/
theorem Segments.not_isCollection_iff {segments : Segments} :
    ¬ segments.isCollection = true ↔ segments.isDocument = true ∨ segments = [] := by
  cases segments with
  | nil => simp [isCollection]
  | cons name rest => simp [isCollection, isDocument]

theorem classify_eq_collection_iff (components : List Component) :
    classify components = .collection ↔ literalCount components % 2 = 1 := by
  rw [classify]
  split
  · next even => simp [even]
  · next odd => simpa using odd

/-- The kind of a query suits what stands where its literals say. -/
theorem Reference.StandsAt.suits {reference : Reference} {components : List Component}
    (stands : reference.StandsAt (literals components)) :
    (classify components).Suits reference := by
  have collection : classify components = .collection ↔ reference.isCollection = true := by
    rw [classify_eq_collection_iff, isCollection, stands.segments, Segments.isCollection,
      length_literals, beq_iff_eq]
  refine ⟨collection, ?_⟩
  have document :
      ¬ reference.isCollection = true ↔ reference.isDocument = true ∨ reference = .root := by
    rw [isCollection, Segments.not_isCollection_iff]
    refine or_congr_right ⟨fun empty => ?_, fun same => same ▸ rfl⟩
    have other : reference.isCollection = false := by
      rw [isCollection, empty]
      rfl
    rw [stands.plain other, ← stands.segments, empty]
    rfl
  rw [← document, ← collection]
  cases classify components <;> simp

/-! ### Snapshots of the wrong kind -/

/-- A failure by which a snapshot is not of the kind that its query is for. -/
inductive Failure.IsMismatch : Failure → Prop
  | document (path : Option Value) : IsMismatch (.store .documentExpected path)
  | collection (path : Option Value) : IsMismatch (.store .collectionExpected path)

/-- What was read of a reference is of the kind that a query that suits it is for. -/
theorem QueryResult.not_isMismatch_of_ofSnapshot {documents : List StoredDocument}
    {reference : Reference} {snapshot : Snapshot}
    (answered : Query.read documents reference = .ok snapshot) {type : QueryType}
    (suits : type.Suits reference) {path : Value} {projection : Projection} {failure : Failure}
    (failed : ofSnapshot type path projection snapshot = .error failure) :
    ¬ failure.IsMismatch := by
  rcases Query.shape_of_read answered with ⟨document, found⟩ | ⟨collection, found, rfl⟩
  · cases suits.document.mpr (.inl document)
    rcases found with ⟨data, rfl⟩ | rfl
    · have present : (DocumentSnapshot.stored reference.path data).present = true := rfl
      rw [ofSnapshot, ofDocument, if_pos present, Document.ofSnapshot_stored] at failed
      cases failed
    · cases failed
      intro mismatch
      cases mismatch
  · cases suits.collection.mpr collection
    obtain ⟨listed, known⟩ := exists_documentsOf projection.restriction found
    rw [ofSnapshot, ofCollection, known] at failed
    cases failed

end DocQuery
