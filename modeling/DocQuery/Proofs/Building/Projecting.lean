/-
This file says what a result keeps of the fields that a query lists.

Building leaves behind the list of the last document expression, and a flag that says whether
there was one. A result takes its mark from the flag and its data from the list alone. The two
agree for every list but the empty one: an empty list is taken for no list at all, so every field
is kept, and the result is marked all the same. In any other case the keys of the data are listed
names.
-/

import DocQuery.Builder
import DocQuery.Result

namespace DocQuery

/-! ### What a query lists -/

namespace Component

/-- The fields that a component lists. -/
def fields? : Component → Option (List Text)
  | .documentExpression fields => some fields
  | _ => none

/-- The fields that the last document expression of a query lists, if there is one. -/
def listed? (components : List Component) : Option (List Text) :=
  (components.filterMap fields?).getLast?

theorem listed?_cons (component : Component) (rest : List Component) :
    listed? (component :: rest) = (listed? rest).or component.fields? := by
  rw [listed?, listed?, List.filterMap_cons]
  cases component.fields? with
  | none => rw [Option.or_none]
  | some fields =>
    rw [List.getLast?_cons]
    cases (rest.filterMap fields?).getLast? <;> rfl

end Component

/-- The projection of a query that lists fields, or does not. -/
def Projection.ofListed : Option (List Text) → Projection
  | some fields => .onto fields
  | none => .everything

namespace Navigation

variable {σ ρ : Type}

theorem projection_of_moved {cursor next : Cursor ρ} {expecting : Bool}
    {reached : Except Failure ρ × σ}
    (moved : (moved cursor expecting reached).outcome = .ok next) :
    next.projection = cursor.projection := by
  obtain ⟨failure | reference, after⟩ := reached
  · cases moved
  · cases moved
    rfl

/-- Only a document expression changes the projection of a walk. -/
theorem projection_of_step (navigation : Navigation σ ρ) {mode : BuildMode}
    {component : Component} {cursor next : Cursor ρ} {state : σ}
    (stepped : (navigation.step mode component cursor state).outcome = .ok next) :
    next.projection = (component.fields?.map Projection.onto).getD cursor.projection := by
  cases component with
  | literal name => exact projection_of_moved stepped
  | all =>
    cases stepped
    rfl
  | collectionExpression refinements =>
    rw [step] at stepped
    split at stepped
    · exact projection_of_moved stepped
    · cases mode <;> cases stepped
      rfl
  | documentExpression fields =>
    cases stepped
    rfl

theorem projection_of_walk (navigation : Navigation σ ρ) {mode : BuildMode}
    {components : List Component} {cursor last : Cursor ρ} {state : σ}
    (walked : (navigation.walk mode components cursor state).outcome = .ok last) :
    last.projection =
      ((Component.listed? components).map Projection.onto).getD cursor.projection := by
  induction components generalizing cursor state with
  | nil =>
    cases walked
    rfl
  | cons component rest inductionHypothesis =>
    rw [walk] at walked
    split at walked
    · cases walked
    · next next notices after stepped =>
      have first := navigation.projection_of_step (congrArg Walked.outcome stepped)
      rw [inductionHypothesis walked, first, Component.listed?_cons]
      cases Component.listed? rest <;> rfl

/-- What is built has the projection to the fields that are listed last. -/
theorem projection_of_build (navigation : Navigation σ ρ) {mode : BuildMode} {root : ρ}
    {components : List Component} {state : σ} {built : Built ρ}
    (outcome : (navigation.build mode root components state).outcome = .ok built) :
    built.projection = .ofListed (Component.listed? components) := by
  rw [build] at outcome
  cases walked : (navigation.walk mode components (.start root) state).outcome with
  | error failure =>
    simp only [walked] at outcome
    cases outcome
  | ok last =>
    simp only [walked] at outcome
    cases outcome
    have projection := navigation.projection_of_walk walked
    dsimp only
    rw [projection]
    cases Component.listed? components <;> rfl

end Navigation

/-! ### What a document keeps -/

namespace Document

/-- The keys that selecting brings in are listed names. -/
theorem keys_select {source selected : Entries} {fields : List Text} {key : Key}
    (member : key ∈ Entries.keys (select source fields selected)) :
    key ∈ Entries.keys selected ∨ ∃ name ∈ fields, key = .text name := by
  induction fields generalizing selected with
  | nil => exact .inl member
  | cons name rest inductionHypothesis =>
    have later {entries : Entries} (known : key ∈ Entries.keys (select source rest entries))
        (before : key ∈ Entries.keys entries → key ∈ Entries.keys selected ∨ key = .text name) :
        key ∈ Entries.keys selected ∨ ∃ other ∈ name :: rest, key = .text other := by
      rcases inductionHypothesis known with earlier | ⟨other, listed, same⟩
      · refine (before earlier).imp_right fun same => ?_
        exact ⟨name, List.mem_cons_self, same⟩
      · exact .inr ⟨other, List.mem_cons_of_mem _ listed, same⟩
    rw [select] at member
    split at member
    · refine later member fun earlier => ?_
      rw [Entries.keys_insert] at earlier
      split at earlier
      · exact .inl earlier
      · exact (List.mem_append.mp earlier).imp_right List.mem_singleton.mp
    · exact later member .inl

theorem keys_restrict {source : Entries} {fields : List Text} (given : fields ≠ []) {key : Key}
    (member : key ∈ Entries.keys (restrict fields source)) : ∃ name ∈ fields, key = .text name := by
  cases fields with
  | nil => exact absurd rfl given
  | cons name rest => exact (keys_select member).resolve_left List.not_mem_nil

end Document

/-! ### What a result keeps -/

/-- Every key of a document is one of the fields. -/
def Document.KeepsTo (fields : List Text) (document : Document) : Prop :=
  ∀ key ∈ Entries.keys document.data, ∃ name ∈ fields, key = .text name

/-- Every key of a document is one of the fields, in all documents of a result. -/
def QueryResult.KeepsTo (fields : List Text) (result : QueryResult) : Prop :=
  ∀ document ∈ result.documents, document.KeepsTo fields

/-- What a result has of the fields that a query lists, if it lists any. -/
structure QueryResult.Heeds (listed : Option (List Text)) (result : QueryResult) : Prop where
  /-- It is marked exactly if there is a document expression. -/
  marked : result.projected = listed.isSome
  /-- It keeps to the fields of the last one exactly if they are not none, or there is no data. -/
  kept : ∀ fields, listed = some fields →
    (result.KeepsTo fields ↔ fields ≠ [] ∨ ∀ document ∈ result.documents, document.data = [])

namespace QueryResult

theorem exists_restrict {fields : List Text} {snapshot : DocumentSnapshot} {document : Document}
    (made : Document.ofSnapshot fields snapshot = .ok document) :
    ∃ source, document.data = Document.restrict fields source := by
  rw [Document.ofSnapshot] at made
  split at made
  · cases made
  · next source _ =>
    cases made
    exact ⟨source, rfl⟩

theorem exists_restrict_of_documentsOf {fields : List Text} {snapshots : List DocumentSnapshot}
    {documents : List Document} (made : documentsOf fields snapshots = .ok documents) :
    ∀ document ∈ documents, ∃ source, document.data = Document.restrict fields source := by
  induction snapshots generalizing documents with
  | nil =>
    cases made
    exact fun _ member => absurd member List.not_mem_nil
  | cons snapshot rest inductionHypothesis =>
    rw [documentsOf] at made
    split at made
    · cases made
    · next first single =>
      split at made
      · cases made
      · next others more =>
        cases made
        exact List.forall_mem_cons.mpr ⟨exists_restrict single, inductionHypothesis more⟩

/-- A result has the mark of its projection, and data that the projection restricts. -/
theorem exists_restrict_of_ofSnapshot {type : QueryType} {path : Value} {projection : Projection}
    {snapshot : Snapshot} {result : QueryResult}
    (made : ofSnapshot type path projection snapshot = .ok result) :
    result.projected = projection.active ∧ ∀ document ∈ result.documents,
      ∃ source, document.data = Document.restrict projection.restriction source := by
  cases type with
  | document =>
    cases snapshot with
    | document found =>
      rw [ofSnapshot, ofDocument] at made
      split at made
      · cases single : Document.ofSnapshot projection.restriction found with
        | error failure =>
          rw [single] at made
          cases made
        | ok document =>
          rw [single] at made
          cases made
          exact ⟨rfl, List.forall_mem_singleton.mpr (exists_restrict single)⟩
      · cases made
    | query found => cases made
    | absent found => cases made
  | collection =>
    cases snapshot with
    | document found => cases made
    | query found =>
      rw [ofSnapshot, ofCollection] at made
      cases all : documentsOf projection.restriction
          (found.filter DocumentSnapshot.present) with
      | error failure =>
        rw [all] at made
        cases made
      | ok documents =>
        rw [all] at made
        cases made
        exact ⟨rfl, exists_restrict_of_documentsOf all⟩
    | absent found => cases made

/-- A result from a snapshot heeds the fields that its projection was made for. -/
theorem heeds_of_ofSnapshot {type : QueryType} {path : Value} {listed : Option (List Text)}
    {snapshot : Snapshot} {result : QueryResult}
    (made : ofSnapshot type path (.ofListed listed) snapshot = .ok result) :
    result.Heeds listed := by
  obtain ⟨marked, restricted⟩ := exists_restrict_of_ofSnapshot made
  refine ⟨by rw [marked]; cases listed <;> rfl, ?_⟩
  rintro fields rfl
  constructor
  · intro keeps
    rcases fields with _ | ⟨name, rest⟩
    · refine .inr fun document member => List.eq_nil_iff_forall_not_mem.mpr fun entry known => ?_
      obtain ⟨_, listed, _⟩ := keeps document member entry.1 (List.mem_map_of_mem known)
      cases listed
    · exact .inl (List.cons_ne_nil name rest)
  · rintro (given | empty) document member key known
    · obtain ⟨source, same⟩ := restricted document member
      rw [same] at known
      exact Document.keys_restrict given known
    · rw [empty document member] at known
      cases known

end QueryResult

end DocQuery
