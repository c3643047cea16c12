/-
This file shows that what a query keeps and where it leads do not interfere.

A document expression changes the projection of a walk and nothing else, and no other component looks
at the projection or changes it. So a walk from a cursor with another projection is the same walk, and
the document expressions can be taken out of it: what is left leads to the same reference or the same
failure with the same notices, and the projection is added at the end. Hence it is no matter where the
document expressions of a query stand.
-/

import DocQuery.Proofs.Building.Projecting
import DocQuery.Proofs.Building.Strictness

namespace DocQuery

/-! ### Queries without document expressions -/

namespace Component

/-- The components of a query that are no document expressions. -/
def navigating (components : List Component) : List Component :=
  components.filter fun component => !component.isDocumentExpression

theorem fields?_of_not_isDocumentExpression {component : Component}
    (other : component.isDocumentExpression = false) : component.fields? = none := by
  cases component with
  | documentExpression fields => cases other
  | _ => rfl

/-- The fields that are listed last can be read off the document expressions alone. -/
theorem listed?_filter (components : List Component) :
    listed? (components.filter isDocumentExpression) = listed? components := by
  rw [listed?, listed?, List.filterMap_filter]
  congr 2
  funext component
  cases component <;> rfl

end Component

/-! ### Walks with another projection -/

/-- The cursor with another projection. -/
def Cursor.keeping {ρ : Type} (projection : Projection) (cursor : Cursor ρ) : Cursor ρ :=
  { cursor with projection := projection }

namespace Navigation

variable {σ ρ : Type}

theorem moved_keeping (projection : Projection) (cursor : Cursor ρ) (expecting : Bool)
    (reached : Except Failure ρ × σ) :
    moved (cursor.keeping projection) expecting reached =
      (moved cursor expecting reached).map (·.keeping projection) := by
  obtain ⟨_ | _, after⟩ := reached <;> rfl

/-- A component that is no document expression does not look at the projection and leaves it. -/
theorem step_keeping (navigation : Navigation σ ρ) (mode : BuildMode) {component : Component}
    (other : component.isDocumentExpression = false) (projection : Projection) (cursor : Cursor ρ)
    (state : σ) :
    navigation.step mode component (cursor.keeping projection) state =
      (navigation.step mode component cursor state).map (·.keeping projection) := by
  cases component with
  | literal name => exact moved_keeping projection cursor _ _
  | all => rfl
  | documentExpression fields => cases other
  | collectionExpression refinements =>
    rw [step, step]
    by_cases collection : navigation.isCollection cursor.reference = true
    · rw [if_pos collection, if_pos (show navigation.isCollection
        (cursor.keeping projection).reference = true from collection)]
      exact moved_keeping projection cursor _ _
    · rw [if_neg collection, if_neg (show ¬ navigation.isCollection
        (cursor.keeping projection).reference = true from collection)]
      cases mode <;> rfl

/-- A walk is the walk without its document expressions, to whose end a projection is added: to the
fields listed last, or the one that the walk came with. -/
theorem walk_keeping (navigation : Navigation σ ρ) (mode : BuildMode)
    (components : List Component) (projection : Projection) (cursor : Cursor ρ) (state : σ) :
    navigation.walk mode components (cursor.keeping projection) state =
      (navigation.walk mode (Component.navigating components) cursor state).map
        (·.keeping (((Component.listed? components).map Projection.onto).getD projection)) := by
  induction components generalizing projection cursor state with
  | nil => rfl
  | cons component rest inductionHypothesis =>
    rw [Component.listed?_cons, walk]
    cases listing : component.isDocumentExpression with
    | true =>
      cases component with
      | documentExpression fields =>
        -- The expression sets the projection with which the rest is walked through.
        rw [Component.navigating, List.filter_cons_of_neg (by simp [listing])]
        refine (inductionHypothesis (.onto fields) cursor state).trans ?_
        cases Component.listed? rest <;> rfl
      | _ => cases listing
    | false =>
      rw [Component.navigating, List.filter_cons_of_pos (by simp [listing]), walk,
        navigation.step_keeping mode listing, Component.fields?_of_not_isDocumentExpression listing,
        Option.or_none]
      obtain ⟨_ | next, notices, after⟩ := navigation.step mode component cursor state
      · rfl
      · -- The rest of both walks starts from the same place with the same projections as before.
        have further := inductionHypothesis projection next after
        dsimp only [Walked.map, Except.map]
        rw [further]
        rfl

/-- Building takes the projection from the fields listed last, and all else from the components that
are no document expressions. -/
theorem build_eq_map (navigation : Navigation σ ρ) (mode : BuildMode) (root : ρ)
    (components : List Component) (state : σ) :
    navigation.build mode root components state =
      (navigation.build mode root (Component.navigating components) state).map fun built =>
        { built with projection := .ofListed (Component.listed? components) } := by
  have walked : navigation.walk mode components (.start root) state = _ :=
    navigation.walk_keeping mode components .everything (.start root) state
  rw [build, build, walked]
  obtain ⟨_ | last, notices, after⟩ :=
    navigation.walk mode (Component.navigating components) (.start root) state
  · rfl
  · cases Component.listed? components <;> rfl

end Navigation

/-! ### Builds in memory -/

/-- In a store in memory, in either mode, the reference or the failure of a build and its notices are
those of the query without its document expressions; the projection is that to the fields of the last of
them, or to everything. So queries that differ only in the places of their document expressions are
built alike. -/
theorem Reference.build_separates (mode : BuildMode) (components : List Component) :
    (build mode components).outcome.map Built.reference =
        (build mode (Component.navigating components)).outcome.map Built.reference ∧
      (build mode components).notices = (build mode (Component.navigating components)).notices ∧
      (∀ built, (build mode components).outcome = .ok built →
        built.projection = .ofListed (Component.listed? components)) ∧
      ∀ others, Component.navigating others = Component.navigating components →
        others.filter Component.isDocumentExpression =
          components.filter Component.isDocumentExpression →
        build mode others = build mode components := by
  have separated (components : List Component) : build mode components =
      (build mode (Component.navigating components)).map fun built =>
        { built with projection := .ofListed (Component.listed? components) } :=
    navigation.build_eq_map mode root components ()
  refine ⟨?_, ?_, fun built outcome => navigation.projection_of_build outcome,
    fun others sameOthers sameListing => ?_⟩
  · rw [separated, Walked.map]
    cases (build mode (Component.navigating components)).outcome <;> rfl
  · rw [separated, Walked.map]
  · have sameFields : Component.listed? others = Component.listed? components := by
      rw [← Component.listed?_filter, sameListing, Component.listed?_filter]
    rw [separated, sameOthers, sameFields, ← separated]

/-- A misplaced expression between document expressions. -/
def scatteredAlice : List Component :=
  [.documentExpression ["name"], .literal "users", .documentExpression ["age"], .literal "alice",
    .collectionExpression [.limit (.int 1)]]

def gatheredAlice : List Component :=
  [.literal "users", .literal "alice", .collectionExpression [.limit (.int 1)],
    .documentExpression ["name"], .documentExpression ["age"]]

theorem Reference.build_separates_alice :
    (build .permissive gatheredAlice).outcome.map Built.projection = .ok (.onto ["age"]) ∧
      build .permissive scatteredAlice = build .permissive gatheredAlice := by
  obtain ⟨-, -, projection, rearranged⟩ := build_separates .permissive gatheredAlice
  refine ⟨?_, rearranged scatteredAlice rfl rfl⟩
  exact congrArg Except.ok (projection _ rfl)

end DocQuery
