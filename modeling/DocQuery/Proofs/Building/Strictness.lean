/-
This file compares strict building with permissive building.

The modes part at one place only, a collection expression that stands on something that is no
collection: there the permissive mode gives a notice and goes on, and the strict one stops. Up to the
first such place both walks are the same walk, so a strict walk can be read off the permissive one.
Without a notice the two are equal; otherwise the strict walk fails at the place of the first notice,
whatever became of the permissive one behind it. Nothing of this depends on the kind of store.
-/

import DocQuery.Builder

namespace DocQuery

/-- A walk whose outcome is changed. -/
def Walked.map {σ α β : Type} (change : α → β) (walked : Walked σ α) : Walked σ β :=
  { walked with outcome := walked.outcome.map change }

/-- What a strict walk is to the permissive walk over the same components. -/
structure Walked.Tightens {σ α : Type} (strict permissive : Walked σ α) : Prop where
  /-- Without a notice there is no difference. -/
  same : permissive.notices = [] → strict = permissive
  /-- The first notice is about an ignored expression, and at its path the strict walk fails. -/
  stopped : ∀ first later, permissive.notices = first :: later →
    ∃ path, first = .ignoredExpression path ∧
      strict.outcome = .error (.misplacedExpression path) ∧ strict.notices = []

namespace Walked.Tightens

variable {σ α β : Type}

theorem refl {walked : Walked σ α} (silent : walked.notices = []) : walked.Tightens walked where
  same _ := rfl
  stopped _ _ noticed := by
    rw [silent] at noticed
    cases noticed

theorem of_ignored (path : Value) (later : List Notice) (outcome : Except Failure α)
    (stopped gone : σ) :
    Tightens ⟨.error (.misplacedExpression path), [], stopped⟩
      ⟨outcome, .ignoredExpression path :: later, gone⟩ where
  same silent := by cases silent
  stopped first others noticed := by
    cases noticed
    exact ⟨path, rfl, rfl, rfl⟩

/-- What is made of an outcome is no matter. -/
theorem map {strict permissive : Walked σ α} (tightens : strict.Tightens permissive)
    (change : α → β) : (strict.map change).Tightens (permissive.map change) where
  same silent := congrArg (Walked.map change) (tightens.same silent)
  stopped first later noticed := by
    obtain ⟨path, ignored, failed, silent⟩ := tightens.stopped first later noticed
    exact ⟨path, ignored, congrArg (Except.map change) failed, silent⟩

end Walked.Tightens

namespace Navigation

variable {σ ρ : Type}

/-- A navigation gives no notice. -/
@[simp] theorem notices_moved (cursor : Cursor ρ) (expecting : Bool)
    (reached : Except Failure ρ × σ) : (moved cursor expecting reached).notices = [] := by
  obtain ⟨_ | _, after⟩ := reached <;> rfl

/-- A step is the same in both modes and silent, or the strict one stops where the permissive one
ignores an expression. -/
theorem step_cases (navigation : Navigation σ ρ) (component : Component) (cursor : Cursor ρ)
    (state : σ) :
    (navigation.step .strict component cursor state =
        navigation.step .permissive component cursor state ∧
      (navigation.step .permissive component cursor state).notices = []) ∨
    ∃ path,
      navigation.step .strict component cursor state =
        ⟨.error (.misplacedExpression path), [], state⟩ ∧
      navigation.step .permissive component cursor state =
        ⟨.ok cursor, [.ignoredExpression path], state⟩ := by
  cases component with
  | literal name => exact .inl ⟨rfl, notices_moved _ _ _⟩
  | all => exact .inl ⟨rfl, rfl⟩
  | documentExpression fields => exact .inl ⟨rfl, rfl⟩
  | collectionExpression refinements =>
    rw [step, step]
    by_cases collection : navigation.isCollection cursor.reference = true
    · rw [if_pos collection, if_pos collection]
      exact .inl ⟨rfl, notices_moved _ _ _⟩
    · rw [if_neg collection, if_neg collection]
      exact .inr ⟨navigation.path cursor.reference, rfl, rfl⟩

theorem tightens_walk (navigation : Navigation σ ρ) (components : List Component)
    (cursor : Cursor ρ) (state : σ) :
    (navigation.walk .strict components cursor state).Tightens
      (navigation.walk .permissive components cursor state) := by
  induction components generalizing cursor state with
  | nil => exact .refl rfl
  | cons component rest inductionHypothesis =>
    rw [walk, walk]
    obtain ⟨same, silent⟩ | ⟨path, stopped, ignored⟩ :=
      navigation.step_cases component cursor state
    · rw [same]
      generalize navigation.step .permissive component cursor state = stepped at silent ⊢
      obtain ⟨outcome, notices, after⟩ := stepped
      cases silent
      cases outcome with
      | error failure => exact .refl rfl
      | ok next => exact inductionHypothesis next after
    · -- The permissive walk goes on behind its notice, and how it ends is no matter.
      rw [stopped, ignored]
      exact .of_ignored path _ _ _ _

theorem tightens_build (navigation : Navigation σ ρ) (root : ρ) (components : List Component)
    (state : σ) :
    (navigation.build .strict root components state).Tightens
      (navigation.build .permissive root components state) :=
  (navigation.tightens_walk components (.start root) state).map _

end Navigation

/-- In a store in memory, a query is built strictly as it is built permissively if that gives no notice;
otherwise the strict build fails with the path that the first notice names. -/
theorem Reference.tightens_permissive (components : List Component) :
    (Reference.build .strict components).Tightens (Reference.build .permissive components) :=
  Reference.navigation.tightens_build .root components ()

/-- A limit on a document, and behind it a name that no store accepts. -/
def limitedAlice : List Component :=
  [.literal "users", .literal "alice", .collectionExpression [.limit (.int 1)], .literal ""]

example :
    (Reference.build .permissive limitedAlice).outcome =
        .error (.store (.badSegment (.text "")) none) ∧
      (Reference.build .strict limitedAlice).outcome =
        .error (.misplacedExpression (.text "users/alice")) := ⟨rfl, rfl⟩

end DocQuery
