/-
This file builds references from the components of a query.

Building walks the components with a cursor that starts at the root of a store. A literal opens
a collection or a document below the cursor, in turn; an `all` makes the next literal a
collection; a collection expression refines the cursor; a document expression sets the
projection, and the last one counts. A collection expression on a cursor that is no collection
is ignored with a notice in the permissive mode, and is a failure in the strict one.

The stores differ in what a reference is and in what navigation does besides giving the next
reference. A `Navigation` says both; its state is whatever the store's side of navigation
leaves behind. So the walk is written once for all stores.
-/

import DocQuery.Notice
import DocQuery.Store.Reference

namespace DocQuery

/-! ### Navigation -/

/-- What the builder asks of a kind of references `ρ`, over a state `σ` that navigation may
change even where it fails. -/
structure Navigation (σ ρ : Type) where
  /-- The path of a reference. -/
  path : ρ → Value
  /-- Whether a reference can be refined. -/
  isCollection : ρ → Bool
  /-- Opens a collection below a reference. -/
  collection : Text → ρ → σ → Except Failure ρ × σ
  /-- Opens a document below a reference. -/
  document : Text → ρ → σ → Except Failure ρ × σ
  /-- Applies one refinement to a reference. -/
  refine : Refinement → ρ → σ → Except Failure ρ × σ

/-- Navigation over references into a store in memory, which leaves nothing behind. -/
def Reference.navigation : Navigation Unit Reference where
  path reference := reference.path
  isCollection := Reference.isCollection
  collection name reference _ := (reference.collection (.text name), ())
  document name reference _ := (reference.document (.text name), ())
  refine refinement reference _ := (reference.refine refinement, ())

/-! ### Building -/

/-- What becomes of a collection expression on something that is no collection. -/
inductive BuildMode
  | permissive
  | strict
  deriving DecidableEq, Repr

/-- Where a walk stands: its reference, whether the next literal names a collection, and the
projection so far. -/
structure Cursor (ρ : Type) where
  reference : ρ
  expectingCollection : Bool
  projection : Projection
  deriving DecidableEq, Repr

/-- A walk starts at the root, expecting a collection and keeping every field. -/
def Cursor.start {ρ : Type} (root : ρ) : Cursor ρ := ⟨root, true, .everything⟩

/-- What a walk comes to: where it stands or why it failed, the notices it gave, and the state
that navigation left. -/
structure Walked (σ α : Type) where
  outcome : Except Failure α
  notices : List Notice
  state : σ

/-- What was built: where to read, and which fields to keep. -/
structure Built (ρ : Type) where
  reference : ρ
  projection : Projection
  deriving DecidableEq, Repr

namespace Navigation

variable {σ ρ : Type}

/-- Applies refinements in order; the first failure is the answer. -/
def refineAll (navigation : Navigation σ ρ) : List Refinement → ρ → σ → Except Failure ρ × σ
  | [], reference, state => (.ok reference, state)
  | refinement :: rest, reference, state =>
    match navigation.refine refinement reference state with
    | (.error failure, after) => (.error failure, after)
    | (.ok refined, after) => navigation.refineAll rest refined after

/-- Opens what a literal names: a collection or a document, as the cursor expects. -/
def enter (navigation : Navigation σ ρ) (name : Text) (cursor : Cursor ρ) (state : σ) :
    Except Failure ρ × σ :=
  if cursor.expectingCollection then navigation.collection name cursor.reference state
  else navigation.document name cursor.reference state

/-- The cursor on what a navigation gave. -/
def moved (cursor : Cursor ρ) (expectingCollection : Bool) (reached : Except Failure ρ × σ) :
    Walked σ (Cursor ρ) :=
  match reached with
  | (.error failure, after) => ⟨.error failure, [], after⟩
  | (.ok reference, after) =>
    ⟨.ok { cursor with reference := reference, expectingCollection := expectingCollection },
      [], after⟩

/-- What becomes of a collection expression that stands on no collection. -/
def misplaced (navigation : Navigation σ ρ) (mode : BuildMode) (cursor : Cursor ρ) (state : σ) :
    Walked σ (Cursor ρ) :=
  match mode with
  | .permissive => ⟨.ok cursor, [.ignoredExpression (navigation.path cursor.reference)], state⟩
  | .strict => ⟨.error (.misplacedExpression (navigation.path cursor.reference)), [], state⟩

def step (navigation : Navigation σ ρ) (mode : BuildMode) (component : Component)
    (cursor : Cursor ρ) (state : σ) : Walked σ (Cursor ρ) :=
  match component with
  | .literal name => moved cursor (!cursor.expectingCollection) (navigation.enter name cursor state)
  | .all => ⟨.ok { cursor with expectingCollection := true }, [], state⟩
  | .collectionExpression refinements =>
    if navigation.isCollection cursor.reference then
      moved cursor cursor.expectingCollection
        (navigation.refineAll refinements cursor.reference state)
    else navigation.misplaced mode cursor state
  | .documentExpression fields => ⟨.ok { cursor with projection := .onto fields }, [], state⟩

/-- A whole walk. The first failure ends it; the notices given before it stay. -/
def walk (navigation : Navigation σ ρ) (mode : BuildMode) :
    List Component → Cursor ρ → σ → Walked σ (Cursor ρ)
  | [], cursor, state => ⟨.ok cursor, [], state⟩
  | component :: rest, cursor, state =>
    match navigation.step mode component cursor state with
    | ⟨.error failure, notices, after⟩ => ⟨.error failure, notices, after⟩
    | ⟨.ok next, notices, after⟩ =>
      let others := navigation.walk mode rest next after
      { others with notices := notices ++ others.notices }

/-- Builds what a query names, from the root of a store. -/
def build (navigation : Navigation σ ρ) (mode : BuildMode) (root : ρ)
    (components : List Component) (state : σ) : Walked σ (Built ρ) :=
  let walked := navigation.walk mode components (.start root) state
  { outcome := walked.outcome.map fun cursor => ⟨cursor.reference, cursor.projection⟩
    notices := walked.notices
    state := walked.state }

@[simp] theorem walk_nil (navigation : Navigation σ ρ) (mode : BuildMode) (cursor : Cursor ρ)
    (state : σ) : navigation.walk mode [] cursor state = ⟨.ok cursor, [], state⟩ := rfl

end Navigation

/-- Builds what a query names in a store in memory. -/
def Reference.build (mode : BuildMode) (components : List Component) :
    Walked Unit (Built Reference) :=
  Reference.navigation.build mode .root components ()

/-- Takes a value for a sequence of components without reading it. Only one without any items
is such a sequence. -/
def unreadComponents (value : Value) : Except Failure (List Component) :=
  match value.items with
  | .error failure => .error failure
  | .ok [] => .ok []
  | .ok (item :: _) => .error (.unsuitable item)

end DocQuery
