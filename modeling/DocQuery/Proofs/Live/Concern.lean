/-
This file says what a write changes, and whom it concerns.

A write changes a store if it is accepted, and a removal if, besides, the document is there; then a
pass goes through the listeners that cover the document. After any run these are the listeners of the
live queries that somebody holds, that are active and that read on the document or on the collection it
lies in, and they stand in the order in which these queries were started, whatever listeners did in
the run.
-/

import DocQuery.Proofs.Live.Settling
import DocQuery.Proofs.Store.Locations

namespace DocQuery

/-! ### Locations -/

theorem Segments.isCollection_parent {segments : Segments} (isDocument : segments.isDocument = true) :
    segments.parent.isCollection = true := by
  rw [Segments.isDocument, Bool.and_eq_true, beq_iff_eq, Bool.not_eq_true', List.isEmpty_eq_false_iff]
    at isDocument
  have positive := List.length_pos_of_ne_nil isDocument.2
  rw [Segments.isCollection, Segments.parent, List.length_dropLast, beq_iff_eq]
  omega

/-- A write to a document concerns the listeners on it and those on the collection it lies in. -/
theorem Listener.covers_iff {κ : Type} {listener : Listener κ} {segments : Segments}
    (isDocument : segments.isDocument = true) :
    listener.covers segments = true ↔
      listener.reference.segments = segments ∨ listener.reference.segments = segments.parent := by
  have isCollection := Segments.isCollection_parent isDocument
  have different := Segments.not_isDocument_of_isCollection isCollection
  rw [Listener.covers, Reference.isDocument, Reference.isCollection]
  constructor
  · intro covers
    split at covers
    · exact .inl (eq_of_beq covers)
    · split at covers
      · exact .inr (eq_of_beq covers)
      · cases covers
  · rintro (same | same)
    · rw [same, if_pos isDocument, beq_self_eq_true]
    · rw [same, if_neg (by rw [different]; exact Bool.false_ne_true), if_pos isCollection,
        beq_self_eq_true]

/-! ### Writes and removals -/

/-- A write or a removal in a store. -/
def Action.IsWriteTo (name : Text) : Action → Prop
  | .write store _ _ | .remove store _ => store = name
  | _ => False

/-- A write of a dict to the path of a document, or the removal of a document's path. -/
def Action.IsAcceptedBy (name : Text) : Action → Prop
  | .write store path data => store = name ∧ ∃ made, Store.acceptWrite path data = .ok made
  | .remove store path => store = name ∧ ∃ segments, Segments.ofDocumentPath path = .ok segments
  | _ => False

/-- What an action changes in a store: a write that is accepted changes a document, and so does the
removal of a document that is there. -/
inductive Action.Changes (name : Text) (store : Store Callback) :
    Action → Segments → (Store Callback → Store Callback) → Prop
  | write {path data : Value} {segments : Segments} {entries : Entries}
      (accepted : Store.acceptWrite path data = .ok (segments, entries)) :
      Changes name store (.write name path data) segments (Store.write segments entries)
  | remove {path : Value} {segments : Segments}
      (located : Segments.ofDocumentPath path = .ok segments) (holds : store.holds segments = true) :
      Changes name store (.remove name path) segments (Store.remove segments)

namespace Action.Changes

variable {name : Text} {store : Store Callback} {action : Action} {segments : Segments}
  {change : Store Callback → Store Callback}

theorem isDocument (changes : action.Changes name store segments change) :
    segments.isDocument = true := by
  cases changes with
  | write accepted =>
    exact (DocumentCall.isStorable_of_effect (DocumentCall.effect_set accepted)).document
  | remove located _ =>
    exact (DocumentCall.isStorable_of_effect (DocumentCall.effect_delete located)).document

theorem touches (changes : action.Changes name store segments change) :
    World.Touches segments change := by
  cases changes with
  | write _ => exact World.touches_write segments _
  | remove _ _ => exact World.touches_remove segments

theorem settling (changes : action.Changes name store segments change) (world : World) :
    World.Settling world (world.updateStore name change) := by
  cases changes with
  | write _ => exact World.lasting_settling.write name segments _ world
  | remove _ _ => exact World.lasting_settling.remove name segments world

/-- A change is made, and its pass goes through those it concerns. -/
theorem performWith (changes : action.Changes name store segments change) {world : World}
    (there : world.store? name = some store) (performer : Performer) :
    world.performWith performer action =
      World.afterPass ((world.updateStore name change).writePass performer name
        (store.concerned segments)) := by
  have known : world.store name = .ok store := by
    rw [World.store, there]
  cases changes with
  | write accepted => rw [World.performWith, World.writeDocument, known, accepted]
  | remove located holds =>
    rw [World.performWith, World.removeDocument, known, located]
    dsimp only
    rw [if_pos holds]

end Action.Changes

namespace World

variable {world : World} {name : Text} {store : Store Callback} {segments : Segments}

/-! ### What changes nothing -/

/-- A write that is refused, and a removal that is, changes nothing and calls nobody. -/
theorem exists_performWith_of_refused (there : world.store? name = some store) {action : Action}
    (writes : action.IsWriteTo name) (refused : ¬ action.IsAcceptedBy name) (performer : Performer) :
    ∃ failure, world.performWith performer action = (.error failure, world) := by
  have known : world.store name = .ok store := by
    rw [World.store, there]
  cases action with
  | write other path data =>
    rw [show other = name from writes] at refused ⊢
    rw [World.performWith, World.writeDocument, known]
    cases accepted : Store.acceptWrite path data with
    | error failure => exact ⟨failure, rfl⟩
    | ok made => exact absurd ⟨rfl, made, accepted⟩ refused
  | remove other path =>
    rw [show other = name from writes] at refused ⊢
    rw [World.performWith, World.removeDocument, known]
    cases located : Segments.ofDocumentPath path with
    | error failure => exact ⟨failure, rfl⟩
    | ok segments => exact absurd ⟨rfl, segments, located⟩ refused
  | _ => exact writes.elim

/-- Only the removal of a missing document changes nothing though it is accepted. -/
theorem performWith_of_unchanged (there : world.store? name = some store) {action : Action}
    (accepted : action.IsAcceptedBy name)
    (unchanged : ¬ ∃ segments change, action.Changes name store segments change)
    (performer : Performer) : world.performWith performer action = (.ok .done, world) := by
  have known : world.store name = .ok store := by
    rw [World.store, there]
  cases action with
  | write other path data =>
    obtain ⟨rfl, ⟨segments, entries⟩, made⟩ := accepted
    exact absurd ⟨_, _, .write made⟩ unchanged
  | remove other path =>
    obtain ⟨rfl, segments, located⟩ := accepted
    have missing : ¬ store.holds segments = true :=
      fun holds => unchanged ⟨_, _, .remove located holds⟩
    rw [World.performWith, World.removeDocument, known, located]
    dsimp only
    rw [if_neg missing]
  | _ => exact accepted.elim

/-- A write or removal that changes nothing in its store calls nobody. -/
theorem exists_performWith_of_unchanged (there : world.store? name = some store) {action : Action}
    (writes : action.IsWriteTo name)
    (unchanged : ¬ ∃ segments change, action.Changes name store segments change)
    (performer : Performer) : ∃ outcome, world.performWith performer action = (outcome, world) := by
  by_cases accepted : action.IsAcceptedBy name
  · exact ⟨_, performWith_of_unchanged there accepted unchanged performer⟩
  · obtain ⟨failure, went⟩ := exists_performWith_of_refused there writes accepted performer
    exact ⟨_, went⟩

/-! ### Whom a write concerns -/

/-- A live query that somebody holds, that is active, and that reads in a store, on a document or on
the collection it lies in, refined or not. -/
structure IsConcerned (name : Text) (segments : Segments) (query : Nat) (world : World) : Prop where
  held : world.IsHeld query
  reads : ∃ found reference, world.queries[query]? = some found ∧ found.handle.active = true ∧
    found.source = some (.store name reference) ∧
      (reference.segments = segments ∨ reference.segments = segments.parent)

/-- The live query that a listener calls, if it is an active one. -/
def called? (world : World) (entry : Nat × Listener Callback) : Option Nat :=
  match entry.2.callback with
  | .recipient _ => none
  | .live query =>
    (world.queries[query]?).bind fun found => if found.handle.active then some query else none

theorem called?_eq_some {entry : Nat × Listener Callback} {query : Nat} :
    world.called? entry = some query ↔ entry.2.callback = .live query ∧ world.IsActive query := by
  rw [called?]
  cases entry.2.callback with
  | recipient index => simp
  | live other =>
    rw [Option.bind_eq_some_iff]
    constructor
    · rintro ⟨found, present, answered⟩
      split at answered
      · next active =>
        cases answered
        exact ⟨rfl, found, present, active⟩
      · cases answered
    · rintro ⟨same, found, present, active⟩
      cases same
      exact ⟨found, present, if_pos active⟩

section Runs

variable {mode : BuildMode} {stores : List (Text × Store Callback)}
  (unheard : ∀ entry ∈ stores, entry.2.listeners = []) (run : (ofStores mode stores).Runs world)

include unheard run

/-- The listeners that a write calls are those of the live queries it concerns. -/
theorem Runs.mem_called_iff (there : world.store? name = some store) (isOpen : store.closed = false)
    (isDocument : segments.isDocument = true) (query : Nat) :
    query ∈ (store.concerned segments).filterMap world.called? ↔
      world.IsConcerned name segments query := by
  obtain ⟨arranged, listening, unloose⟩ := run.arranged unheard
  rw [List.mem_filterMap]
  constructor
  · rintro ⟨⟨id, reference, callback⟩, member, called⟩
    obtain ⟨same, found, present, active⟩ := called?_eq_some.mp called
    obtain rfl : callback = .live query := same
    obtain ⟨registered, covers⟩ := List.mem_filter.mp member
    have attends : world.Attends name id reference query := ⟨store, there, registered⟩
    obtain ⟨other, known, source⟩ := arranged.reads attends
    obtain rfl := Option.some.inj (present.symm.trans known)
    refine ⟨?_, found, reference, present, active, source, (Listener.covers_iff isDocument).mp covers⟩
    by_contra unheld
    exact unloose query ⟨⟨found, present, active⟩, ⟨name, id, reference, attends⟩, unheld⟩
  · rintro ⟨held, found, reference, present, active, source, near⟩
    obtain ⟨other, known, listens⟩ := listening query held
    obtain rfl := Option.some.inj (present.symm.trans known)
    have openStore : world.IsOpen name := fun other same => by
      obtain rfl := Option.some.inj (there.symm.trans same)
      exact isOpen
    obtain ⟨id, another, same, member⟩ := listens active source there openStore
    obtain rfl := Option.some.inj (there.symm.trans same)
    exact ⟨_, List.mem_filter.mpr ⟨member, (Listener.covers_iff isDocument).mpr near⟩,
      called?_eq_some.mpr ⟨rfl, found, present, active⟩⟩

/-- They stand in the order in which their live queries were started. -/
theorem Runs.pairwise_called (there : world.store? name = some store) (segments : Segments) :
    ((store.concerned segments).filterMap world.called?).Pairwise (· < ·) := by
  obtain ⟨arranged, _⟩ := run.arranged unheard
  rw [List.pairwise_filterMap]
  refine ((arranged.ordered there).sublist List.filter_sublist).imp ?_
  intro first second before one calledFirst other calledSecond
  exact before.query (called?_eq_some.mp calledFirst).1 (called?_eq_some.mp calledSecond).1

end Runs

end World

end DocQuery
