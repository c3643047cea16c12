/-
This file defines a store of documents in memory, with its listeners.

The documents are kept in the order they were first written. A write replaces the data of a
location, a removal takes the location out, and both are refused for a path that names no
document. A listener is a reference with a callback; the store is indifferent to what callbacks
are, and says only who is to be told of a write. Ids of listeners are never used twice.

Carrying out the callbacks is not part of the store: they may write to it, and `Live.Delivery` says
how that interleaves.
-/

import DocQuery.Store.Query

namespace DocQuery

/-! ### Documents -/

namespace Query

/-- Gives a location its data. A location that is there keeps its place. -/
def put (segments : Segments) (data : Entries) : List StoredDocument → List StoredDocument
  | [] => [⟨segments, data⟩]
  | document :: rest =>
    if document.segments = segments then ⟨segments, data⟩ :: rest
    else document :: put segments data rest

/-- Takes a location out. -/
def takeOut (segments : Segments) (documents : List StoredDocument) : List StoredDocument :=
  documents.filter fun document => document.segments ≠ segments

theorem dataAt_put_self (segments : Segments) (data : Entries)
    (documents : List StoredDocument) :
    dataAt segments (put segments data documents) = some data := by
  induction documents with
  | nil => simp [put, dataAt]
  | cons document rest inductionHypothesis =>
    rw [put]
    split
    · simp [dataAt]
    · next different => rw [dataAt, if_neg different, inductionHypothesis]

theorem dataAt_put_of_ne {segments other : Segments} (different : other ≠ segments)
    (data : Entries) (documents : List StoredDocument) :
    dataAt other (put segments data documents) = dataAt other documents := by
  induction documents with
  | nil => simp [put, dataAt, Ne.symm different]
  | cons document rest inductionHypothesis =>
    rw [put]
    split
    · next same => simp [dataAt, same, Ne.symm different]
    · rw [dataAt, dataAt, inductionHypothesis]

theorem dataAt_takeOut_self (segments : Segments) (documents : List StoredDocument) :
    dataAt segments (takeOut segments documents) = none := by
  induction documents with
  | nil => rfl
  | cons document rest inductionHypothesis =>
    rw [takeOut] at inductionHypothesis ⊢
    rw [List.filter_cons]
    split
    · next different =>
      have apart : document.segments ≠ segments := by simpa using different
      rw [dataAt, if_neg apart, inductionHypothesis]
    · exact inductionHypothesis

theorem dataAt_takeOut_of_ne {segments other : Segments} (different : other ≠ segments)
    (documents : List StoredDocument) :
    dataAt other (takeOut segments documents) = dataAt other documents := by
  induction documents with
  | nil => rfl
  | cons document rest inductionHypothesis =>
    rw [takeOut] at inductionHypothesis ⊢
    rw [List.filter_cons]
    split
    · rw [dataAt, dataAt, inductionHypothesis]
    · next same =>
      have equal : document.segments = segments := by simpa using same
      rw [inductionHypothesis, dataAt, if_neg]
      rw [equal]
      exact Ne.symm different

end Query

/-! ### Listeners -/

/-- A listener: what it listens to, and the callback to carry out. -/
structure Listener (κ : Type) where
  reference : Reference
  callback : κ
  deriving Repr

/-- Whether a write to a location concerns a listener: on the document itself, or on the
collection it lies in, refined or not. -/
def Listener.covers {κ : Type} (listener : Listener κ) (segments : Segments) : Bool :=
  if listener.reference.isDocument then listener.reference.segments == segments
  else if listener.reference.isCollection then
    listener.reference.segments == Segments.parent segments
  else false

/-! ### Stores -/

/-- A store: documents in the order of their first writing, listeners by id in the order of
their registration, the id the next listener gets, and whether the store is closed. -/
structure Store (κ : Type) where
  documents : List StoredDocument
  listeners : List (Nat × Listener κ)
  nextListener : Nat
  closed : Bool
  deriving Repr

namespace Store

variable {κ : Type}

/-- A store of documents without listeners. -/
def ofDocuments (documents : List StoredDocument) : Store κ := ⟨documents, [], 0, false⟩

/-- The store without documents. -/
def empty : Store κ := ofDocuments []

/-- Enters seed documents one after the other. The data of each is looked at before its path,
so of two faults in one document the data's is the answer. -/
def seed : List (Text × Value) → List StoredDocument → Except Failure (List StoredDocument)
  | [], documents => .ok documents
  | (path, value) :: rest, documents =>
    match value.toEntries, Segments.ofDocumentPath (.text path) with
    | .error failure, _ => .error failure
    | .ok _, .error failure => .error failure
    | .ok data, .ok segments => seed rest (Query.put segments data documents)

/-- Lists a path with its data. A path that is listed already keeps its place. -/
def enlist (path : Text) (data : Value) : List (Text × Value) → List (Text × Value)
  | [] => [(path, data)]
  | (found, old) :: rest =>
    if found = path then (path, data) :: rest else (found, old) :: enlist path data rest

/-- The store of seed documents. A path that is listed twice counts once, in its first place
and with its last data. -/
def ofSeed (documents : List (Text × Value)) : Except Failure (Store κ) :=
  let listed := documents.foldl (fun listed document => enlist document.1 document.2 listed) []
  (seed listed []).map ofDocuments

/-- The paths of all documents, sorted. -/
def paths (store : Store κ) : List Text :=
  (store.documents.map fun document => Segments.path document.segments).foldr insertPath []
where
  /-- Puts a path in front of the first that is not below it. -/
  insertPath (path : Text) : List Text → List Text
    | [] => [path]
    | other :: rest => if other < path then other :: insertPath path rest else path :: other :: rest

/-- What a reference answers. -/
def read (store : Store κ) (reference : Reference) : Except Failure Snapshot :=
  Query.read store.documents reference

/-! ### Writes -/

/-- The store after a document was written. -/
def write (segments : Segments) (data : Entries) (store : Store κ) : Store κ :=
  { store with documents := Query.put segments data store.documents }

/-- Whether a location holds a document. -/
def holds (segments : Segments) (store : Store κ) : Bool :=
  (Query.dataAt segments store.documents).isSome

/-- The store after a document was taken out. -/
def remove (segments : Segments) (store : Store κ) : Store κ :=
  { store with documents := Query.takeOut segments store.documents }

/-- The location and the data of a write, if it is accepted. The path is looked at first. Data are
copied to any depth here, where reading, writing and quoting values have a limit of levels. -/
def acceptWrite (path data : Value) : Except Failure (Segments × Entries) :=
  match Segments.ofDocumentPath path with
  | .error failure => .error failure
  | .ok segments =>
    match data.toEntries with
    | .error failure => .error failure
    | .ok entries => .ok (segments, entries)

/-! ### Listeners -/

/-- Registers a listener under a new id. -/
def register (listener : Listener κ) (store : Store κ) : Store κ :=
  { store with
    listeners := store.listeners ++ [(store.nextListener, listener)]
    nextListener := store.nextListener + 1 }

/-- Removes a listener. -/
def unregister (id : Nat) (store : Store κ) : Store κ :=
  { store with listeners := store.listeners.filter fun entry => entry.1 ≠ id }

/-- Whether a listener is registered. -/
def isRegistered (id : Nat) (store : Store κ) : Bool :=
  store.listeners.any fun entry => entry.1 == id

/-- The store without listeners, refusing new ones. -/
def close (store : Store κ) : Store κ := { store with listeners := [], closed := true }

/-- The listeners that a write to a location concerns, in the order of registration. -/
def concerned (segments : Segments) (store : Store κ) : List (Nat × Listener κ) :=
  store.listeners.filter fun entry => entry.2.covers segments

/-- The listeners on exactly a location, in the order of registration. -/
def listenersAt (segments : Segments) (store : Store κ) : List (Nat × Listener κ) :=
  store.listeners.filter fun entry => entry.2.reference.segments = segments

/-- Whether a new listener is accepted, and with which first snapshot. -/
def acceptListener (reference : Reference) (store : Store κ) : Except Failure Snapshot :=
  if store.closed then .error (.store .closed (some reference.path)) else store.read reference

@[simp] theorem documents_register (listener : Listener κ) (store : Store κ) :
    (store.register listener).documents = store.documents := rfl

@[simp] theorem documents_unregister (id : Nat) (store : Store κ) :
    (store.unregister id).documents = store.documents := rfl

@[simp] theorem documents_close (store : Store κ) : store.close.documents = store.documents := rfl

@[simp] theorem listeners_write (segments : Segments) (data : Entries) (store : Store κ) :
    (store.write segments data).listeners = store.listeners := rfl

@[simp] theorem listeners_remove (segments : Segments) (store : Store κ) :
    (store.remove segments).listeners = store.listeners := rfl

/-- A listener that was removed is not registered. -/
theorem isRegistered_unregister_self (id : Nat) (store : Store κ) :
    (store.unregister id).isRegistered id = false := by
  simp [unregister, isRegistered]

end Store

end DocQuery
