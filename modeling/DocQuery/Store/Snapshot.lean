/-
This file defines snapshots: what a store answers when a reference is read.

A document snapshot holds the data of one document, or says that it does not exist. The data
is whatever the store holds; it is taken as a map only when its fields are asked for, and null
counts as a map without entries. So looking at a snapshot can fail where passing it on does not,
and `Snapshot.examine` says how.

The path of a document is a text, with one exception: a reference of a hosted store can have been
given a name that is none, and what does not exist there has that name for a path.
-/

import DocQuery.Value.Conversion

namespace DocQuery

/-- The state of one document. -/
structure DocumentSnapshot where
  path : Text
  data : Value
  present : Bool
  deriving DecidableEq, Repr

namespace DocumentSnapshot

/-- The last segment of the path. -/
def id (snapshot : DocumentSnapshot) : Text := Text.afterLast '/' snapshot.path

def stored (path : Text) (data : Entries) : DocumentSnapshot := ⟨path, .map data, true⟩

/-- The snapshot of a document that does not exist. -/
def missing (path : Text) : DocumentSnapshot := ⟨path, .null, false⟩

/-- The fields of a document; none if there is no data. -/
def fields (snapshot : DocumentSnapshot) : Except Failure Entries :=
  if snapshot.data.truthy then snapshot.data.toEntries else .ok []

theorem fields_stored (path : Text) (data : Entries) : (stored path data).fields = .ok data := by
  cases data <;> rfl

end DocumentSnapshot

/-- The state of what a reference names: one document, or the documents of a collection in
their order. -/
inductive Snapshot
  | document (snapshot : DocumentSnapshot)
  | query (documents : List DocumentSnapshot)
  /-- There is no document at a path that is no text. -/
  | absent (path : Value)
  deriving DecidableEq, Repr

namespace Snapshot

/-- The snapshot of a document that does not exist, at any path. -/
def missing (path : Value) : Snapshot :=
  match path.asText? with
  | some text => .document (.missing text)
  | none => .absent path

@[simp] theorem missing_text (path : Text) : missing (.text path) = .document (.missing path) :=
  rfl

/-! ### Looking at snapshots -/

/-- The failure of asking a path that is no text for its last segment. Bytes could have one, but
not at a slash that is text. -/
def segmentFault : Value → Failure
  | .bytes _ => .foreign .unsuitable "bytes are not cut at a text"
  | _ => .foreign .unsupported "only a path that is a text has segments"

/-- Looks at documents in order; the first fault is the answer. -/
def examineAll : List DocumentSnapshot → Except Failure Unit
  | [] => .ok ()
  | snapshot :: rest =>
    match snapshot.fields with
    | .error failure => .error failure
    | .ok _ => examineAll rest

/-- Looks at every document of a snapshot, its name and its fields. -/
def examine : Snapshot → Except Failure Unit
  | .document snapshot => examineAll [snapshot]
  | .query documents => examineAll documents
  | .absent path => .error (segmentFault path)

/-- Stored documents can always be looked at. -/
theorem examineAll_stored (documents : List (Text × Entries)) :
    examineAll (documents.map fun document => .stored document.1 document.2) = .ok () := by
  induction documents with
  | nil => rfl
  | cons document rest inductionHypothesis =>
    rw [List.map_cons, examineAll, DocumentSnapshot.fields_stored]
    exact inductionHypothesis

end Snapshot

end DocQuery
