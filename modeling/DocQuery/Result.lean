/-
This file defines the results of queries.

A document of a result has the location it was read from and the data it was given: all fields
of a snapshot, or the listed ones only. A listed name may be dotted; it then brings in the value
it leads to, under the dotted name itself. Names that lead nowhere are left out, and a name
that is listed again keeps its first place.

One rule makes results from snapshots, `QueryResult.ofSnapshot`, and one-shot reads and live
queries both go through it.
-/

import DocQuery.Component.Basic
import DocQuery.Json.Printer
import DocQuery.Store.Snapshot

namespace DocQuery

/-! ### Documents -/

/-- A document of a result. -/
structure Document where
  location : Text
  data : Entries
  present : Bool
  deriving DecidableEq, Repr

namespace Document

/-- A document that has a location only. -/
def located (location : Text) : Document := ⟨location, [], false⟩

/-- The last segment of the location. -/
def id (document : Document) : Text := Text.afterLast '/' document.location

/-- Enters the listed names that lead to a value, one after the other. -/
def select (source : Entries) : List Text → Entries → Entries
  | [], selected => selected
  | name :: rest, selected =>
    match Value.resolve name (.map source) with
    | some value => select source rest (Entries.insert name value selected)
    | none => select source rest selected

/-- The data that a restriction keeps; the empty restriction keeps everything. -/
def restrict (fields : List Text) (source : Entries) : Entries :=
  match fields with
  | [] => source
  | _ :: _ => select source fields []

/-- The document of a snapshot, restricted to fields. -/
def ofSnapshot (fields : List Text) (snapshot : DocumentSnapshot) : Except Failure Document :=
  match snapshot.fields with
  | .error failure => .error failure
  | .ok source => .ok ⟨snapshot.path, restrict fields source, snapshot.present⟩

/-- Values as names; the first that is none is the answer. -/
def namesOf : List Value → Except Failure (List Text)
  | [] => .ok []
  | value :: rest =>
    match value.toName with
    | .error failure => .error failure
    | .ok name =>
      match namesOf rest with
      | .error failure => .error failure
      | .ok names => .ok (name :: names)

/-- The restriction that a value stands for: none if it counts as absent, else its items. -/
def restrictionOf (value : Value) : Except Failure (List Text) :=
  if value.truthy then
    match value.items with
    | .error failure => .error failure
    | .ok members => namesOf members
  else .ok []

/-- The document of a snapshot, restricted to the fields that a value lists. The snapshot is
looked at first. -/
def ofSnapshotListed (fields : Value) (snapshot : DocumentSnapshot) : Except Failure Document :=
  match snapshot.fields, restrictionOf fields with
  | .error failure, _ => .error failure
  | .ok _, .error failure => .error failure
  | .ok _, .ok names => ofSnapshot names snapshot

/-- The value of a key, or another value if the key is not there. -/
def getD (key : Text) (otherwise : Value) (document : Document) : Value :=
  (document.data.lookup key).getD otherwise

/-- The value of a key that has to be there. -/
def get (key : Text) (document : Document) : Except Failure Value :=
  match document.data.lookup key with
  | some value => .ok value
  | none => .error (.foreign .absentKey key)

def toValue (document : Document) : Value :=
  .map [("location", .text document.location), ("data", .map document.data),
    ("metadata", .map [("exists", .bool document.present)])]

@[simp] theorem restrict_nil (source : Entries) : restrict [] source = source := rfl

theorem ofSnapshot_stored (fields : List Text) (path : Text) (data : Entries) :
    ofSnapshot fields (.stored path data) = .ok ⟨path, restrict fields data, true⟩ := by
  rw [ofSnapshot, DocumentSnapshot.fields_stored]
  rfl

end Document

/-! ### Results -/

/-- The result of a query: documents in the order of the store, and whether a projection
restricted their fields. -/
structure QueryResult where
  documents : List Document
  projected : Bool
  deriving DecidableEq, Repr

namespace QueryResult

/-- The number of documents. -/
def count (result : QueryResult) : Nat := result.documents.length

def first? (result : QueryResult) : Option Document := result.documents.head?

/-- The locations of the documents, in order. -/
def locations (result : QueryResult) : List Text := result.documents.map Document.location

def toValue (result : QueryResult) : Value :=
  .map [("documents", .list (result.documents.map Document.toValue)),
    ("projected", .bool result.projected), ("count", .int result.count)]

/-- A result as JSON text. Values that JSON has no form for are written as shown. -/
def toJson (levels : Nat) (result : QueryResult) : Except Failure String :=
  result.toValue.toShownJson levels (.indented 2)

/-- The documents of snapshots, in order; the first fault is the answer. -/
def documentsOf (fields : List Text) : List DocumentSnapshot → Except Failure (List Document)
  | [] => .ok []
  | snapshot :: rest =>
    match Document.ofSnapshot fields snapshot with
    | .error failure => .error failure
    | .ok document =>
      match documentsOf fields rest with
      | .error failure => .error failure
      | .ok documents => .ok (document :: documents)

/-- The result of a snapshot of what a document query names. -/
def ofDocument (path : Value) (projection : Projection) (snapshot : Snapshot) :
    Except Failure QueryResult :=
  match snapshot with
  | .query _ => .error (.store .documentExpected (some path))
  | .document found =>
    if found.present then
      (Document.ofSnapshot projection.restriction found).map fun document =>
        ⟨[document], projection.active⟩
    else .error (.notFound path)
  | .absent _ => .error (.notFound path)

/-- The result of a snapshot of what a collection query names. Documents that do not exist are
no part of it. -/
def ofCollection (path : Value) (projection : Projection) (snapshot : Snapshot) :
    Except Failure QueryResult :=
  match snapshot with
  | .document _ | .absent _ => .error (.store .collectionExpected (some path))
  | .query snapshots =>
    (documentsOf projection.restriction (snapshots.filter DocumentSnapshot.present)).map
      fun documents => ⟨documents, projection.active⟩

/-- The result that a snapshot gives for a query at a path. -/
def ofSnapshot (type : QueryType) (path : Value) (projection : Projection)
    (snapshot : Snapshot) : Except Failure QueryResult :=
  match type with
  | .document => ofDocument path projection snapshot
  | .collection => ofCollection path projection snapshot

/-- The result of a query on what a read gave. -/
def ofRead (type : QueryType) (path : Value) (projection : Projection)
    (read : Except Failure Snapshot) : Except Failure QueryResult :=
  read.bind (ofSnapshot type path projection)

end QueryResult

end DocQuery
