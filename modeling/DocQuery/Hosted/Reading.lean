/-
This file says how what the client answers becomes snapshots.

The client lets its documents be looked at: whether one exists, what its path is, and what its data
are; each look may fail. The data of one that does not exist are not looked at. A fetch of a document
converts the one document that the client gives, and a fetch of a collection all of them, those that
do not exist included. A watch is given lists: for a document the first of the list counts, none
meaning that it does not exist, and for a collection those that exist.

A look that fails comes through a fetch as it is, and is reported to a watch as a bad snapshot. Only
the end of an iteration cannot come through a list, or be waited for.
-/

import DocQuery.Hosted.Client
import DocQuery.Result

namespace DocQuery

/-! ### Looking at documents -/

/-- A document as the client lets it be looked at: whether it exists, its path, and its data. -/
structure NativeView where
  present : Except Failure Bool
  path : Except Failure Text
  data : Except Failure Value

namespace NativeView

/-- The snapshot of a document. The data of one that does not exist are not looked at. -/
def snapshot (view : NativeView) : Except Failure DocumentSnapshot :=
  match view.present with
  | .error failure => .error failure
  | .ok present =>
    match view.path with
    | .error failure => .error failure
    | .ok path =>
      if present then view.data.map fun data => ⟨path, data, true⟩ else .ok (.missing path)

/-- The snapshot of a document that is left out if it does not exist. -/
def snapshot? (view : NativeView) : Except Failure (Option DocumentSnapshot) :=
  match view.present with
  | .error failure => .error failure
  | .ok present => if present then view.snapshot.map some else .ok none

/-- Converts documents in order, or leaves them out; the first fault is the answer. -/
def gather (convert : NativeView → Except Failure (Option DocumentSnapshot)) :
    List NativeView → Except Failure (List DocumentSnapshot)
  | [] => .ok []
  | view :: rest =>
    match convert view with
    | .error failure => .error failure.gathered
    | .ok made =>
      match gather convert rest with
      | .error failure => .error failure
      | .ok others => .ok (made.toList ++ others)

/-- The snapshots of documents. -/
def snapshots : List NativeView → Except Failure (List DocumentSnapshot) :=
  gather fun view => view.snapshot.map some

/-- The snapshots of the documents that exist. -/
def existing : List NativeView → Except Failure (List DocumentSnapshot) := gather snapshot?

end NativeView

/-! ### Native documents -/

/-- A document that the client gives: its path, its data, null if there is none, and the failure
of looking at the data, if they are broken. -/
structure NativeDocument where
  path : Text
  data : Value
  broken : Option Failure
  deriving DecidableEq, Repr

namespace NativeDocument

/-- Whether a document exists. -/
def present (document : NativeDocument) : Bool := document.data ≠ .null

/-- What the looks at a document give. -/
def view (document : NativeDocument) : NativeView where
  present := .ok document.present
  path := .ok document.path
  data :=
    match document.broken with
    | some failure => .error failure
    | none => .ok document.data

def snapshot (document : NativeDocument) : Except Failure DocumentSnapshot :=
  document.view.snapshot

def snapshots (documents : List NativeDocument) : Except Failure (List DocumentSnapshot) :=
  NativeView.snapshots (documents.map view)

theorem snapshot_eq (document : NativeDocument) :
    document.snapshot =
      if document.present then
        match document.broken with
        | some failure => .error failure
        | none => .ok ⟨document.path, document.data, true⟩
      else .ok (.missing document.path) := by
  simp only [snapshot, NativeView.snapshot, view]
  cases document.broken <;> rfl

theorem snapshots_cons (document : NativeDocument) (rest : List NativeDocument) :
    snapshots (document :: rest) =
      match document.snapshot with
      | .error failure => .error failure.gathered
      | .ok first =>
        match snapshots rest with
        | .error failure => .error failure
        | .ok others => .ok (first :: others) := by
  rw [snapshots, List.map_cons, NativeView.snapshots, NativeView.gather, snapshot]
  cases document.view.snapshot <;> rfl

/-- Looked at in a list, a document that does not exist is left out, and every other converted. -/
theorem existing_map_view (documents : List NativeDocument) :
    NativeView.existing (documents.map view) = snapshots (documents.filter present) := by
  induction documents with
  | nil => rfl
  | cons document rest inductionHypothesis =>
    have looked : document.view.snapshot? =
        if document.present then document.view.snapshot.map some else .ok none := rfl
    rw [List.map_cons, NativeView.existing, NativeView.gather, looked]
    cases present : document.present with
    | true =>
      rw [List.filter_cons_of_pos present, snapshots_cons, ← inductionHypothesis, if_pos rfl,
        snapshot]
      cases document.view.snapshot <;> rfl
    | false =>
      rw [List.filter_cons_of_neg (by rw [present]; exact Bool.false_ne_true),
        ← inductionHypothesis, if_neg Bool.false_ne_true, NativeView.existing]
      cases NativeView.gather NativeView.snapshot? (rest.map view) <;> rfl

end NativeDocument

/-- What the client gives for a fetch: nothing, a document, or a list of them. -/
inductive Fetched (δ : Type)
  | nothing
  | document (content : δ)
  | documents (content : List δ)
  deriving DecidableEq, Repr

abbrev NativeAnswer := Fetched NativeDocument

/-- What the looks at the documents of an answer give. -/
def Fetched.views : NativeAnswer → Fetched NativeView
  | .nothing => .nothing
  | .document content => .document content.view
  | .documents content => .documents (content.map NativeDocument.view)

namespace HostedReference

/-! ### Fetching -/

/-- The snapshot that a fetched answer stands for. A document and a list of documents cannot
stand for each other. -/
def read (reference : HostedReference) (answer : Fetched NativeView) : Except Failure Snapshot :=
  if reference.isDocument then
    match answer with
    | .document content => content.snapshot.map .document
    | _ => .error (.foreign .unsupported "not a document")
  else
    match answer with
    | .documents content => (NativeView.snapshots content).map .query
    | _ => .error (.foreign .unsuitable "not a list of documents")

def snapshotOf (reference : HostedReference) (answer : NativeAnswer) : Except Failure Snapshot :=
  reference.read answer.views

/-- Whether a refusal comes from the service itself. -/
def isServiceFailure (failure : Failure) : Bool :=
  match failure with
  | .foreign kind _ => kind.isServiceAnswer
  | _ => false

/-- Fetches what a reference names, given what the looks at the client's answer would give. -/
def fetchViews (answer : Fetched NativeView) (reference : HostedReference) (client : NativeClient) :
    Except Failure Snapshot × NativeClient :=
  if reference.kind = .root then (.error (.store .rootNotReadable none), client)
  else
    match client.invoke ⟨reference.handle, "get", []⟩ with
    | (.error failure, after) =>
      (.error (if isServiceFailure failure then .operationFailed "get" reference.path failure
        else failure.handedOver), after)
    | (.ok _, after) => ((reference.read answer).mapError Failure.awaited, after)

/-- Fetches what a reference names, given what the client would answer. -/
def fetch (answer : NativeAnswer) (reference : HostedReference) (client : NativeClient) :
    Except Failure Snapshot × NativeClient := reference.fetchViews answer.views client

/-- Asks a query once, given what the client would answer. -/
def askOnce (type : QueryType) (projection : Projection) (answer : NativeAnswer)
    (reference : HostedReference) (client : NativeClient) :
    Except Failure QueryResult × NativeClient :=
  let fetched := reference.fetch answer client
  (QueryResult.ofRead type reference.path projection fetched.1, fetched.2)

/-! ### Watching -/

/-- The snapshot that a list stands for which a watch is given. -/
def convert (reference : HostedReference) (documents : List NativeView) :
    Except Failure Snapshot :=
  if reference.isDocument then
    match documents with
    | [] => .ok (.missing reference.path)
    | first :: _ => first.snapshot.map .document
  else (NativeView.existing documents).map .query

/-- What a watch is told: a snapshot, or why there is none. -/
def toldOf (reference : HostedReference) (documents : List NativeView) : Except Failure Snapshot :=
  (reference.convert documents).mapError (.badSnapshot reference.path)

def watched (reference : HostedReference) (documents : List NativeDocument) :
    Except Failure Snapshot := reference.convert (documents.map NativeDocument.view)

def told (reference : HostedReference) (documents : List NativeDocument) :
    Except Failure Snapshot := reference.toldOf (documents.map NativeDocument.view)

theorem snapshotOf_document {reference : HostedReference} (isDocument : reference.isDocument = true)
    (document : NativeDocument) :
    reference.snapshotOf (.document document) = document.snapshot.map .document := by
  rw [snapshotOf, read.eq_def, if_pos isDocument]
  rfl

theorem snapshotOf_documents {reference : HostedReference}
    (isCollection : reference.isDocument = false) (documents : List NativeDocument) :
    reference.snapshotOf (.documents documents) =
      (NativeDocument.snapshots documents).map .query := by
  rw [snapshotOf, read.eq_def, isCollection]
  rfl

theorem watched_eq (reference : HostedReference) (documents : List NativeDocument) :
    reference.watched documents =
      if reference.isDocument then
        match documents with
        | [] => .ok (.missing reference.path)
        | first :: _ => first.snapshot.map .document
      else (NativeDocument.snapshots (documents.filter NativeDocument.present)).map .query := by
  rw [watched, convert.eq_def, NativeDocument.existing_map_view]
  cases documents <;> rfl

theorem told_eq (reference : HostedReference) (documents : List NativeDocument) :
    reference.told documents =
      match reference.watched documents with
      | .ok snapshot => .ok snapshot
      | .error failure => .error (.badSnapshot reference.path failure) := by
  rw [told, toldOf, watched]
  cases reference.convert (documents.map NativeDocument.view) <;> rfl

/-- Starts a watch. -/
def watch (reference : HostedReference) (client : NativeClient) :
    Except Failure Unit × NativeClient :=
  if reference.kind = .root then (.error (.store .rootNotWatchable none), client)
  else
    let requested := request "on_snapshot" [] (.ok reference) reference client
    (requested.1.map fun _ => (), requested.2)

end HostedReference

end DocQuery
