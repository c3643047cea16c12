/-
This file answers collection references from stored documents.

The documents of a collection are the stored ones exactly one segment below it. They are put
in the order of their ids, which are distinct, then filtered; then, for each sort key from the
last to the first, those without the key's field are left out and the rest are sorted stably by
the field, so that the first key decides and ties fall to the next. The limit comes last. The
outcome depends on the stored documents as a set only: the order of ids takes away whatever
order they were stored in.

A sort that meets values without an order fails as a whole. A field that is no name fails where
it is first looked up, so not at all in an empty collection.
-/

import DocQuery.Sorting.Stable
import DocQuery.Store.Reference
import DocQuery.Store.Snapshot

namespace DocQuery

/-- A stored document: its location and its data. -/
structure StoredDocument where
  segments : Segments
  data : Entries
  deriving DecidableEq, Repr

namespace StoredDocument

/-- The last segment of the location. -/
def id (document : StoredDocument) : Text := Segments.id document.segments

def snapshot (document : StoredDocument) : DocumentSnapshot :=
  .stored (Segments.path document.segments) document.data

/-- Whether a document lies directly in a collection. -/
def liesIn (collection : Segments) (document : StoredDocument) : Bool :=
  document.segments.length == collection.length + 1 &&
    document.segments.take collection.length == collection

end StoredDocument

namespace Query

/-! ### Order of ids -/

/-- Puts a document in front of the first whose id is not below its own. -/
def insertById (document : StoredDocument) : List StoredDocument → List StoredDocument
  | [] => [document]
  | other :: rest =>
    if other.id < document.id then other :: insertById document rest else document :: other :: rest

/-- The documents in the order of their ids. -/
def sortById (documents : List StoredDocument) : List StoredDocument :=
  documents.foldr insertById []

/-! ### Filters -/

/-- Whether a document passes all filters; the first one that it fails ends the question. -/
def passesAll (document : StoredDocument) : List Filter → Except Failure Bool
  | [] => .ok true
  | filter :: rest =>
    match filter.admits document.data with
    | .error failure => .error failure
    | .ok false => .ok false
    | .ok true => passesAll document rest

def keepPassing (filters : List Filter) : List StoredDocument →
    Except Failure (List StoredDocument)
  | [] => .ok []
  | document :: rest =>
    match passesAll document filters with
    | .error failure => .error failure
    | .ok passed =>
      match keepPassing filters rest with
      | .error failure => .error failure
      | .ok kept => .ok (if passed then document :: kept else kept)

/-! ### Sort keys -/

/-- The documents that have a field, each with its value. -/
def withField (field : Value) : List StoredDocument →
    Except Failure (List (Value × StoredDocument))
  | [] => .ok []
  | document :: rest =>
    match Value.resolveField field (.map document.data) with
    | .error failure => .error failure
    | .ok found =>
      match withField field rest with
      | .error failure => .error failure
      | .ok others =>
        match found with
        | some value => .ok ((value, document) :: others)
        | none => .ok others

def sortKeyed (direction : Direction) (keyed : List (Value × StoredDocument)) :
    Option (List (Value × StoredDocument)) :=
  match direction with
  | .ascending => Sorting.ascending (fun left right => left.1.less? right.1) keyed
  | .descending => Sorting.descending (fun left right => left.1.less? right.1) keyed

/-- The failure of values without an order. -/
def unorderable (field : Value) (path : Text) : Failure :=
  .unorderable field path (.foreign .unsuitable "values without an order")

/-- Leaves out the documents without a key's field and sorts the others by it. -/
def sortByKey (path : Text) (key : SortKey) (documents : List StoredDocument) :
    Except Failure (List StoredDocument) :=
  match withField key.field documents with
  | .error failure => .error failure
  | .ok keyed =>
    match sortKeyed key.direction keyed with
    | none => .error (unorderable key.field path)
    | some sorted => .ok (sorted.map Prod.snd)

/-- Sorts by all keys, the last one first. -/
def sortByKeys (path : Text) : List SortKey → List StoredDocument →
    Except Failure (List StoredDocument)
  | [], documents => .ok documents
  | key :: rest, documents =>
    match sortByKeys path rest documents with
    | .error failure => .error failure
    | .ok sorted => sortByKey path key sorted

/-! ### Answers -/

/-- Cuts documents to a limit, if there is one. -/
def cutTo (limit : Option Nat) (documents : List StoredDocument) : List StoredDocument :=
  match limit with
  | some count => documents.take count
  | none => documents

/-- The documents that a collection reference answers, in order. -/
def run (documents : List StoredDocument) (reference : Reference) :
    Except Failure (List StoredDocument) :=
  let children := sortById (documents.filter (StoredDocument.liesIn reference.segments))
  match keepPassing reference.filters children with
  | .error failure => .error failure
  | .ok kept =>
    match sortByKeys reference.path reference.orders kept with
    | .error failure => .error failure
    | .ok sorted => .ok (cutTo reference.limit sorted)

/-- The data of the document at a location. -/
def dataAt (segments : Segments) : List StoredDocument → Option Entries
  | [] => none
  | document :: rest =>
    if document.segments = segments then some document.data else dataAt segments rest

/-- What a reference answers from stored documents. The root is not readable. -/
def read (documents : List StoredDocument) (reference : Reference) : Except Failure Snapshot :=
  if reference.isDocument then
    match dataAt reference.segments documents with
    | some data => .ok (.document (.stored reference.path data))
    | none => .ok (.document (.missing reference.path))
  else if reference.isCollection then
    match run documents reference with
    | .error failure => .error failure
    | .ok answered => .ok (.query (answered.map StoredDocument.snapshot))
  else .error (.store .rootNotReadable (some reference.path))

end Query

end DocQuery
