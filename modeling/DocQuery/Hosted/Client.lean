/-
This file defines the client of a hosted store and the references into it.

The client does the work: opening, refining, fetching and watching are calls to it. It keeps the
calls it was given, and it may refuse any of them; what it refuses can hang on the calls before.
A reference pairs what the client handed out with the kind and the path of what it stands for, and
asks the client only for what fits its kind. A refusal that counts as an answer of the store is
reported as the failed operation, and any other comes through as it is.

Unlike a store in memory, a hosted one looks at names, operators and limits itself, so none of
them is refused here. A filter is made before the client is called with it. Which filters can be made
is up to whoever makes them, and what they refuse is taken as a refused call.
-/

import DocQuery.Builder
import DocQuery.Value.Written

namespace DocQuery

/-! ### Clients -/

/-- A call to the client: the name of the handle it was made on, what was asked, and with which
arguments. -/
structure NativeCall where
  handle : Text
  method : String
  arguments : List Value
  deriving DecidableEq, Repr

/-- Makes a filter of a field, an operator and a value: the arguments with which the client is called
for it, or why there is no such filter. -/
abbrev FilterMaker := Value → Value → Value → Except Failure (List Value)

/-- The client of a hosted store: the calls so far, what it refuses, given the calls before and the
call, and how filters for it are made. -/
structure NativeClient where
  calls : List NativeCall
  refusal : List NativeCall → NativeCall → Option Failure
  makeFilter : FilterMaker

namespace NativeClient

/-- A client that refuses nothing and takes filters as they are. -/
def willing : NativeClient :=
  ⟨[], fun _ _ => none, fun field operator value => .ok [field, operator, value]⟩

/-- Makes a call. It is kept whether it is refused or not. -/
def invoke (call : NativeCall) (client : NativeClient) : Except Failure Unit × NativeClient :=
  (match client.refusal client.calls call with
    | some failure => .error failure
    | none => .ok (),
    { client with calls := client.calls ++ [call] })

end NativeClient

/-! ### References -/

/-- What a handle of the client stands for. -/
inductive HostedKind
  | root
  | collection
  | query
  | document
  deriving DecidableEq, Repr

def HostedKind.name : HostedKind → String
  | .root => "root"
  | .collection => "collection"
  | .query => "query"
  | .document => "document"

/-- A reference into a hosted store: the name of the client's handle, what it stands for, and
where that is. The path is a text from the second name on; a single name is a path as it is. -/
structure HostedReference where
  handle : Text
  kind : HostedKind
  path : Value
  deriving DecidableEq, Repr

namespace HostedReference

/-- The reference to the root of the store. -/
def root : HostedReference := ⟨"client", .root, ""⟩

/-- Whether a reference names a collection, refined or not. -/
def isCollection (reference : HostedReference) : Bool :=
  reference.kind == .collection || reference.kind == .query

/-- Whether a reference names a document. -/
def isDocument (reference : HostedReference) : Bool := reference.kind == .document

def shown (reference : HostedReference) : String :=
  "FirestoreReference(" ++ reference.kind.name ++ ", " ++ reference.path.quoted ++ ")"

/-- The path of what lies below a reference under a name: both are written, unless the name is the
whole path. -/
def pathBelow (reference : HostedReference) (name : Value) : Except Failure Value :=
  if reference.path.truthy then
    (reference.path.toText Json.nestingLimit).bind fun front =>
      (name.toText Json.nestingLimit).map fun back => .text (front ++ "/" ++ back)
  else .ok name

/-- The reference to what lies below another under a name, if its path can be written. -/
def below (reference : HostedReference) (kind : HostedKind) (name : Value) :
    Except Failure HostedReference :=
  (reference.pathBelow name).map fun path =>
    ⟨reference.handle ++ "/" ++ name.displayed, kind, path⟩

/-- The reference to a refinement of another. -/
def refined (reference : HostedReference) : HostedReference :=
  ⟨reference.handle ++ "?", .query, reference.path⟩

/-! ### Calls -/

/-- Whether a refusal counts as an answer of the store. -/
def isAnswer (failure : Failure) : Bool :=
  match failure with
  | .foreign kind _ => kind.isNativeAnswer
  | _ => false

/-- What becomes of a refusal by an operation on a reference: one that counts as an answer of the store
is reported, and any other comes through. -/
def refusalOf (operation : String) (refusal : Failure) (reference : HostedReference) : Failure :=
  if isAnswer refusal then .operationFailed operation reference.path refusal else refusal

/-- Makes a call for an operation on a reference, and gives what the operation leads to. -/
def request (operation : String) (arguments : List Value)
    (reached : Except Failure HostedReference) (reference : HostedReference)
    (client : NativeClient) : Except Failure HostedReference × NativeClient :=
  match client.invoke ⟨reference.handle, operation, arguments⟩ with
  | (.ok _, after) => (reached, after)
  | (.error failure, after) => (.error (reference.refusalOf operation failure), after)

/-! ### Navigation and refinement -/

/-- The collection of a name below the root or a document. -/
def collection (name : Value) (reference : HostedReference) (client : NativeClient) :
    Except Failure HostedReference × NativeClient :=
  if reference.kind = .root ∨ reference.kind = .document then
    request "collection" [name] (reference.below .collection name) reference client
  else
    (.error (.quoting Json.nestingLimit name
      (.store (.collectionNotHere name) (some reference.path))), client)

/-- The document of a name in an unrefined collection. -/
def document (name : Value) (reference : HostedReference) (client : NativeClient) :
    Except Failure HostedReference × NativeClient :=
  if reference.kind = .collection then
    request "document" [name] (reference.below .document name) reference client
  else
    (.error (.quoting Json.nestingLimit name
      (.store (.documentNotHere name) (some reference.path))), client)

/-- Makes a call that refines a collection. -/
def refineBy (operation : String) (arguments : List Value) (reference : HostedReference)
    (client : NativeClient) : Except Failure HostedReference × NativeClient :=
  if reference.isCollection then
    request operation arguments (.ok reference.refined) reference client
  else (.error (.store (.collectionRequired operation) (some reference.path)), client)

/-- Filters a collection. The client is not called where there is no such filter. -/
def filterBy (field operator value : Value) (reference : HostedReference)
    (client : NativeClient) : Except Failure HostedReference × NativeClient :=
  if reference.isCollection then
    match client.makeFilter field operator value with
    | .error failure => (.error (reference.refusalOf "where" failure), client)
    | .ok arguments => request "where" arguments (.ok reference.refined) reference client
  else (.error (.store (.collectionRequired "where") (some reference.path)), client)

/-- The word by which the client knows a direction. -/
def directionWord : Direction → Value
  | .ascending => .text "ASCENDING"
  | .descending => .text "DESCENDING"

/-- The direction that a value means to the client: one code means ascending, and everything
else descending. -/
def directionMeant (direction : Value) : Direction :=
  if direction.same (.direction .ascending) then .ascending else .descending

/-- Applies one refinement. -/
def refine (refinement : Refinement) (reference : HostedReference) (client : NativeClient) :
    Except Failure HostedReference × NativeClient :=
  match refinement with
  | .filter field operator value => filterBy field operator value reference client
  | .limit count => refineBy "limit" [count] reference client
  | .order field direction => refineBy "order_by" [field, directionWord direction] reference client

/-- Navigation over references into a hosted store, which leaves calls with the client. -/
def navigation : Navigation NativeClient HostedReference where
  path := HostedReference.path
  isCollection := HostedReference.isCollection
  collection name := HostedReference.collection (.text name)
  document name := HostedReference.document (.text name)
  refine := HostedReference.refine

/-- Carries out one call that a caller asks for by hand. -/
def call (call : NavigationCall) (reference : HostedReference) (client : NativeClient) :
    Except Failure HostedReference × NativeClient :=
  match call with
  | .collection name => reference.collection name client
  | .document name => reference.document name client
  | .filter field operator value => reference.refine (.filter field operator value) client
  | .orderBy field direction => reference.refine (.order field (directionMeant direction)) client
  | .limit count => reference.refine (.limit count) client

/-- Carries out calls in order; the first failure is the answer. -/
def callAll : List NavigationCall → HostedReference → NativeClient →
    Except Failure HostedReference × NativeClient
  | [], reference, client => (.ok reference, client)
  | next :: rest, reference, client =>
    match reference.call next client with
    | (.error failure, after) => (.error failure, after)
    | (.ok reached, after) => callAll rest reached after

/-- Builds what a query names in a hosted store. -/
def build (mode : BuildMode) (components : List Component) (client : NativeClient) :
    Walked NativeClient (Built HostedReference) :=
  navigation.build mode root components client

end HostedReference

end DocQuery
