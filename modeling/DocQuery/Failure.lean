/-
This file defines what can go wrong, as causes.

A failure belongs to a family. Five families are the library's own: a query that cannot be
read, a document that is missing, a store that refuses, a connection that cannot be made, and a
collection expression on something that is no collection. Everything else is foreign: it was
raised by a caller's code, by a native client, by the file system, or by an operation that met
a value it cannot take. Foreign failures pass through the library unless a rule says
otherwise, and some rules wrap them, keeping the wrapped failure as the source. A rule goes by the
kind of a failure. A kind stands for all that are special cases of it and are not listed themselves.

A cancellation is no failure here: whoever waits can end cancelled, which is an ending of its own.

A failure can carry a path. It is a text, except where the references of a hosted store were given
a name that is none.

The wording of every message is in `Failure.message`; nothing in the library depends on it.
-/

import DocQuery.Value.Quoted

namespace DocQuery

/-! ### Foreign kinds -/

/-- The kinds of foreign failure that the library tells apart or raises itself. -/
inductive ForeignKind
  /-- An operation met a value of a kind that it cannot take. -/
  | unsuitable
  /-- An operation met a value of the right kind that it refuses. -/
  | refused
  /-- A key is not there. -/
  | absentKey
  /-- A value does not have the operation that was asked of it. -/
  | unsupported
  /-- Bytes are not text. -/
  | undecodable
  /-- A text has no form in bytes. -/
  | unencodable
  /-- Bytes and text do not fit in some other way. -/
  | unfitText
  /-- A stream has ended. -/
  | exhausted
  /-- An iteration has ended. -/
  | finished
  /-- A general failure of running code. -/
  | running
  /-- A failure of the operating system. -/
  | system
  /-- The other side closed a connection. -/
  | connectionReset
  /-- A call to a native service was answered with an error, which has a name and a status. -/
  | service (name status : String)
  /-- A file is not there. -/
  | missingFile
  /-- A directory of a path is a file. -/
  | notADirectory
  /-- A file is a directory. -/
  | isADirectory
  /-- A text is not JSON. -/
  | notJson
  /-- Values lie inside each other too deep. -/
  | excessive
  /-- Any other kind, known by name only. -/
  | named (name : String)
  deriving DecidableEq, Repr

/-- Whether a native client's failure of this kind is taken as an answer of the store. -/
def ForeignKind.isNativeAnswer : ForeignKind → Bool
  | .unsuitable | .refused | .undecodable | .unencodable | .unfitText | .notJson
  | .service _ _ => true
  | _ => false

/-- Whether a failure of this kind, while a connection is made, is taken as a refusal of it. -/
def ForeignKind.isConnectRefusal : ForeignKind → Bool
  | .refused | .undecodable | .unencodable | .unfitText | .notJson | .service _ _ => true
  | _ => false

/-- Whether a failure of this kind comes from the remote service itself. -/
def ForeignKind.isServiceAnswer : ForeignKind → Bool
  | .service _ _ => true
  | _ => false

/-! ### Causes -/

/-- Why a parsed query cannot be read. -/
inductive ParseCause
  | notASequence
  | notAMapping (kind : String)
  | untyped
  | unknownType (given : Value)
  | missingField (component : String) (field : String)
  | missingEntryField (field : String)
  | unknownEntry (given : Value)
  | notJson (fault : Text)
  | reported (message : Text)
  deriving DecidableEq, Repr

/-- Why a store refuses. -/
inductive StoreCause
  | badSegment (given : Value)
  | collectionInCollection (name : Value)
  | documentOutsideCollection (name : Value)
  | collectionRequired (operation : String)
  | unknownOperator (given : Value)
  | listRequired (operator : String)
  | badLimit (given : Value)
  | rootNotReadable
  | rootNotWatchable
  | notADocumentPath (given : Value)
  | closed
  | documentExpected
  | collectionExpected
  | collectionNotHere (name : Value)
  | documentNotHere (name : Value)
  | reported (message : Text)
  deriving DecidableEq, Repr

/-- Why a connection cannot be made. -/
inductive ConnectionCause
  | badIdentity
  | noCredentials (path : Text)
  | unreadableCredentials (path : Text) (fault : Text)
  | notAnObject (path : Text)
  | noProject
  | reported (reason : Text)
  deriving DecidableEq, Repr

inductive Failure
  /-- A parsed query cannot be read. -/
  | parse (cause : ParseCause)
  /-- A document is missing. -/
  | notFound (path : Value)
  /-- A store refuses. -/
  | store (cause : StoreCause) (path : Option Value)
  /-- A store cannot order values of a field. -/
  | unorderable (field : Value) (path : Text) (source : Failure)
  /-- A native operation failed. -/
  | operationFailed (operation : String) (path : Value) (source : Failure)
  /-- A native snapshot cannot be converted. -/
  | badSnapshot (path : Value) (source : Failure)
  /-- A connection cannot be made. -/
  | connection (project : Value) (cause : ConnectionCause)
  /-- A connection cannot be made because of another failure. -/
  | connectionFailed (project : Value) (cause : ConnectionCause) (source : Failure)
  /-- A collection expression stands on something that is no collection. -/
  | misplacedExpression (path : Value)
  /-- Any other failure. -/
  | foreign (kind : ForeignKind) (message : Text)
  deriving DecidableEq, Repr

/-- The families of failures. -/
inductive Family
  | parse
  | notFound
  | store
  | connection
  | refinement
  | foreign (kind : ForeignKind)
  deriving DecidableEq, Repr

/-! ### Wording -/

/-- The wording of a parse failure. -/
def ParseCause.message : ParseCause → Text
  | .notASequence => "Parsed query must be a sequence of components"
  | .notAMapping kind => "Component must be a mapping, got " ++ kind
  | .untyped => "Component is missing field: 'type'"
  | .unknownType given => "Unknown component type: " ++ given.quoted
  | .missingField component field =>
    "Component '" ++ component ++ "' is missing field: " ++ quotedText field
  | .missingEntryField field => "Collection expression entry is missing field: " ++ quotedText field
  | .unknownEntry given => "Unknown collection expression entry: " ++ given.quoted
  | .notJson fault => "Invalid component JSON: " ++ fault
  | .reported message => message

/-- The wording of a store's refusal. -/
def StoreCause.message : StoreCause → Text
  | .badSegment given => "Invalid path segment: " ++ given.quoted
  | .collectionInCollection name =>
    "Cannot open collection '" ++ name.displayed ++ "' inside collection"
  | .documentOutsideCollection name =>
    "Cannot open document '" ++ name.displayed ++ "' outside a plain collection"
  | .collectionRequired operation => "'" ++ operation ++ "' requires a collection reference"
  | .unknownOperator given => "Unsupported filter operator: " ++ given.quoted
  | .listRequired operator => "Operator '" ++ operator ++ "' requires a list value"
  | .badLimit given => "Limit must be a positive integer, got " ++ given.quoted
  | .rootNotReadable => "Cannot read the store root"
  | .rootNotWatchable => "Cannot listen to the store root"
  | .notADocumentPath given => "Not a document path: " ++ given.quoted
  | .closed => "Store is closed"
  | .documentExpected => "Expected a document snapshot"
  | .collectionExpected => "Expected a collection snapshot"
  | .collectionNotHere name => "Cannot open collection '" ++ name.displayed ++ "' here"
  | .documentNotHere name => "Cannot open document '" ++ name.displayed ++ "' here"
  | .reported message => message

/-- The wording of the reason why a connection cannot be made. -/
def ConnectionCause.reason : ConnectionCause → Text
  | .badIdentity => "invalid project identity"
  | .noCredentials path => "no credentials at " ++ path
  | .unreadableCredentials path fault => "unreadable credentials at " ++ path ++ ": " ++ fault
  | .notAnObject path => "credentials at " ++ path ++ " are not a JSON object"
  | .noProject => "no current project configured (set FQL_PROJECT)"
  | .reported reason => reason

namespace Failure

/-- The wording of a failed connection. -/
def connectionMessage (project : Value) (cause : ConnectionCause) : Text :=
  "Cannot connect to project '" ++ project.displayed ++ "': " ++ cause.reason

/-- The wording of a failure. The message of an absent key is the key in quotes. -/
def message : Failure → Text
  | .parse cause => cause.message
  | .notFound path => "No such document: " ++ path.displayed
  | .store cause _ => cause.message
  | .unorderable field _ _ => "Cannot order by '" ++ field.displayed ++ "': incomparable values"
  | .operationFailed operation _ source => operation ++ " failed: " ++ source.message
  | .badSnapshot _ source => "Bad snapshot: " ++ source.message
  | .connection project cause => connectionMessage project cause
  | .connectionFailed project cause _ => connectionMessage project cause
  | .misplacedExpression path =>
    "Collection expression cannot be applied to non-collection reference: " ++
      (if path.truthy then path.displayed else "/")
  | .foreign kind message => match kind with
    | .absentKey => quotedText message
    | .service _ status => status ++ " " ++ message
    | _ => message

/-! ### What a failure carries -/

def family : Failure → Family
  | .parse _ => .parse
  | .notFound _ => .notFound
  | .store _ _ | .unorderable _ _ _ | .operationFailed _ _ _ | .badSnapshot _ _ => .store
  | .connection _ _ | .connectionFailed _ _ _ => .connection
  | .misplacedExpression _ => .refinement
  | .foreign kind _ => .foreign kind

/-- The path a failure is about; the outer option is empty for families without a path. -/
def path? : Failure → Option (Option Value)
  | .notFound path => some (some path)
  | .store _ path => some path
  | .unorderable _ path _ => some (some path)
  | .operationFailed _ path _ => some (some path)
  | .badSnapshot path _ => some (some path)
  | .misplacedExpression path => some (some path)
  | _ => none

/-- The project and the reason of a failed connection. -/
def connection? : Failure → Option (Value × ConnectionCause)
  | .connection project cause => some (project, cause)
  | .connectionFailed project cause _ => some (project, cause)
  | _ => none

/-- The failure that a failure was made from. -/
def source? : Failure → Option Failure
  | .unorderable _ _ source => some source
  | .operationFailed _ _ source => some source
  | .badSnapshot _ source => some source
  | .connectionFailed _ _ source => some source
  | _ => none

/-- Whether a failure is of one of the library's own families. -/
def isOwn (failure : Failure) : Bool :=
  match failure.family with
  | .foreign _ => false
  | _ => true

/-- Whether a failure is a store's refusal. -/
def isStore (failure : Failure) : Bool := failure.family == .store

/-- Whether a failure is one that live queries hand to their listeners: a missing document or
a store's refusal. -/
def isDeliverable (failure : Failure) : Bool :=
  failure.family == .store || failure.family == .notFound

/-- Whether a failure is the one by which a stream says that it has ended. -/
def isEnd (failure : Failure) : Bool := failure.family == .foreign .exhausted

/-- What a failure is where the end of an iteration would read as another end: it comes as a
failure of running code, with such a message. -/
def unlessEnd (message : Text) (failure : Failure) : Failure :=
  match failure with
  | .foreign .finished _ => .foreign .running message
  | _ => failure

/-- What a failure is for one who waits for it: the end of an iteration would read as the end of
the wait. -/
def awaited : Failure → Failure := unlessEnd "coroutine raised StopIteration"

/-- What a failure is that comes up while a list is made: the end of an iteration would read as the
end of the list. -/
def gathered : Failure → Failure := unlessEnd "generator raised StopIteration"

/-- What a failure of work on another thread is for one who waits for it there. -/
def handedOver : Failure → Failure :=
  unlessEnd "StopIteration interacts badly with generators and cannot be raised into a Future"

/-- A failure of an operation that met a value of the wrong kind. -/
def unsuitable (value : Value) : Failure :=
  .foreign .unsuitable ("unsuitable kind of value: " ++ value.kindName)

/-- A failure of an operation that a value does not have. -/
def unsupported (value : Value) : Failure :=
  .foreign .unsupported ("unsupported by this kind of value: " ++ value.kindName)

end Failure

end DocQuery
