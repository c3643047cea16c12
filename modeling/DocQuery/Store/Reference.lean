/-
This file defines references into a store of documents: where to read, and how.

A location is a list of segments. Collections and documents alternate along it, so a location
of odd length is a collection, one of even length a document, and the empty one is the root. A
reference is a location with the refinements that a collection was given: filters, sort keys
and a limit. Navigation and refinement refuse what does not fit, and their order of checks is
part of their meaning, since it decides which failure is answered. A refusal quotes the value that
does not fit; if that is not written, the failure of the writing is answered in its place.
-/

import DocQuery.Component.Basic
import DocQuery.Value.Conversion
import DocQuery.Value.Order
import DocQuery.Value.Written

namespace DocQuery

/-! ### Locations -/

/-- A location in a store, as its segments. -/
abbrev Segments := List Text

namespace Segments

/-- The segments of a path; empty pieces do not count. -/
def ofPath (path : Text) : Segments := (Text.split '/' path).filter (· ≠ [])

/-- The path of a location. -/
def path (segments : Segments) : Text := Text.join '/' segments

/-- Whether a location is a collection. -/
def isCollection (segments : Segments) : Bool := segments.length % 2 == 1

/-- Whether a location is a document. -/
def isDocument (segments : Segments) : Bool := segments.length % 2 == 0 && !segments.isEmpty

/-- The location one segment up. -/
def parent (segments : Segments) : Segments := segments.dropLast

/-- The last segment. -/
def id (segments : Segments) : Text := segments.getLast?.getD []

/-- The location of a path that has to name a document. -/
def ofDocumentPath (path : Value) : Except Failure Segments :=
  match path.toName with
  | .error failure => .error failure
  | .ok name =>
    if (ofPath name).isDocument then .ok (ofPath name)
    else .error (.store (.notADocumentPath path) (some name))

/-- A location is at most one of collection and document. -/
theorem not_isDocument_of_isCollection {segments : Segments}
    (collection : segments.isCollection = true) : segments.isDocument = false := by
  simp only [isCollection, beq_iff_eq] at collection
  simp [isDocument, collection]

end Segments

/-! ### Operators -/

/-- The operators of a filter. -/
inductive Operator
  | equal
  | unequal
  | below
  | atMost
  | above
  | atLeast
  | inside
  | notInside
  | arrayContains
  | arrayContainsAny
  deriving DecidableEq, Repr

namespace Operator

def symbols : List (Text × Operator) :=
  [("==", .equal), ("!=", .unequal), ("<", .below), ("<=", .atMost), (">", .above),
    (">=", .atLeast), ("in", .inside), ("not-in", .notInside),
    ("array-contains", .arrayContains), ("array-contains-any", .arrayContainsAny)]

def ofSymbol? (symbol : Text) : Option Operator := symbols.lookup symbol

def symbol : Operator → String
  | .equal => "=="
  | .unequal => "!="
  | .below => "<"
  | .atMost => "<="
  | .above => ">"
  | .atLeast => ">="
  | .inside => "in"
  | .notInside => "not-in"
  | .arrayContains => "array-contains"
  | .arrayContainsAny => "array-contains-any"

/-- Whether an operator compares with the members of a list. -/
def needsList : Operator → Bool
  | .inside | .notInside | .arrayContainsAny => true
  | _ => false

theorem ofSymbol?_symbol (operator : Operator) : ofSymbol? operator.symbol = some operator := by
  cases operator <;> decide

/-- The members of a list; a value that is no list has none. -/
def members : Value → List Value
  | .list items => items
  | _ => []

/-- Whether a value is a list that holds one of the given values. -/
def containsAny (actual : Value) (wanted : List Value) : Bool :=
  wanted.any fun value => value.memberOf (members actual)

/-- What an operator says of a field's value and the filter's; values without an order have no
answer. -/
def compare? (operator : Operator) (actual expected : Value) : Option Bool :=
  match operator with
  | .equal => some (actual.same expected)
  | .unequal => some !(actual.same expected)
  | .below => actual.relates? .below expected
  | .atMost => actual.relates? .atMost expected
  | .above => actual.relates? .above expected
  | .atLeast => actual.relates? .atLeast expected
  | .inside => some (actual.memberOf (members expected))
  | .notInside => some !(actual.memberOf (members expected))
  | .arrayContains => some (expected.memberOf (members actual))
  | .arrayContainsAny => some (containsAny actual (members expected))

/-- Whether a field's value passes; values without an order never do. -/
def passes (operator : Operator) (actual expected : Value) : Bool :=
  (operator.compare? actual expected).getD false

end Operator

/-! ### Filters -/

/-- A filter: a field, an operator, and the value to compare with. -/
structure Filter where
  field : Value
  operator : Operator
  value : Value
  deriving DecidableEq, Repr

/-- Whether data passes a filter. A field that is not there never does. -/
def Filter.admits (filter : Filter) (data : Entries) : Except Failure Bool :=
  match Value.resolveField filter.field (.map data) with
  | .error failure => .error failure
  | .ok none => .ok false
  | .ok (some actual) => .ok (filter.operator.passes actual filter.value)

/-! ### References -/

/-- A sort key: a field and a direction. -/
structure SortKey where
  field : Value
  direction : Direction
  deriving DecidableEq, Repr

/-- A location with its refinements. -/
structure Reference where
  segments : Segments
  filters : List Filter
  orders : List SortKey
  limit : Option Nat
  deriving DecidableEq, Repr

namespace Reference

/-- The reference to the root of a store. -/
def root : Reference := ⟨[], [], [], none⟩

/-- The unrefined reference to a location. -/
def plain (segments : Segments) : Reference := ⟨segments, [], [], none⟩

def path (reference : Reference) : Text := Segments.path reference.segments

/-- Whether a reference names a collection. -/
def isCollection (reference : Reference) : Bool := Segments.isCollection reference.segments

/-- Whether a reference names a document. -/
def isDocument (reference : Reference) : Bool := Segments.isDocument reference.segments

def isRefined (reference : Reference) : Bool :=
  !reference.filters.isEmpty || !reference.orders.isEmpty || reference.limit.isSome

def shown (reference : Reference) : String :=
  "InMemoryReference(" ++ quotedText reference.path ++ ")"

/-! ### Navigation -/

/-- The failure of a value that is no segment. -/
def badSegment (name : Value) : Failure :=
  .quoting Json.nestingLimit name (.store (.badSegment name) none)

/-- The name of a segment: a text that is not empty and holds no slash. -/
def segmentName (name : Value) : Except Failure Text :=
  match name.asText? with
  | some content =>
    if content = [] ∨ .char '/' ∈ content then .error (badSegment name) else .ok content
  | none => .error (badSegment name)

/-- The collection of a name below a reference. Refinements are left behind. -/
def collection (name : Value) (reference : Reference) : Except Failure Reference :=
  match segmentName name with
  | .error failure => .error failure
  | .ok content =>
    if reference.isCollection then
      .error (.store (.collectionInCollection name) (some reference.path))
    else .ok (plain (reference.segments ++ [content]))

/-- The document of a name in a collection, which must not be refined. -/
def document (name : Value) (reference : Reference) : Except Failure Reference :=
  match segmentName name with
  | .error failure => .error failure
  | .ok content =>
    if !reference.isCollection || reference.isRefined then
      .error (.store (.documentOutsideCollection name) (some reference.path))
    else .ok (plain (reference.segments ++ [content]))

/-! ### Refinement -/

/-- Refuses an operation on what is no collection. -/
def requireCollection (operation : String) (reference : Reference) : Except Failure Unit :=
  if reference.isCollection then .ok ()
  else .error (.store (.collectionRequired operation) (some reference.path))

/-- The failure of a value that names no operator. -/
def unknownOperator (operator : Value) (path : Text) : Failure :=
  .quoting Json.nestingLimit operator (.store (.unknownOperator operator) (some path))

/-- The operator that a value names. Lists and maps cannot even be looked up. -/
def operatorNamed (operator : Value) (path : Text) : Except Failure Operator :=
  match operator with
  | .list _ | .map _ => .error (.unsuitable operator)
  | .text symbol =>
    match Operator.ofSymbol? symbol with
    | some found => .ok found
    | none => .error (unknownOperator operator path)
  | _ => .error (unknownOperator operator path)

def isList : Value → Bool
  | .list _ => true
  | _ => false

/-- Adds a filter. -/
def filter (field operator value : Value) (reference : Reference) : Except Failure Reference :=
  match requireCollection "where" reference, operatorNamed operator reference.path with
  | .error failure, _ => .error failure
  | .ok _, .error failure => .error failure
  | .ok _, .ok found =>
    if found.needsList && !isList value then
      .error (.store (.listRequired found.symbol) (some reference.path))
    else .ok { reference with filters := reference.filters ++ [⟨field, found, value⟩] }

/-- Adds a sort key. -/
def orderBy (field : Value) (direction : Direction) (reference : Reference) :
    Except Failure Reference :=
  match requireCollection "order_by" reference with
  | .error failure => .error failure
  | .ok _ => .ok { reference with orders := reference.orders ++ [⟨field, direction⟩] }

/-- The failure of a value that is no limit. -/
def badLimit (count : Value) (path : Text) : Failure :=
  .quoting Json.nestingLimit count (.store (.badLimit count) (some path))

/-- The number of documents that a value limits to. -/
def limitCount (count : Value) (path : Text) : Except Failure Nat :=
  match count with
  | .int number => if 1 ≤ number then .ok number.toNat else .error (badLimit count path)
  | _ => .error (badLimit count path)

/-- Sets the limit; an earlier one no longer counts. -/
def limitTo (count : Value) (reference : Reference) : Except Failure Reference :=
  match requireCollection "limit" reference, limitCount count reference.path with
  | .error failure, _ => .error failure
  | .ok _, .error failure => .error failure
  | .ok _, .ok number => .ok { reference with limit := some number }

/-- Applies one refinement. -/
def refine (refinement : Refinement) (reference : Reference) : Except Failure Reference :=
  match refinement with
  | .filter field operator value => reference.filter field operator value
  | .limit count => reference.limitTo count
  | .order field direction => reference.orderBy field direction

/-! ### Calls

A caller who navigates by hand gives every argument as a value, the direction of a sort key
included. -/

def directionNamed : Value → Except Failure Direction
  | .direction sense => .ok sense
  | .text code =>
    match Direction.ofCode? code with
    | some sense => .ok sense
    | none => .error (.foreign .refused "no such direction")
  | _ => .error (.foreign .refused "no such direction")

/-- Adds a sort key whose direction is given as a value. -/
def orderByNamed (field direction : Value) (reference : Reference) : Except Failure Reference :=
  match requireCollection "order_by" reference, directionNamed direction with
  | .error failure, _ => .error failure
  | .ok _, .error failure => .error failure
  | .ok _, .ok sense => reference.orderBy field sense

/-! ### Shape of what navigation reaches -/

theorem path_plain (segments : Segments) : (plain segments).path = Segments.path segments := rfl

theorem isRefined_plain (segments : Segments) : (plain segments).isRefined = false := rfl

end Reference

/-- One navigation or refinement that a caller asks for by hand. -/
inductive NavigationCall
  | collection (name : Value)
  | document (name : Value)
  | filter (field operator value : Value)
  | orderBy (field direction : Value)
  | limit (count : Value)
  deriving DecidableEq, Repr

/-- Carries out one call. -/
def Reference.call (call : NavigationCall) (reference : Reference) : Except Failure Reference :=
  match call with
  | .collection name => reference.collection name
  | .document name => reference.document name
  | .filter field operator value => reference.filter field operator value
  | .orderBy field direction => reference.orderByNamed field direction
  | .limit count => reference.limitTo count

/-- Carries out calls in order; the first failure is the answer. -/
def Reference.callAll : List NavigationCall → Reference → Except Failure Reference
  | [], reference => .ok reference
  | call :: rest, reference =>
    match reference.call call with
    | .error failure => .error failure
    | .ok next => callAll rest next

end DocQuery
