/-
This file defines the components of a parsed query and what kind of thing a query names.

A query is a sequence of components, in the order of its text. Literals name collections and
documents in turn, beginning with a collection; so a query whose literals are odd in number
names a collection, and any other a document. The other components refine the collection
reached so far, choose the fields of the documents that are answered, or force the next literal
to name a collection.

The parts of a refinement are dynamic values. Which of them are acceptable is decided where a
refinement is applied, not where it is read.
-/

import DocQuery.Value.Basic

namespace DocQuery

/-! ### Components -/

/-- One refinement of a collection. -/
inductive Refinement
  /-- Keeps the documents whose field relates to a value. -/
  | filter (field : Value) (operator : Value) (value : Value)
  /-- Keeps so many documents. -/
  | limit (count : Value)
  /-- Sorts the documents by a field. -/
  | order (field : Value) (direction : Direction)
  deriving DecidableEq, Repr

inductive Component
  /-- The name of a collection or document. -/
  | literal (name : Text)
  /-- The next literal names a collection. -/
  | all
  /-- Refinements of the collection reached so far, in order. -/
  | collectionExpression (refinements : List Refinement)
  /-- The fields that answered documents keep. -/
  | documentExpression (fields : List Text)
  deriving DecidableEq, Repr

namespace Component

def isLiteral : Component → Bool
  | .literal _ => true
  | _ => false

def isDocumentExpression : Component → Bool
  | .documentExpression _ => true
  | _ => false

/-- The number of literals of a query. -/
def literalCount (components : List Component) : Nat := components.countP isLiteral

end Component

/-! ### What a query names -/

/-- The two kinds of thing a query can name. -/
inductive QueryType
  | document
  | collection
  deriving DecidableEq, Repr

namespace QueryType

def name : QueryType → String
  | .document => "DOCUMENT"
  | .collection => "COLLECTION"

def ofName? (name : String) : Option QueryType :=
  if name = "DOCUMENT" then some .document
  else if name = "COLLECTION" then some .collection
  else none

theorem ofName?_name (type : QueryType) : ofName? type.name = some type := by
  cases type <;> decide

end QueryType

/-- The kind of thing that a query names. -/
def classify (components : List Component) : QueryType :=
  if Component.literalCount components % 2 = 0 then .document else .collection

/-! ### Projections -/

/-- Which fields answered documents keep: all of them unless the projection is active. -/
structure Projection where
  fields : List Text
  active : Bool
  deriving DecidableEq, Repr

namespace Projection

/-- The projection that keeps every field. -/
def everything : Projection := ⟨[], false⟩

/-- The active projection to the given fields. -/
def onto (fields : List Text) : Projection := ⟨fields, true⟩

/-- The fields that restrict the answered data; no field means no restriction. -/
def restriction (projection : Projection) : List Text :=
  if projection.active then projection.fields else []

@[simp] theorem restriction_everything : everything.restriction = [] := rfl

@[simp] theorem restriction_onto (fields : List Text) : (onto fields).restriction = fields := rfl

end Projection

end DocQuery
