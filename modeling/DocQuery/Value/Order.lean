/-
This file says when values are equal for a query and how they are ordered.

Equality ignores the kind of a number: truth values count as zero and one, and integers and
floating point numbers are equal when they stand for the same quantity. Lists are equal
member by member, maps key by key in any order. A number that is undefined equals nothing,
itself included.

Order exists between two numbers, two texts (by code point), two strings of bytes and two
lists. Lists are compared at the first place where their members are not equal, and by length
if there is no such place. Between all other values there is no order, and asking for one is a
fault of the caller; `Comparison` keeps this apart from the case of an undefined number, where
the question is sound and the answer is "no".
-/

import DocQuery.Value.Basic

namespace DocQuery

namespace Value

/-! ### Equality -/

/-- The quantity a value stands for, if it is a number. -/
def quantity? : Value → Option Quantity
  | .bool flag => some (.ofInt flag.toInt)
  | .int number => some (.ofInt number)
  | .float number => some (.ofBinary64 number)
  | _ => none

/-- Whether a value is a number equal to a quantity. -/
def sameQuantity (quantity : Quantity) (value : Value) : Bool :=
  match value.quantity? with
  | some other => quantity.same other
  | none => false

def sameText (content : Text) (value : Value) : Bool :=
  match value.asText? with
  | some other => content == other
  | none => false

mutual
/-- Whether two values are equal for a query. -/
def same : Value → Value → Bool
  | .null, right => match right with
    | .null => true
    | _ => false
  | .bool flag, right => sameQuantity (.ofInt flag.toInt) right
  | .int number, right => sameQuantity (.ofInt number) right
  | .float number, right => sameQuantity (.ofBinary64 number) right
  | .text content, right => sameText content right
  | .bytes content, right => match right with
    | .bytes other => content == other
    | _ => false
  | .list items, right => match right with
    | .list others => sameList items others
    | _ => false
  | .map entries, right => match right with
    | .map others => entries.length == others.length && sameEntries entries others
    | _ => false
  | .direction sense, right => sameText sense.code right
/-- Whether two lists are equal member by member. -/
def sameList : List Value → List Value → Bool
  | [], others => others.isEmpty
  | item :: items, others => match others with
    | [] => false
    | other :: rest => same item other && sameList items rest
/-- Whether every entry is matched by an equal value under its key. -/
def sameEntries : List (Key × Value) → List (Key × Value) → Bool
  | [], _ => true
  | (key, value) :: entries, others =>
    (match Entries.lookup key others with
    | some other => same value other
    | none => false) && sameEntries entries others
end

/-- Whether a value is equal to a member of a list. -/
def memberOf (value : Value) (items : List Value) : Bool := items.any value.same

/-! ### Order -/

end Value

/-- What comparing two values can say. -/
inductive Comparison
  | incomparable
  | unordered
  | ordered (ordering : Ordering)
  deriving DecidableEq, Repr

/-- The relations that an order decides. -/
inductive Relation
  | below
  | atMost
  | above
  | atLeast
  deriving DecidableEq, Repr

/-- Whether a relation holds between two things that compare in a given way. -/
def Relation.admits : Relation → Ordering → Bool
  | .below, ordering => ordering == .lt
  | .atMost, ordering => ordering != .gt
  | .above, ordering => ordering == .gt
  | .atLeast, ordering => ordering != .lt

/-- Whether a relation holds; there is no answer for values without an order. -/
def Comparison.decide? (relation : Relation) : Comparison → Option Bool
  | .incomparable => none
  | .unordered => some false
  | .ordered ordering => some (relation.admits ordering)

/-- The comparison of two quantities. -/
def Comparison.ofQuantities (left right : Quantity) : Comparison :=
  match left.order right with
  | some ordering => .ordered ordering
  | none => .unordered

/-- The comparison of two texts, by code point. -/
def Comparison.ofTexts (left right : Text) : Comparison :=
  .ordered (if left < right then .lt else if left = right then .eq else .gt)

/-- The comparison of two strings of bytes. -/
def Comparison.ofBytes : List UInt8 → List UInt8 → Ordering
  | [], [] => .eq
  | [], _ :: _ => .lt
  | _ :: _, [] => .gt
  | byte :: bytes, other :: others =>
    if byte < other then .lt else if other < byte then .gt else ofBytes bytes others

namespace Value

def orderText (content : Text) (right : Value) : Comparison :=
  match right.asText? with
  | some other => .ofTexts content other
  | none => .incomparable

mutual
/-- How two values compare. -/
def order : Value → Value → Comparison
  | .list items, right => match right with
    | .list others => orderList items others
    | _ => .incomparable
  | .bytes content, right => match right with
    | .bytes other => .ordered (Comparison.ofBytes content other)
    | _ => .incomparable
  | .text content, right => orderText content right
  | .direction sense, right => orderText sense.code right
  | .bool flag, right => match right.quantity? with
    | some other => .ofQuantities (.ofInt flag.toInt) other
    | none => .incomparable
  | .int number, right => match right.quantity? with
    | some other => .ofQuantities (.ofInt number) other
    | none => .incomparable
  | .float number, right => match right.quantity? with
    | some other => .ofQuantities (.ofBinary64 number) other
    | none => .incomparable
  | .null, _ => .incomparable
  | .map _, _ => .incomparable
/-- How two lists compare: at the first place where the members are not equal. -/
def orderList : List Value → List Value → Comparison
  | [], others => match others with
    | [] => .ordered .eq
    | _ :: _ => .ordered .lt
  | item :: items, others => match others with
    | [] => .ordered .gt
    | other :: rest => if same item other then orderList items rest else order item other
end

/-- Whether a relation holds between two values; there is no answer for values without an
order. -/
def relates? (relation : Relation) (left right : Value) : Option Bool :=
  (left.order right).decide? relation

/-- Whether one value sorts before another; there is no answer for values without an order. -/
def less? (left right : Value) : Option Bool := relates? .below left right

end Value

end DocQuery
