/-
This file defines the dynamic values of documents and queries.

A value is null, a truth value, an integer, a floating point number, a text, a string of
bytes, a list, or a map. A sort direction can travel as a value too: it then stands for the text
of its code, and only its written forms tell it apart.

A map is its list of entries in insertion order. Its keys are texts as a rule, but every value
without parts can be one. Keys are told apart by the equality of the query language, so that a
number is the same key whatever its kind. The operations never make two entries of one key;
`Value.WellFormed` says this of all maps inside a value. It is a predicate beside the type, so
that values can be matched on as plain data.

A value has no identity. Where lists and maps are compared, two undefined numbers are taken to be two
objects, which are never equal; one and the same would be equal to itself there.
-/

import DocQuery.Number.Binary64
import DocQuery.Text.Basic

namespace DocQuery

/-! ### Sort directions -/

/-- The direction of a sort key. -/
inductive Direction
  | ascending
  | descending
  deriving DecidableEq, Repr

/-- The code that stands for a direction in stored and answered values. -/
def Direction.code : Direction → Text
  | .ascending => "asc"
  | .descending => "desc"

def Direction.ofCode? (code : Text) : Option Direction :=
  if code = "asc" then some .ascending
  else if code = "desc" then some .descending
  else none

theorem Direction.ofCode?_code (direction : Direction) :
    Direction.ofCode? direction.code = some direction := by
  cases direction <;> decide

/-! ### Keys -/

/-- The key of an entry of a map. -/
inductive Key
  | null
  | bool (flag : Bool)
  | int (number : Int)
  | float (number : Binary64)
  | text (content : Text)
  | bytes (content : List UInt8)
  deriving DecidableEq, Repr

namespace Key

instance : Coe Text Key := ⟨.text⟩

/-- The quantity a key stands for, if it is a number. -/
def quantity? : Key → Option Quantity
  | .bool flag => some (.ofInt flag.toInt)
  | .int number => some (.ofInt number)
  | .float number => some (.ofBinary64 number)
  | _ => none

/-- Whether two keys are the same key. An undefined number is never the same as another. -/
def same : Key → Key → Bool
  | .null, .null => true
  | .text content, .text other => content == other
  | .bytes content, .bytes other => content == other
  | left, right =>
    match left.quantity?, right.quantity? with
    | some quantity, some other => quantity.same other
    | _, _ => false

/-- Only the text itself is the same key as a text. -/
@[simp] theorem same_text_iff (key : Key) (name : Text) :
    key.same (.text name) = true ↔ key = .text name := by
  cases key <;> simp [same, quantity?]

/-- A text is the same key as itself only. -/
@[simp] theorem text_same_iff (key : Key) (name : Text) :
    (Key.text name).same key = true ↔ key = .text name := by
  cases key with
  | text content => simpa [same] using eq_comm
  | _ => simp [same, quantity?]

end Key

/-! ### Values -/

/-- A dynamic value. -/
inductive Value
  | null
  | bool (flag : Bool)
  | int (number : Int)
  | float (number : Binary64)
  | text (content : Text)
  | bytes (content : List UInt8)
  | list (items : List Value)
  | map (entries : List (Key × Value))
  | direction (sense : Direction)
  deriving Repr

instance : Coe Text Value := ⟨.text⟩

/-- The entries of a map, in insertion order. -/
abbrev Entries := List (Key × Value)

namespace Entries

def lookup (key : Key) : Entries → Option Value
  | [] => none
  | (found, value) :: rest => if found.same key then some value else lookup key rest

/-- Gives a key a value. A key that is there stays as it is and keeps its place; a new one comes
last. -/
def insert (key : Key) (value : Value) : Entries → Entries
  | [] => [(key, value)]
  | (found, old) :: rest =>
    if found.same key then (found, value) :: rest else (found, old) :: insert key value rest

/-- The map that arises when pairs are entered one after the other. -/
def ofPairs (pairs : List (Key × Value)) : Entries :=
  pairs.foldl (fun entries pair => insert pair.1 pair.2 entries) []

/-- The keys of a map, in insertion order. -/
def keys (entries : Entries) : List Key := entries.map Prod.fst

/-- No key comes twice. -/
def Distinct (entries : Entries) : Prop :=
  (keys entries).Pairwise fun earlier later => earlier.same later = false

instance (entries : Entries) : Decidable entries.Distinct :=
  inferInstanceAs (Decidable (List.Pairwise _ _))

@[simp] theorem keys_cons (entry : Key × Value) (rest : Entries) :
    keys (entry :: rest) = entry.1 :: keys rest := rfl

@[simp] theorem lookup_nil (key : Key) : lookup key [] = none := rfl

theorem lookup_insert_self (name : Text) (value : Value) (entries : Entries) :
    lookup name (insert name value entries) = some value := by
  induction entries with
  | nil => simp [insert, lookup]
  | cons entry rest inductionHypothesis =>
    obtain ⟨found, old⟩ := entry
    rw [insert]
    split
    · next same => rw [lookup, if_pos same]
    · next different => rw [lookup, if_neg different, inductionHypothesis]

theorem lookup_insert_of_ne {key : Key} {name : Text} (different : key ≠ .text name)
    (value : Value) (entries : Entries) :
    lookup name (insert key value entries) = lookup name entries := by
  induction entries with
  | nil => simp [insert, lookup, different]
  | cons entry rest inductionHypothesis =>
    obtain ⟨found, old⟩ := entry
    rw [insert]
    split
    · next same =>
      have apart : found ≠ .text name := by
        rintro rfl
        exact different ((Key.text_same_iff key name).mp same)
      simp [lookup, apart]
    · rw [lookup, lookup, inductionHypothesis]

theorem lookup_eq_none_iff (name : Text) (entries : Entries) :
    lookup name entries = none ↔ .text name ∉ keys entries := by
  induction entries with
  | nil => simp [keys]
  | cons entry rest inductionHypothesis =>
    obtain ⟨found, value⟩ := entry
    rw [lookup]
    split
    · next same => simp [keys, (Key.same_text_iff found name).mp same]
    · next different =>
      rw [Key.same_text_iff] at different
      rw [inductionHypothesis]
      simp [keys, Ne.symm different]

/-- Entering a key leaves the keys alone if it is among them, and appends it otherwise. -/
theorem keys_insert (key : Key) (value : Value) (entries : Entries) :
    keys (insert key value entries) =
      if (keys entries).any (·.same key) then keys entries else keys entries ++ [key] := by
  induction entries with
  | nil => simp [insert, keys]
  | cons entry rest inductionHypothesis =>
    obtain ⟨found, old⟩ := entry
    rw [insert]
    split
    · next same => simp [keys, same]
    · next different =>
      have others : found.same key = false := by simpa using different
      rw [keys_cons, keys_cons, inductionHypothesis, List.any_cons, others, Bool.false_or]
      by_cases present : (keys rest).any (·.same key) = true
      · rw [if_pos present, if_pos present]
      · rw [if_neg present, if_neg present, List.cons_append]

/-- Entering a key never makes two entries of one key. -/
theorem distinct_insert (key : Key) (value : Value) {entries : Entries}
    (distinct : entries.Distinct) : (insert key value entries).Distinct := by
  rw [Distinct, keys_insert]
  split
  · exact distinct
  · next absent =>
    rw [List.pairwise_append]
    refine ⟨distinct, List.pairwise_singleton _ _, fun found member other last => ?_⟩
    rw [List.mem_singleton] at last
    subst last
    simpa using fun same => absent (List.any_eq_true.mpr ⟨found, member, same⟩)

end Entries

def Key.value : Key → Value
  | .null => .null
  | .bool flag => .bool flag
  | .int number => .int number
  | .float number => .float number
  | .text content => .text content
  | .bytes content => .bytes content

namespace Value

/-! ### Equality of data

Two values are the same datum when they are built alike. This is finer than the equality of
the query language (`Value.same`), for which numbers of different kinds may be equal. -/

mutual
/-- Decides whether two values are built alike. -/
def decEq : (left right : Value) → Decidable (left = right)
  | .null, right => match right with
    | .null => isTrue rfl
    | .bool _ | .int _ | .float _ | .text _ | .bytes _ | .list _ | .map _ | .direction _ =>
      isFalse (by simp)
  | .bool flag, right => match right with
    | .bool other => decidable_of_iff (flag = other) (by simp)
    | .null | .int _ | .float _ | .text _ | .bytes _ | .list _ | .map _ | .direction _ =>
      isFalse (by simp)
  | .int number, right => match right with
    | .int other => decidable_of_iff (number = other) (by simp)
    | .null | .bool _ | .float _ | .text _ | .bytes _ | .list _ | .map _ | .direction _ =>
      isFalse (by simp)
  | .float number, right => match right with
    | .float other => decidable_of_iff (number = other) (by simp)
    | .null | .bool _ | .int _ | .text _ | .bytes _ | .list _ | .map _ | .direction _ =>
      isFalse (by simp)
  | .text content, right => match right with
    | .text other => decidable_of_iff (content = other) (by simp)
    | .null | .bool _ | .int _ | .float _ | .bytes _ | .list _ | .map _ | .direction _ =>
      isFalse (by simp)
  | .bytes content, right => match right with
    | .bytes other => decidable_of_iff (content = other) (by simp)
    | .null | .bool _ | .int _ | .float _ | .text _ | .list _ | .map _ | .direction _ =>
      isFalse (by simp)
  | .list items, right => match right with
    | .list others => match decEqList items others with
      | isTrue same => isTrue (by rw [same])
      | isFalse different => isFalse (by simpa using different)
    | .null | .bool _ | .int _ | .float _ | .text _ | .bytes _ | .map _ | .direction _ =>
      isFalse (by simp)
  | .map entries, right => match right with
    | .map others => match decEqEntries entries others with
      | isTrue same => isTrue (by rw [same])
      | isFalse different => isFalse (by simpa using different)
    | .null | .bool _ | .int _ | .float _ | .text _ | .bytes _ | .list _ | .direction _ =>
      isFalse (by simp)
  | .direction sense, right => match right with
    | .direction other => decidable_of_iff (sense = other) (by simp)
    | .null | .bool _ | .int _ | .float _ | .text _ | .bytes _ | .list _ | .map _ =>
      isFalse (by simp)
/-- Decides whether two lists of values are built alike. -/
def decEqList : (left right : List Value) → Decidable (left = right)
  | [], [] => isTrue rfl
  | [], _ :: _ => isFalse (by simp)
  | _ :: _, [] => isFalse (by simp)
  | item :: items, other :: others =>
    match decEq item other, decEqList items others with
    | isTrue first, isTrue rest => isTrue (by rw [first, rest])
    | isFalse different, _ => isFalse fun same => different (List.cons.inj same).1
    | _, isFalse different => isFalse fun same => different (List.cons.inj same).2
/-- Decides whether two lists of entries are built alike. -/
def decEqEntries : (left right : List (Key × Value)) → Decidable (left = right)
  | [], [] => isTrue rfl
  | [], _ :: _ => isFalse (by simp)
  | _ :: _, [] => isFalse (by simp)
  | (key, value) :: entries, (other, otherValue) :: others =>
    if keys : key = other then
      match decEq value otherValue, decEqEntries entries others with
      | isTrue first, isTrue rest => isTrue (by rw [keys, first, rest])
      | isFalse different, _ =>
        isFalse fun same => different (Prod.mk.inj (List.cons.inj same).1).2
      | _, isFalse different => isFalse fun same => different (List.cons.inj same).2
    else isFalse fun same => keys (Prod.mk.inj (List.cons.inj same).1).1
end

instance : DecidableEq Value := decEq

instance : Inhabited Value := ⟨.null⟩

/-! ### Kinds -/

/-- Whether a value counts as present where a choice hangs on it: null, zero, and everything
empty do not. -/
def truthy : Value → Bool
  | .null => false
  | .bool flag => flag
  | .int number => number != 0
  | .float number => !number.isZero
  | .text content => !content.isEmpty
  | .bytes content => !content.isEmpty
  | .list items => !items.isEmpty
  | .map entries => !entries.isEmpty
  | .direction _ => true

/-- The text that a value is, if it is one. -/
def asText? : Value → Option Text
  | .text content => some content
  | .direction sense => some sense.code
  | _ => none

/-- The key that a value is; lists and maps are none, and a direction is the text of its code. -/
def asKey? : Value → Option Key
  | .null => some .null
  | .bool flag => some (.bool flag)
  | .int number => some (.int number)
  | .float number => some (.float number)
  | .text content => some (.text content)
  | .bytes content => some (.bytes content)
  | .direction sense => some (.text sense.code)
  | .list _ => none
  | .map _ => none

/-- The entries of a value, if it is a map. -/
def asEntries? : Value → Option Entries
  | .map entries => some entries
  | _ => none

/-- The name of a value's kind, as it appears in messages. -/
def kindName : Value → String
  | .null => "NoneType"
  | .bool _ => "bool"
  | .int _ => "int"
  | .float _ => "float"
  | .text _ => "str"
  | .bytes _ => "bytes"
  | .list _ => "list"
  | .map _ => "dict"
  | .direction _ => "Direction"

/-! ### Well-formed values -/

mutual
/-- Whether every map inside a value has each key once. -/
def wellFormed : Value → Bool
  | .list items => wellFormedList items
  | .map entries => decide (Entries.Distinct entries) && wellFormedEntries entries
  | _ => true
/-- Whether every map inside the items has each key once. -/
def wellFormedList : List Value → Bool
  | [] => true
  | item :: rest => wellFormed item && wellFormedList rest
/-- Whether every map inside the values of the entries has each key once. -/
def wellFormedEntries : List (Key × Value) → Bool
  | [] => true
  | (_, value) :: rest => wellFormed value && wellFormedEntries rest
end

/-- Every map inside the value has each key once. -/
def WellFormed (value : Value) : Prop := value.wellFormed = true

instance (value : Value) : Decidable value.WellFormed :=
  inferInstanceAs (Decidable (_ = true))

end Value

end DocQuery
