/-
This file reads values as the things an operation expects of them.

A value can be gone through item by item, taken as a map, or taken as the name of a field.
Each reading has its own rule for what it accepts, and refuses the rest with the failure that
fits: a wrong kind is unsuitable, a right kind with wrong content is refused, and a value
without the operation at all is unsupported. Taken as a map, a list of pairs may give it keys of
any kind that can be one. A field name may be dotted; the parts then lead through nested maps.
-/

import DocQuery.Failure
import DocQuery.Text.Separated

namespace DocQuery

namespace Value

/-! ### Items -/

/-- The code points of a text, as texts. -/
def characters (content : Text) : List Value := content.map fun point => .text [point]

/-- The items of a value: list items, characters, byte codes, or keys. -/
def items : Value → Except Failure (List Value)
  | .list members => .ok members
  | .text content => .ok (characters content)
  | .direction sense => .ok (characters sense.code)
  | .bytes content => .ok (content.map fun byte => .int byte.toNat)
  | .map entries => .ok (entries.map fun entry => entry.1.value)
  | value => .error (.unsuitable value)

def hasItems (value : Value) : Bool := value.items.isOk

/-! ### Maps -/

/-- A value of two items as an entry whose key is the first. A list or a map can be no key. -/
def toEntry (value : Value) : Except Failure (Key × Value) :=
  match value.items with
  | .error failure => .error failure
  | .ok [key, content] =>
    match key.asKey? with
    | some found => .ok (found, content)
    | none => .error (.unsuitable key)
  | .ok _ => .error (.foreign .refused "an entry has a key and a value")

/-- Items as entries, one after the other; the first fault is the answer. -/
def toEntryList : List Value → Except Failure (List (Key × Value))
  | [] => .ok []
  | item :: rest =>
    match item.toEntry with
    | .error failure => .error failure
    | .ok entry =>
      match toEntryList rest with
      | .error failure => .error failure
      | .ok entries => .ok (entry :: entries)

/-- A value as a map: a map is itself, anything else is taken for a sequence of entries. -/
def toEntries : Value → Except Failure Entries
  | .map entries => .ok entries
  | value =>
    match value.items with
    | .error failure => .error failure
    | .ok members =>
      match toEntryList members with
      | .error failure => .error failure
      | .ok entries => .ok (Entries.ofPairs entries)

@[simp] theorem toEntries_map (entries : Entries) : toEntries (.map entries) = .ok entries := rfl

/-! ### Fields -/

/-- The parts of a dotted name. -/
def nameParts (name : Text) : List Text := Text.split '.' name

/-- Follows keys through nested maps. -/
def walk : List Text → Value → Option Value
  | [], value => some value
  | key :: rest, .map entries => (Entries.lookup key entries).bind (walk rest)
  | _ :: _, _ => none

/-- The value that a dotted name leads to. -/
def resolve (name : Text) (value : Value) : Option Value := value.walk (nameParts name)

/-- A value as a name that can be cut into parts. Bytes can be cut, but not at a text. -/
def toName : Value → Except Failure Text
  | .text content => .ok content
  | .direction sense => .ok sense.code
  | .bytes content => .error (.unsuitable (.bytes content))
  | value => .error (.unsupported value)

/-- The value that a field leads to, for a field given as a value. -/
def resolveField (field : Value) (value : Value) : Except Failure (Option Value) :=
  field.toName.map fun name => value.resolve name

@[simp] theorem toName_text (name : Text) : toName (.text name) = .ok name := rfl

@[simp] theorem resolveField_text (name : Text) (value : Value) :
    resolveField (.text name) value = .ok (value.resolve name) := rfl

/-- Following keys one after the other is following their concatenation. -/
theorem walk_append (first second : List Text) (value : Value) :
    value.walk (first ++ second) = (value.walk first).bind (walk second) := by
  induction first generalizing value with
  | nil => rfl
  | cons key rest inductionHypothesis =>
    cases value with
    | map entries =>
      simp only [List.cons_append, walk, Option.bind_assoc]
      congr 1
      funext found
      exact inductionHypothesis found
    | null => rfl
    | bool flag => rfl
    | int number => rfl
    | float number => rfl
    | text content => rfl
    | bytes content => rfl
    | list members => rfl
    | direction sense => rfl

end Value

end DocQuery
