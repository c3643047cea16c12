/-
This file takes values for texts.

The text of a value is its displayed form, if it is written at all: an integer in it may have more
digits than are written, and a list or a map may lie inside more others than a writer goes into. How
many that are depends on where the writer is called, so it is told. The first thing that stops the
writing, in the order of the text, is what it fails with. A message that quotes a value comes to
nothing in the same way.
-/

import DocQuery.Json.Reader

namespace DocQuery

/-- Why a value is not written: an integer in it has more digits than are written, or a list or a
map lies too deep. -/
inductive TextFault
  | tooManyDigits
  | tooDeep
  deriving DecidableEq, Repr

def TextFault.failure : TextFault → Failure
  | .tooManyDigits =>
    .foreign .refused ("Exceeds the limit (" ++ toString Json.digitLimit ++
      " digits) for integer string conversion; use sys.set_int_max_str_digits() to increase the limit")
  | .tooDeep =>
    .foreign .excessive "maximum recursion depth exceeded while getting the repr of an object"

/-- What is wrong with an integer that is not written. -/
def TextFault.ofInt? (number : Int) : Option TextFault :=
  if Json.digitLimit < (Nat.toDigits 10 number.natAbs).length then some .tooManyDigits else none

def Key.textFault? : Key → Option TextFault
  | .int number => TextFault.ofInt? number
  | _ => none

namespace Value

mutual
/-- What is wrong at the first place where a value is not written, if it may have so many lists and
maps inside each other. -/
def textFault? (levels : Nat) : Value → Option TextFault
  | .int number => TextFault.ofInt? number
  | .list items =>
    match levels with
    | 0 => some .tooDeep
    | inner + 1 => textFaultOfItems? inner items
  | .map entries =>
    match levels with
    | 0 => some .tooDeep
    | inner + 1 => textFaultOfEntries? inner entries
  | _ => none
/-- What is wrong with the first item that is not written. -/
def textFaultOfItems? (levels : Nat) : List Value → Option TextFault
  | [] => none
  | item :: rest => (textFault? levels item).or (textFaultOfItems? levels rest)
/-- What is wrong with the first entry that is not written; its key is looked at first. -/
def textFaultOfEntries? (levels : Nat) : List (Key × Value) → Option TextFault
  | [] => none
  | (key, value) :: rest =>
    (key.textFault?.or (textFault? levels value)).or (textFaultOfEntries? levels rest)
end

/-- The value can be written where a writer goes into so many lists and maps inside each other. -/
def HasText (levels : Nat) (value : Value) : Prop := value.textFault? levels = none

instance (levels : Nat) (value : Value) : Decidable (value.HasText levels) :=
  inferInstanceAs (Decidable (_ = none))

/-- A text is written whatever it holds. -/
@[simp] theorem hasText_text (levels : Nat) (content : Text) : HasText levels (.text content) := by
  cases levels <;> rfl

/-- A value as a text: its displayed form. -/
def toText (levels : Nat) (value : Value) : Except Failure Text :=
  match value.textFault? levels with
  | some fault => .error fault.failure
  | none => .ok value.displayed

theorem toText_of_hasText {levels : Nat} {value : Value} (written : value.HasText levels) :
    value.toText levels = .ok value.displayed := by
  rw [toText, written]

@[simp] theorem toText_text (levels : Nat) (content : Text) :
    toText levels (.text content) = .ok content :=
  toText_of_hasText (hasText_text levels content)

theorem toText_eq_ok_iff {levels : Nat} {value : Value} {text : Text} :
    value.toText levels = .ok text ↔ value.HasText levels ∧ text = value.displayed := by
  rw [toText, HasText]
  cases value.textFault? levels with
  | none => simpa using eq_comm
  | some fault => simp

/-- Values as texts, one after the other; the first fault is the answer. -/
def toTexts (levels : Nat) : List Value → Except Failure (List Text)
  | [] => .ok []
  | value :: rest =>
    (value.toText levels).bind fun text => (toTexts levels rest).map fun texts => text :: texts

end Value

/-- A failure whose message quotes a value. If the value is not written, that is the failure. -/
def Failure.quoting (levels : Nat) (value : Value) (failure : Failure) : Failure :=
  match value.textFault? levels with
  | some fault => fault.failure
  | none => failure

@[simp] theorem Failure.quoting_text (levels : Nat) (content : Text) (failure : Failure) :
    quoting levels (.text content) failure = failure := by
  have written : Value.textFault? levels (.text content) = none :=
    Value.hasText_text levels content
  rw [quoting, written]

end DocQuery
